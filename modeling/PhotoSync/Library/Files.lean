import PhotoSync.Lib.Crash
import PhotoSync.Lib.TreeWrites
import PhotoSync.Library.Desktop

set_option autoImplicit false

namespace PhotoSync
open Relational Transaction Durable Posix Program

structure Library where
  tree : Tree
  store : Store
  calls : Nat

inductive AppError where
  | backend (message : String)
  | io (error : IoError)
  | store (failure : StoreError)
deriving DecidableEq, Repr

-- What the calls of a run meet, by their number: an error instead of an answer, and the time. Some places lie on
-- another device, and an error has a text.
structure Outside where
  fault : Nat → Option IoError
  now : Nat → Int
  crosses : Path → Path → Bool
  describe : AppError → String

namespace Library

abbrev Task : Type → Type := Program Library AppError

section Calls
variable {α : Type} (outside : Outside)

def call : Task Nat := do
  let number ← .read Library.calls
  .act (fun library => .ok { library with calls := number + 1 })
  match outside.fault number with
  | some error => .fail (.io error)
  | none => pure number

def ask (view : Tree → Except IoError α) : Task α := do
  let _ ← call outside
  let answer ← .read (fun library => view library.tree)
  .lift (answer.mapError .io)

def change (effect : Int → Tree → Except IoError Tree) : Task Unit := do
  let number ← call outside
  .act (fun library => match effect (outside.now number) library.tree with
    | .ok tree => .ok { library with tree := tree }
    | .error error => .error (.io error))

def query (view : Store → Result α) : Task α := do
  let _ ← call outside
  let answer ← .read (fun library => view library.store)
  .lift (answer.mapError .store)

def commit (effect : Store → Result Store) : Task Unit := do
  let _ ← call outside
  .act (fun library => match effect library.store with
    | .ok store => .ok { library with store := store }
    | .error failure => .error (.store failure))

def refuse (message : String) : Task α := .fail (.backend message)

def regardless (task : Task Unit) : Task Unit := do
  let _ ← task.attempt
  pure ()

def metadata (path : Path) : Task Stat := ask outside (fun tree => (tree.stat path).mapError Fault.error)

def existsNow (path : Path) : Task Bool := do
  let found ← (metadata outside path).attempt
  return found.toBool

def readBytes (path : Path) : Task Bytes := ask outside (fun tree => (tree.read path).mapError Fault.error)

def createNew (path : Path) : Task Unit := change outside (fun now tree => tree.createNew now path)

def writeBytes (path : Path) (content : Bytes) : Task Unit := change outside (fun now tree => tree.write now path content)

def removeFile (path : Path) : Task Unit := change outside (fun _ tree => tree.remove path)

def hardLink (source target : Path) : Task Unit :=
  change outside (fun _ tree => if outside.crosses source target then .error .crossesDevices else tree.hardLink source target)

def renameFile (source target : Path) : Task Unit :=
  change outside (fun _ tree => if outside.crosses source target then .error .crossesDevices else tree.rename source target)

-- A call that changes nothing a reader of the tree can see: permissions, fsync.
def settle : Task Unit := do
  let _ ← call outside
  pure ()

def clockNow : Task Int := .read (fun library => outside.now library.calls)

def mediaItem (id : Nat) : Task Media := query outside (fun s => requireRow (s.media.get id))

end Calls

section Runs
variable {α : Type} {outside : Outside} {library final : Library}

def Same (library final : Library) : Prop := final.tree = library.tree ∧ final.store = library.store

theorem Same.trans {middle : Library} (first : Same library middle) (second : Same middle final) : Same library final :=
  ⟨second.1.trans first.1, second.2.trans first.2⟩

def tick (library : Library) : Library := { library with calls := library.calls + 1 }

theorem call_run (outside : Outside) (library : Library) : (call outside).run library =
    (library.tick, match outside.fault library.calls with
      | some error => .error (.io error)
      | none => .ok library.calls) := by
  unfold call
  rw [run_bind, run_read]
  dsimp only
  have counted : (act (fun held => .ok { held with calls := library.calls + 1 }) : Task Unit).run library = (library.tick, .ok ()) := rfl
  rw [run_bind, counted]
  cases outside.fault library.calls <;> rfl

theorem ask_run (view : Tree → Except IoError α) : (ask outside view).run library = (library.tick, match outside.fault library.calls with
      | some error => .error (.io error)
      | none => (view library.tree).mapError .io) := by
  unfold ask
  rw [run_bind, call_run]
  cases outside.fault library.calls <;> rfl

theorem query_run (view : Store → Result α) : (query outside view).run library = (library.tick, match outside.fault library.calls with
      | some error => .error (.io error)
      | none => (view library.store).mapError .store) := by
  unfold query
  rw [run_bind, call_run]
  cases outside.fault library.calls <;> rfl

theorem settle_run : (settle outside).run library = (library.tick, match outside.fault library.calls with
      | some error => .error (.io error)
      | none => .ok ()) := by
  unfold settle
  rw [run_bind, call_run]
  cases outside.fault library.calls <;> rfl

theorem change_run (effect : Int → Tree → Except IoError Tree) : (change outside effect).run library =
    match outside.fault library.calls with
    | some error => (library.tick, .error (.io error))
    | none => match effect (outside.now library.calls) library.tree with
      | .ok tree => ({ library.tick with tree := tree }, .ok ())
      | .error error => (library.tick, .error (.io error)) := by
  unfold change
  rw [run_bind, call_run]
  cases outside.fault library.calls with
  | some => rfl
  | none =>
    dsimp only [act, tick]
    rw [run_step]
    cases effect (outside.now library.calls) library.tree <;> rfl

theorem commit_run (effect : Store → Result Store) : (commit outside effect).run library =
    match outside.fault library.calls with
    | some error => (library.tick, .error (.io error))
    | none => match effect library.store with
      | .ok store => ({ library.tick with store := store }, .ok ())
      | .error failure => (library.tick, .error (.store failure)) := by
  unfold commit
  rw [run_bind, call_run]
  cases outside.fault library.calls with
  | some => rfl
  | none =>
    dsimp only [act, tick]
    rw [run_step]
    cases effect library.store <;> rfl

theorem ask_ran {view : Tree → Except IoError α} {result : Except AppError α} (ran : (ask outside view).run library = (final, result)) :
    final = library.tick ∧ (outside.fault library.calls = none ∧ result = (view library.tree).mapError .io ∨
      ∃ error, outside.fault library.calls = some error ∧ result = .error (.io error)) := by
  rw [ask_run] at ran
  cases ran
  cases outside.fault library.calls with
  | none => exact ⟨rfl, .inl ⟨rfl, rfl⟩⟩
  | some error => exact ⟨rfl, .inr ⟨error, rfl, rfl⟩⟩

theorem ask_ok {view : Tree → Except IoError α} {value : α} (ran : (ask outside view).run library = (final, .ok value)) :
    final = library.tick ∧ outside.fault library.calls = none ∧ view library.tree = .ok value := by
  obtain ⟨rfl, ⟨calm, answered⟩ | ⟨error, _, never⟩⟩ := ask_ran ran
  · refine ⟨rfl, calm, ?_⟩
    cases found : view library.tree with
    | error => rw [found] at answered; cases answered
    | ok => rw [found] at answered; cases answered; rfl
  · cases never

theorem query_ok {view : Store → Result α} {value : α} (ran : (query outside view).run library = (final, .ok value)) :
    final = library.tick ∧ outside.fault library.calls = none ∧ view library.store = .ok value := by
  rw [query_run] at ran
  cases met : outside.fault library.calls with
  | some => rw [met] at ran; cases ran
  | none =>
    rw [met] at ran
    cases found : view library.store with
    | error => rw [found] at ran; cases ran
    | ok => rw [found] at ran; cases ran; exact ⟨rfl, rfl, rfl⟩

theorem commit_ok (effect : Store → Result Store) (ran : (commit outside effect).run library = (final, .ok ())) :
    ∃ store, outside.fault library.calls = none ∧ effect library.store = .ok store ∧ final = { library.tick with store := store } := by
  rw [commit_run] at ran
  cases met : outside.fault library.calls with
  | some => rw [met] at ran; cases ran
  | none =>
    rw [met] at ran
    cases done : effect library.store with
    | error => rw [done] at ran; cases ran
    | ok store => rw [done] at ran; cases ran; exact ⟨store, rfl, rfl, rfl⟩

theorem commit_written {effect : Store → Result Store} (ran : (commit outside effect).run library = (final, .ok ())) :
    final.tree = library.tree ∧ effect library.store = .ok final.store := by
  obtain ⟨store, _, done, rfl⟩ := commit_ok effect ran
  exact ⟨rfl, done⟩

theorem change_ok {effect : Int → Tree → Except IoError Tree} (ran : (change outside effect).run library = (final, .ok ())) :
    ∃ tree, outside.fault library.calls = none ∧ effect (outside.now library.calls) library.tree = .ok tree ∧
      final = { library.tick with tree := tree } := by
  rw [change_run] at ran
  cases met : outside.fault library.calls with
  | some => rw [met] at ran; cases ran
  | none =>
    rw [met] at ran
    cases done : effect (outside.now library.calls) library.tree with
    | error => rw [done] at ran; cases ran
    | ok tree => rw [done] at ran; cases ran; exact ⟨tree, rfl, rfl, rfl⟩

section Ends
variable {ok : α → Library → Prop} {done : Unit → Library → Prop} {err : AppError → Library → Prop}

theorem ends_ask (view : Tree → Except IoError α) : Program.Ends ok err (ask outside view) library ↔
    match outside.fault library.calls, view library.tree with
    | none, .ok value => ok value library.tick
    | none, .error error | some error, _ => err (.io error) library.tick := by
  unfold Program.Ends
  rw [ask_run]
  cases outside.fault library.calls <;> cases view library.tree <;> rfl

theorem ends_query (view : Store → Result α) : Program.Ends ok err (query outside view) library ↔
    match outside.fault library.calls, view library.store with
    | none, .ok value => ok value library.tick
    | none, .error failure => err (.store failure) library.tick
    | some error, _ => err (.io error) library.tick := by
  unfold Program.Ends
  rw [query_run]
  cases outside.fault library.calls <;> cases view library.store <;> rfl

theorem ends_settle : Program.Ends done err (settle outside) library ↔ match outside.fault library.calls with
    | none => done () library.tick
    | some error => err (.io error) library.tick := by
  unfold Program.Ends
  rw [settle_run]
  cases outside.fault library.calls <;> rfl

theorem ends_change (effect : Int → Tree → Except IoError Tree) : Program.Ends done err (change outside effect) library ↔
    match outside.fault library.calls, effect (outside.now library.calls) library.tree with
    | none, .ok tree => done () { library.tick with tree := tree }
    | none, .error error | some error, _ => err (.io error) library.tick := by
  unfold Program.Ends
  rw [change_run]
  cases outside.fault library.calls <;> cases effect (outside.now library.calls) library.tree <;> rfl

theorem ends_commit (effect : Store → Result Store) : Program.Ends done err (commit outside effect) library ↔
    match outside.fault library.calls, effect library.store with
    | none, .ok store => done () { library.tick with store := store }
    | none, .error failure => err (.store failure) library.tick
    | some error, _ => err (.io error) library.tick := by
  unfold Program.Ends
  rw [commit_run]
  cases outside.fault library.calls <;> cases effect library.store <;> rfl

theorem ends_regardless {task : Task Unit} :
    Program.Ends done err (regardless task) library ↔ Program.Ends done (fun _ => done ()) task library := by
  unfold regardless
  rw [ends_bind, ends_attempt]
  rfl

end Ends
end Runs

section FilesOnly
variable {α β : Type} {outside : Outside}

def FilesOnly (task : Task α) : Prop := ∀ library final result, task.run library = (final, result) → final.store = library.store

theorem FilesOnly.bind {task : Task α} {next : α → Task β} (first : FilesOnly task) (rest : ∀ value, FilesOnly (next value)) :
    FilesOnly (task >>= next) := by
  intro library final result ran
  rw [run_bind] at ran
  split at ran
  · next middle value started => exact (rest value _ _ _ ran).trans (first _ _ _ started)
  · next middle failure started =>
    cases ran
    exact first _ _ _ started

theorem FilesOnly.attempt {task : Task α} (files : FilesOnly task) : FilesOnly task.attempt := by
  intro library final result ran
  rw [run_attempt] at ran
  cases ran
  exact files _ _ _ rfl

theorem FilesOnly.pure (value : α) : FilesOnly (pure value : Task α) := by
  intro library final result ran
  cases ran
  rfl

theorem FilesOnly.fail (failure : AppError) : FilesOnly (.fail failure : Task α) := by
  intro library final result ran
  cases ran
  rfl

theorem FilesOnly.read (view : Library → α) : FilesOnly (.read view : Task α) := by
  intro library final result ran
  cases ran
  rfl

theorem FilesOnly.lift (answer : Except AppError α) : FilesOnly (.lift answer : Task α) := by
  intro library final result ran
  cases ran
  rfl

theorem FilesOnly.regardless {task : Task Unit} (files : FilesOnly task) : FilesOnly (regardless task) :=
  files.attempt.bind (fun _ => .pure ())

theorem call_files : FilesOnly (call outside) := by
  intro library final result ran
  rw [call_run] at ran
  cases ran
  rfl

theorem ask_files (view : Tree → Except IoError α) : FilesOnly (ask outside view) :=
  call_files.bind (fun _ => (FilesOnly.read _).bind (fun _ => .lift _))

theorem settle_files : FilesOnly (settle outside) := call_files.bind (fun _ => .pure ())

theorem change_files (effect : Int → Tree → Except IoError Tree) : FilesOnly (change outside effect) := by
  refine call_files.bind (fun number library final result ran => ?_)
  rw [act, run_step] at ran
  split at ran
  · next after done =>
    cases ran
    split at done
    · cases done
      rfl
    · cases done
  · cases ran
    rfl

end FilesOnly

section Quiet
variable {α β : Type} {outside : Outside}

def Quiet (task : Task α) : Prop := ∀ library final result, task.run library = (final, result) → Same library final

theorem Quiet.bind {task : Task α} {next : α → Task β} (first : Quiet task) (rest : ∀ value, Quiet (next value)) :
    Quiet (task >>= next) := by
  intro library final result ran
  rcases run_cases ran with ⟨middle, value, started, ran⟩ | ⟨failure, stopped, _⟩
  · exact (first _ _ _ started).trans (rest value _ _ _ ran)
  · exact first _ _ _ stopped

theorem Quiet.lift (answer : Except AppError α) : Quiet (.lift answer : Task α) := by
  intro library final result ran
  cases ran
  exact ⟨rfl, rfl⟩

theorem ask_quiet (view : Tree → Except IoError α) : Quiet (ask outside view) := by
  intro library final result ran
  rw [ask_run] at ran
  cases ran
  exact ⟨rfl, rfl⟩

theorem settle_quiet : Quiet (settle outside) := by
  intro library final result ran
  rw [settle_run] at ran
  cases ran
  exact ⟨rfl, rfl⟩

end Quiet
end Library
end PhotoSync
