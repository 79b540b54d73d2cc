import PhotoSync.Service.Scheduling

set_option autoImplicit false

namespace PhotoSync
open Durable Program

-- What a reset asks of the world around it, in the order of its calls.
inductive ResetCall where
  | resetWork
  | jobKey
  | intent
  | quiescence
  | savedJobs
  | recovery
  | roots
  | cleanup
  | latest
  | recording
  | commit
  | discard
deriving DecidableEq

def ResetCall.told : ResetCall → Bool
  | .cleanup | .commit | .discard => true
  | _ => false

structure ResetFailure where
  call : ResetCall
  text : String

-- Which calls fail, the close that lands just before one, and what the files of a job's publications come to.
structure ResetOutside where
  fault : Nat → Option String
  close : Nat → Option String
  recovered : Nat → Store → Store
  overlaps : String → Bool

-- The service with two history variables: the intent the worker is at work on,
-- as it took it, and whether a newer close arrived since.
structure ResetState where
  service : SyncService
  calls : Nat
  taken : Option ResetIntent
  newer : Bool

abbrev ResetProgram (α : Type) : Type := Program ResetState ResetFailure α

namespace SyncService

def atReset (service : SyncService) : ResetState := ⟨service, 0, service.store.reset, false⟩

def discardQueuedWork (service : SyncService) : SyncService :=
  { service with work := fun id => { service.work id with requested := false } }

def resetContinues (service : SyncService) : Bool := service.store.reset.any (fun intent => intent.error.isNone)

end SyncService

namespace ResetState

def intent (state : ResetState) : Option ResetIntent := state.service.store.reset

def write (state : ResetState) (change : Store → Store) : ResetState :=
  { state with service := { state.service with store := change state.service.store } }

def reach (outside : ResetOutside) (state : ResetState) : ResetState :=
  let state := { state with calls := state.calls + 1 }
  match outside.close (state.calls - 1) with
  | none => state
  | some token => { state.write (·.beginReset token) with newer := true }

def takeIntent (state : ResetState) : ResetState := { state with taken := state.intent, newer := false }

def recover (outside : ResetOutside) (id : Nat) (state : ResetState) : ResetState :=
  state.write (fun store => { outside.recovered id store with reset := store.reset })

def finish (token : String) (state : ResetState) : ResetState :=
  if state.intent.all (fun intent => intent.token != token) then state
  else { state.write (·.finishReset token) with taken := none }

end ResetState

namespace SyncReset
open ResetState

section Worker
variable (outside : ResetOutside)

def ask (call : ResetCall) : ResetProgram Unit := do
  let count ← read calls
  act (fun state => .ok (state.reach outside))
  match outside.fault count with
  | some text => fail ⟨call, text⟩
  | none => pure ()

def recoverJobs : List (Nat × Job) → ResetProgram Unit
  | [] => pure ()
  | job :: rest => do
    ask outside .recovery
    act (fun state => .ok (state.recover outside job.1))
    recoverJobs rest

def clearFiles (roots : List String) : ResetProgram Unit :=
  if roots.any outside.overlaps then fail ⟨.cleanup, "sync staging overlaps a configured media source"⟩
  else ask outside .cleanup

def failReset (intent : ResetIntent) (failure : ResetFailure) : ResetProgram Unit := do
  ask outside .recording
  act (fun state => .ok (state.write (·.failReset intent.token failure.text)))
  fail failure

def finishReset (intent : ResetIntent) : ResetProgram Bool := do
  ask outside .commit
  let stale ← read (fun state => state.intent.all (fun latest => latest.token != intent.token))
  act (fun state => .ok (state.finish intent.token))
  return !stale

def resetPass (intent : ResetIntent) : ResetProgram Unit := do
  ask outside .quiescence
  ask outside .savedJobs
  recoverJobs outside (← read (fun state => state.service.store.jobs.rows))
  ask outside .roots
  let roots ← read (fun state => state.service.store.jobs.rows.map (fun row => row.2.localRoot))
  match ← (clearFiles outside roots).attempt with
  | .error failure =>
    ask outside .latest
    if (← read ResetState.intent).any (fun latest => latest.token != intent.token) then pure ()
    else failReset outside intent failure
  | .ok () =>
    match ← (finishReset outside intent).attempt with
    | .ok true =>
      ask outside .discard
      act (fun state => .ok { state with service := state.service.discardQueuedWork })
    | .ok false => pure ()
    | .error failure => failReset outside intent failure

def resetPasses : Nat → ResetProgram Bool
  | 0 => return false
  | passes + 1 => do
    ask outside .intent
    act (fun state => .ok state.takeIntent)
    match ← read ResetState.intent with
    | none => return true
    | some intent =>
      resetPass outside intent
      resetPasses passes

def performSyncReset (passes : Nat) : ResetProgram Bool := do
  ask outside .resetWork
  ask outside .jobKey
  resetPasses outside passes

end Worker

section Told
variable {outside : ResetOutside} {state : ResetState} {taken : Option ResetIntent}

-- While no newer close arrives, the row stays the intent the worker took.
def Under (taken : Option ResetIntent) (state : ResetState) : Prop := state.taken = taken ∧ (state.newer = false → state.intent = taken)

def recorded (intent : Option ResetIntent) : Prop := ∀ row ∈ intent, row.error.isSome

def Told (failure : ResetFailure) (final : ResetState) : Prop :=
  final.newer = false → (recorded final.intent ↔ failure.call.told ∨ recorded final.taken)

theorem Under.reach (under : Under taken state) : Under taken (state.reach outside) := by
  unfold ResetState.reach
  dsimp only
  split
  · exact under
  · exact ⟨under.1, nofun⟩

theorem Under.told {call : ResetCall} (silent : call.told = false) (text : String) (under : Under taken state) :
    Told ⟨call, text⟩ state := by
  intro current
  simp [silent, under.1, under.2 current]

theorem told_recorded {failure : ResetFailure} (told : failure.call.told) (settled : state.newer = false → recorded state.intent) :
    Told failure state := fun current => by simp [told, settled current]

theorem ends_ask {ok : Unit → ResetState → Prop} {err : ResetFailure → ResetState → Prop} {call : ResetCall}
    (well : ok () (state.reach outside)) (ill : ∀ text, err ⟨call, text⟩ (state.reach outside)) :
    Ends ok err (ask outside call) state := by
  unfold ask
  rw [ends_bind, ends_read, ends_bind]
  change Ends ok err (match outside.fault state.calls with | some text => fail ⟨call, text⟩ | none => pure ()) _
  cases outside.fault state.calls with
  | none => exact well
  | some text => exact ill text

theorem ask_silent {α : Type} {ok : α → ResetState → Prop} {call : ResetCall} {rest : Unit → ResetProgram α}
    (silent : call.told = false) (under : Under taken state)
    (then_ : ∀ after, Under taken after → Ends ok Told (rest ()) after) : Ends ok Told (ask outside call >>= rest) state :=
  ends_bind.mpr (ends_ask (then_ _ under.reach) (under.reach.told silent))

theorem recoverJobs_under {jobs : List (Nat × Job)} (under : Under taken state) :
    Ends (fun _ => Under taken) Told (recoverJobs outside jobs) state := by
  induction jobs generalizing state with
  | nil => exact under
  | cons job rest ih =>
    refine ask_silent rfl under (fun after kept => ?_)
    have recovered : Under taken (after.recover outside job.1) := kept
    exact ends_bind.mpr (ih recovered)

theorem clearFiles_under {roots : List String} (under : Under taken state) :
    Ends (fun _ => Under taken) (fun failure after => failure.call = .cleanup ∧ Under taken after)
      (clearFiles outside roots) state := by
  unfold clearFiles
  split
  · exact ⟨rfl, under⟩
  · exact ends_ask under.reach (fun _ => ⟨rfl, under.reach⟩)

theorem failReset_told {ok : Unit → ResetState → Prop} {intent : ResetIntent} {failure : ResetFailure}
    (told : failure.call.told) (under : Under (some intent) state) :
    Ends ok Told (failReset outside intent failure) state := by
  refine ask_silent rfl under (fun after kept => told_recorded told (fun current => ?_))
  have held : after.service.store.reset = some intent := kept.2 current
  simp [recorded, ResetState.intent, ResetState.write, Store.failReset, held]

theorem finishReset_reset {store : Store} {token : String}
    (fresh : store.reset.all (fun intent => intent.token != token) = false) : (store.finishReset token).reset = none := by
  unfold Store.finishReset
  rw [if_neg (by simp [fresh])]

theorem finishReset_under {intent : ResetIntent} (under : Under (some intent) state) :
    Ends (fun (done : Bool) after => ∃ taken, Under taken after ∧ (done → taken = none))
      (fun failure after => failure.call = .commit ∧ Under (some intent) after) (finishReset outside intent) state := by
  refine ends_bind.mpr (ends_ask ?_ (fun _ => ⟨rfl, under.reach⟩))
  rw [ends_bind, ends_read, ends_bind]
  change ∃ taken, Under taken ((state.reach outside).finish intent.token) ∧ _
  unfold ResetState.finish
  split
  next stale => exact ⟨_, under.reach, by simp [stale]⟩
  next fresh => exact ⟨none, ⟨rfl, fun _ => finishReset_reset (Bool.not_eq_true _ ▸ fresh)⟩, fun _ => rfl⟩

theorem resetPass_told {intent : ResetIntent} (under : Under (some intent) state) :
    Ends (fun _ after => ∃ taken, Under taken after) Told (resetPass outside intent) state := by
  refine ask_silent rfl under (fun state under => ask_silent rfl under (fun state under => ?_))
  rw [ends_bind, ends_read, ends_bind]
  refine (recoverJobs_under under).mono (fun _ state under => ask_silent rfl under (fun state under => ?_)) (fun _ _ told => told)
  rw [ends_bind, ends_read, ends_bind, ends_attempt]
  refine (clearFiles_under under).mono (fun _ state under => ?_) ?_
  · rw [ends_bind, ends_attempt]
    refine (finishReset_under under).mono ?_ ?_
    · rintro (_ | _) state ⟨taken, under, settled⟩
      · exact ⟨taken, under⟩
      · cases settled rfl
        refine ends_bind.mpr (ends_ask ⟨none, under.reach⟩ (fun _ => told_recorded rfl (fun current => ?_)))
        rw [under.reach.2 current]
        nofun
    · rintro failure state ⟨call, under⟩
      exact failReset_told (call ▸ rfl) under
  · rintro failure state ⟨call, under⟩
    refine ask_silent rfl under (fun state under => ?_)
    rw [ends_bind, ends_read]
    split
    · exact ⟨_, under⟩
    · exact failReset_told (call ▸ rfl) under

theorem resetPasses_told {passes : Nat} (under : ∃ taken, Under taken state) :
    Ends (fun _ _ => True) Told (resetPasses outside passes) state := by
  induction passes generalizing state with
  | zero => trivial
  | succ passes ih =>
    obtain ⟨taken, under⟩ := under
    refine ask_silent rfl under (fun state _ => ?_)
    rw [ends_bind]
    change Ends _ _ _ state.takeIntent
    rw [ends_bind, ends_read]
    have fresh : Under state.intent state.takeIntent := ⟨rfl, fun _ => rfl⟩
    change Ends _ _ (match state.intent with | none => _ | some intent => _) _
    cases held : state.intent with
    | none => trivial
    | some =>
      rw [held] at fresh
      rw [ends_bind]
      exact (resetPass_told fresh).mono (fun _ _ under => ih under) (fun _ _ told => told)

def closing : SyncService where
  store := { Store.empty with reset := some ⟨"close", none⟩ }
  syncEnabled := false
  lastError := fun _ => none
  work := fun _ => ⟨false, false⟩
  active := fun _ => false
  resetWorking := true

def failsAt (call : Nat) : ResetOutside where
  fault := fun count => if count = call then some "disk I/O error" else none
  close := fun _ => none
  recovered := fun _ store => store
  overlaps := fun _ => false

end Told
end SyncReset
end PhotoSync
