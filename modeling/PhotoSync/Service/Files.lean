import PhotoSync.Lib.Crash
import PhotoSync.Lib.Disk
import PhotoSync.Service.Destination
import PhotoSync.Store.Command

set_option autoImplicit false

namespace PhotoSync
open Relational Transaction Durable Posix Store

-- The disk and the database, which cannot commit together. The symbolic links below the roots stay where they are.
structure World where
  disk : Disk String Bytes
  store : Store
  symlink : String → Bool

inductive ServiceError where
  | store (failure : StoreError)
  | io (errno : Errno)
deriving DecidableEq, Repr

abbrev Routine : Type → Type := Program World ServiceError

theorem requireText_ok (value : Option String) (message text : String) : requireText value message = .ok text ↔ value = some text := by
  cases value with
  | none => simp [requireText, invalid]
  | some => simp [requireText]

variable {message : String} {final : World} {condition : Bool}

theorem detailsOf_ok {s : Store} {id : String} {details : RecoveryDetails} (done : s.detailsOf id message = .ok details) :
    ∃ key row, s.publicationOf id = some (key, row) ∧ s.publications.get key = some row ∧ row.publicationId = id ∧
      row.details = some details := by
  unfold detailsOf at done
  split at done
  · next held found =>
    cases done
    obtain ⟨⟨key, row⟩, located, same⟩ := Option.bind_eq_some_iff.mp found
    obtain ⟨read, named⟩ := Table.first?_some located
    exact ⟨key, row, located, read, beq_iff_eq.mp named, same⟩
  · cases done

section Actions
variable {α : Type}

def onDisk (effect : Disk String Bytes → Except Errno (Disk String Bytes)) : Routine Unit :=
  .act (fun world => match effect world.disk with
    | .ok disk => .ok { world with disk := disk }
    | .error errno => .error (.io errno))

def onStore (effect : Store → Result Store) : Routine Unit := .act (fun world => match effect world.store with
    | .ok store => .ok { world with store := store }
    | .error failure => .error (.store failure))

def required (result : Result α) : Routine α := .lift (result.mapError .store)

def queried (query : Store → Result α) : Routine α := do
  let answer ← .read (fun world => query world.store)
  required answer

def statOf (name : String) : Routine (Option (Nat × File Bytes)) := .read (fun world => world.disk.stat name)

def isFile (name : String) : Routine Bool := .read (fun world => world.disk.present name)

def refuse (message : String) : Routine α := .fail (.store (.backend message))

def demand (condition : Bool) (message : String) : Routine Unit := if condition then pure () else refuse message

def destination (root relative : String) : Routine String := do
  let answer ← .read (fun world => safeDestination world.symlink root relative)
  required answer

end Actions

-- A modification time before the epoch counts as zero.
def fileStamp (file : File Bytes) : FileStamp := ⟨file.content.length, file.modified.toNat⟩

def fileIdentity (found : Nat × File Bytes) : FileIdentity := ⟨found.1, found.2.content.length, found.2.modified⟩

def RecoveryDetails.recordable (details : RecoveryDetails) : Bool := details.size.all (· < 2 ^ 63)
    && details.oldStamp.all (fun stamp => stamp.length < 2 ^ 63 && stamp.modified < 2 ^ 63)
    && details.oldLocalStamp.all (fun stamp => stamp.length < 2 ^ 63 && stamp.modified < 2 ^ 63)
    && details.identity.all (fun identity => identity.inode < 2 ^ 63 && identity.length < 2 ^ 63)

def recordDetails (details : RecoveryDetails) (written : Result Store) : Result Store := do
  let s ← written
  ensure details.recordable "invalid native recovery state: recovery integer out of range"
  return s

section Digests
variable (hash : Bytes → String)

def verifies (size : Nat) (hex : String) (file : File Bytes) : Bool := file.content.length == size && hash file.content == hex

def verifyDescriptor (path : String) (descriptor : AssetDescriptor) : Routine Unit := do
  let hex ← required (Store.requireText (ContentDigest.hexFromDescriptorBase64 descriptor.fileChecksum)
    "invalid resource checksum")
  match ← statOf path with
  | none => .fail (.io .notFound)
  | some (_, file) => do
    demand (file.content.length == descriptor.size) "staged resource size mismatch"
    demand (hash file.content == hex) "staged resource checksum mismatch"

def matchesPublished (path : String) (details : RecoveryDetails) : Routine Bool :=
  match details.size, details.sha256 with
  | none, _ => refuse "missing recovery size"
  | some _, none => refuse "missing recovery digest"
  | some size, some hex => do
    let found ← statOf path
    return found.any (fun held => verifies hash size hex held.2)

end Digests

section Rules

open Program
variable {α : Type} {crashed : World → Prop} {world : World}

theorem holds_onDisk {ends : Except ServiceError Unit → World → Prop}
    {effect : Disk String Bytes → Except Errno (Disk String Bytes)} (here : crashed world)
    (done : ∀ disk, effect world.disk = .ok disk → crashed { world with disk := disk } ∧ ends (.ok ()) { world with disk := disk })
    (failed : ∀ errno, effect world.disk = .error errno → ends (.error (.io errno)) world) :
    Holds crashed ends (onDisk effect) world := by
  refine .act here (fun after answer => ?_) (fun failure answer => ?_)
  · split at answer
    · next disk changed =>
      cases answer
      exact done disk changed
    · cases answer
  · split at answer
    · cases answer
    · next errno refused =>
      cases answer
      exact failed errno refused

theorem holds_onStore {ends : Except ServiceError Unit → World → Prop} {effect : Store → Result Store} (here : crashed world)
    (done : ∀ store, effect world.store = .ok store →
      crashed { world with store := store } ∧ ends (.ok ()) { world with store := store })
    (failed : ∀ failure, effect world.store = .error failure → ends (.error (.store failure)) world) :
    Holds crashed ends (onStore effect) world := by
  refine .act here (fun after answer => ?_) (fun failure answer => ?_)
  · split at answer
    · next store changed =>
      cases answer
      exact done store changed
    · cases answer
  · split at answer
    · cases answer
    · next reason refused =>
      cases answer
      exact failed reason refused

theorem holds_required {ends : Except ServiceError α → World → Prop} {result : Result α} (here : crashed world)
    (done : ∀ value, result = .ok value → ends (.ok value) world)
    (failed : ∀ failure, result = .error failure → ends (.error (.store failure)) world) :
    Holds crashed ends (required result) world := by
  refine .lift here ?_
  cases answer : result with
  | ok value => exact done value answer
  | error failure => exact failed failure answer

theorem holds_given {ends : Except ServiceError String → World → Prop} {value : Option String} {text : String}
    (given : value = some text) (here : crashed world) (done : ends (.ok text) world) :
    Holds crashed ends (required (requireText value message)) world := by
  rw [given]
  exact .lift here done

theorem holds_queried {ends : Except ServiceError α → World → Prop} {query : Store → Result α} (here : crashed world)
    (done : ∀ value, query world.store = .ok value → ends (.ok value) world)
    (failed : ∀ failure, query world.store = .error failure → ends (.error (.store failure)) world) :
    Holds crashed ends (queried query) world :=
  .bind (.read here (holds_required here done failed))

theorem holds_destination {ends : Except ServiceError String → World → Prop} {root relative : String} (here : crashed world)
    (done : ∀ path, safeDestination world.symlink root relative = .ok path → ends (.ok path) world)
    (failed : ∀ failure, safeDestination world.symlink root relative = .error failure →
      ends (.error (.store failure)) world) : Holds crashed ends (destination root relative) world :=
  .bind (.read here (holds_required here done failed))

theorem holds_demand {ends : Except ServiceError Unit → World → Prop} (here : crashed world)
    (met : condition = true → ends (.ok ()) world)
    (failed : condition = false → ends (.error (.store (.backend message))) world) :
    Holds crashed ends (demand condition message) world := by
  unfold demand
  cases condition with
  | true => exact .pure here (met rfl)
  | false => exact .fail here (failed rfl)

theorem onDisk_ok {effect : Disk String Bytes → Except Errno (Disk String Bytes)} (ran : (onDisk effect).run world = (final, .ok ())) :
    ∃ disk, effect world.disk = .ok disk ∧ final = { world with disk := disk } := by
  rw [onDisk, run_act] at ran
  split at ran
  · next disk changed =>
    cases ran
    exact ⟨disk, changed, rfl⟩
  · cases ran

theorem onStore_ok {effect : Store → Result Store} (ran : (onStore effect).run world = (final, .ok ())) :
    ∃ store, effect world.store = .ok store ∧ final = { world with store := store } := by
  rw [onStore, run_act] at ran
  split at ran
  · next store changed =>
    cases ran
    exact ⟨store, changed, rfl⟩
  · cases ran

theorem demand_ok (ran : (demand condition message).run world = (final, .ok ())) : final = world ∧ condition = true := by
  unfold demand at ran
  split at ran
  · next met => exact ⟨(run_pure.mp ran).1, met⟩
  · exact absurd ran run_fail

end Rules
end PhotoSync
