import PhotoSync.Store.Command

set_option autoImplicit false

namespace PhotoSync
open Relational Transaction Command

-- The store together with every version vector a worker has read from it. A
-- worker may hold a capture for as long as it likes before it is used.
structure Session where
  store : Store
  reads : List (Nat × Versions)

inductive Event where
  | read (entry : Nat)
  | command (command : Command)

namespace Session

def empty : Session := ⟨.empty, []⟩

def perform (platform : Platform) (session : Session) : Event → Result Session
  | .read entry => do
    let row ← requireRow (session.store.entries.get entry)
    return { session with reads := (entry, row.versions) :: session.reads }
  | .command command => do
    let store ← command.execute platform session.store
    return { session with store := store }

end Session

-- A library with one job over one file, for the runs that show hypotheses met or a property broken.
namespace Sample

def platform : Platform := ⟨fun path => "file://" ++ path, fun _ => ""⟩

def job : NewSyncJob where
  credentialRef := "credential"
  account := none
  localRoot := "/p"
  direction := .bidirectional
  uploadScope := .all
  uploadAlbums := []
  zoneName := "zone"
  owner := "owner"

def item : NewMediaItem := ⟨"file:///p/a", "/p/a", "/p", none, 0, 0⟩

def stamp : EditEvent := ⟨1, "device", "event"⟩

def epoch : Epoch := ⟨1, 1, "cycle"⟩

def checksum : String := "AAAAAAAAAAAAAAAAAAAAAAAAAAAAAAAAAAAAAAAAAAA="

def digest : ContentDigest := ⟨4, "0000000000000000000000000000000000000000000000000000000000000000", checksum⟩

def zone : ZoneId := ⟨"zone", "owner"⟩

def asset : AssetDescriptor := ⟨"asset", 4, checksum, "image/jpeg", none, none⟩

def operation (phase : UploadPhase) (versions : Versions) : Issued where
  id := "operation"
  job := 1
  config := 1
  entry := 1
  generation := "generation"
  phase := phase
  versions := versions
  dirty := .modified
  photo := "photo"
  master := "master"
  contentGeneration := "content"
  body := some ⟨⟨"zone", "owner"⟩, [⟨.update, ⟨"photo", none, none, [], .none⟩⟩]⟩
  preparation := ⟨true, ⟨0, 0, none, "a"⟩, .none, none, none, none⟩

def answer (deleted : Bool) : List ConfirmedRecord := [⟨⟨"photo", none, none, some "1", some [], none, deleted⟩, false⟩]

def opening : List Command := [.createJob job, .insertMediaItem item, .noteLocalChange 1 .content stamp,
    .beginReceive 1 ⟨"tenant", "container", "environment", "database"⟩ "generation" "scope" "zone" "owner", .begin epoch]

def editInFlight : List Event := opening.map .command ++ [.read 1, .command (.save epoch (operation .create ⟨1, 0, 1, 0⟩)),
      .command (.noteLocalChange 1 .metadata stamp),
      .command (.confirm epoch (operation .create ⟨1, 0, 1, 0⟩) (some (answer false)) true)]

end Sample

structure Captured (versions : Versions) (row : Entry) : Prop where
  localVersion : versions.localVersion ≤ row.localVersion
  metadataVersion : versions.metadataVersion ≤ row.metadataVersion
  contentVersion : versions.contentVersion ≤ row.contentVersion
  deletionVersion : versions.deletionVersion ≤ row.deletionVersion

theorem Captured.self (row : Entry) : Captured row.versions row := ⟨Nat.le_refl _, Nat.le_refl _, Nat.le_refl _, Nat.le_refl _⟩

theorem Captured.mono {versions : Versions} {before after : Entry} (captured : Captured versions before)
    (later : VersionsLe before after) : Captured versions after :=
  ⟨Nat.le_trans captured.localVersion later.localVersion, Nat.le_trans captured.metadataVersion later.metadataVersion,
    Nat.le_trans captured.contentVersion later.contentVersion,
    Nat.le_trans captured.deletionVersion later.deletionVersion⟩

structure CapturedFrom (s : Store) (entry : Nat) (versions : Versions) : Prop where
  given : entry < s.entries.next
  behind : ∀ row, s.entries.get entry = some row → Captured versions row

theorem CapturedFrom.moves {policy : Policy} {s t : Store} {entry : Nat} {versions : Versions}
    (captured : CapturedFrom s entry versions) (moves : Moves policy s t) : CapturedFrom t entry versions := by
  refine ⟨Nat.lt_of_lt_of_le captured.given moves.entries.next_le, fun row read => ?_⟩
  obtain ⟨old, present, later⟩ := moves.entries.origin (fun _ => VersionsLe) (fun _ => .refl)
    (fun id _ _ _ sofar step => sofar.trans (EntryStep.versions_le step)) entry row captured.given read
  exact (captured.behind old present).mono later

structure TaskCaptured (s : Store) (task : Task) : Prop where
  owner : ∀ entry, task.entry = some entry → entry = task.issued.entry
  versions : CapturedFrom s task.issued.entry task.issued.versions

structure CapturesHold (session : Session) : Prop where
  reads : ∀ found ∈ session.reads, CapturedFrom session.store found.1 found.2
  tasks : session.store.tasks.All (TaskCaptured session.store)

def savesCapture (session : Session) (issued : Issued) : Bool := session.reads.contains (issued.entry, issued.versions)
    && !session.store.tasks.any (fun _ task => task.operationId == issued.id && task.issued.entry != issued.entry)

structure SavesCaptured (policy : Policy) (s : Store) : Prop where
  versions : ∀ issued, policy.save issued → CapturedFrom s issued.entry issued.versions
  single : ∀ first second, policy.save first → policy.save second → first.entry = second.entry
  own : ∀ issued, policy.save issued → ∀ id task, s.tasks.get id = some task → task.operationId = issued.id →
    task.issued.entry = issued.entry

theorem tasks_captured {policy : Policy} {s t : Store} (moves : Moves policy s t) (saves : SavesCaptured policy s)
    (tasks : s.tasks.All (TaskCaptured s)) : t.tasks.All (TaskCaptured t) := by
  -- Stated against the entries before the transaction, so that the tasks can be followed on their own.
  let holds : Task → Prop := fun task => TaskCaptured s task ∧
    ∀ issued, policy.save issued → task.operationId = issued.id → task.issued.entry = issued.entry
  have kept : t.tasks.All holds := by
    refine moves.tasks.all holds ?_ ?_ (fun id task read =>
      ⟨tasks id task read, fun issued saved => saves.own issued saved id task read⟩)
    · rintro task ⟨saved, owner, _⟩
      refine ⟨⟨fun entry linked => ?_, saves.versions _ saved⟩, fun issued other _ => saves.single _ _ saved other⟩
      rw [owner] at linked
      exact (Option.some.inj linked).symm
    · rintro _ before after step ⟨captured, own⟩
      cases step with
      | frame _ same =>
        refine ⟨⟨fun entry linked => ?_, same.issued ▸ captured.versions⟩, fun issued saved named => ?_⟩
        · rcases same.entry with unchanged | cleared
          · rw [same.issued]
            exact captured.owner entry (unchanged ▸ linked)
          · rw [cleared] at linked
            cases linked
        · rw [same.issued]
          exact own issued saved (same.operationId ▸ named)
      | rewrite issued same _ saved =>
        refine ⟨⟨fun entry linked => ?_, saves.versions issued saved⟩, fun other kept _ => saves.single _ _ saved kept⟩
        exact (captured.owner entry linked).trans (own issued saved same)
  intro id task read
  obtain ⟨captured, _⟩ := kept id task read
  exact ⟨captured.owner, captured.versions.moves moves⟩

theorem policyOf_saves (session : Session) (command : Command)
    (permitted : ∀ epoch issued, command = .save epoch issued → savesCapture session issued = true)
    (hold : CapturesHold session) : SavesCaptured (command.policyOf session.store) session.store := by
  refine ⟨fun issued saved => ?_, fun first second kept other => ?_, fun issued saved id task read named => ?_⟩
  · obtain ⟨epoch, same⟩ := policyOf_save saved
    have permit := permitted epoch issued same
    simp only [savesCapture, Bool.and_eq_true, List.contains_iff_mem] at permit
    exact hold.reads _ permit.1
  · obtain ⟨epoch, same⟩ := policyOf_save kept
    obtain ⟨_, again⟩ := policyOf_save other
    rw [same] at again
    cases again
    rfl
  · obtain ⟨epoch, same⟩ := policyOf_save saved
    have permit := permitted epoch issued same
    simp only [savesCapture, Bool.and_eq_true, Bool.not_eq_true', Table.any_eq_false] at permit
    simpa [named] using permit.2 id task read

theorem captures_step {platform : Platform} {before after : Session} {event : Event} (hold : CapturesHold before)
    (permitted : ∀ epoch issued, event = .command (.save epoch issued) → savesCapture before issued = true)
    (done : before.perform platform event = .ok after) : CapturesHold after := by
  cases event with
  | read =>
    obtain ⟨row, read, rest⟩ := bind_ok.mp done
    rw [requireRow_ok] at read
    cases rest
    refine ⟨fun found member => ?_, hold.tasks⟩
    rcases List.mem_cons.mp member with rfl | old
    · refine ⟨Table.lt_next read, fun other again => ?_⟩
      rw [read] at again
      cases again
      exact .self row
    · exact hold.reads found old
  | command command =>
    obtain ⟨store, executed, rest⟩ := bind_ok.mp done
    cases rest
    have moves := execute_moves executed
    have saves := policyOf_saves before command
      (fun epoch issued same => permitted epoch issued (by rw [same])) hold
    exact ⟨fun found member => (hold.reads found member).moves moves, tasks_captured moves saves hold.tasks⟩

end PhotoSync
