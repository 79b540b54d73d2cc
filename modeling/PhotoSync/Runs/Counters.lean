import PhotoSync.Runs.Session

set_option autoImplicit false

namespace PhotoSync
open Relational Transaction Command

def Entry.Unsent (entry : Entry) : Prop :=
  entry.ackedMetadataVersion < entry.metadataVersion ∨ entry.ackedContentVersion < entry.contentVersion

structure Counted (entry : Entry) : Prop where
  metadata : entry.ackedMetadataVersion ≤ entry.metadataVersion
  content : entry.ackedContentVersion ≤ entry.contentVersion
  deletion : entry.ackedDeletionVersion ≤ entry.deletionVersion

structure ConfirmsCaptured (guards : Guards) : Prop where
  confirm : ∀ id operation entry, guards.confirm id operation entry → Captured operation.versions entry
  confirmDelete : ∀ id operation entry, guards.confirmDelete id operation entry → Captured operation.versions entry

theorem Counted.of_born (entry : Entry) (born : EntryBorn entry) : Counted entry := by
  refine ⟨?_, ?_, ?_⟩
  · rw [born.ackedMetadata]
    exact Nat.zero_le _
  · rw [born.ackedContent]
    exact Nat.zero_le _
  · rw [born.ackedDeletion]
    exact Nat.zero_le _

theorem Counted.of_frame (before after : Entry) (same : Frame before after) (counted : Counted before) : Counted after := by
  refine ⟨?_, ?_, ?_⟩
  · rw [same.ackedMetadata, same.metadataVersion]
    exact counted.metadata
  · rw [same.ackedContent, same.contentVersion]
    exact counted.content
  · rw [same.ackedDeletion, same.deletionVersion]
    exact counted.deletion

theorem Counted.of_mark (entry : Entry) (category : ChangeCategory) (stamp : EditEvent) (counted : Counted entry) :
    Counted (entry.mark category stamp) := by
  cases category with
  | metadata => exact ⟨Nat.le_succ_of_le counted.metadata, counted.content, counted.deletion⟩
  | content => exact ⟨counted.metadata, Nat.le_succ_of_le counted.content, counted.deletion⟩
  | deletion => exact ⟨counted.metadata, counted.content, Nat.le_succ_of_le counted.deletion⟩

theorem Counted.of_confirmUpload (entry : Entry) (operation : Issued) (assetRevision masterRevision : Option String)
    (generation : String) (captured : Captured operation.versions entry) (counted : Counted entry) :
    Counted (entry.confirmUpload operation assetRevision masterRevision generation) := by
  have sent : ∀ (flag : Bool) (version current acked : Nat), version ≤ current → acked ≤ current →
      max acked (if flag then version else 0) ≤ current := by
    intro flag version current acked behind old
    cases flag with
    | false => simpa using old
    | true => exact Nat.max_le.mpr ⟨old, behind⟩
  exact ⟨sent _ _ _ _ captured.metadataVersion counted.metadata, sent _ _ _ _ captured.contentVersion counted.content, counted.deletion⟩

theorem Counted.of_settle (entry : Entry) (decision : Entry.Settlement) (counted : Counted entry) : Counted (entry.settle decision) := by
  have keep : ∀ (flag : Bool) (acked version : Nat), acked ≤ version → (if flag then acked else version) ≤ version := by
    intro flag acked version behind
    cases flag with
    | false => exact Nat.le_refl _
    | true => exact behind
  exact ⟨keep _ _ _ counted.metadata, keep _ _ _ counted.content, keep _ _ _ counted.deletion⟩

theorem Counted.of_adopt (entry : Entry) (media : Nat) (photo : RemotePhoto)
    (assetRevision masterRevision generation : String) (counted : Counted entry) :
    Counted (entry.adopt media photo assetRevision masterRevision generation) := by
  refine ⟨?_, Nat.max_le.mpr ⟨counted.content, Nat.le_refl _⟩, counted.deletion⟩
  simp only [Entry.adopt]
  split
  · exact counted.metadata
  · exact Nat.max_le.mpr ⟨counted.metadata, Nat.le_refl _⟩

theorem EntryStep.counted (guards : Guards) (id : Nat) (before after : Entry) (confirms : ConfirmsCaptured guards)
    (step : EntryStep guards id before after) (counted : Counted before) : Counted after := by
  cases step with
  | frame _ same => exact .of_frame _ _ same counted
  | mark => exact .of_mark _ _ _ counted
  | confirmUpload operation assetRevision masterRevision generation upload allowed =>
    exact .of_confirmUpload _ _ _ _ _ (confirms.confirm _ _ _ allowed) counted
  | confirmDelete operation delete allowed =>
    exact ⟨counted.metadata, counted.content, Nat.max_le.mpr ⟨counted.deletion, (confirms.confirmDelete _ _ _ allowed).deletionVersion⟩⟩
  | settle => exact .of_settle _ _ counted
  | adopt => exact .of_adopt _ _ _ _ _ _ counted
  | recreate | keepLocal =>
    exact ⟨Nat.le_succ_of_le counted.metadata, Nat.le_succ_of_le counted.content, counted.deletion⟩
  | deleteCloud => exact ⟨counted.metadata, counted.content, Nat.le_succ_of_le counted.deletion⟩
  | useCloud =>
    exact .of_settle _ _ ⟨counted.metadata, counted.content, counted.deletion⟩
  | rename | relocate | forget | retire | admission => exact ⟨counted.metadata, counted.content, counted.deletion⟩

variable {session before after : Session} {platform : Platform} {event : Event}

theorem evidence_captured {operation : Issued} {entry : Nat} {row : Entry} (hold : CapturesHold session)
    (evidence : Evidence session.store operation) (own : entry = operation.entry)
    (read : session.store.entries.get entry = some row) : Captured operation.versions row := by
  obtain ⟨id, task, present, _, linked, _, same, _⟩ := evidence.task
  have captured := hold.tasks id task present
  have owner : operation.entry = task.issued.entry := captured.owner operation.entry linked
  rw [← same]
  exact captured.versions.behind row (by rw [← owner, ← own]; exact read)

theorem policyOf_confirmsCaptured (command : Command) (hold : CapturesHold session) :
    ConfirmsCaptured (command.policyOf session.store).guards := by
  constructor
  · intro id operation row allowed
    obtain ⟨_, _, _, _, own, evidence, read⟩ := policyOf_confirm allowed
    exact evidence_captured hold evidence own read
  · intro id operation row allowed
    obtain ⟨_, _, _, _, own, evidence, read⟩ := policyOf_confirmDelete allowed
    exact evidence_captured hold evidence own read

def savesRead (session : Session) : Event → Bool
  | .command (.save _ issued) => savesCapture session issued
  | _ => true

structure Tracked (session : Session) : Prop where
  captures : CapturesHold session
  entries : session.store.entries.All Counted

theorem tracked_empty : Tracked .empty := by
  refine ⟨⟨fun _ member => ?_, fun id task read => ?_⟩, fun id row read => ?_⟩
  · cases member
  · cases read
  · cases read

theorem tracked_step (tracked : Tracked before) (permit : savesRead before event = true)
    (done : before.perform platform event = .ok after) : Tracked after := by
  have captures : CapturesHold after := by
    refine captures_step tracked.captures (fun epoch issued same => ?_) done
    rw [same] at permit
    exact permit
  cases event with
  | read =>
    obtain ⟨_, _, rest⟩ := bind_ok.mp done
    cases rest
    exact ⟨captures, tracked.entries⟩
  | command command =>
    obtain ⟨store, executed, rest⟩ := bind_ok.mp done
    cases rest
    have confirms := policyOf_confirmsCaptured command tracked.captures
    have moves := execute_moves executed
    exact ⟨captures, moves.entries.all Counted Counted.of_born
      (fun id first second step => EntryStep.counted _ id first second confirms step) tracked.entries⟩

theorem tracked_all {holds : Entry → Prop} (tracked : Tracked before) (born : ∀ row, EntryBorn row → holds row)
    (step : ∀ command, event = .command command → ∀ id first second, EntryStep (command.policyOf before.store).guards id first second → Counted first → holds first → holds second)
    (done : before.perform platform event = .ok after) (start : before.store.entries.All holds) :
    after.store.entries.All holds := by
  cases event with
  | read =>
    obtain ⟨_, _, rest⟩ := bind_ok.mp done
    cases rest
    exact start
  | command command =>
    obtain ⟨store, executed, rest⟩ := bind_ok.mp done
    cases rest
    have confirms := policyOf_confirmsCaptured command tracked.captures
    have moves := execute_moves executed
    have both := moves.entries.all (fun row => Counted row ∧ holds row) (fun row fresh => ⟨.of_born row fresh, born row fresh⟩)
      (fun id first second stepped ⟨counted, held⟩ =>
        ⟨EntryStep.counted _ id first second confirms stepped counted, step command rfl id first second stepped counted held⟩)
      (fun id row read => ⟨tracked.entries id row read, start id row read⟩)
    exact fun id row read => (both id row read).2

end PhotoSync
