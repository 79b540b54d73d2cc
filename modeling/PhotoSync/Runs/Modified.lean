import PhotoSync.Runs.Counters
import PhotoSync.Runs.Identity

set_option autoImplicit false

namespace PhotoSync
open Relational Transaction Entry Command

structure Dispatchable (entry : Entry) : Prop where
  fresh : Fresh entry
  modified : entry.dirty = .modified → entry.photoId ≠ none ∧ entry.Unsent

theorem Dispatchable.of_born (entry : Entry) (born : EntryBorn entry) : Dispatchable entry := by
  refine ⟨.of_born entry born, fun modified => ?_⟩
  rcases born.work with clean | ⟨new, _⟩
  · rw [clean] at modified
    cases modified
  · rw [new] at modified
    cases modified

def Issued.leavesWork (operation : Issued) (entry : Entry) : Bool :=
  decide (max entry.ackedMetadataVersion (if operation.metadataSent then operation.versions.metadataVersion else 0) <
    entry.metadataVersion) ||
  decide (max entry.ackedContentVersion (if operation.contentSent then operation.versions.contentVersion else 0) < entry.contentVersion)

theorem Issued.leavesWork_unsent (operation : Issued) (entry : Entry) (assetRevision masterRevision : Option String)
    (generation : String) : operation.leavesWork entry = true ↔
      (entry.confirmUpload operation assetRevision masterRevision generation).Unsent := by
  simp only [Issued.leavesWork, Bool.or_eq_true, decide_eq_true_eq]
  exact Iff.rfl

structure KeepsDispatch (guards : Guards) : Prop where
  confirm : ∀ id operation row, operation.phase ≠ .delete → guards.confirm id operation row →
    row.dirty = .delete ∨ row.localVersion = operation.versions.localVersion ∨ operation.leavesWork row = true
  forget : ∀ id row, guards.forget id row → row.dirty ≠ .modified
  admission : ∀ id photo row, guards.admission id photo row → row.dirty ≠ .new

theorem Entry.metadataPending_unsent (entry : Entry) (pending : entry.metadataPending = true) : entry.Unsent :=
  .inl (of_decide_eq_true pending)

theorem Entry.contentPending_unsent (entry : Entry) (pending : entry.contentPending = true) : entry.Unsent :=
  .inr (of_decide_eq_true pending)

theorem Entry.confirmUpload_modified (entry : Entry) {operation : Issued} {assetRevision masterRevision : Option String}
    {generation : String} (safe : entry.dirty = .delete ∨ entry.localVersion = operation.versions.localVersion ∨
      operation.leavesWork entry = true)
    (modified : (entry.confirmUpload operation assetRevision masterRevision generation).dirty = .modified) :
    (entry.confirmUpload operation assetRevision masterRevision generation).Unsent := by
  rcases safe with delete | unmoved | work
  · exfalso
    simp [confirmUpload, confirmedDirty, acknowledge, delete] at modified
  · have pending : (entry.acknowledge operation assetRevision masterRevision generation).metadataPending = true ∨
        (entry.acknowledge operation assetRevision masterRevision generation).contentPending = true := by
      by_contra settled
      have same : (entry.acknowledge operation assetRevision masterRevision generation).localVersion =
        operation.versions.localVersion := unmoved
      simp only [confirmUpload, confirmedDirty, same, ne_eq, not_true_eq_false, false_or, settled, if_false] at modified
      split at modified <;> cases modified
    rcases pending with metadata | content
    · exact metadataPending_unsent _ metadata
    · exact contentPending_unsent _ content
  · exact (operation.leavesWork_unsent entry _ _ _).mp work

theorem Entry.settle_modified (entry : Entry) {decision : Entry.Settlement} (guard : SettleGuard decision entry)
    (fresh : Fresh entry) (modified : (entry.settle decision).dirty = .modified) : (entry.settle decision).Unsent := by
  by_cases metadata : decision.preserveMetadata = true
  · have pending := of_decide_eq_true (guard.metadata metadata).1
    exact .inl (by simpa [settle, metadata] using pending)
  · by_cases content : decision.keepContent = true
    · obtain ⟨reason, bound⟩ := guard.content content
      have pending : entry.contentPending = true := by
        rcases reason with delete | pending | new
        · exfalso
          have dirty : decision.dirty = .modified := modified
          simp [Entry.Settlement.dirty, guard.delete.mpr delete] at dirty
        · exact pending
        · exact absurd (fresh new) bound
      exact .inr (by simpa [settle, content] using of_decide_eq_true pending)
    · exfalso
      have dirty : decision.dirty = .modified := modified
      simp only [Entry.Settlement.dirty, metadata, content, Bool.or_self] at dirty
      split at dirty <;> cases dirty

theorem Entry.mark_modified (entry : Entry) (category : ChangeCategory) (stamp : EditEvent) (counted : Counted entry)
    (modified : (entry.mark category stamp).dirty = .modified) :
    (entry.mark category stamp).photoId ≠ none ∧ (entry.mark category stamp).Unsent := by
  have marked : entry.markedDirty category = .modified := modified
  unfold markedDirty at marked
  split at marked
  · cases marked
  · split at marked
    · cases marked
    · next bound =>
      cases category with
      | metadata => exact ⟨bound, .inl (Nat.lt_succ_of_le counted.metadata)⟩
      | content => exact ⟨bound, .inr (Nat.lt_succ_of_le counted.content)⟩
      | deletion => simp_all

theorem EntryStep.dispatchable {guards : Guards} {id : Nat} {before after : Entry} (keeps : KeepsDispatch guards)
    (counted : Counted before) (step : EntryStep guards id before after) (ready : Dispatchable before) :
    Dispatchable after := by
  refine ⟨EntryStep.fresh guards id before after (keeps.admission id) step ready.fresh, ?_⟩
  cases step with
  | frame _ same =>
    intro modified
    rw [same.photoId, Entry.Unsent, same.ackedMetadata, same.metadataVersion, same.ackedContent, same.contentVersion]
    exact ready.modified (same.dirty ▸ modified)
  | mark category stamp => exact before.mark_modified category stamp counted
  | confirmUpload operation assetRevision masterRevision generation upload allowed =>
    intro modified
    exact ⟨Option.some_ne_none _, before.confirmUpload_modified (keeps.confirm id operation before upload allowed)
      modified⟩
  | confirmDelete =>
    intro modified
    simp only [Entry.confirmDelete] at modified
    split at modified <;> cases modified
  | settle decision guard => exact fun modified => ⟨Option.some_ne_none _, before.settle_modified guard ready.fresh modified⟩
  | useCloud assetRevision masterRevision decision _ guard =>
    exact fun modified => ⟨Option.some_ne_none _, Entry.settle_modified _ guard (fun new => by cases new) modified⟩
  | adopt =>
    intro modified
    refine ⟨Option.some_ne_none _, .inl ?_⟩
    by_cases pending : before.metadataPending = true
    · simpa [Entry.adopt, pending] using of_decide_eq_true pending
    · simp [Entry.adopt, pending] at modified
  | forget allowed => exact fun modified => absurd modified (keeps.forget id before allowed)
  | keepLocal =>
    exact fun _ => ⟨Option.some_ne_none _, .inl (Nat.lt_succ_of_le counted.metadata)⟩
  | retire | recreate | deleteCloud =>
    intro modified
    cases modified
  | rename | relocate => exact ready.modified
  | admission =>
    exact fun modified => ⟨Option.some_ne_none _, (ready.modified modified).2⟩

-- Saved operations carry versions read from their entry. An upload is confirmed for a row that waits for its
-- deletion, that did not move since the capture, or that still owes an edit; no identity is forgotten under a row
-- that is to be updated; no row that is to be created is admitted.
def keepsDispatch (session : Session) : Event → Bool
  | .command (.save _ issued) => savesCapture session issued
  | .command (.confirm _ operation _ _) =>
    operation.phase == .delete || (session.store.entries.get operation.entry).all (fun row =>
      row.dirty == .delete || row.localVersion == operation.versions.localVersion || operation.leavesWork row)
  | .command (.forgetIdentityForAdoption _ entry _) =>
    (session.store.entries.get entry).all (fun row => row.dirty != .modified)
  | .command command => admitsCreated session.store command
  | .read _ => true

theorem keepsDispatch_savesRead {session : Session} {event : Event} (permit : keepsDispatch session event = true) :
    savesRead session event = true := by
  cases event with
  | read => rfl
  | command command =>
    cases command with
    | save => exact permit
    | _ => rfl

theorem policyOf_keepsDispatch {session : Session} {command : Command}
    (permit : keepsDispatch session (.command command) = true) : KeepsDispatch (command.policyOf session.store).guards := by
  constructor
  · intro id operation row upload allowed
    obtain ⟨_, _, _, rfl, own, _, read⟩ := policyOf_confirm allowed
    rw [own] at read
    have skip : (operation.phase == .delete) = false := by simpa using upload
    simpa only [keepsDispatch, skip, read, Option.all_some, Bool.false_or, Bool.or_eq_true, beq_iff_eq, or_assoc]
      using permit
  · intro id row allowed
    obtain ⟨_, _, rfl, read⟩ := policyOf_forget allowed
    simpa only [keepsDispatch, read, Option.all_some, bne_iff_ne] using permit
  · intro id photo row allowed
    obtain ⟨_, _, _, capture, rfl, captured, _, _, same⟩ := policyOf_admission allowed
    simp only [keepsDispatch, admitsCreated, captured, bne_iff_ne] at permit
    rw [same]
    exact permit

structure Ready (session : Session) : Prop where
  tracked : Tracked session
  entries : session.store.entries.All Dispatchable

theorem ready_empty : Ready .empty := by
  refine ⟨tracked_empty, fun id row read => ?_⟩
  cases read

theorem ready_step {platform : Platform} {before : Session} {event : Event} {after : Session} (ready : Ready before)
    (permit : keepsDispatch before event = true) (done : before.perform platform event = .ok after) : Ready after := by
  refine ⟨tracked_step ready.tracked (keepsDispatch_savesRead permit) done, ?_⟩
  refine tracked_all ready.tracked Dispatchable.of_born ?_ done ready.entries
  rintro command rfl id first second step counted held
  exact EntryStep.dispatchable (policyOf_keepsDispatch permit) counted step held

theorem modified_entry_is_dispatchable (platform : Platform) (events : List Event)
    (met : Meets (Session.perform platform) (fun session event => keepsDispatch session event = true) .empty events)
    (id : Nat) (row : Entry)
    (read : (run (Session.perform platform) .empty events).store.entries.get id = some row)
    (modified : row.dirty = .modified) :
    row.photoId ≠ none ∧ (row.ackedMetadataVersion < row.metadataVersion ∨ row.ackedContentVersion < row.contentVersion) := by
  have ready := run_keeps Ready
    (fun before event after => ready_step) ready_empty met
  exact (ready.entries id row read).modified modified

open Sample in
theorem edited_while_created_is_dispatchable :
    ∃ row, (run (Session.perform platform) .empty editInFlight).store.entries.get 1 = some row ∧
      row.dirty = .modified ∧ row.photoId ≠ none ∧
      (row.ackedMetadataVersion < row.metadataVersion ∨ row.ackedContentVersion < row.contentVersion) := by
  have present : ((run (Session.perform platform) .empty editInFlight).store.entries.get 1).any
    (fun row => row.dirty == .modified) = true := by decide +kernel
  obtain ⟨row, read, modified⟩ := (Option.any_eq_true _ _).mp present
  exact ⟨row, read, beq_iff_eq.mp modified, modified_entry_is_dispatchable platform editInFlight (by decide +kernel) 1 row read
    (beq_iff_eq.mp modified)⟩

-- Two accounts keep the same folder. While the first account's upload is in
-- flight, a collision received for the second one moves the shared file.
def Sample.sharedFolder : List Event :=
  .command (.createJob { Sample.job with account := some 1 }) :: Sample.opening.tail.map .command ++
    [.read 1, .command (.save Sample.epoch (Sample.operation .create ⟨1, 0, 1, 0⟩)),
      .command (.createJob { Sample.job with credentialRef := "other", account := some 2 }),
      .command (.selectAccount (some 2)), .command (.noteLocalChange 1 .content Sample.stamp),
      .command (.beginCollision "collision" ⟨2, 2, 1, 1, .new, none, none, false, none, none, none, none⟩
        { collision := true, source := some "/p/a", preserved := some "/p/a_1" }),
      .command (.finishCollision "collision"), .command (.selectAccount (some 1)),
      .command (.confirm Sample.epoch (Sample.operation .create ⟨1, 0, 1, 0⟩) (some (Sample.answer false)) true)]

open Sample in
theorem collision_leaves_nothing_to_dispatch :
    Meets (Session.perform platform) (fun session event => savesRead session event = true) .empty
      sharedFolder ∧
    ∃ row, (run (Session.perform platform) .empty sharedFolder).store.entries.get 1 = some row ∧
      row.dirty = .modified ∧ row.ackedMetadataVersion = row.metadataVersion ∧
      row.ackedContentVersion = row.contentVersion := by
  refine ⟨by decide +kernel, ?_⟩
  have present : ((run (Session.perform platform) .empty sharedFolder).store.entries.get 1).any
    (fun row => row.dirty == .modified && row.ackedMetadataVersion == row.metadataVersion
      && row.ackedContentVersion == row.contentVersion) = true := by decide +kernel
  obtain ⟨row, read, facts⟩ := (Option.any_eq_true _ _).mp present
  simp only [Bool.and_eq_true, beq_iff_eq] at facts
  exact ⟨row, read, facts.1.1, facts.1.2, facts.2⟩

end PhotoSync
