import PhotoSync.Runs.Counters

set_option autoImplicit false

namespace PhotoSync
open Relational Transaction Entry

def Scheduled (entry : Entry) : Prop := entry.Unsent → entry.dirty ≠ .clean ∨ entry.retired = true ∧ entry.photoId = none

structure KeepsEdits (guards : Guards) : Prop where
  forget : ∀ id entry, guards.forget id entry → entry.photoId ≠ none
  admission : ∀ id photo entry, guards.admission id photo entry → entry.retired = false

theorem Scheduled.of_born (entry : Entry) (born : EntryBorn entry) : Scheduled entry := by
  rintro (behind | behind)
  · rw [born.metadataVersion] at behind
    exact absurd behind (Nat.not_lt_zero _)
  · rw [born.contentVersion] at behind
    exact absurd behind (Nat.not_lt_zero _)

theorem Scheduled.of_frame (before after : Entry) (same : Frame before after) (scheduled : Scheduled before) : Scheduled after := by
  intro unsent
  unfold Entry.Unsent at unsent
  rw [same.ackedMetadata, same.metadataVersion, same.ackedContent, same.contentVersion] at unsent
  rw [same.dirty, same.retired, same.photoId]
  exact scheduled unsent

theorem Scheduled.of_dirty (entry : Entry) (dirty : entry.dirty ≠ .clean) : Scheduled entry := fun _ => .inl dirty

theorem Entry.markedDirty_ne_clean (entry : Entry) (category : ChangeCategory) : entry.markedDirty category ≠ .clean := by
  unfold markedDirty
  split
  · decide
  · split
    · decide
    · decide

theorem Scheduled.of_confirmUpload (entry : Entry) (operation : Issued) (assetRevision masterRevision : Option String)
    (generation : String) : Scheduled (entry.confirmUpload operation assetRevision masterRevision generation) := by
  intro unsent
  refine .inl ?_
  have pending : (entry.acknowledge operation assetRevision masterRevision generation).metadataPending = true ∨
      (entry.acknowledge operation assetRevision masterRevision generation).contentPending = true := by
    rcases unsent with behind | behind
    · exact .inl (decide_eq_true behind)
    · exact .inr (decide_eq_true behind)
  change (entry.acknowledge operation assetRevision masterRevision generation).confirmedDirty operation.versions ≠ .clean
  unfold confirmedDirty
  split
  · decide
  · rw [if_pos (.inr pending)]
    decide

theorem Scheduled.of_confirmDelete (entry : Entry) (operation : Issued) : Scheduled (entry.confirmDelete operation.versions) := by
  intro _
  by_cases unmoved : (entry.localVersion == operation.versions.localVersion) = true
  · exact .inr ⟨unmoved, rfl⟩
  · refine .inl ?_
    simp [confirmDelete, unmoved]

theorem Scheduled.of_settle (entry : Entry) (decision : Entry.Settlement) : Scheduled (entry.settle decision) := by
  intro unsent
  refine .inl ?_
  have preserved : (decision.preserveMetadata || decision.keepContent) = true := by
    rcases unsent with behind | behind
    · cases flag : decision.preserveMetadata with
      | false => simp [settle, flag] at behind
      | true => rfl
    · cases flag : decision.keepContent with
      | false => simp [settle, flag] at behind
      | true => exact Bool.or_true _
  change decision.dirty ≠ .clean
  unfold Entry.Settlement.dirty
  rw [if_pos preserved]
  split
  · decide
  · decide

theorem Scheduled.of_adopt (entry : Entry) (media : Nat) (photo : RemotePhoto) (assetRevision masterRevision generation : String) :
    Scheduled (entry.adopt media photo assetRevision masterRevision generation) := by
  intro unsent
  by_cases pending : entry.metadataPending = true
  · refine .inl ?_
    simp [adopt, pending]
  · simp only [Entry.Unsent, adopt, pending, Bool.false_eq_true, if_false] at unsent
    omega

theorem EntryStep.scheduled (guards : Guards) (id : Nat) (before after : Entry) (safe : KeepsEdits guards)
    (step : EntryStep guards id before after) (scheduled : Scheduled before) : Scheduled after := by
  cases step with
  | frame _ same => exact .of_frame _ _ same scheduled
  | rename | relocate => exact scheduled
  | mark category => exact .of_dirty _ (before.markedDirty_ne_clean category)
  | confirmUpload => exact .of_confirmUpload _ _ _ _ _
  | confirmDelete => exact .of_confirmDelete _ _
  | settle | useCloud => exact .of_settle _ _
  | adopt => exact .of_adopt _ _ _ _ _ _
  | forget allowed =>
    intro unsent
    rcases scheduled unsent with dirty | ⟨_, unbound⟩
    · exact .inl dirty
    · exact absurd unbound (safe.forget id before allowed)
  | retire => exact fun _ => .inr ⟨rfl, rfl⟩
  | recreate | deleteCloud | keepLocal => exact .of_dirty _ nofun
  | admission media photo assetRevision masterRevision generation path allowed =>
    intro unsent
    rcases scheduled unsent with dirty | ⟨retired, _⟩
    · exact .inl dirty
    · rw [safe.admission id photo before allowed] at retired
      cases retired

-- Saved operations carry versions read from their entry, and an identity is forgotten only where there is one. A
-- downloaded pair is admitted to a row that is in use.
def permitted (session : Session) : Event → Bool
  | .command (.save _ issued) => savesCapture session issued
  | .command (.forgetIdentityForAdoption _ entry _) =>
    (session.store.entries.get entry).all (fun row => row.photoId.isSome)
  | .command (.admission publication _ _ _) =>
    match session.store.captureOf publication "missing publication capture" with
    | .ok capture => (session.store.entries.get capture.entry).all (fun row => !row.retired)
    | .error _ => true
  | _ => true

theorem permitted_savesRead {session : Session} {event : Event} (permit : permitted session event = true) :
    savesRead session event = true := by
  cases event with
  | read => rfl
  | command command =>
    cases command with
    | save => exact permit
    | _ => rfl

theorem policyOf_keepsEdits {session : Session} {command : Command}
    (permit : permitted session (.command command) = true) : KeepsEdits (command.policyOf session.store).guards := by
  constructor
  · intro id row allowed
    obtain ⟨job, version, rfl, read⟩ := Command.policyOf_forget allowed
    simp only [permitted, read, Option.all_some] at permit
    exact Option.isSome_iff_ne_none.mp permit
  · intro id photo row allowed
    obtain ⟨publication, item, stamp, capture, rfl, captured, own, read, _⟩ := Command.policyOf_admission allowed
    rw [own] at read
    simpa only [permitted, captured, read, Option.all_some, Bool.not_eq_true'] using permit

structure EditsKept (session : Session) : Prop where
  tracked : Tracked session
  entries : session.store.entries.All Scheduled

theorem editsKept_empty : EditsKept .empty := by
  refine ⟨tracked_empty, fun id row read => ?_⟩
  cases read

theorem editsKept_step {platform : Platform} {before : Session} {event : Event} {after : Session}
    (kept : EditsKept before) (permit : permitted before event = true)
    (done : before.perform platform event = .ok after) : EditsKept after := by
  refine ⟨tracked_step kept.tracked (permitted_savesRead permit) done, ?_⟩
  refine tracked_all kept.tracked Scheduled.of_born ?_ done kept.entries
  rintro command rfl id first second step _ scheduled
  exact EntryStep.scheduled _ id first second (policyOf_keepsEdits permit) step scheduled

-- Whatever local edits, uploads, confirmations, projections, adoptions, user decisions and tombstones interleave, no
-- edit is acknowledged before it was made, and a row in use that owes an edit is scheduled.
theorem no_local_edit_is_lost (platform : Platform) (events : List Event)
    (met : Meets (Session.perform platform) (fun session event => permitted session event = true) .empty events)
    (id : Nat) (row : Entry)
    (read : (run (Session.perform platform) .empty events).store.entries.get id = some row) :
    row.ackedMetadataVersion ≤ row.metadataVersion ∧ row.ackedContentVersion ≤ row.contentVersion ∧
      row.ackedDeletionVersion ≤ row.deletionVersion ∧
      (row.retired = false → (row.ackedMetadataVersion < row.metadataVersion ∨
        row.ackedContentVersion < row.contentVersion) → row.dirty ≠ .clean) := by
  have kept := run_keeps EditsKept
    (fun before event after => editsKept_step) editsKept_empty met
  have counted := kept.tracked.entries id row read
  refine ⟨counted.metadata, counted.content, counted.deletion, fun active unsent => ?_⟩
  rcases kept.entries id row read unsent with dirty | ⟨retired, _⟩
  · exact dirty
  · rw [active] at retired
    cases retired

open Sample in
theorem no_local_edit_is_lost_in_flight : ∃ row, (run (Session.perform platform) .empty editInFlight).store.entries.get 1 = some row ∧
      row.ackedContentVersion = 1 ∧ row.ackedMetadataVersion < row.metadataVersion ∧ row.dirty ≠ .clean := by
  have present : ((run (Session.perform platform) .empty editInFlight).store.entries.get 1).any
    (fun row => row.ackedContentVersion == 1 && decide (row.ackedMetadataVersion < row.metadataVersion)
      && !row.retired) = true := by decide +kernel
  obtain ⟨row, read, facts⟩ := Option.any_eq_true _ _ |>.mp present
  simp only [Bool.and_eq_true, beq_iff_eq, decide_eq_true_eq, Bool.not_eq_true'] at facts
  have kept := no_local_edit_is_lost platform editInFlight (by decide +kernel) 1 row read
  exact ⟨row, read, facts.1.1, facts.1.2, kept.2.2.2 facts.2 (.inl facts.1.2)⟩

end PhotoSync
