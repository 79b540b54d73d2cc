import PhotoSync.Runs.Session

set_option autoImplicit false

namespace PhotoSync
open Relational Transaction Store Table Entry

namespace Store

def deleteConfirmed (s : Store) (operation : Issued) : Store :=
  (((s.updateEntry operation.entry (Entry.confirmDelete operation.versions)).resolveConflicts operation.entry
    confirmSettles).confirmMedia operation).confirmTask operation

theorem updateEntryMedia_journal (s : Store) (entry : Nat) (change : Media → Media) :
    (s.updateEntryMedia entry change).journal = s.journal := by
  unfold updateEntryMedia
  split
  · rfl
  · rfl

theorem deleteConfirmed_entries (s : Store) (operation : Issued) : (s.deleteConfirmed operation).entries =
      s.entries.modify operation.entry (confirmDelete operation.versions) :=
  updateEntryMedia_entries _ _ _

theorem deleteConfirmed_journal (s : Store) (operation : Issued) : (s.deleteConfirmed operation).journal = s.journal :=
  updateEntryMedia_journal _ _ _

end Store

section DeleteConfirm
variable (s t : Store) (epoch : Epoch) (operation : Issued) (response : Option (List ConfirmedRecord)) (leaseHeld : Bool)

theorem confirm_delete_form (delete : operation.phase = .delete) (done : s.confirm epoch operation response leaseHeld = .ok t) :
    t = (s.deleteConfirmed operation).confirmCleanup operation := by
  obtain ⟨records, generation, entered, based, _, _, _, _, bound, baseline, rfl⟩ := confirm_ok done
  unfold confirmEntry at bound
  unfold confirmBaseline at baseline
  rw [if_pos (beq_iff_eq.mpr delete)] at bound baseline
  cases bound
  cases baseline
  rfl

theorem settledDeletion_confirmDelete (row : Entry) : settledDeletion operation (row.confirmDelete operation.versions) =
      (row.localVersion == operation.versions.localVersion) := by
  unfold settledDeletion confirmDelete
  cases row.localVersion == operation.versions.localVersion <;> rfl

theorem confirmCleanup_journal : (s.confirmCleanup operation).journal = s.journal := by
  unfold confirmCleanup
  split
  · unfold dropCloudRow
    split
    · rfl
    · rfl
  · rfl

theorem confirm_delete_journal (delete : operation.phase = .delete)
    (done : s.confirm epoch operation response leaseHeld = .ok t) : t.journal = s.journal := by
  rw [confirm_delete_form s t epoch operation response leaseHeld delete done, confirmCleanup_journal, deleteConfirmed_journal]

theorem dropCloudRow_entry (media : Option Nat) (id : Nat) : ∃ link : Option Nat → Option Nat, (s.dropCloudRow media).entries.get id =
      (s.entries.get id).map (fun row => { row with media := link row.media }) := by
  unfold dropCloudRow
  split
  · exact ⟨fun held => held, Option.map_id'.symm⟩
  · exact ⟨_, get_update _ _ id⟩

theorem confirm_delete_entry (delete : operation.phase = .delete) {row : Entry}
    (read : s.entries.get operation.entry = some row) (done : s.confirm epoch operation response leaseHeld = .ok t) :
    t.entries.get operation.entry = if row.localVersion = operation.versions.localVersion then none
      else some (row.confirmDelete operation.versions) := by
  rw [confirm_delete_form s t epoch operation response leaseHeld delete done]
  have after : (s.deleteConfirmed operation).entries.get operation.entry = some (row.confirmDelete operation.versions) := by
    rw [deleteConfirmed_entries, get_modify_self, read]
    rfl
  have settled := settledDeletion_confirmDelete operation row
  unfold confirmCleanup
  rw [if_pos (beq_iff_eq.mpr delete), deleteEntries]
  rw [get_delete]
  by_cases unmoved : row.localVersion = operation.versions.localVersion
  · rw [if_pos unmoved]
    rw [beq_iff_eq.mpr unmoved] at settled
    obtain ⟨link, dropped⟩ := dropCloudRow_entry (s.deleteConfirmed operation)
      ((((s.deleteConfirmed operation).entries.get operation.entry).filter (settledDeletion operation)).bind media)
      operation.entry
    rw [dropped, after, Option.map_some, Option.filter_some]
    have still : settledDeletion operation { row.confirmDelete operation.versions with
      media := link (row.confirmDelete operation.versions).media } = true := settled
    rw [still]
    simp
  · rw [if_neg unmoved]
    rw [beq_eq_false_iff_ne.mpr unmoved] at settled
    have nothing : ((s.deleteConfirmed operation).entries.get operation.entry).filter
        (settledDeletion operation) = none := by
      rw [after, Option.filter_some, settled]
      rfl
    rw [nothing, Option.bind_none, dropCloudRow, after, Option.filter_some, settled]
    simp

end DeleteConfirm

def Store.latestChange (s : Store) (entry version : Nat) : Option ChangeCategory :=
  ((s.journal.filter (fun change => change.entry == entry && decide (version < change.version))).getLast?).map
    LocalChange.category

def Store.restoredSince (s : Store) (entry version : Nat) : Bool :=
  s.latestChange entry version == some .metadata || s.latestChange entry version == some .content

-- A confirmed deletion leaves the entry to be uploaded anew only for a photo that came back exactly when nothing
-- moved the entry's version since the capture, or the last recorded change after it is an edit.
theorem confirmed_deletion_resurrects_iff (platform : Platform) (s t : Store) (epoch : Epoch) (operation : Issued)
    (response : Option (List ConfirmedRecord)) (leaseHeld : Bool) (row : Entry) (delete : operation.phase = .delete)
    (read : s.entries.get operation.entry = some row)
    (done : (Command.confirm epoch operation response leaseHeld).execute platform s = .ok t) :
    ((t.entries.get operation.entry).any (fun after => after.dirty == .new) = true →
        t.restoredSince operation.entry operation.versions.localVersion = true) ↔
      row.localVersion = operation.versions.localVersion ∨ s.restoredSince operation.entry operation.versions.localVersion = true := by
  have journal := confirm_delete_journal s t epoch operation response leaseHeld delete done
  have same : t.restoredSince operation.entry operation.versions.localVersion =
      s.restoredSince operation.entry operation.versions.localVersion := by
    unfold restoredSince latestChange
    rw [journal]
  rw [same, confirm_delete_entry s t epoch operation response leaseHeld delete read done]
  by_cases unmoved : row.localVersion = operation.versions.localVersion
  · simp [unmoved]
  · have renewed : (row.confirmDelete operation.versions).dirty = .new := by
      simp [Entry.confirmDelete, unmoved]
    simp [unmoved, renewed]

-- The photo is uploaded, vanishes and its deletion is sent; while the deletion
-- is in flight the file comes back, and vanishes again or not.
def Sample.removal : Issued := { Sample.operation .delete ⟨2, 0, 1, 1⟩ with id := "removal" }

def Sample.vanished : Command := .deleteLiveMediaByPaths [⟨"/p/a", false, 0, fun _ => Sample.stamp⟩]

def Sample.returned : Command := .upsertMediaItems [(Sample.item, Sample.stamp)]

def Sample.deletionInFlight : List Command := Sample.opening ++ [.save Sample.epoch (Sample.operation .create ⟨1, 0, 1, 0⟩),
    .confirm Sample.epoch (Sample.operation .create ⟨1, 0, 1, 0⟩) (some (Sample.answer false)) true,
    Sample.vanished, .save Sample.epoch Sample.removal, Sample.returned]

def Sample.removalConfirmed : Command := .confirm Sample.epoch Sample.removal (some (Sample.answer true)) true

theorem returned_photo_is_uploaded_anew :
    ((run (Command.execute Sample.platform) .empty (Sample.deletionInFlight ++ [Sample.removalConfirmed])).entries.get 1).any
        (fun row => row.dirty == .new) = true ∧
      (run (Command.execute Sample.platform) .empty (Sample.deletionInFlight ++ [Sample.removalConfirmed])).restoredSince
        1 2 = true := by
  have present : ((run (Command.execute Sample.platform) .empty Sample.deletionInFlight).entries.get 1).isSome = true := by
    decide +kernel
  obtain ⟨row, read⟩ := Option.isSome_iff_exists.mp present
  have done := ok_of_isOk (Command.execute Sample.platform) (run (Command.execute Sample.platform) .empty
    Sample.deletionInFlight) Sample.removalConfirmed (by decide +kernel)
  have renewed : ((run (Command.execute Sample.platform) .empty
      (Sample.deletionInFlight ++ [Sample.removalConfirmed])).entries.get 1).any (fun row => row.dirty == .new) = true := by
    decide +kernel
  refine ⟨renewed, ?_⟩
  rw [run_append] at renewed ⊢
  exact (confirmed_deletion_resurrects_iff Sample.platform _ _ Sample.epoch Sample.removal _ true row rfl read done).mpr
    (.inr (by decide +kernel)) renewed

open Sample in
theorem second_removal_is_resurrected : (run (Command.execute platform) .empty (deletionInFlight ++ [Sample.vanished])).latestChange 1 2
        = some .deletion ∧
      ((run (Command.execute platform) .empty (deletionInFlight ++ [Sample.vanished, removalConfirmed])).entries.get
        1).any (fun row => row.dirty == .new) = true ∧
      (run (Command.execute platform) .empty (deletionInFlight ++ [Sample.vanished, removalConfirmed])).latestChange
        1 2 = some .deletion := by
  decide +kernel

end PhotoSync
