import PhotoSync.Runs.Session

set_option autoImplicit false

namespace PhotoSync
open Relational Transaction Store Entry

def endsDeletion (s : Store) (id : Nat) : Command → Bool
  | .confirm _ operation _ _ => operation.phase == .delete && operation.entry == id
  | .confirmAbsentDeletion _ entry _ _ => entry == id
  | .promote _ graph _ _ => (s.entries.get id).any (fun row => row.photoId.any graph.tombstones.contains)
  | .discardPendingDeletions job | .deleteJob job => (s.entries.get id).any (fun row => row.job == job)
  | .applyChange job _ =>
    (s.entries.get id).any (fun row => row.job == job) && (s.pendingChange job).any PendingChange.delete
  | .finishReset token => s.reset.any (fun intent => intent.token == token)
  | .resetAccountData => true
  | _ => false

-- The receive path takes the row for one of its own provisional entries.
def takenForProvisional (s : Store) (id : Nat) : Command → Bool
  | .saveDeltaPage .. | .promote .. => (s.entries.get id).any Store.isPlaceholderEntry
  | _ => false

theorem Entry.confirmedDirty_delete (entry : Entry) (versions : Versions) (deleting : entry.dirty = .delete) :
    entry.confirmedDirty versions = .delete := by
  unfold confirmedDirty
  rw [if_pos deleting]

theorem EntryStep.deleting (guards : Guards) (id : Nat) (before after : Entry)
    (open_ : ∀ operation row, operation.phase = .delete → ¬ guards.confirmDelete id operation row) (step : EntryStep guards id before after)
    (deleting : before.dirty = .delete) : after.dirty = .delete := by
  cases step with
  | frame _ same => exact same.dirty.trans deleting
  | mark category =>
    change before.markedDirty category = .delete
    unfold markedDirty
    rw [if_pos (.inr deleting)]
  | confirmUpload operation =>
    exact confirmedDirty_delete _ operation.versions deleting
  | confirmDelete operation delete allowed => exact absurd allowed (open_ operation before delete)
  | settle decision guard =>
    change decision.dirty = .delete
    unfold Entry.Settlement.dirty
    rw [if_pos (guard.delete.mpr deleting)]
  | deleteCloud => rfl
  | rename | relocate | forget | admission => exact deleting
  | adopt _ _ _ _ _ _ kept => exact absurd deleting kept
  | retire kept | recreate _ _ kept | keepLocal _ _ _ _ kept | useCloud _ _ _ kept => exact absurd deleting kept

theorem SettleGuard.keeps_identity {decision : Entry.Settlement} {entry : Entry} (guard : SettleGuard decision entry)
    (deleting : entry.dirty = .delete) : entry.photoId = some decision.photo.photoId := by
  have bound : entry.photoId ≠ none := (guard.content (guard.deleteKeeps (guard.delete.mpr deleting))).2
  rcases guard.identity with unbound | same
  · exact absurd unbound bound
  · exact same

theorem EntryStep.job (guards : Guards) (id : Nat) (before after : Entry) (step : EntryStep guards id before after) :
    after.job = before.job := by
  cases step with
  | frame _ same => exact same.job
  | mark category => cases category <;> rfl
  | _ => rfl

variable {s t : Store} {policy : Policy}

theorem Moves.keeps_deleting (moves : Moves policy s t) {id : Nat} {row : Entry} (read : s.entries.get id = some row)
    (deleting : row.dirty = .delete)
    (open_ : ∀ operation row, operation.phase = .delete → ¬ policy.guards.confirmDelete id operation row)
    (kept : ∀ current, current.dirty = .delete → current.job = row.job → ¬ policy.drop id current) :
    ∃ after, t.entries.get id = some after ∧ after.dirty = .delete := by
  obtain ⟨after, present, _, still, _⟩ := moves.entries.keeps
    (fun other current => other = id ∧ current.dirty = .delete ∧ current.job = row.job)
    (fun other before after step ⟨own, still, job⟩ =>
      ⟨own, EntryStep.deleting _ other before after (own ▸ open_) step still, (EntryStep.job _ _ _ _ step).trans job⟩)
    (fun other current gone ⟨own, still, job⟩ => kept current still job (own ▸ gone)) id row read ⟨rfl, deleting, rfl⟩
  exact ⟨after, present, still⟩

structure Claimed (photoId : Option String) (entry : Entry) : Prop where
  deleting : entry.dirty = .delete
  identity : entry.photoId = photoId
  path : photoId = none → isPlaceholder entry.relativePath = false

structure ReceiveOnly (guards : Guards) : Prop where
  confirm : ∀ id operation row, ¬ guards.confirm id operation row
  confirmDelete : ∀ id operation row, ¬ guards.confirmDelete id operation row
  forget : ∀ id row, ¬ guards.forget id row
  admission : ∀ id photo row, ¬ guards.admission id photo row
  rename : ∀ id path row, guards.rename id path row → isPlaceholder row.relativePath = true ∨ row.dirty ≠ .delete

theorem EntryStep.claimed (guards : Guards) (id : Nat) (photoId : Option String) (before after : Entry)
    (receive : ReceiveOnly guards) (step : EntryStep guards id before after) (claimed : Claimed photoId before) :
    Claimed photoId after := by
  have deleting := claimed.deleting
  have still := EntryStep.deleting guards id before after
    (fun operation row _ => receive.confirmDelete id operation row) step deleting
  have renamed : ∀ path, guards.rename id path before → photoId ≠ none := by
    intro path allowed unbound
    rcases receive.rename id path before allowed with provisional | kept
    · rw [claimed.path unbound] at provisional
      cases provisional
    · exact kept deleting
  cases step with
  | frame _ same =>
    exact ⟨still, same.photoId.trans claimed.identity, fun unbound => by rw [same.path]; exact claimed.path unbound⟩
  | mark category =>
    refine ⟨still, ?_, ?_⟩
    · cases category <;> exact claimed.identity
    · cases category <;> exact claimed.path
  | rename path allowed | relocate path allowed =>
    exact ⟨still, claimed.identity, fun unbound => absurd unbound (renamed path allowed)⟩
  | settle decision guard =>
    have same := SettleGuard.keeps_identity guard deleting
    exact ⟨still, same.symm.trans claimed.identity, claimed.path⟩
  | deleteCloud => exact ⟨still, claimed.identity, claimed.path⟩
  | confirmUpload operation _ _ _ _ allowed => exact absurd allowed (receive.confirm id operation before)
  | confirmDelete operation _ allowed => exact absurd allowed (receive.confirmDelete id operation before)
  | forget allowed => exact absurd allowed (receive.forget id before)
  | admission _ photo _ _ _ _ allowed => exact absurd allowed (receive.admission id photo before)
  | adopt _ _ _ _ _ _ kept => exact absurd deleting kept
  | retire kept | recreate _ _ kept | keepLocal _ _ _ _ kept | useCloud _ _ _ kept => exact absurd deleting kept

theorem Moves.keeps_claimed (moves : Moves policy s t) {id : Nat} {row : Entry} (read : s.entries.get id = some row)
    (deleting : row.dirty = .delete) (owned : isPlaceholderEntry row = false) (receive : ReceiveOnly policy.guards)
    (kept : ∀ current, current.photoId = row.photoId → isPlaceholderEntry current = false → ¬ policy.drop id current) :
    ∃ after, t.entries.get id = some after ∧ after.dirty = .delete := by
  have start : Claimed row.photoId row := by
    refine ⟨deleting, rfl, fun unbound => ?_⟩
    simpa [isPlaceholderEntry, unbound] using owned
  obtain ⟨after, present, _, claimed⟩ := moves.entries.keeps
    (fun other current => other = id ∧ Claimed row.photoId current)
    (fun other before after step ⟨own, claimed⟩ => ⟨own, EntryStep.claimed _ other _ before after receive step claimed⟩)
    (fun other current gone ⟨own, claimed⟩ => by
      refine kept current claimed.identity ?_ (own ▸ gone)
      unfold isPlaceholderEntry
      cases bound : current.photoId with
      | none => simp [claimed.path (claimed.identity.symm.trans bound)]
      | some => rfl)
    id row read ⟨rfl, start⟩
  exact ⟨after, present, claimed.deleting⟩

theorem deletion_step {platform : Platform} {command : Command} {id : Nat} {row : Entry}
    (read : s.entries.get id = some row) (deleting : row.dirty = .delete) (pending : endsDeletion s id command = false)
    (owned : takenForProvisional s id command = false) (done : command.execute platform s = .ok t) :
    ∃ after, t.entries.get id = some after ∧ after.dirty = .delete := by
  have moves := Command.execute_moves done
  cases command with
  | confirm epoch operation =>
    have other : operation.phase = .delete → id ≠ operation.entry := by
      rintro phase rfl
      simp [endsDeletion, phase] at pending
    refine moves.keeps_deleting read deleting ?_ ?_
    · rintro sent found phase ⟨own, same, _⟩
      exact other (same ▸ phase) own
    · rintro current _ _ ⟨own, phase, _⟩
      exact other phase own
  | confirmAbsentDeletion =>
    refine moves.keeps_deleting read deleting (fun _ _ _ never => never) ?_
    rintro current _ _ ⟨own, _⟩
    simp [endsDeletion, own] at pending
  | promote =>
    simp only [endsDeletion, takenForProvisional, read, Option.any_some] at pending owned
    refine moves.keeps_claimed read deleting owned
      ⟨fun _ _ _ never => never, fun _ _ _ never => never, fun _ _ never => never, fun _ _ _ never => never,
        fun _ _ _ allowed => allowed⟩ ?_
    rintro current same free (provisional | ⟨⟨name, member, bound⟩, _⟩)
    · rw [free] at provisional
      cases provisional
    · rw [← same, bound] at pending
      simp [member] at pending
  | saveDeltaPage =>
    simp only [takenForProvisional, read, Option.any_some] at owned
    refine moves.keeps_claimed read deleting owned
      ⟨fun _ _ _ never => never, fun _ _ _ never => never, fun _ _ never => never, fun _ _ _ never => never,
        fun _ _ _ allowed => allowed⟩ ?_
    intro current _ free provisional
    exact Bool.false_ne_true (free.symm.trans provisional)
  | discardPendingDeletions job =>
    simp only [endsDeletion, read, Option.any_some, beq_eq_false_iff_ne] at pending
    refine moves.keeps_deleting read deleting (fun _ _ _ never => never) ?_
    rintro current _ own ⟨job, _⟩
    exact pending (own.symm.trans job)
  | deleteJob job =>
    simp only [endsDeletion, read, Option.any_some, beq_eq_false_iff_ne] at pending
    exact moves.keeps_deleting read deleting (fun _ _ _ never => never)
      (fun current _ own job => pending (own.symm.trans job))
  | applyChange job =>
    refine moves.keeps_deleting read deleting (fun _ _ _ never => never) ?_
    rintro current _ own ⟨job, removal⟩
    simp [endsDeletion, read, own.symm.trans job, removal] at pending
  | finishReset =>
    refine moves.keeps_deleting read deleting (fun _ _ _ never => never) (fun current _ _ matching => ?_)
    exact Bool.false_ne_true (pending.symm.trans matching)
  | resetAccountData => cases pending
  | _ => exact moves.keeps_deleting read deleting (fun _ _ _ never => never) (fun _ _ _ never => never)

-- A physical deletion that is pending stays pending through every run that brings none of the ways to end it, as long
-- as the receive path never finds the row without an identity on a provisional path.
theorem pending_deletion_is_absorbing (platform : Platform) (s : Store) (commands : List Command) (id : Nat)
    (met : Meets (Command.execute platform) (fun s command =>
      endsDeletion s id command = false ∧ takenForProvisional s id command = false) s commands)
    (row : Entry) (read : s.entries.get id = some row) (deleting : row.dirty = .delete) :
    ∃ after, (run (Command.execute platform) s commands).entries.get id = some after ∧ after.dirty = .delete :=
  run_keeps
    (fun s => ∃ row, s.entries.get id = some row ∧ row.dirty = .delete)
    (fun before command after ⟨row, read, deleting⟩ ⟨pending, owned⟩ done =>
      deletion_step read deleting pending owned done) ⟨row, read, deleting⟩ met

-- The upload of the file is in flight when the file is permanently removed;
-- its callback and a received record of the same path arrive afterwards.
def Sample.removedInFlight : List Command := Sample.opening ++ [.save Sample.epoch (Sample.operation .create ⟨1, 0, 1, 0⟩),
    .deleteLiveMediaByPaths [⟨"/p/a", false, 0, fun _ => Sample.stamp⟩]]

def Sample.received (path : String) : NativeRecord :=
  ⟨"photo", some assetRecordType, none, some "1", some [("relativePath", some ⟨some "STRING", some (.text path)⟩)], none, false⟩

def Sample.lateCallbacks : List Command :=
  [.confirm Sample.epoch (Sample.operation .create ⟨1, 0, 1, 0⟩) (some (Sample.answer false)) true,
    .saveDeltaPage 1 [Sample.received "a"] "token"]

open Sample in
theorem removed_in_flight_stays_pending :
    ∃ after, (run (Command.execute platform) .empty (removedInFlight ++ lateCallbacks)).entries.get 1
      = some after ∧ after.dirty = .delete := by
  have removed : ((run (Command.execute platform) .empty removedInFlight).entries.get 1).any
    (fun row => row.dirty == .delete) = true := by decide +kernel
  obtain ⟨row, read, deleting⟩ := (Option.any_eq_true _ _).mp removed
  rw [run_append]
  exact pending_deletion_is_absorbing platform _ lateCallbacks 1 (by decide +kernel) row read
    (beq_iff_eq.mp deleting)

-- A file below a folder with the name of the provisional path, removed before its first upload. A cloud record names
-- its path and is then renamed to the path of another new file.
def Sample.provisionalFolder : List Command := [.createJob Sample.job,
    .insertMediaItem ⟨"file:///p/.photoviewer-sync-pending/b", "/p/.photoviewer-sync-pending/b",
      "/p/.photoviewer-sync-pending", none, 0, 0⟩,
    .insertMediaItem Sample.item, .noteLocalChange 1 .content Sample.stamp, .noteLocalChange 2 .content Sample.stamp,
    .beginReceive 1 ⟨"tenant", "container", "environment", "database"⟩ "generation" "scope" "zone" "owner",
    .deleteLiveMediaByPaths [⟨"/p/.photoviewer-sync-pending/b", false, 0, fun _ => Sample.stamp⟩],
    .saveDeltaPage 1 [Sample.received ".photoviewer-sync-pending/b"] "first"]

open Sample in
theorem provisional_cleanup_drops_pending_deletion : ((run (Command.execute platform) .empty provisionalFolder).entries.get 1).any
        (fun row => row.dirty == .delete) = true ∧
      endsDeletion (run (Command.execute platform) .empty provisionalFolder) 1
        (.saveDeltaPage 1 [received "a"] "second") = false ∧
      (run (Command.execute platform) .empty
        (provisionalFolder ++ [.saveDeltaPage 1 [received "a"] "second"])).entries.get 1 = none := by
  decide +kernel

end PhotoSync
