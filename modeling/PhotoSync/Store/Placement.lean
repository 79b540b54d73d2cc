import PhotoSync.Store.Carries

set_option autoImplicit false

namespace PhotoSync
open Relational Transaction Store

namespace Store

structure Placement where
  entry : Nat
  row : Entry
  missing : Bool

def Placement.decision (s : Store) (job : Nat) (photo : RemotePhoto) (placement : Placement) : Entry.Settlement :=
  s.settlement job placement.row photo placement.missing

def needsPlacement (s : Store) (job : Nat) (photo : RemotePhoto) (placement : Placement) : Bool :=
  let decision := placement.decision s job photo
  placement.missing || (!decision.keepContent && (!placement.row.baseline.any photo.sameContent ||
    (!decision.preserveMetadata && placement.row.relativePath != photo.relativePath)))

def resolvesToPlacement (s : Store) (job entry : Nat) (photo : RemotePhoto) (missing : Bool) : Option (Store × Placement) :=
  match s.entries.get entry with
  | none => none
  | some row =>
    if (conflictReason row photo missing).isNone && s.needsPlacement job photo ⟨entry, row, missing⟩
    then some (s, ⟨entry, row, missing⟩) else none

-- The store and the finding with which project_publication reaches its needs_placement branch, if it does.
def reachesPlacement (s : Store) (job : Nat) (photo : RemotePhoto) (digests : LocalDigests) : Option (Store × Placement) :=
  match s.projectedEntry job photo with
  | .error _ => none
  | .ok (t, entry) =>
    match (t.repairAvailability entry photo).entries.get entry with
    | none => none
    | some row =>
      if row.baseline == some photo && (row.relativePath == photo.relativePath || row.metadataPending) then none
      else
        match (t.repairAvailability entry photo).missingLocal job entry row photo digests with
        | .ok (u, some missing) => u.resolvesToPlacement job entry photo missing
        | _ => none

def place (platform : Platform) (s : Store) (job : Nat) (photo : RemotePhoto) (placement : Placement) : Result Store := do
  let decision := placement.decision s job photo
  let s ← s.setEntryPhoto placement.entry photo.photoId (Entry.settle decision)
  let s := s.resolveConflicts placement.entry (fun reason => reason == intersectsReason || reason == differsReason)
  schedulePlacement platform s job placement.entry placement.row.localVersion decision

end Store

-- What holds at the branch: nothing was raised on the way, and the entry is
-- one of the job that may be settled and is not being deleted.
structure Reached (s mid : Store) (job : Nat) (photo : RemotePhoto) (placement : Store.Placement) : Prop where
  receives : Receives s mid
  untouched : Untouched s mid
  read : mid.entries.get placement.entry = some placement.row
  own : placement.row.job = job
  clear : conflictReason placement.row photo placement.missing = none
  needed : mid.needsPlacement job photo placement = true
  kept : placement.row.dirty ≠ .delete

variable {s : Store} {job : Nat} {photo : RemotePhoto} {platform : Platform}

theorem needsPlacement_kept {placement : Store.Placement} (present : placement.missing = true → placement.row.dirty ≠ .delete)
    (needed : s.needsPlacement job photo placement = true) : placement.row.dirty ≠ .delete := by
  intro deleting
  cases missing : placement.missing with
  | true => exact present missing deleting
  | false =>
    simp [needsPlacement, Store.Placement.decision, settlement, missing, deleting] at needed

theorem resolveProjection_outcome {entry : Nat} {missing : Bool} (after : Store × ProjectedContent)
    (own : ∀ row, s.entries.get entry = some row → row.job = job)
    (present : ∀ row, s.entries.get entry = some row → missing = true → row.dirty ≠ .delete)
    (done : resolveProjection platform s job entry photo missing = .ok after) :
    match s.resolvesToPlacement job entry photo missing with
    | none => Receives s after.1
    | some (mid, placement) => mid = s ∧ Reached s s job photo placement ∧ place platform s job photo placement = .ok after.1 := by
  obtain ⟨row, read, rest⟩ := bind_ok.mp done
  rw [requireRow_ok] at read
  unfold resolvesToPlacement
  rw [read]
  split at rest
  · next reason found =>
    cases rest
    simp only [found, Option.isNone_some, Bool.false_and, Bool.false_eq_true, if_false]
    exact .writeConflict _ _ _ _
  · next clear =>
    obtain ⟨settled, stored, rest⟩ := bind_ok.mp rest
    dsimp only at rest
    split at rest
    · next holds =>
      have needed : s.needsPlacement job photo ⟨entry, row, missing⟩ = true := holds
      obtain ⟨placed, scheduled, rest⟩ := bind_ok.mp rest
      cases rest
      simp only [clear, Option.isNone_none, needed, Bool.and_self, if_true, true_and]
      refine ⟨⟨.refl, .refl, read, own row read, clear, needed, ?_⟩, bind_ok.mpr ⟨settled, stored, scheduled⟩⟩
      exact needsPlacement_kept (present row read) needed
    · next fails =>
      have spared : ¬ s.needsPlacement job photo ⟨entry, row, missing⟩ = true := fails
      cases rest
      simp only [clear, Option.isNone_none, spared, Bool.and_false, Bool.false_eq_true, if_false]
      have bound : Receives s settled := by
        refine .setEntryPhoto entry _ _ (fun found again => ?_) stored
        rw [read] at again
        cases again
        exact settle_received s job clear
      refine .trans ?_ (settleInPlace_receives _ job entry _)
      exact bound.trans (.elsewhere rfl rfl rfl rfl)

theorem projectPublication_outcome {digests : LocalDigests} {after : Store × ProjectedContent}
    (done : projectPublication platform s job photo digests = .ok after) : match s.reachesPlacement job photo digests with
    | none => Receives s after.1
    | some (mid, placement) => Reached s mid job photo placement ∧ place platform mid job photo placement = .ok after.1 := by
  obtain ⟨⟨t, entry⟩, located, row, read, rest⟩ := bind2_ok done
  rw [requireRow_ok] at read
  have own : row.job = job := by
    refine (projectedEntry_row located ?_).1
    rw [repairAvailability_entries] at read
    exact read
  have first : Receives s (t.repairAvailability entry photo) := (projectedEntry_receives located).trans
    (.of_entries (repairAvailability_untouched t entry photo).lowers (repairAvailability_entries t entry photo))
  have same : Untouched s (t.repairAvailability entry photo) :=
    (projectedEntry_untouched located).trans (repairAvailability_untouched t entry photo)
  unfold reachesPlacement
  rw [located]
  dsimp only
  rw [read]
  dsimp only
  split at rest
  · next settled =>
    rw [if_pos settled]
    split at rest <;> cases rest
    · exact first.trans (.supersedePending entry)
    · exact first
  · next unsettled =>
    rw [if_neg unsettled]
    obtain ⟨⟨u, missing⟩, looked, rest⟩ := bind_ok.mp rest
    have received : Receives (t.repairAvailability entry photo) u := missingLocal_receives _ read looked
    have lowered := missingLocal_lowers _ read looked
    rw [looked]
    cases missing with
    | none =>
      cases rest
      exact first.trans received
    | some =>
      obtain ⟨shape, present⟩ := missingLocal_ok read looked
      have found : ∀ later, u.entries.get entry = some later → later.job = job ∧ later.dirty = row.dirty := by
        intro later again
        rcases shape with rfl | ⟨observation, rfl⟩
        · rw [read] at again
          cases again
          exact ⟨own, rfl⟩
        · simp only [setDigest, updateEntry, Table.get_modify_self, read, Option.map_some, Option.some.injEq] at again
          rw [← again]
          exact ⟨own, rfl⟩
      have outcome := resolveProjection_outcome after
        (fun later again => (found later again).1)
        (fun later again here => by rw [(found later again).2]; exact present here) rest
      dsimp only at outcome ⊢
      split
      · next absent =>
        rw [absent] at outcome
        exact first.trans (received.trans outcome)
      · next located =>
        rw [located] at outcome
        obtain ⟨rfl, reached, placed⟩ := outcome
        exact ⟨⟨first.trans received, same.trans (lowered.2 rfl), reached.read, reached.own, reached.clear,
          reached.needed, reached.kept⟩, placed⟩

end PhotoSync
