import PhotoSync.Store.Lowers

set_option autoImplicit false

namespace PhotoSync
open Relational Transaction Store Table Entry

def Carries (carry : Entry → Entry → Prop) (s t : Store) : Prop :=
  ∀ id row, s.entries.get id = some row → ∃ later, t.entries.get id = some later ∧ carry row later

-- What receiving does to an entry: it keeps a photo it is bound to and is not marked for deletion.
structure Received (before after : Entry) : Prop where
  job : after.job = before.job
  bound : before.photoId.isSome = true → after.photoId = before.photoId
  delete : after.dirty = .delete → before.dirty = .delete

theorem Received.refl (row : Entry) : Received row row := ⟨rfl, fun _ => rfl, id⟩

theorem Received.trans (first second third : Entry) (before : Received first second) (after : Received second third) :
    Received first third where
  job := after.job.trans before.job
  bound := fun bound => by
    have kept := before.bound bound
    rw [after.bound (by rw [kept]; exact bound), kept]
  delete := fun deleting => before.delete (after.delete deleting)

namespace Carries

variable {carry weaker : Entry → Entry → Prop} {s t u : Store}

theorem of_entries (reflexive : ∀ row, carry row row) (same : t.entries = s.entries) : Carries carry s t := by
  intro id row read
  exact ⟨row, by rw [same]; exact read, reflexive row⟩

theorem trans (transitive : ∀ first second third, carry first second → carry second third → carry first third)
    (first : Carries carry s t) (second : Carries carry t u) : Carries carry s u := by
  intro id row read
  obtain ⟨middle, between, before⟩ := first id row read
  obtain ⟨last, present, after⟩ := second id middle between
  exact ⟨last, present, transitive _ _ _ before after⟩

theorem mono (weaken : ∀ before after, carry before after → weaker before after) (carried : Carries carry s t) : Carries weaker s t := by
  intro id row read
  obtain ⟨later, present, kept⟩ := carried id row read
  exact ⟨later, present, weaken _ _ kept⟩

theorem updateEntry (reflexive : ∀ row, carry row row) (entry : Nat) (change : Entry → Entry)
    (allowed : ∀ row, s.entries.get entry = some row → carry row (change row)) :
    Carries carry s (s.updateEntry entry change) := by
  intro id row read
  simp only [Store.updateEntry, get_modify]
  by_cases here : id = entry
  · subst here
    exact ⟨change row, by rw [if_pos rfl, read, Option.map_some], allowed row read⟩
  · exact ⟨row, by rw [if_neg here, read], reflexive row⟩

theorem insertEntry (reflexive : ∀ row, carry row row) (row : Entry) (done : s.insertEntry row = .ok t) : Carries carry s t := by
  obtain ⟨_, rfl⟩ := insertEntry_ok done
  intro id old read
  refine ⟨old, ?_, reflexive old⟩
  rw [get_insert, if_neg (Nat.ne_of_lt (lt_next read)), read]

theorem setEntryPhoto (reflexive : ∀ row, carry row row) (entry : Nat) (photo : String) (change : Entry → Entry)
    (allowed : ∀ row, s.entries.get entry = some row → carry row { change row with photoId := some photo })
    (done : s.setEntryPhoto entry photo change = .ok t) : Carries carry s t := by
  obtain rfl := setEntryPhoto_eq done
  exact updateEntry reflexive _ _ allowed

theorem deleteMedia (test : Nat → Media → Bool) (links : ∀ row media, carry row { row with media := media }) :
    Carries carry s (s.deleteMedia test) := by
  intro id row read
  refine ⟨_, ?_, links row (row.media.filter (fun id => ((s.media.delete test).get id).isSome))⟩
  simp only [Store.deleteMedia, get_update, read, Option.map_some]

end Carries

structure Receives (s t : Store) : Prop where
  lowers : Lowers s t
  carries : Carries Received s t

namespace Receives

variable {s t u : Store}

theorem of_entries (lowered : Lowers s t) (same : t.entries = s.entries) : Receives s t := ⟨lowered, .of_entries Received.refl same⟩

theorem refl : Receives s s := of_entries .refl rfl

theorem trans (first : Receives s t) (second : Receives t u) : Receives s u :=
  ⟨first.lowers.trans second.lowers, first.carries.trans Received.trans second.carries⟩

theorem elsewhere (entries : t.entries = s.entries) (publications : t.publications = s.publications)
    (resources : t.resources = s.resources) (progress : t.progress = s.progress) : Receives s t :=
  of_entries (Untouched.lowers ⟨publications, resources, progress⟩) entries

theorem updateEntry (entry : Nat) (change : Entry → Entry)
    (allowed : ∀ row, s.entries.get entry = some row → Received row (change row)) :
    Receives s (s.updateEntry entry change) :=
  ⟨Untouched.lowers ⟨rfl, rfl, rfl⟩, .updateEntry Received.refl entry change allowed⟩

theorem updateEntryMedia (entry : Nat) (change : Media → Media) : Receives s (s.updateEntryMedia entry change) :=
  of_entries (Untouched.updateEntryMedia entry change).lowers (s.updateEntryMedia_entries entry change)

theorem insertEntry (row : Entry) (done : s.insertEntry row = .ok t) : Receives s t :=
  ⟨(Untouched.insertEntry row done).lowers, .insertEntry Received.refl row done⟩

theorem setEntryPhoto (entry : Nat) (photo : String) (change : Entry → Entry)
    (allowed : ∀ row, s.entries.get entry = some row → Received row { change row with photoId := some photo })
    (done : s.setEntryPhoto entry photo change = .ok t) : Receives s t :=
  ⟨(Untouched.setEntryPhoto entry photo change done).lowers, .setEntryPhoto Received.refl entry photo change allowed done⟩

theorem setPending (entry : Nat) (master : Bool) (record : NativeRecord)
    (done : s.setPending entry master record = .ok t) : Receives s t := by
  obtain ⟨_, rfl⟩ := setPending_frame done
  exact .elsewhere rfl rfl rfl rfl

theorem writeConflict (job entry : Nat) (reason : String) (photo : Option RemotePhoto) :
    Receives s (s.writeConflict job entry reason photo) := by
  refine of_entries (Untouched.writeConflict job entry reason photo).lowers ?_
  unfold Store.writeConflict
  split <;> rfl

theorem supersedePending (entry : Nat) : Receives s (s.supersedePending entry) := of_entries (.supersedePending entry) rfl

end Receives

variable {job : Nat} {photo : RemotePhoto} {row : Entry}

section Projection

theorem projectedEntry_receives {s t : Store} {entry : Nat} (done : s.projectedEntry job photo = .ok (t, entry)) : Receives s t := by
  obtain ⟨rfl, _⟩ | ⟨_, inserted, fragments, stored, rfl⟩ := projectedEntry_cases done
  · exact .refl
  · exact (Receives.insertEntry _ stored).trans (.elsewhere rfl rfl rfl rfl)

theorem setBaseline_receives (s : Store) (entry : Nat) (photo : Option RemotePhoto) : Receives s (s.setBaseline entry photo) :=
  .updateEntry entry _ (fun _ _ => ⟨rfl, fun _ => rfl, id⟩)

theorem setDigest_receives (s : Store) (entry : Nat) (observation : LocalDigest) : Receives s (s.setDigest entry observation) :=
  .updateEntry entry _ (fun _ _ => ⟨rfl, fun _ => rfl, id⟩)

theorem bindIdentical_receives (s : Store) (job entry media : Nat) (photo : RemotePhoto) (observation : LocalDigest)
    (assetRevision masterRevision : String) (after : Store × Adoption) (row : Entry)
    (read : s.entries.get entry = some row) (unbound : row.photoId = none)
    (done : s.bindIdentical job entry media photo observation assetRevision masterRevision = .ok after) :
    Receives s after.1 := by
  refine ⟨bindIdentical_lowers _ done, ?_⟩
  obtain ⟨_, generation, _, _, rfl⟩ := bindIdentical_eq done
  have bound := Carries.updateEntry Received.refl entry (adopt media photo assetRevision masterRevision generation)
    (fun found again => by
      cases read.symm.trans again
      refine ⟨rfl, by simp [unbound], fun deleting => ?_⟩
      simp only [adopt] at deleting
      split at deleting <;> cases deleting)
  have settled := (setBaseline_receives (s.updateEntry entry (adopt media photo assetRevision masterRevision generation))
    entry (some photo)).trans (setDigest_receives _ entry observation)
  exact bound.trans Received.trans settled.carries

theorem missingLocal_receives {s : Store} {entry : Nat} {digests : LocalDigests} (after : Store × Option Bool)
    (read : s.entries.get entry = some row) (done : s.missingLocal job entry row photo digests = .ok after) :
    Receives s after.1 := by
  obtain ⟨same, _⟩ | ⟨observation, same, _⟩ | ⟨unbound, _, observation, _, _, _, _, _, _, bound⟩ := missingLocal_cases read done
  · rw [same]
    exact .refl
  · rw [same]
    exact setDigest_receives s entry observation
  · refine (setDigest_receives s entry observation).trans
      (bindIdentical_receives _ _ _ _ _ _ _ _ _ { row with digest := some observation } ?_ unbound bound)
    simp [setDigest, updateEntry, read]

theorem settle_received (s : Store) (job : Nat) {missing : Bool} (clear : conflictReason row photo missing = none) :
    Received row { settle (s.settlement job row photo missing) row with photoId := some photo.photoId } := by
  refine ⟨rfl, fun bound => ?_, fun deleting => ?_⟩
  · unfold conflictReason at clear
    split at clear
    · cases clear
    · split at clear
      · cases clear
      · split at clear
        · cases clear
        · next own =>
          obtain ⟨found, named⟩ := Option.isSome_iff_exists.mp bound
          simp only [named, Option.any_some, bne_iff_ne, not_not] at own
          rw [named, own]
  · by_contra kept
    have spared : (row.dirty == .delete) = false := beq_eq_false_iff_ne.mpr kept
    simp only [settle, Entry.Settlement.dirty, settlement, spared, Bool.false_eq_true, if_false] at deleting
    split at deleting <;> cases deleting

theorem settleInPlace_receives (s : Store) (job entry : Nat) (decision : Entry.Settlement) :
    Receives s (s.settleInPlace job entry decision) := by
  obtain ⟨_, generation, same⟩ := settleInPlace_eq s job entry decision
  rw [same]
  have confirmed : Receives s (s.updateEntry entry (fun row => { row with
      contentGeneration := some decision.photo.contentGeneration
      confirmedGeneration := generation })) :=
    .updateEntry entry _ (fun _ _ => ⟨rfl, fun _ => rfl, id⟩)
  exact ((confirmed.trans (setBaseline_receives _ entry _)).trans (.supersedePending entry)).trans
    (.elsewhere rfl rfl rfl rfl)

end Projection
end PhotoSync
