import PhotoSync.Store.Command

set_option autoImplicit false

namespace PhotoSync
open Relational Transaction Store

theorem Untouched.writeConflict {s : Store} (job entry : Nat) (reason : String) (photo : Option RemotePhoto) :
    Untouched s (s.writeConflict job entry reason photo) := by
  unfold Store.writeConflict
  split <;> exact ⟨rfl, rfl, rfl⟩

def Publication.unfinished (row : Publication) : Bool := row.state == .pending || row.state == .publishing

-- An intent that was not raised: its links and its capture stand, and it is unfinished only if it was.
structure Lowered (before after : Publication) : Prop where
  publicationId : after.publicationId = before.publicationId
  job : after.job = before.job
  photoId : after.photoId = before.photoId
  originalAssetId : after.originalAssetId = before.originalAssetId
  thumbnailAssetId : after.thumbnailAssetId = before.thumbnailAssetId
  capture : after.capture = before.capture
  entry : after.entry = before.entry
  unfinished : after.unfinished = true → before.unfinished = true
  publishing : after.state = .publishing → before.state = .publishing

theorem Lowered.refl (row : Publication) : Lowered row row := ⟨rfl, rfl, rfl, rfl, rfl, rfl, rfl, id, id⟩

theorem Lowered.trans {first second third : Publication} (before : Lowered first second)
    (after : Lowered second third) : Lowered first third where
  publicationId := after.publicationId.trans before.publicationId
  job := after.job.trans before.job
  photoId := after.photoId.trans before.photoId
  originalAssetId := after.originalAssetId.trans before.originalAssetId
  thumbnailAssetId := after.thumbnailAssetId.trans before.thumbnailAssetId
  capture := after.capture.trans before.capture
  entry := after.entry.trans before.entry
  unfinished := fun still => before.unfinished (after.unfinished still)
  publishing := fun still => before.publishing (after.publishing still)

structure Lowers (s t : Store) : Prop where
  publications : ∀ id row, t.publications.get id = some row → ∃ old, s.publications.get id = some old ∧ Lowered old row
  resources : t.resources = s.resources
  progress : t.progress = s.progress

theorem Untouched.lowers {s t : Store} (same : Untouched s t) : Lowers s t := by
  refine ⟨fun id row read => ⟨row, ?_, .refl row⟩, same.resources, same.progress⟩
  rw [← same.publications]
  exact read

namespace Lowers

variable {s t u : Store}

theorem refl : Lowers s s := Untouched.refl.lowers

theorem trans (first : Lowers s t) (second : Lowers t u) : Lowers s u := by
  refine ⟨fun id row read => ?_, second.resources.trans first.resources, second.progress.trans first.progress⟩
  obtain ⟨middle, between, after⟩ := second.publications id row read
  obtain ⟨old, present, before⟩ := first.publications id middle between
  exact ⟨old, present, before.trans after⟩

theorem update (change : Nat → Publication → Publication) (lowered : ∀ id row, Lowered row (change id row)) :
    Lowers s { s with publications := s.publications.update change } := by
  refine ⟨fun id row read => ?_, rfl, rfl⟩
  rw [Table.get_update, Option.map_eq_some_iff] at read
  obtain ⟨old, present, rfl⟩ := read
  exact ⟨old, present, lowered id old⟩

theorem delete (test : Nat → Publication → Bool) : Lowers s { s with publications := s.publications.delete test } := by
  refine ⟨fun id row read => ⟨row, ?_, .refl row⟩, rfl, rfl⟩
  rw [Table.get_delete] at read
  exact (Option.filter_eq_some_iff.mp read).1

theorem superseded (row : Publication) (test : Bool) :
    Lowered row (if test && row.state == .pending then { row with state := .superseded } else row) := by
  split
  · exact ⟨rfl, rfl, rfl, rfl, rfl, rfl, rfl, nofun, nofun⟩
  · exact .refl row

theorem supersedePending (entry : Nat) : Lowers s (s.supersedePending entry) :=
  update _ (fun _ row => superseded row (row.entry == some entry))

theorem updatePublication (id : String) (change : Publication → Publication) (lowered : ∀ row, Lowered row (change row)) :
    Lowers s (s.updatePublication id change) := by
  have changed : ∀ row, Lowered row (if row.publicationId == id then change row else row) := by
    intro row
    split
    · exact lowered row
    · exact .refl row
  exact update _ (fun _ row => changed row)

end Lowers

variable {job entry : Nat} {photo : RemotePhoto}

section Projection

theorem projectedEntry_untouched {s t : Store} {entry : Nat} (done : s.projectedEntry job photo = .ok (t, entry)) : Untouched s t := by
  obtain ⟨rfl, _⟩ | ⟨_, inserted, fragments, stored, rfl⟩ := projectedEntry_cases done
  · exact .refl
  · exact (Untouched.insertEntry _ stored).trans ⟨rfl, rfl, rfl⟩

theorem repairAvailability_untouched (s : Store) (entry : Nat) (photo : RemotePhoto) :
    Untouched s (s.repairAvailability entry photo) := by
  obtain ⟨_, same, _⟩ := repairAvailability_eq s entry photo
  rw [same]
  exact ⟨rfl, rfl, rfl⟩

theorem bindIdentical_lowers {s : Store} {media : Nat} {observation : LocalDigest} {assetRevision masterRevision : String}
    (after : Store × Adoption)
    (done : s.bindIdentical job entry media photo observation assetRevision masterRevision = .ok after) :
    Lowers s after.1 := by
  obtain ⟨_, _, _, _, rfl⟩ := bindIdentical_eq done
  exact ⟨(Lowers.delete _).publications, rfl, rfl⟩

theorem missingLocal_lowers {s : Store} {row : Entry} {digests : LocalDigests} (after : Store × Option Bool)
    (read : s.entries.get entry = some row) (done : s.missingLocal job entry row photo digests = .ok after) :
    Lowers s after.1 ∧ (after.2.isSome → Untouched s after.1) := by
  have digested : ∀ observation, Untouched s (s.setDigest entry observation) := fun _ => ⟨rfl, rfl, rfl⟩
  obtain ⟨same, _⟩ | ⟨observation, same, _⟩ | ⟨_, none, observation, _, _, _, _, _, _, bound⟩ := missingLocal_cases read done
  · rw [same]
    exact ⟨.refl, fun _ => .refl⟩
  · rw [same]
    exact ⟨(digested observation).lowers, fun _ => digested observation⟩
  · rw [none]
    exact ⟨(digested observation).lowers.trans (bindIdentical_lowers _ bound), nofun⟩

end Projection
end PhotoSync
