import PhotoSync.Runs.Placed

set_option autoImplicit false

namespace PhotoSync
open Relational Transaction Store Table Entry

-- Everything that must be known before a local original stops being uploaded.
structure ProvenIdentical (s : Store) (job entry : Nat) (row : Entry) (photo : RemotePhoto) (digests : LocalDigests) : Prop where
  unissued : ∀ id task, s.tasks.get id = some task → task.entry = some entry → task.state ≠ .issued
  unpublished : ∀ id publication, s.publications.get id = some publication → publication.entry = some entry →
    publication.state ≠ .publishing
  kept : row.dirty ≠ .delete
  shown : photo.isHidden = false
  live : ∃ owner media item, s.jobs.get row.job = some owner ∧ s.media.get media = some item ∧
    item.path = underRoot owner.localRoot row.relativePath ∧ item.trashedAt = none ∧ item.storageLocation ≠ .cloudOnly
  measured : ∃ observation, digests.lookup photo.relativePath = some observation ∧
    observation.entryId = entry ∧ observation.localVersion = row.localVersion ∧
    ContentDigest.hexFromDescriptorBase64 photo.original.fileChecksum = some observation.digest.hex ∧
    observation.digest.size = photo.original.size
  revisions : (s.recordRevision job photo.photoId).isSome = true ∧ (s.recordRevision job photo.masterId).isSome = true

-- What binding leaves: the identity, the local metadata edit as it was, the
-- content acknowledged and nothing to publish.
structure BoundTo (t : Store) (entry : Nat) (before after : Entry) (photo : RemotePhoto) : Prop where
  read : t.entries.get entry = some after
  named : after.photoId = some photo.photoId
  master : after.masterId = some photo.masterId
  versions : after.metadataVersion = before.metadataVersion ∧ after.contentVersion = before.contentVersion ∧ after.events = before.events
  metadata : after.metadataPending = before.metadataPending
  content : after.contentPending = false
  quiet : ∀ id publication, t.publications.get id = some publication → publication.entry = some entry → publication.unfinished = false

def Entry.identity (row : Entry) : Option String × Option String × Option String × Option String :=
  (row.photoId, row.masterId, row.assetRevision, row.masterRevision)

variable {s t : Store} {media : Nat} {observation : LocalDigest} {assetRevision masterRevision : String}
variable {entry : Nat} {photo : RemotePhoto} {row : Entry}

theorem not_busy (idle : s.busy entry = false) :
    (∀ id task, s.tasks.get id = some task → task.entry = some entry → task.state ≠ .issued) ∧
    ∀ id publication, s.publications.get id = some publication → publication.entry = some entry → publication.state ≠ .publishing := by
  unfold busy issuedFor publishingFor at idle
  rw [Bool.or_eq_false_iff] at idle
  constructor
  · intro id task read own issued
    have quiet := any_eq_false.mp idle.1 id task read
    simp [own, issued] at quiet
  · intro id publication read own publishing
    have quiet := any_eq_false.mp idle.2 id publication read
    simp [own, publishing] at quiet

theorem recordRevision_eq (s : Store) (job : Nat) (name : String) : s.recordRevision job name =
    match s.fragments.first? (fun _ row => row.job == job && row.record.recordName == name) with
    | some (_, row) => row.record.recordChangeTag
    | none => ((s.entryOfPhoto job name).map (fun found => found.2.assetRevision)).getD
        ((s.entryOfMaster job name).map (fun found => found.2.masterRevision)).join := by
  unfold recordRevision
  cases s.fragments.first? (fun _ row => row.job == job && row.record.recordName == name) with
  | some => rfl
  | none => cases s.entryOfPhoto job name <;> cases s.entryOfMaster job name <;> rfl

theorem recordRevision_setDigest (s : Store) (entry job : Nat) (observation : LocalDigest) (name : String) :
    (s.setDigest entry observation).recordRevision job name = s.recordRevision job name := by
  have revised : ∀ (test : Nat → Entry → Bool) (column : Entry → Option String),
      (∀ id row, test id { row with digest := some observation } = test id row) →
      (∀ row, column { row with digest := some observation } = column row) →
      ((s.setDigest entry observation).entries.first? test).map (fun found => column found.2) =
        (s.entries.first? test).map (fun found => column found.2) := by
    intro test column tests columns
    have same : ∀ id row, test id (if id = entry then { row with digest := some observation } else row) = test id row := by
      intro id row
      split
      · exact tests id row
      · rfl
    rw [setDigest, updateEntry, Table.modify, Table.first?_update _ _ _ same, Option.map_map]
    congr 1
    funext found
    dsimp only [Function.comp]
    split
    · exact columns _
    · rfl
  have photos := revised (fun _ row => row.job == job && row.photoId == some name) assetRevision
    (fun _ _ => rfl) (fun _ => rfl)
  have masters := revised (fun _ row => row.job == job && row.masterId == some name) masterRevision
    (fun _ _ => rfl) (fun _ => rfl)
  rw [recordRevision_eq (s.setDigest entry observation), recordRevision_eq s]
  simp only [entryOfPhoto, entryOfMaster, photos, masters]
  rfl

theorem adoption_proven {job : Nat} {digests : LocalDigests} (read : s.entries.get entry = some row)
    (done : s.adoption job entry photo digests = .ok (t, .bound)) : ProvenIdentical s job entry row photo digests ∧
    ∃ media observation assetRevision masterRevision,
      (s.setDigest entry observation).bindIdentical job entry media photo observation assetRevision masterRevision =
        .ok (t, .bound) := by
  obtain ⟨row', again, rest⟩ := bind_ok.mp done
  rw [requireRow_ok, read] at again
  cases again
  split at rest
  · cases rest
  next idle =>
  split at rest
  · cases rest
  next visible =>
  split at rest
  · cases rest
  next media item found =>
  split at rest
  · cases rest
  next observation listed =>
  split at rest
  · cases rest
  next current =>
  split at rest
  · cases rest
  next identical =>
  dsimp only at rest
  split at rest
  · next assetRevision masterRevision asset master =>
    simp only [Bool.or_eq_true, beq_iff_eq, bne_iff_ne, not_or, Bool.not_eq_true, Decidable.not_not] at idle visible current identical
    obtain ⟨unissued, unpublished⟩ := not_busy idle
    refine ⟨⟨unissued, unpublished, visible.2, visible.1, ?_, ⟨observation, listed, current.1, current.2, identical.1.symm, identical.2⟩, ?_⟩,
      media, observation, assetRevision, masterRevision, rest⟩
    · unfold adoptable at found
      split at found
      · cases found
      · next owner own =>
        have ⟨present, test⟩ := first?_some found
        simp only [Bool.and_eq_true, beq_iff_eq, Option.isNone_iff_eq_none, bne_iff_ne] at test
        exact ⟨owner, media, item, own, present, test.1.1, test.1.2, test.2⟩
    · rw [← recordRevision_setDigest s entry job observation, ← recordRevision_setDigest s entry job observation, asset, master]
      exact ⟨rfl, rfl⟩
  · cases rest

theorem adopt_metadataPending (row : Entry) (media : Nat) (photo : RemotePhoto) (assetRevision masterRevision generation : String) :
    (row.adopt media photo assetRevision masterRevision generation).metadataPending = row.metadataPending := by
  cases pending : row.metadataPending with
  | true =>
    rw [metadataPending, adopt, pending]
    exact pending
  | false =>
    rw [metadataPending, adopt, pending]
    exact decide_eq_false (Nat.not_lt.mpr (Nat.le_max_right _ _))

theorem adopt_contentPending (row : Entry) (media : Nat) (photo : RemotePhoto) (assetRevision masterRevision generation : String) :
    (row.adopt media photo assetRevision masterRevision generation).contentPending = false :=
  decide_eq_false (Nat.not_lt.mpr (Nat.le_max_right _ _))

theorem adopt_bound {job : Nat} (read : s.entries.get entry = some row)
    (idle : ∀ id publication, s.publications.get id = some publication → publication.entry = some entry → publication.state ≠ .publishing)
    (done : (s.setDigest entry observation).bindIdentical job entry media photo observation assetRevision masterRevision = .ok (t, .bound)) :
    ∃ after, BoundTo t entry row after photo := by
  have digested : (s.setDigest entry observation).entries.get entry = some { row with digest := some observation } := by
    simp [setDigest, updateEntry, read]
  obtain ⟨_, generation, _, _, same⟩ := bindIdentical_eq done
  cases same
  refine ⟨{ adopt media photo assetRevision masterRevision generation { row with digest := some observation } with
    baseline := some photo, digest := some observation }, ?_, rfl, rfl, ⟨rfl, rfl, rfl⟩, ?_, ?_, ?_⟩
  · simp only [setDigest, setBaseline, updateEntry, get_modify_self, updateMedia] at digested ⊢
    rw [digested]
    rfl
  · exact adopt_metadataPending { row with digest := some observation } media photo assetRevision masterRevision generation
  · exact adopt_contentPending { row with digest := some observation } media photo assetRevision masterRevision generation
  · intro id publication present own
    rw [get_delete, Option.filter_eq_some_iff] at present
    simp only [own, beq_self_eq_true, Bool.true_and, Bool.not_eq_true', bne_eq_false_iff_eq] at present
    exact absurd present.2 (idle id publication present.1 own)

-- An original stops being uploaded without a decision of the user only on
-- proof, and whatever else adoption answers, no entry's identity has changed.
theorem adoption_binds_only_identical (s t : Store) (job entry : Nat) (photo : RemotePhoto) (digests : LocalDigests)
    (row : Entry) (outcome : Adoption) (read : s.entries.get entry = some row)
    (done : s.adoption job entry photo digests = .ok (t, outcome)) :
    (outcome = .bound → ProvenIdentical s job entry row photo digests ∧ ∃ after, BoundTo t entry row after photo) ∧
    (outcome ≠ .bound → ∀ id, (t.entries.get id).map Entry.identity = (s.entries.get id).map Entry.identity) := by
  constructor
  · rintro rfl
    obtain ⟨proven, media, observation, assetRevision, masterRevision, bound⟩ := adoption_proven read done
    exact ⟨proven, adopt_bound read proven.unpublished bound⟩
  · intro other id
    rcases adoption_ok read done with
      ⟨same, _, _⟩ | ⟨observation, same, _⟩ | ⟨_, _, _, _, _, _, _, _, bound⟩
    · cases same
      rfl
    · obtain rfl : t = s.setDigest entry observation := same
      simp only [setDigest, updateEntry, Table.get_modify]
      split
      · rw [Option.map_map]
        rfl
      · rfl
    · obtain ⟨_, _, _, _, same⟩ := bindIdentical_eq bound
      cases same
      exact absurd rfl other

namespace Sample

def arrivedAtFile : List Command :=
  [.createJob job, .insertMediaItem { item with uri := "file:///p/b", path := "/p/b" }, .noteLocalChange 1 .content stamp,
    .noteLocalChange 1 .metadata stamp,
    .beginReceive 1 ⟨"tenant", "container", "environment", "database"⟩ "generation" "scope" "zone" "owner",
    .saveDeltaPage 1 (versionRecords "A") "A"]

def measuredFile : LocalDigests := [("b", ⟨1, 2, digest⟩)]

end Sample

open Sample in
theorem same_bytes_are_adopted : ∃ t row after, adoption (run (Command.execute telling) .empty arrivedAtFile) 1 1 (version "A")
      measuredFile = .ok (t, .bound) ∧
    row.metadataPending = true ∧ BoundTo t 1 row after (version "A") := by
  obtain ⟨⟨t, outcome⟩, done, bound⟩ := ok_of_any (adoption (run (Command.execute telling) .empty
    arrivedAtFile) 1 1 (version "A") measuredFile) (fun after => after.2 == .bound) (by decide +kernel)
  have held : ((run (Command.execute telling) .empty arrivedAtFile).entries.get 1).any
    (fun row => row.photoId.isNone && row.metadataPending) = true := by decide +kernel
  obtain ⟨row, read, facts⟩ := (Option.any_eq_true _ _).mp held
  rw [Bool.and_eq_true, Option.isNone_iff_eq_none] at facts
  obtain ⟨_, after, settled⟩ := (adoption_binds_only_identical _ t 1 1 (version "A") measuredFile row outcome
    read done).1 (beq_iff_eq.mp bound)
  exact ⟨t, row, after, (beq_iff_eq.mp bound) ▸ done, facts.2, settled⟩

end PhotoSync
