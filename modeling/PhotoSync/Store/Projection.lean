import PhotoSync.Store.Moves

set_option autoImplicit false

namespace PhotoSync
open Relational Transaction Store Table

inductive ProjectedContent where
  | remote
  | kept
deriving DecidableEq, Repr

inductive Adoption where
  | bound
  | deferred
  | missingLocal
  | divergent
deriving DecidableEq, Repr

abbrev LocalDigests := List (String × LocalDigest)

-- A real event beats a missing one; without any the pending edit stands.
def localEventWins (mine remote : Option EditEvent) : Bool := (mine.isNone && remote.isNone) || latestEvent mine remote == mine

def RemotePhoto.favorite (photo : RemotePhoto) : Int := if photo.isFavorite then 1 else 0

def RemotePhoto.takenAt (photo : RemotePhoto) : Option Int := photo.assetDateMs.map (fun ms => ms / 1000)

def RemotePhoto.sameMetadata (photo old : RemotePhoto) : Bool :=
  old.isFavorite == photo.isFavorite && old.assetDateMs == photo.assetDateMs &&
    old.relativePath == photo.relativePath && old.events.metadata == photo.events.metadata

def RemotePhoto.sameContent (photo old : RemotePhoto) : Bool :=
  old.contentGeneration == photo.contentGeneration && old.original == photo.original &&
    old.thumbnail == photo.thumbnail && old.events.content == photo.events.content

def hiddenReason : String := "remote hidden photo has no supported local representation"
def differsReason : String := "cloud content at this path differs from the local file"
def ownedReason : String := "another local/cloud identity owns this path"
def intersectsReason : String := "remote change intersects an unconfirmed local edit; preserve both versions"
def deletedReason : String := "remote photo was deleted while local changes remain"

def conflictReason (row : Entry) (photo : RemotePhoto) (missing : Bool) : Option String :=
  if photo.isHidden then some hiddenReason
  else if row.photoId.isNone && !missing then some differsReason
  else if row.photoId.any (fun id => id != photo.photoId) then some ownedReason
  else none

namespace Store

-- Collision preservation moved the local occupant, not the received pair: the
-- temporary fragments of another row go to the created one.
def moveFragments (s : Store) (job created : Nat) (photo : String) : Result Store :=
  match s.fragments.first? (fun _ row => row.job == job && row.photoId == some photo && row.entry != created) with
  | none => .ok s
  | some (_, found) => do
    let s ← [true, false].foldlM (fun s master =>
      match s.pendingFragment found.entry master with
      | some fragment => s.setPending created master fragment.record
      | none => .ok s) s
    return s.clearPending found.entry

def projectedEntry (s : Store) (job : Nat) (photo : RemotePhoto) : Result (Store × Nat) :=
  match (s.entryOfPhoto job photo.photoId).or (s.entryAtPath job photo.relativePath) with
  | some (entry, _) => .ok (s, entry)
  | none => do
    let created := s.entries.next
    let s ← s.insertEntry { Entry.inserted job photo.relativePath with
      photoId := some photo.photoId, masterId := some photo.masterId }
    let s ← s.moveFragments job created photo.photoId
    return (s, created)

-- A retained confirmation proves the association of a row at the local-only default.
def repairAvailability (s : Store) (entry : Nat) (photo : RemotePhoto) : Store :=
  match s.entries.get entry with
  | none => s
  | some row =>
    if row.photoId == some photo.photoId && !row.retired && row.confirmedGeneration.isSome
        && row.confirmedGeneration == s.generationOf row.job
        && (s.jobs.get row.job).any s.connectionEnabled then
      s.updateEntryMedia entry (fun media =>
        if media.storageLocation = .localOnly then { media with storageLocation := .both } else media)
    else s

def adoptable (s : Store) (row : Entry) : Option (Nat × Media) :=
  match s.jobs.get row.job with
  | none => none
  | some job => s.media.first? (fun _ media => media.path == underRoot job.localRoot row.relativePath
    && media.trashedAt.isNone && media.storageLocation != .cloudOnly)

def setDigest (s : Store) (entry : Nat) (observation : LocalDigest) : Store :=
  s.updateEntry entry (fun row => { row with digest := some observation })

def bindIdentical (s : Store) (job entry media : Nat) (photo : RemotePhoto) (observation : LocalDigest)
    (assetRevision masterRevision : String) : Result (Store × Adoption) := do
  let row ← requireRow (s.entries.get entry)
  let generation ← requireRow (s.generationOf job)
  let s := if row.metadataPending then s
    else s.updateMedia media (fun item => { item with isFavorite := photo.favorite, takenAt := photo.takenAt })
  let s := s.updateMedia media (fun item => { item with storageLocation := .both })
  let s ← s.setEntryPhoto entry photo.photoId (Entry.adopt media photo assetRevision masterRevision generation)
  let s := (s.setBaseline entry (some photo)).setDigest entry observation
  let s := s.resolveConflicts entry (fun reason => reason == ownedReason || reason == differsReason)
  return ({ s with publications := s.publications.delete (fun _ row =>
    row.entry == some entry && row.state != .publishing) }, .bound)

-- Bind a never-published local file to the cloud photo that already holds it.
def adoption (s : Store) (job entry : Nat) (photo : RemotePhoto) (digests : LocalDigests) : Result (Store × Adoption) := do
  let row ← requireRow (s.entries.get entry)
  if s.busy entry then return (s, .deferred)
  if photo.isHidden || row.dirty == .delete then return (s, .divergent)
  match s.adoptable row with
  | none => return (s, .missingLocal)
  | some (media, _) =>
    match digests.lookup photo.relativePath with
    | none => return (s, .divergent)
    | some observation =>
      if observation.entryId != entry || observation.localVersion != row.localVersion then return (s, .deferred)
      let s := s.setDigest entry observation
      if some observation.digest.hex != ContentDigest.hexFromDescriptorBase64 photo.original.fileChecksum
          || observation.digest.size != photo.original.size then return (s, .divergent)
      match s.recordRevision job photo.photoId, s.recordRevision job photo.masterId with
      | some assetRevision, some masterRevision =>
        s.bindIdentical job entry media photo observation assetRevision masterRevision
      | _, _ => return (s, .deferred)

-- Whether the entry has no local bytes; `none` when adoption ended the matter.
def missingLocal (s : Store) (job entry : Nat) (row : Entry) (photo : RemotePhoto) (digests : LocalDigests) :
    Result (Store × Option Bool) :=
  if (s.linkedMedia row).any (fun media => media.storageLocation == .cloudOnly) && !s.busy entry
    && row.dirty != .delete then .ok (s, some true)
  else if row.photoId.isNone then do
    let (s, outcome) ← s.adoption job entry photo digests
    match outcome with
    | .bound => return (s, none)
    | .deferred => return (s, none)
    | .missingLocal => return (s, some true)
    | .divergent => return (s, some false)
  else .ok (s, some false)

def settlement (s : Store) (job : Nat) (row : Entry) (photo : RemotePhoto) (missing : Bool) : Entry.Settlement where
  photo := photo
  assetRevision := s.recordRevision job photo.photoId
  masterRevision := s.recordRevision job photo.masterId
  preserveMetadata := !missing && row.metadataPending &&
    (row.baseline.any photo.sameMetadata || localEventWins row.events.metadata photo.events.metadata)
  keepContent := !missing && (row.dirty == .delete || ((row.contentPending || row.dirty == .new) &&
    (row.baseline.any photo.sameContent || localEventWins row.events.content photo.events.content)))
  keepDelete := row.dirty == .delete

def settleInPlace (s : Store) (job entry : Nat) (decision : Entry.Settlement) : Store :=
  let photo := decision.photo
  let s := if decision.preserveMetadata then s
    else s.updateEntryMedia entry (fun item => { item with isFavorite := photo.favorite, takenAt := photo.takenAt })
  let generation := s.generationOf job
  let s := s.updateEntry entry (fun row =>
    { row with contentGeneration := some photo.contentGeneration, confirmedGeneration := generation })
  (s.setBaseline entry (some photo)).supersedePending entry

def publicationName (platform : Platform) (job : Nat) (photo : RemotePhoto) : String :=
  "publication-" ++ toString job ++ "-" ++ photo.photoId ++ "-" ++ platform.photoSha256 photo

-- A capture of a publication that is under way or done is not replaced.
def setCapture (row : Publication) (capture : Capture) : Publication :=
  if row.capture.isSome && row.state != .pending && row.state != .superseded then row
  else { row with capture := some capture }

def schedulePlacement (platform : Platform) (s : Store) (job entry : Nat) (localVersion : Nat)
    (decision : Entry.Settlement) : Result Store := do
  let photo := decision.photo
  let config ← requireRow (s.jobs.get job)
  let id := publicationName platform job photo
  let row ← requireRow (s.entries.get entry)
  let desired := s.linkedMedia row
  let capture : Capture := {
    job := job, entry := entry, localVersion := localVersion, config := config.configGeneration
    dirty := decision.dirty, photo := none, contentGeneration := some photo.contentGeneration
    preserveMetadata := decision.preserveMetadata, localRelativePath := some row.relativePath
    favorite := desired.map Media.isFavorite, takenAt := desired.bind Media.takenAt, projection := some photo }
  let others := s.publications.update (fun _ other =>
    if other.job == job && other.photoId == some photo.photoId && other.publicationId != id && other.state == .pending
    then { other with state := .superseded } else other)
  let publications := match others.first? (fun _ other => other.publicationId == id) with
    | some (found, _) => others.modify found (fun other =>
      setCapture { other with state := if other.state = .superseded then .pending else other.state } capture)
    | none => others.insert {
      publicationId := id, job := job, entry := some entry, photoId := some photo.photoId
      masterId := some photo.masterId, originalAssetId := some photo.original.assetId
      thumbnailAssetId := some photo.thumbnail.assetId, state := .pending, capture := some capture, details := none }
  let generation := s.generationOf job
  -- Verification against the library leaves no staged bytes to place.
  let resources := s.resources.update (fun _ resource =>
    if resource.job == job && some resource.generation == generation && resource.stagingPath.isNone
        && ((resource.assetId == photo.original.assetId && resource.role == .original)
          || (resource.assetId == photo.thumbnail.assetId && resource.role == .thumbnail))
    then { resource with state := .pending, verifiedCache := none } else resource)
  return { s with publications := publications, resources := resources }

def resolveProjection (platform : Platform) (s : Store) (job entry : Nat) (photo : RemotePhoto) (missing : Bool) :
    Result (Store × ProjectedContent) := do
  let row ← requireRow (s.entries.get entry)
  match conflictReason row photo missing with
  | some reason => return (s.writeConflict job entry reason (some photo), .remote)
  | none =>
    let decision := s.settlement job row photo missing
    let sameContent := row.baseline.any photo.sameContent
    let s ← s.setEntryPhoto entry photo.photoId (Entry.settle decision)
    let s := s.resolveConflicts entry (fun reason => reason == intersectsReason || reason == differsReason)
    let needsPlacement := missing || (!decision.keepContent &&
      (!sameContent || (!decision.preserveMetadata && row.relativePath != photo.relativePath)))
    if needsPlacement then do
      let s ← schedulePlacement platform s job entry row.localVersion decision
      return (s, .remote)
    else return (s.settleInPlace job entry decision, if decision.keepContent then .kept else .remote)

def projectPublication (platform : Platform) (s : Store) (job : Nat) (photo : RemotePhoto) (digests : LocalDigests) :
    Result (Store × ProjectedContent) := do
  let (s, entry) ← s.projectedEntry job photo
  let s := s.repairAvailability entry photo
  let row ← requireRow (s.entries.get entry)
  if row.baseline == some photo && (row.relativePath == photo.relativePath || row.metadataPending) then
    if row.contentPending || row.dirty == .delete then return (s.supersedePending entry, .kept)
    else return (s, .remote)
  else do
    let (s, missing) ← s.missingLocal job entry row photo digests
    match missing with
    | none => return (s, .remote)
    | some missing => resolveProjection platform s job entry photo missing

end Store

variable {s t : Store} {media : Nat} {observation : LocalDigest} {assetRevision masterRevision : String}
variable {job entry : Nat} {photo : RemotePhoto} {row : Entry} {digests : LocalDigests} {missing : Bool}
  {platform : Platform} {item : Media} {decision : Entry.Settlement}

theorem setPending_frame {master : Bool} {record : NativeRecord} (done : s.setPending entry master record = .ok t) :
    ∃ fragments, t = { s with fragments := fragments } := by
  obtain ⟨_, _, rest⟩ := bind_ok.mp done
  dsimp only at rest
  split at rest <;> cases rest <;> exact ⟨_, rfl⟩

theorem moveFragments_frame {created : Nat} {photo : String} (done : s.moveFragments job created photo = .ok t) :
    ∃ fragments, t = { s with fragments := fragments } := by
  unfold moveFragments at done
  split at done
  · cases done
    exact ⟨_, rfl⟩
  · obtain ⟨moved, copied, rest⟩ := bind_ok.mp done
    cases rest
    obtain ⟨fragments, rfl⟩ : ∃ fragments, moved = { s with fragments := fragments } := by
      refine loop_keeps (fun u : Store => ∃ fragments, u = { s with fragments := fragments })
        (fun master _ before after sofar stepped => ?_) ⟨_, rfl⟩ copied
      obtain ⟨_, rfl⟩ := sofar
      split at stepped
      · obtain ⟨_, rfl⟩ := setPending_frame stepped
        exact ⟨_, rfl⟩
      · cases stepped
        exact ⟨_, rfl⟩
    exact ⟨_, rfl⟩

-- A photo is projected on an entry that names it or lies at its path, else on
-- a new one that takes over the fragments waiting for it.
theorem projectedEntry_cases (done : s.projectedEntry job photo = .ok (t, entry)) :
    (t = s ∧ ∃ row, s.entries.get entry = some row ∧ row.job = job ∧
        (row.photoId = some photo.photoId ∨ row.relativePath = photo.relativePath)) ∨
      entry = s.entries.next ∧ ∃ inserted fragments, s.insertEntry { Entry.inserted job photo.relativePath with
        photoId := some photo.photoId, masterId := some photo.masterId } = .ok inserted ∧
        t = { inserted with fragments := fragments } := by
  unfold projectedEntry at done
  split at done
  · next id row located =>
    cases done
    rcases Option.or_eq_some_iff.mp located with known | ⟨_, there⟩
    · obtain ⟨present, named⟩ := first?_some known
      simp only [Bool.and_eq_true, beq_iff_eq] at named
      exact .inl ⟨rfl, row, present, named.1, .inl named.2⟩
    · obtain ⟨present, named⟩ := first?_some there
      simp only [Bool.and_eq_true, beq_iff_eq] at named
      exact .inl ⟨rfl, row, present, named.1, .inr named.2⟩
  · obtain ⟨inserted, stored, moved, copied, rest⟩ := bind2_ok done
    cases rest
    obtain ⟨fragments, rfl⟩ := moveFragments_frame copied
    exact .inr ⟨rfl, inserted, fragments, stored, rfl⟩

theorem projectedEntry_row (done : s.projectedEntry job photo = .ok (t, entry)) (read : t.entries.get entry = some row) :
    row.job = job ∧ (row.photoId = some photo.photoId ∨ row.relativePath = photo.relativePath) := by
  obtain ⟨rfl, found, present, own⟩ | ⟨rfl, inserted, fragments, stored, rfl⟩ := projectedEntry_cases done
  · cases present.symm.trans read
    exact own
  · obtain ⟨_, rfl⟩ := insertEntry_ok stored
    rw [get_insert_next] at read
    cases read
    exact ⟨rfl, .inl rfl⟩

theorem settleInPlace_eq (s : Store) (job entry : Nat) (decision : Entry.Settlement) :
    ∃ media generation, s.settleInPlace job entry decision = { ((s.updateEntry entry (fun row => { row with
      contentGeneration := some decision.photo.contentGeneration
      confirmedGeneration := generation })).setBaseline entry (some decision.photo)).supersedePending entry with
      media := media } := by
  unfold settleInPlace updateEntryMedia
  split
  · exact ⟨_, _, rfl⟩
  · split <;> exact ⟨_, _, rfl⟩

section Moves
variable {policy : Policy}

theorem clearPending_moves : Moves policy s (s.clearPending entry) := .elsewhere rfl rfl rfl

theorem supersedePending_moves (s : Store) (entry : Nat) : Moves policy s (s.supersedePending entry) := .elsewhere rfl rfl rfl

theorem setPending_moves {master : Bool} {record : NativeRecord} (done : s.setPending entry master record = .ok t) :
    Moves policy s t := by
  obtain ⟨_, rfl⟩ := setPending_frame done
  exact .elsewhere rfl rfl rfl

theorem projectedEntry_moves (done : s.projectedEntry job photo = .ok (t, entry)) : Moves policy s t := by
  obtain ⟨rfl, _⟩ | ⟨_, inserted, fragments, stored, rfl⟩ := projectedEntry_cases done
  · exact .refl
  · have born : EntryBorn { Entry.inserted job photo.relativePath with
        photoId := some photo.photoId, masterId := some photo.masterId } :=
      ⟨rfl, .inl rfl, rfl, rfl, rfl, rfl, rfl, rfl, rfl⟩
    exact (Moves.insertEntry _ born stored).trans (.elsewhere rfl rfl rfl)

theorem repairAvailability_moves (s : Store) (entry : Nat) (photo : RemotePhoto) :
    Moves policy s (s.repairAvailability entry photo) := by
  unfold repairAvailability
  split
  · exact .refl
  · split
    · refine .entry_media entry _ (fun _ row _ _ cloud => .inl ?_)
      rw [if_neg (by rw [cloud]; decide)]
      exact cloud
    · exact .refl

theorem repairAvailability_eq (s : Store) (entry : Nat) (photo : RemotePhoto) :
    ∃ media : Table Media, s.repairAvailability entry photo = { s with media := media } ∧
      ∀ id, media.get id = s.media.get id ∨ media.get id = (s.media.get id).map (fun row =>
        if row.storageLocation = .localOnly then { row with storageLocation := .both } else row) := by
  unfold repairAvailability updateEntryMedia
  split
  · exact ⟨_, rfl, fun _ => .inl rfl⟩
  · split
    · split
      · refine ⟨_, rfl, fun id => ?_⟩
        rw [get_modify]
        split
        · exact .inr rfl
        · exact .inl rfl
      · exact ⟨_, rfl, fun _ => .inl rfl⟩
    · exact ⟨_, rfl, fun _ => .inl rfl⟩

theorem repairAvailability_entries (s : Store) (entry : Nat) (photo : RemotePhoto) :
    (s.repairAvailability entry photo).entries = s.entries := by
  obtain ⟨_, same, _⟩ := repairAvailability_eq s entry photo
  rw [same]

theorem repairAvailability_jobs (s : Store) (entry : Nat) (photo : RemotePhoto) : (s.repairAvailability entry photo).jobs = s.jobs := by
  obtain ⟨_, same, _⟩ := repairAvailability_eq s entry photo
  rw [same]

theorem repairAvailability_cloudOnly (s : Store) (entry : Nat) (photo : RemotePhoto) (row : Entry) :
    ((s.repairAvailability entry photo).linkedMedia row).any (fun media => media.storageLocation == .cloudOnly) =
      (s.linkedMedia row).any (fun media => media.storageLocation == .cloudOnly) := by
  obtain ⟨media, same, rows⟩ := repairAvailability_eq s entry photo
  rw [same, linkedMedia, linkedMedia]
  cases row.media with
  | none => rfl
  | some id =>
    dsimp only [Option.bind_some]
    rcases rows id with kept | repaired
    · rw [kept]
    · rw [repaired, Option.any_map]
      congr 1
      funext found
      split
      · next here => simp [here]
      · rfl

theorem setDigest_moves (s : Store) (entry : Nat) (observation : LocalDigest) : Moves policy s (s.setDigest entry observation) :=
  .entry_frame entry _ (fun _ => by constructor <;> rfl)

theorem setBaseline_moves (s : Store) (entry : Nat) (photo : Option RemotePhoto) : Moves policy s (s.setBaseline entry photo) :=
  .entry_frame entry _ (fun _ => by constructor <;> rfl)

theorem bindIdentical_eq {after : Store × Adoption}
    (done : s.bindIdentical job entry media photo observation assetRevision masterRevision = .ok after) :
    ∃ row generation conflicts, s.entries.get entry = some row ∧ after = ({
      (((s.updateMedia media (fun item => { if row.metadataPending then item
          else { item with isFavorite := photo.favorite, takenAt := photo.takenAt } with storageLocation := .both })).updateEntry
        entry (Entry.adopt media photo assetRevision masterRevision generation)).setBaseline entry (some photo)).setDigest
          entry observation with
      conflicts := conflicts
      publications := s.publications.delete (fun _ row => row.entry == some entry && row.state != .publishing) }, .bound) := by
  obtain ⟨row, read, generation, _, bound, stored, rest⟩ := bind3_ok done
  cases rest
  obtain rfl := setEntryPhoto_eq stored
  refine ⟨row, generation, (s.resolveConflicts entry (fun reason => reason == ownedReason || reason == differsReason)).conflicts,
    requireRow_ok.mp read, ?_⟩
  cases row.metadataPending
  · simp only [Bool.false_eq_true, if_false, updateMedia, modify_modify]
    rfl
  · rfl

theorem bindIdentical_moves (after : Store × Adoption) (read : s.entries.get entry = some row)
    (unbound : row.photoId = none) (kept : row.dirty ≠ .delete) (present : s.media.get media = some item)
    (here : item.storageLocation ≠ .cloudOnly)
    (done : s.bindIdentical job entry media photo observation assetRevision masterRevision = .ok after) :
    Moves policy s after.1 := by
  obtain ⟨row', generation, conflicts, again, rfl⟩ := bindIdentical_eq done
  cases read.symm.trans again
  have described : Moves policy s (s.updateMedia media (fun item => { if row.metadataPending then item
      else { item with isFavorite := photo.favorite, takenAt := photo.takenAt } with storageLocation := .both })) := by
    refine .mediaRow media _ (fun found again cloud => ?_)
    cases present.symm.trans again
    exact absurd cloud here
  have bound := described.trans (.entry entry (Entry.adopt media photo assetRevision masterRevision generation)
    (fun found again => by
      cases read.symm.trans again
      exact .adopt row media photo assetRevision masterRevision generation unbound kept))
  exact ((bound.trans (setBaseline_moves _ entry (some photo))).trans (setDigest_moves _ entry observation)).trans
    (.elsewhere rfl rfl rfl)

theorem adoptable_live (found : s.adoptable row = some (media, item)) :
    s.media.get media = some item ∧ item.trashedAt = none ∧ item.storageLocation ≠ .cloudOnly := by
  unfold adoptable at found
  split at found
  · cases found
  · have ⟨present, test⟩ := first?_some found
    simp only [Bool.and_eq_true, Option.isNone_iff_eq_none, bne_iff_ne] at test
    exact ⟨present, test.1.2, test.2⟩

theorem adoption_ok {after : Store × Adoption} (read : s.entries.get entry = some row)
    (done : s.adoption job entry photo digests = .ok after) :
    (after.1 = s ∧ after.2 ≠ .bound ∧ (after.2 = .missingLocal → row.dirty ≠ .delete)) ∨
    (∃ observation, after.1 = s.setDigest entry observation ∧ (after.2 = .deferred ∨ after.2 = .divergent)) ∨
    ∃ observation media item assetRevision masterRevision, s.adoptable row = some (media, item) ∧
      row.dirty ≠ .delete ∧ photo.isHidden = false ∧
      (s.setDigest entry observation).bindIdentical job entry media photo observation assetRevision masterRevision = .ok after := by
  obtain ⟨row', again, rest⟩ := bind_ok.mp done
  rw [requireRow_ok, read] at again
  cases again
  split at rest
  · cases rest
    exact .inl ⟨rfl, nofun, nofun⟩
  · split at rest
    · cases rest
      exact .inl ⟨rfl, nofun, nofun⟩
    · next visible =>
      simp only [Bool.or_eq_true, beq_iff_eq, not_or, Bool.not_eq_true] at visible
      split at rest
      · cases rest
        exact .inl ⟨rfl, nofun, fun _ => visible.2⟩
      · next media item live =>
        split at rest
        · cases rest
          exact .inl ⟨rfl, nofun, nofun⟩
        · next observation _ =>
          split at rest
          · cases rest
            exact .inl ⟨rfl, nofun, nofun⟩
          · split at rest
            · cases rest
              exact .inr (.inl ⟨observation, rfl, .inr rfl⟩)
            · dsimp only at rest
              split at rest
              · exact .inr (.inr ⟨observation, media, item, _, _, live, visible.2, visible.1, rest⟩)
              · cases rest
                exact .inr (.inl ⟨observation, rfl, .inl rfl⟩)

theorem missingLocal_cases {outcome : Option Bool} (read : s.entries.get entry = some row)
    (done : s.missingLocal job entry row photo digests = .ok (t, outcome)) :
    (t = s ∧ (outcome = some true → row.dirty ≠ .delete)) ∨
    (∃ observation, t = s.setDigest entry observation ∧ outcome ≠ some true) ∨
    row.photoId = none ∧ outcome = none ∧ ∃ observation media item assetRevision masterRevision,
      s.adoptable row = some (media, item) ∧ row.dirty ≠ .delete ∧
      (s.setDigest entry observation).bindIdentical job entry media photo observation assetRevision masterRevision =
        .ok (t, .bound) := by
  unfold missingLocal at done
  split at done
  · next cloud =>
    cases done
    simp only [Bool.and_eq_true, bne_iff_ne] at cloud
    exact .inl ⟨rfl, fun _ => cloud.2⟩
  · split at done
    · next unbound =>
      rw [Option.isNone_iff_eq_none] at unbound
      obtain ⟨⟨u, adopted⟩, adoption, rest⟩ := bind_ok.mp done
      rcases adoption_ok read adoption with
        ⟨same, _, kept⟩ | ⟨observation, same, ended⟩ | ⟨observation, media, item, _, _, live, kept, _, bound⟩
      · cases same
        cases adopted with
        | missingLocal =>
          cases rest
          exact .inl ⟨rfl, fun _ => kept rfl⟩
        | bound | deferred | divergent => cases rest <;> exact .inl ⟨rfl, nofun⟩
      · cases same
        rcases ended with ended | ended <;> cases ended <;> cases rest <;> exact .inr (.inl ⟨observation, rfl, nofun⟩)
      · obtain ⟨_, _, _, _, same⟩ := bindIdentical_eq bound
        cases same
        cases rest
        exact .inr (.inr ⟨unbound, rfl, observation, media, item, _, _, live, kept, bound⟩)
    · cases done
      exact .inl ⟨rfl, nofun⟩

theorem missingLocal_ok (read : s.entries.get entry = some row)
    (done : s.missingLocal job entry row photo digests = .ok (t, some missing)) :
    (t = s ∨ ∃ observation, t = s.setDigest entry observation) ∧ (missing = true → row.dirty ≠ .delete) := by
  obtain ⟨same, kept⟩ | ⟨observation, same, found⟩ | ⟨_, none, _⟩ := missingLocal_cases read done
  · exact ⟨.inl same, fun absent => kept (congrArg some absent)⟩
  · exact ⟨.inr ⟨observation, same⟩, fun absent => absurd (congrArg some absent) found⟩
  · cases none

theorem missingLocal_moves (after : Store × Option Bool) (read : s.entries.get entry = some row)
    (done : s.missingLocal job entry row photo digests = .ok after) : Moves policy s after.1 := by
  obtain ⟨same, _⟩ | ⟨observation, same, _⟩ | ⟨unbound, _, observation, media, item, _, _, live, kept, bound⟩ :=
    missingLocal_cases read done
  · rw [same]
    exact .refl
  · rw [same]
    exact setDigest_moves _ _ _
  · obtain ⟨present, _, here⟩ := adoptable_live live
    have digested : (s.setDigest entry observation).entries.get entry = some { row with digest := some observation } := by
      simp [setDigest, updateEntry, read]
    exact (setDigest_moves s entry observation).trans (bindIdentical_moves _ digested unbound kept present here bound)

theorem settlement_guard (s : Store) (job : Nat) (clear : conflictReason row photo missing = none)
    (present : missing = true → row.dirty ≠ .delete) : SettleGuard (s.settlement job row photo missing) row := by
  unfold conflictReason at clear
  split at clear
  · cases clear
  · split at clear
    · cases clear
    · next known =>
      split at clear
      · cases clear
      · next own =>
        have bound : missing = false → row.photoId ≠ none := by
          intro here none
          exact known (by simp [here, none])
        constructor
        · cases id : row.photoId with
          | none => exact .inl rfl
          | some =>
            simp only [id, Option.any_some, bne_iff_ne, not_not] at own
            exact .inr (by rw [own]; rfl)
        · simp [settlement]
        · intro deleting
          simp only [settlement, beq_iff_eq] at deleting
          have here : missing = false := by
            cases missing with
            | false => rfl
            | true => exact absurd deleting (present rfl)
          simp [settlement, deleting, here]
        · intro preserved
          simp only [settlement, Bool.and_eq_true, Bool.not_eq_true'] at preserved
          exact ⟨preserved.1.2, bound preserved.1.1⟩
        · intro kept
          simp only [settlement, Bool.and_eq_true, Bool.not_eq_true', Bool.or_eq_true, beq_iff_eq] at kept
          refine ⟨?_, bound kept.1⟩
          rcases kept.2 with deleting | ⟨pending, _⟩
          · exact .inl deleting
          · exact .inr pending

theorem schedulePlacement_moves {localVersion : Nat}
    (done : schedulePlacement platform s job entry localVersion decision = .ok t) : Moves policy s t := by
  obtain ⟨_, _, _, _, rest⟩ := bind2_ok done
  cases rest
  exact .elsewhere rfl rfl rfl

theorem settleInPlace_moves : Moves policy s (s.settleInPlace job entry decision) := by
  have described : Moves policy s (if decision.preserveMetadata then s else s.updateEntryMedia entry (fun item =>
      { item with isFavorite := decision.photo.favorite, takenAt := decision.photo.takenAt })) := by
    split
    · exact .refl
    · exact .entry_media entry _ (fun _ _ _ _ cloud => .inl cloud)
  refine described.trans ?_
  refine (Moves.entry_frame entry _ (fun _ => ?_)).trans
    ((setBaseline_moves _ entry (some decision.photo)).trans (.elsewhere rfl rfl rfl))
  constructor <;> rfl

theorem resolveProjection_ok (policy : Policy) {after : Store × ProjectedContent} (read : s.entries.get entry = some row)
    (done : resolveProjection platform s job entry photo missing = .ok after) :
    (∃ reason, conflictReason row photo missing = some reason ∧ after.1 = s.writeConflict job entry reason (some photo)) ∨
    ∃ settled, conflictReason row photo missing = none ∧
      s.setEntryPhoto entry photo.photoId (Entry.settle (s.settlement job row photo missing)) = .ok settled ∧
      Moves policy settled after.1 := by
  obtain ⟨row', again, rest⟩ := bind_ok.mp done
  rw [requireRow_ok, read] at again
  cases again
  split at rest
  · next reason found =>
    cases rest
    exact .inl ⟨reason, found, rfl⟩
  · next clear =>
    obtain ⟨settled, stored, rest⟩ := bind_ok.mp rest
    refine .inr ⟨settled, clear, stored, ?_⟩
    have resolved : Moves policy settled (settled.resolveConflicts entry (fun reason =>
      reason == intersectsReason || reason == differsReason)) := .elsewhere rfl rfl rfl
    refine resolved.trans ?_
    dsimp only at rest
    split at rest
    · obtain ⟨placed, scheduled, rest⟩ := bind_ok.mp rest
      cases rest
      exact schedulePlacement_moves scheduled
    · cases rest
      exact settleInPlace_moves

theorem writeConflict_moves {reason : String} {photo : Option RemotePhoto} :
    Moves policy s (s.writeConflict job entry reason photo) := by
  unfold writeConflict
  split <;> exact .elsewhere rfl rfl rfl

theorem resolveProjection_moves {after : Store × ProjectedContent} (read : s.entries.get entry = some row)
    (present : missing = true → row.dirty ≠ .delete)
    (done : resolveProjection platform s job entry photo missing = .ok after) : Moves policy s after.1 := by
  rcases resolveProjection_ok policy read done with
    ⟨reason, _, same⟩ | ⟨settled, clear, stored, rest⟩
  · rw [same]
    exact writeConflict_moves
  · refine .trans (.setEntryPhoto entry _ _ stored (fun found again => ?_)) rest
    rw [read] at again
    cases again
    exact .settle row _ (settlement_guard s job clear present)

theorem projectPublication_moves (after : Store × ProjectedContent)
    (done : projectPublication platform s job photo digests = .ok after) : Moves policy s after.1 := by
  obtain ⟨⟨t, entry⟩, located, row, read, rest⟩ := bind2_ok done
  rw [requireRow_ok] at read
  have first : Moves policy s (t.repairAvailability entry photo) :=
    (projectedEntry_moves located).trans (repairAvailability_moves t entry photo)
  refine first.trans ?_
  split at rest
  · split at rest
    · cases rest
      exact .elsewhere rfl rfl rfl
    · cases rest
      exact .refl
  · obtain ⟨⟨u, missing⟩, looked, rest⟩ := bind_ok.mp rest
    refine (missingLocal_moves _ read looked).trans ?_
    cases missing with
    | none =>
      cases rest
      exact .refl
    | some =>
      obtain ⟨shape, present⟩ := missingLocal_ok read looked
      rcases shape with rfl | ⟨observation, rfl⟩
      · exact resolveProjection_moves read present rest
      · have digested : ((t.repairAvailability entry photo).setDigest entry observation).entries.get entry =
            some { row with digest := some observation } := by
          simp [setDigest, updateEntry, read]
        exact resolveProjection_moves digested present rest

end Moves
end PhotoSync
