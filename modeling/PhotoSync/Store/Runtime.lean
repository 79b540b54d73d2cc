import PhotoSync.Store.Confirm
import PhotoSync.Store.Media

set_option autoImplicit false

namespace PhotoSync
open Relational Transaction Store Table

namespace Store

-- Captured versions still describe the entry, and no later received version took the publication's place.
def checkPublication (s : Store) (capture : Capture) : Result Unit := do
  ensure ((s.entries.get capture.entry).any (fun row => row.job == capture.job
      && row.localVersion == capture.localVersion && row.dirty == capture.dirty)
    && (s.jobs.get capture.job).any (fun job => job.configGeneration == capture.config)
    && !s.hasChange capture.job) "local edit/configuration superseded the publication"
  let owner := s.publications.last? (fun _ row => row.entry == some capture.entry
    && row.capture.any (fun other => other.projection.isSome) && (row.state == .pending || row.state == .publishing))
  ensure (capture.projection.isNone || owner.bind (fun found => found.2.capture.bind Capture.projection) == capture.projection)
    "a later received version superseded the publication"

def publicationOf (s : Store) (id : String) : Option (Nat × Publication) := s.publications.first? (fun _ row => row.publicationId == id)

def updatePublication (s : Store) (id : String) (change : Publication → Publication) : Store :=
  { s with publications := s.publications.update (fun _ row => if row.publicationId == id then change row else row) }

def captureOf (s : Store) (id message : String) : Result Capture :=
  match (s.publicationOf id).bind (fun found => found.2.capture) with
  | some capture => .ok capture
  | none => invalid message

def thumbnailReady (s : Store) (publication : String) (media : Nat) (mtime : Int) (asset : String) : Store :=
  let owned := s.publications.any (fun _ row => row.publicationId == publication
    && row.thumbnailAssetId == some asset && (row.state == .pending || row.state == .publishing)
    && (row.entry.bind s.entries.get).any (fun entry => entry.media == some media && entry.dirty != .delete)
    && (s.jobs.get row.job).any s.connectionEnabled && !s.hasChange row.job)
  s.updateMedia media (fun row =>
    if row.fileMtimeNs == mtime && owned then { row with thumbnailReady := true } else row)

def discardPendingDeletions (s : Store) (job : Nat) : Store :=
  let deleting : Nat → Bool := fun id => (s.entries.get id).any (fun row => row.job == job && row.dirty == .delete)
  if s.entries.any (fun _ row => row.job == job && row.dirty == .delete) then
    let t := { s with
      tasks := s.tasks.delete (fun _ task => task.entry.any deleting)
      publications := s.publications.delete (fun _ row => row.entry.any deleting) }
    let t := (t.deleteEntries (fun _ row => row.job == job && row.dirty == .delete)).clearJobPending job
    { t with progress := t.progress.update (fun _ row =>
        if row.job = job then { row with
          snapshotToken := none, bootstrapStarted := false, bootstrapTypes := [], ingestToken := none
          targetToken := none, appliedToken := none } else row) }
  else s

def absentDeletion (s : Store) (entry job version : Nat) (row : Entry) : Bool :=
  row.job == job && row.dirty == .delete && row.localVersion == version && row.photoId.isNone && row.masterId.isNone
    && !s.tasks.any (fun _ task => task.entry == some entry
      && (task.state == .issued || (task.state == .confirmed && task.action == .create)))

def confirmAbsentDeletion (s : Store) (epoch : Epoch) (entry version : Nat) (leaseHeld : Bool) : Result Store := do
  s.validEpoch epoch
  ensure leaseHeld "UPLOAD_LEASE_LOST"
  ensure ((s.entries.get entry).any (s.absentDeletion entry epoch.job version))
    "an unconfirmed cloud operation still owns the deletion"
  return s.deleteEntries (fun id row => id == entry && s.absentDeletion entry epoch.job version row)

def uploadFailed (s : Store) (epoch : Epoch) (entry : Nat) (reason : String) : Result Store := do
  s.validEpoch epoch
  ensure ((s.entries.get entry).any (fun row => row.job == epoch.job))
    "upload failure belongs to another job or missing entry"
  return s.updateEntry entry (fun row => { row with uploadError := some reason })

def beginCycle (s : Store) (epoch : Epoch) : Result Store := do
  ensure ((s.jobs.get epoch.job).any (fun job => job.configGeneration == epoch.config && !job.paused)
    && !s.hasChange epoch.job) "job no longer accepts this synchronization cycle"
  return { s with
    jobs := s.jobs.modify epoch.job (fun job => { job with cycleId := some epoch.cycle })
    entries := s.entries.update (fun _ row => if row.job = epoch.job then { row with uploadError := none } else row) }

def endCycle (s : Store) (epoch : Epoch) : Store :=
  { s with jobs := s.jobs.modify epoch.job (fun job =>
    if job.cycleId = some epoch.cycle then { job with cycleId := none } else job) }

def fileAt (s : Store) (path : String) : Option (Nat × Media) :=
  s.media.first? (fun _ row => row.path == path && row.trashedAt.isNone && row.storageLocation != .cloudOnly)

def observePath (job : Nat) (s : Store) (relative : String) : Result Store :=
  match (s.jobs.get job).filter s.connectionEnabled with
  | none => .ok s
  | some row =>
    match s.fileAt (underRoot row.localRoot relative), s.entryAtPath job relative with
    | none, _ => .ok s
    | some (media, _), some (entry, _) =>
      .ok (s.updateEntry entry (fun row => { row with media := row.media.or (some media) }))
    | some (media, _), none =>
      s.insertEntry { Entry.inserted job relative with media := some media, dirty := .new }

def enrollMedia (job : Nat) (row : Job) (s : Store) (found : Nat × Media) : Result Store :=
  match relativeUnder row.localRoot found.2.path with
  | none => invalid "local media escaped the upload root"
  | some relative =>
    if (row.uploadScope == .all || row.uploadAlbums.contains ((parentPath relative).getD ""))
        && (s.entryAtPath job relative).isNone then
      s.insertEntry { Entry.inserted job relative with media := some found.1, dirty := .new }
    else .ok s

def enroll (s : Store) (epoch : Epoch) : Result Store := do
  s.validEpoch epoch
  let row ← requireRow (s.jobs.get epoch.job)
  (s.media.select (fun _ media => media.trashedAt.isNone && media.storageLocation != .cloudOnly
    && (relativeUnder row.localRoot media.path).isSome)).foldlM (enrollMedia epoch.job row) s

def beginCollision (s : Store) (id : String) (capture : Capture) (details : RecoveryDetails) : Result Store := do
  s.checkPublication capture
  ensure (!s.busy capture.entry) "an issued operation still owns the local collision"
  if (s.publicationOf id).isSome then .error (.unique "sync_publications.publication_id")
  else return { s with publications := s.publications.insert {
    publicationId := id, job := capture.job, entry := some capture.entry, photoId := capture.photo, masterId := none
    originalAssetId := none, thumbnailAssetId := none, state := .publishing, capture := some capture
    details := some details } }

def detailsOf (s : Store) (id message : String) : Result RecoveryDetails :=
  match (s.publicationOf id).bind (fun found => found.2.details) with
  | some details => .ok details
  | none => invalid message

def requireText (value : Option String) (message : String) : Result String :=
  match value with
  | some text => .ok text
  | none => invalid message

def relocateEntry (s : Store) (found : Nat × String) : Result Store := do
  let s ← s.setEntryPath found.1 found.2 (Entry.relocate found.2)
  return s.resolveConflicts found.1 (fun reason => reason == ownedReason || reason == differsReason)

def finishCollision (platform : Platform) (s : Store) (id : String) : Result Store := do
  let capture ← s.captureOf id "missing collision capture"
  let details ← s.detailsOf id "missing collision details"
  s.checkPublication capture
  let source ← requireText details.source "collision has no source"
  let preserved ← requireText details.preserved "collision has no preserved path"
  let row ← requireRow (s.entries.get capture.entry)
  let media ← requireRow (row.media.filter (fun media => (s.media.get media).any (fun item => item.path == source)))
  let folder ← requireText (parentPath preserved) "collision has no parent"
  let s ← s.setMediaUri media (platform.fileUri preserved) (fun item =>
    { item with path := preserved, folderPath := folder })
  let s ← (s.followers media preserved).foldlM relocateEntry s
  return s.updatePublication id (fun row => { row with state := .complete, details := none })

def abortCollision (s : Store) (id : String) : Store :=
  s.updatePublication id (fun row => { row with state := .superseded, details := none })

def forgetIdentityForAdoption (s : Store) (job entry version : Nat) : Result Store := do
  ensure (!s.busy entry) "an issued operation still owns the identity"
  ensure ((s.entries.get entry).any (fun row => row.job == job && row.localVersion == version))
    "local edit superseded identity adoption"
  return s.updateEntry entry Entry.forgetIdentity

def cleanPublication (s : Store) (id : String) : Store := s.updatePublication id (fun row => { row with details := none })

def rollback (s : Store) (id : String) : Store := s.updatePublication id (fun row =>
    { row with state := if row.state = .publishing then .pending else row.state, details := none })

def publishing (s : Store) (id : String) (details : RecoveryDetails) : Result Store := do
  let capture ← s.captureOf id "missing publication capture"
  s.checkPublication capture
  return s.updatePublication id (fun row => { row with state := .publishing, details := some details })

def verifyStaged (job : Nat) (uri : String) (s : Store) (found : String × AssetRole) : Result Store := do
  let staged : Resource → Bool := fun row => row.job == job && some row.generation == s.generationOf job
    && row.assetId == found.1 && row.role == found.2 && (row.state == .staged || row.state == .verified)
  ensure ((s.resources.select (fun _ row => staged row)).length == 1) "publication resource is no longer staged"
  return { s with resources := s.resources.update (fun _ row =>
    if staged row then { row with state := .verified, verifiedCache := some uri } else row) }

def renamePrevious (s : Store) (row : Entry) (item : NewMediaItem) : Result Store :=
  match row.media with
  | none => .ok s
  | some media => s.setMediaUri media item.uri (fun found =>
    { found with path := item.path, folderPath := item.folderPath })

def requireMediaId (ids : List Nat) : Result Nat :=
  match ids.head? with
  | some id => .ok id
  | none => invalid "media admission was blocked"

def admittedFavorite (capture : Capture) (photo : RemotePhoto) : Int :=
  if capture.preserveMetadata then (if capture.favorite.getD 0 != 0 then 1 else 0) else photo.favorite

def admittedPath (capture : Capture) (photo : RemotePhoto) : Result String :=
  if capture.preserveMetadata then requireText capture.localRelativePath "missing local metadata path"
  else .ok photo.relativePath

def requireConfirmedRevision (s : Store) (job : Nat) (name : String) : Result String :=
  requireText (s.recordRevision job name) "photo has no confirmed record revision"

def bindAdmitted (s : Store) (capture : Capture) (photo : RemotePhoto) (media : Nat) : Result Store := do
  let s := s.updateMedia media (fun row => { row with isFavorite := admittedFavorite capture photo })
  let s := s.updateMedia media (fun row => { row with storageLocation := .both, thumbnailReady := true })
  let asset ← s.requireConfirmedRevision capture.job photo.photoId
  let master ← s.requireConfirmedRevision capture.job photo.masterId
  let path ← admittedPath capture photo
  if s.pathTaken capture.entry capture.job path then .error (.unique "sync_entries.job_id, sync_entries.relative_path")
  else s.setEntryPhoto capture.entry photo.photoId (Entry.admission media photo asset master (s.generationOf capture.job) path)

def admission (s : Store) (id : String) (photo : RemotePhoto) (item : NewMediaItem) (stamp : EditEvent) : Result Store := do
  let capture ← s.captureOf id "missing publication capture"
  s.checkPublication capture
  let row ← requireRow (s.entries.get capture.entry)
  let s ← s.renamePrevious row item
  let (s, ids) ← s.upsertMediaItems [(item, stamp)] (some id)
  let media ← requireMediaId ids
  let s ← s.bindAdmitted capture photo media
  let s := s.setBaseline capture.entry (some photo)
  let s ← [(photo.original.assetId, AssetRole.original), (photo.thumbnail.assetId, AssetRole.thumbnail)].foldlM
    (verifyStaged capture.job item.uri) s
  return s.updatePublication id (fun row => { row with state := .complete })

end Store

variable {s t : Store} {id : String} {media : Nat}
variable {job entry version : Nat} {capture : Capture} {epoch : Epoch} {row : Entry} {details : RecoveryDetails}
  {item : NewMediaItem} {photo : RemotePhoto}

section Moves
variable {policy : Policy}

theorem updatePublication_moves (change : Publication → Publication) : Moves policy s (s.updatePublication id change) :=
  .elsewhere rfl rfl rfl

theorem thumbnailReady_steps {publication : String} {mtime : Int} {asset : String} :
    Steps policy s (s.thumbnailReady publication media mtime asset) := by
  refine ⟨.media_same media _ (fun row => ?_), rfl, rfl, rfl⟩
  split
  · rfl
  · rfl

theorem discardPendingDeletions_moves (s : Store) (job : Nat)
    (drop : ∀ id row, row.job = job → row.dirty = .delete → policy.drop id row) :
    Moves policy s (s.discardPendingDeletions job) := by
  unfold discardPendingDeletions
  split
  · let deleting : Nat → Bool := fun id => (s.entries.get id).any (fun row => row.job == job && row.dirty == .delete)
    let freed : Store := { s with
      tasks := s.tasks.delete (fun _ task => task.entry.any deleting)
      publications := s.publications.delete (fun _ row => row.entry.any deleting) }
    have tasks : Moves policy s { s with tasks := s.tasks.delete (fun _ task => task.entry.any deleting) } := .deleteTasks _
    have entries : Moves policy freed (freed.deleteEntries (fun _ row => row.job == job && row.dirty == .delete)) := by
      refine .deleteEntries _ (fun id row _ picked => ?_)
      simp only [Bool.and_eq_true, beq_iff_eq] at picked
      exact drop id row picked.1 picked.2
    exact (Moves.trans (t := freed) ⟨tasks.entries, tasks.media, tasks.tasks⟩ entries).trans (.elsewhere rfl rfl rfl)
  · exact .refl

theorem confirmAbsentDeletion_moves {leaseHeld : Bool}
    (drop : ∀ row, s.absentDeletion entry epoch.job version row = true → policy.drop entry row)
    (done : s.confirmAbsentDeletion epoch entry version leaseHeld = .ok t) : Moves policy s t := by
  obtain ⟨_, _, _, _, _, _, rest⟩ := bind3_ok done
  cases rest
  refine .deleteEntries _ (fun id row _ picked => ?_)
  simp only [Bool.and_eq_true, beq_iff_eq] at picked
  rw [picked.1]
  exact drop row picked.2

theorem uploadFailed_steps {reason : String} (done : s.uploadFailed epoch entry reason = .ok t) : Steps policy s t := by
  obtain ⟨_, _, _, _, rest⟩ := bind2_ok done
  cases rest
  exact ⟨.entry_frame _ _ (fun _ => by constructor <;> rfl), rfl, rfl, rfl⟩

theorem beginCycle_steps (s t : Store) (epoch : Epoch) (done : s.beginCycle epoch = .ok t) : Steps policy s t := by
  obtain ⟨_, _, rest⟩ := bind_ok.mp done
  cases rest
  have cleared : Moves policy s { s with entries := s.entries.update (fun _ row =>
      if row.job = epoch.job then { row with uploadError := none } else row) } := by
    refine .entries_frame _ (fun _ row => ?_)
    split
    · constructor <;> rfl
    · exact .refl row
  exact ⟨⟨cleared.entries, cleared.media, cleared.tasks⟩, rfl, rfl, rfl⟩

theorem observePath_steps {relative : String} (done : observePath job s relative = .ok t) : Steps policy s t := by
  unfold observePath at done
  split at done
  · cases done
    exact .refl
  · split at done
    · cases done
      exact .refl
    · cases done
      exact ⟨.entry_frame _ _ (fun _ => by constructor <;> rfl), rfl, rfl, rfl⟩
    · exact .insertEntry _ enrolled_born done

theorem enrollMedia_steps {row : Job} (found : Nat × Media) (done : enrollMedia job row s found = .ok t) : Steps policy s t := by
  unfold enrollMedia at done
  split at done
  · cases done
  · split at done
    · exact .insertEntry _ enrolled_born done
    · cases done
      exact .refl

theorem enroll_steps (s t : Store) (epoch : Epoch) (done : s.enroll epoch = .ok t) : Steps policy s t := by
  obtain ⟨_, _, row, _, rest⟩ := bind2_ok done
  exact .loop _ _ (fun found _ before after stepped => enrollMedia_steps found stepped) rest

theorem beginCollision_moves (done : s.beginCollision id capture details = .ok t) : Moves policy s t := by
  obtain ⟨_, _, _, _, rest⟩ := bind2_ok done
  split at rest
  · cases rest
  · cases rest
    exact .elsewhere rfl rfl rfl

theorem relocateEntry_moves (found : Nat × String) (rename : ∀ row, policy.guards.rename found.1 found.2 row)
    (done : s.relocateEntry found = .ok t) : Moves policy s t := by
  obtain ⟨moved, placed, rest⟩ := bind_ok.mp done
  cases rest
  refine .trans (.setEntryPath _ _ _ placed (fun row _ => ?_)) (.elsewhere rfl rfl rfl)
  exact .relocate row found.2 (rename row)

theorem finishCollision_moves {platform : Platform} (rename : ∀ entry path row, policy.guards.rename entry path row)
    (done : s.finishCollision platform id = .ok t) : Moves policy s t := by
  obtain ⟨capture, _, details, _, _, _, source, _, rest⟩ := bind4_ok done
  obtain ⟨preserved, _, row, _, media, _, folder, _, rest⟩ := bind4_ok rest
  obtain ⟨moved, located, last, followed, rest⟩ := bind2_ok rest
  cases rest
  have first : Moves policy s moved := .setMediaUri media _ _ located (fun _ => rfl)
  have second : Moves policy moved last := .loop _ _ (fun found _ before after stepped =>
    relocateEntry_moves found (rename found.1 found.2) stepped) followed
  exact (first.trans second).trans (updatePublication_moves _)

theorem forgetIdentityForAdoption_steps
    (forget : ∀ row, s.entries.get entry = some row → s.busy entry = false → policy.guards.forget entry row)
    (done : s.forgetIdentityForAdoption job entry version = .ok t) : Steps policy s t := by
  obtain ⟨_, idle, _, _, rest⟩ := bind2_ok done
  rw [ensure_ok] at idle
  cases rest
  exact ⟨.entry _ _ (fun row read => .forget row (forget row read (by simpa using idle))), rfl, rfl, rfl⟩

theorem publishing_moves (done : s.publishing id details = .ok t) : Moves policy s t := by
  obtain ⟨_, _, _, _, rest⟩ := bind2_ok done
  cases rest
  exact updatePublication_moves _

theorem verifyStaged_moves {uri : String} (found : String × AssetRole) (done : verifyStaged job uri s found = .ok t) :
    Moves policy s t := by
  obtain ⟨_, _, rest⟩ := bind_ok.mp done
  cases rest
  exact .elsewhere rfl rfl rfl

theorem renamePrevious_moves (done : s.renamePrevious row item = .ok t) : Moves policy s t ∧ t.entries = s.entries := by
  unfold renamePrevious at done
  split at done
  · cases done
    exact ⟨.refl, rfl⟩
  · refine ⟨.setMediaUri _ _ _ done (fun _ => rfl), ?_⟩
    obtain ⟨_, rfl⟩ := setMediaUri_ok done
    rfl

theorem upsertItem_published {before after : Store × List Nat} {item : NewMediaItem × EditEvent}
    (done : upsertItem (some id) before item = .ok after) : after.1.entries = before.1.entries := by
  obtain ⟨_, rfl⟩ | ⟨_, _, _, _, _, _, same | ⟨never, _⟩⟩ | ⟨_, _, rfl⟩ := upsertItem_cases done
  · rfl
  · rw [same]
    rfl
  · cases never
  · rfl

theorem upsertItem_uri (id : String) (before after : Store × List Nat) (item : NewMediaItem × EditEvent)
    (known : ∀ media ∈ before.2, ∀ row, before.1.media.get media = some row → row.uri = item.1.uri)
    (done : upsertItem (some id) before item = .ok after) :
    ∀ media ∈ after.2, ∀ row, after.1.media.get media = some row → row.uri = item.1.uri := by
  obtain ⟨_, rfl⟩ | ⟨_, found, row, present, named, listed, written⟩ | ⟨_, _, rfl⟩ := upsertItem_cases done
  · exact known
  · intro media member other read
    rw [upsertItem_media written, get_modify] at read
    rw [listed] at member
    by_cases here : media = found
    · rw [if_pos here, here, present] at read
      cases read
      exact named
    · rw [if_neg here] at read
      have old : media ∈ before.2 := by simpa [here] using member
      exact known media old other read
  · intro media member other read
    rw [get_insert] at read
    by_cases here : media = before.1.media.next
    · rw [if_pos here] at read
      cases read
      rfl
    · rw [if_neg here] at read
      have old : media ∈ before.2 := by simpa [here] using member
      exact known media old other read

theorem bindAdmitted_moves (rename : ∀ path row, policy.guards.rename capture.entry path row)
    (admission : ∀ row, s.entries.get capture.entry = some row → policy.guards.admission capture.entry photo row)
    (place : ∀ row favorite, s.media.get media = some row → policy.place media { row with isFavorite := favorite })
    (done : s.bindAdmitted capture photo media = .ok t) : Moves policy s t := by
  obtain ⟨asset, _, master, _, path, _, rest⟩ := bind3_ok done
  split at rest
  · cases rest
  · let liked : Store := s.updateMedia media (fun row =>
      { row with isFavorite := admittedFavorite capture photo })
    have favorite : Moves policy s liked := .media_same _ _ (fun _ => rfl)
    have stored : Moves policy liked (liked.updateMedia media (fun row =>
        { row with storageLocation := .both, thumbnailReady := true })) := by
      refine .mediaRow media _ (fun row read _ => .inr ?_)
      obtain ⟨old, present, rfl⟩ := Option.map_eq_some_iff.mp ((get_modify_self _ _ _).symm.trans read)
      exact place old _ present
    refine (favorite.trans stored).trans (.setEntryPhoto _ _ _ rest (fun row read => ?_))
    exact .admission row media photo asset master _ path (admission row read) (rename path row)

theorem checkPublication_entry (read : s.entries.get capture.entry = some row) (done : s.checkPublication capture = .ok ()) :
    row.job = capture.job ∧ row.localVersion = capture.localVersion ∧ row.dirty = capture.dirty := by
  obtain ⟨_, current, _⟩ := bind_ok.mp done
  rw [ensure_ok, read] at current
  simp only [Bool.and_eq_true, Option.any_some, beq_iff_eq] at current
  exact ⟨current.1.1.1.1, current.1.1.1.2, current.1.1.2⟩

theorem requireMediaId_ok {ids : List Nat} {id : Nat} (done : requireMediaId ids = .ok id) : id ∈ ids := by
  unfold requireMediaId at done
  split at done
  · next found =>
    cases done
    exact List.mem_of_mem_head? found
  · cases done

theorem admission_moves {stamp : EditEvent} (rename : ∀ entry path row, policy.guards.rename entry path row)
    (place : ∀ media row, row.uri = item.uri → policy.place media row)
    (admission : ∀ capture row, s.captureOf id "missing publication capture" = .ok capture → s.entries.get capture.entry = some row → row.dirty = capture.dirty → policy.guards.admission capture.entry photo row)
    (done : s.admission id photo item stamp = .ok t) : Moves policy s t := by
  obtain ⟨capture, captured, _, checked, row, read, renamed, previous, rest⟩ := bind4_ok done
  obtain ⟨⟨indexed, ids⟩, upserted, media, chosen, bound, binds, verified, verifies, rest⟩ := bind4_ok rest
  cases rest
  rw [requireRow_ok] at read
  obtain ⟨first, kept⟩ : Moves policy s renamed ∧ renamed.entries = s.entries := renamePrevious_moves previous
  have second : Moves policy renamed indexed := (upsertMediaItems_steps
    (fun found member => by
      rw [List.mem_singleton.mp member]
      exact place) upserted).toMoves
  obtain ⟨_, once, last⟩ := bind_ok.mp upserted
  cases last
  have entries := (upsertItem_published once).trans kept
  have uris := upsertItem_uri id (renamed, []) (indexed, ids) (item, stamp) (by simp) once
  have third : Moves policy indexed bound := by
    refine bindAdmitted_moves (rename _) (fun found again => ?_)
      (fun found favorite present => ?_) binds
    · rw [entries, read] at again
      cases again
      exact admission capture row captured read (checkPublication_entry read checked).2.2
    · exact place media _ (uris media (requireMediaId_ok chosen) found present)
  have fourth : Moves policy bound (bound.setBaseline capture.entry (some photo)) := setBaseline_moves _ _ _
  have fifth : Moves policy (bound.setBaseline capture.entry (some photo)) verified :=
    .loop _ _ (fun found _ before after stepped => verifyStaged_moves found stepped) verifies
  exact ((((first.trans second).trans third).trans fourth).trans fifth).trans (updatePublication_moves _)

end Moves
end PhotoSync
