import PhotoSync.Store.Actions
import PhotoSync.Store.Staging

set_option autoImplicit false

namespace PhotoSync
open Relational Transaction Store

structure RemoteResource where
  assetId : String
  role : AssetRole
  recordName : String
  expectedSize : Nat
  expectedSha256 : String
deriving DecidableEq, Repr

def RemoteResource.of (descriptor : AssetDescriptor) (role : AssetRole) (recordName : String) : RemoteResource :=
  ⟨descriptor.assetId, role, recordName, descriptor.size, (ContentDigest.hexFromDescriptorBase64 descriptor.fileChecksum).getD ""⟩

def RemotePhoto.resources (photo : RemotePhoto) : List RemoteResource :=
  [.of photo.original .original photo.photoId, .of photo.thumbnail .thumbnail photo.photoId]

def RemotePhoto.metadataFields (photo : RemotePhoto) : Fields :=
  [("relativePath", some ⟨some "STRING", some (.text photo.relativePath)⟩),
   ("masterRef", some ⟨some "REFERENCE", some (.reference photo.masterId (some "NONE"))⟩),
   ("isFavorite", some ⟨some "INT64", some (.integer photo.favorite)⟩),
   ("assetDate", some ⟨some "TIMESTAMP", some (photo.assetDateMs.elim .null .integer)⟩)]

def supportedRecordTypes : List String := [masterRecordType, assetRecordType]

namespace NativeProgress

def bootstrapComplete (progress : NativeProgress) : Bool := progress.bootstrapStarted && supportedRecordTypes.all (fun name =>
    (progress.bootstrapTypes.lookup name).any TypeMarker.complete)

-- applied may advance only to a target with no unresolved work behind it.
def canApply (progress : NativeProgress) (unresolved : Nat) : Bool :=
  progress.targetToken.isSome && progress.appliedToken != progress.targetToken && unresolved == 0
    && progress.bootstrapComplete

def isFor (progress : NativeProgress) (zoneNamespace : NativeNamespace) (generation scope : String) : Bool :=
  progress.zoneNamespace == zoneNamespace && progress.databaseGeneration == generation && progress.scopeDigest == scope

def cleared (progress : NativeProgress) : NativeProgress :=
  { progress with
    snapshotToken := none
    bootstrapStarted := false
    bootstrapTypes := []
    ingestToken := none
    appliedToken := none
    targetToken := none }

end NativeProgress

namespace Store

def openPublication (row : Publication) : Bool := row.state != .complete && row.state != .superseded

def liveAtEntry (s : Store) (row : Entry) : Option String :=
  match s.jobs.get row.job with
  | none => none
  | some job => (s.media.first? (fun _ media => media.path == underRoot job.localRoot row.relativePath
    && media.trashedAt.isNone)).map (fun found => found.2.uri)

-- The confirmed baseline already names the asset and no publication needs it.
def baselineHolds (s : Store) (job : Nat) (row : Entry) (asset : String) : Bool :=
  row.baseline.any (fun photo => photo.original.assetId == asset || photo.thumbnail.assetId == asset)
    && !s.publications.any (fun _ other => other.job == job && openPublication other
      && (other.originalAssetId == some asset || other.thumbnailAssetId == some asset))

def owesNothing (s : Store) (entry : Nat) (row : Entry) : Bool :=
  row.dirty == .clean && !s.publications.any (fun _ other => other.entry == some entry && openPublication other)

def obligeResource (s : Store) (job : Nat) (generation : String) (resource : RemoteResource) : Store :=
  let owner := s.entryOfPhoto job resource.recordName
  let holds := owner.any (fun found => s.baselineHolds job found.2 resource.assetId)
  let cache := owner.bind (fun found => s.liveAtEntry found.2)
  let settles := holds && owner.any (fun found => s.owesNothing found.1 found.2)
  match s.resources.first? (fun _ row => row.job == job && row.generation == generation
      && row.assetId == resource.assetId && row.role == resource.role) with
  | none => { s with resources := s.resources.insert {
    job := job, generation := generation, assetId := resource.assetId, role := resource.role
    recordName := some resource.recordName, expectedSha256 := some resource.expectedSha256
    expectedSize := some resource.expectedSize, stagingPath := none
    state := if holds then .verified else .pending, verifiedCache := cache } }
  | some (id, _) => { s with resources := s.resources.modify id (fun row =>
    { row with
      recordName := some resource.recordName
      expectedSha256 := some resource.expectedSha256
      expectedSize := some resource.expectedSize
      state := if settles then .verified else row.state
      verifiedCache := if settles then cache else row.verifiedCache
      stagingPath := if settles then none else row.stagingPath }) }

def releaseResources (s : Store) (releases : Resource → Bool) : Store :=
  { s with resources := s.resources.update (fun _ row => if releases row then { row with recordName := none } else row) }

def dropPhotoPlaceholders (s : Store) (job : Nat) (photo : String) : Store := s.deleteEntries (fun id row => isPlaceholderEntry row
    && s.fragments.any (fun _ fragment => fragment.job == job && fragment.photoId == some photo && fragment.entry == id))

-- What follows the projection of one photo: its metadata is admitted, its
-- revisions are kept and the received fragments are done with.
def admitProjected (platform : Platform) (s : Store) (job : Nat) (photo : RemotePhoto) : Result Store :=
  match s.entryOfPhoto job photo.photoId with
  | none => .ok s
  | some (entry, _) => do
    let s ← admitAssetMetadata platform s job entry (some photo.metadataFields)
    let s := s.updateEntryMedia entry (fun row =>
      if row.storageLocation = .cloudOnly then { row with fileSize := photo.original.size } else row)
    let asset := s.recordRevision job photo.photoId
    let master := s.recordRevision job photo.masterId
    let s := s.updateEntry entry (fun row => { row with
      assetRevision := asset.or row.assetRevision, masterRevision := master.or row.masterRevision })
    return s.clearPending entry

def promotePhoto (platform : Platform) (job : Nat) (generation : String) (digests : LocalDigests) (s : Store)
    (photo : RemotePhoto) : Result Store := do
  let (s, content) ← projectPublication platform s job photo digests
  let s ← admitProjected platform s job photo
  let s := s.dropPhotoPlaceholders job photo.photoId
  if content = .kept then
    if s.publications.any (fun _ row => row.job == job && row.photoId == some photo.photoId
      && (row.state == .pending || row.state == .publishing)) then return s
    else return s.releaseResources (fun row => row.job == job && row.recordName == some photo.photoId)
  else return photo.resources.foldl (fun s resource => s.obligeResource job generation resource) s

-- The cloud copy of a settled entry is gone: a cloud-only row goes with it and a shared row becomes local.
def retireConfirmed (s : Store) (entry : Nat) (row : Entry) : Store :=
  let gone : Nat → Media → Bool := fun id media => row.media == some id && media.storageLocation == .cloudOnly
  let uncloud : Media → Media := fun media =>
    if media.storageLocation = .both then { media with storageLocation := .localOnly } else media
  ((s.deleteMedia gone).updateEntryMedia entry uncloud).retire entry

def tombstoneEntry (s : Store) (job entry : Nat) (row : Entry) : Store :=
  let settled := match row.dirty with
    | .delete => s.deleteEntries (fun id _ => id == entry && !s.issuedFor entry)
    | .clean => s.retireConfirmed entry row
    | _ => s.writeConflict job entry deletedReason none
  settled.supersedePending entry

def buryRecord (job : Nat) (generation : String) (s : Store) (name : String) : Store :=
  let s := match s.entryOfPhoto job name with
    | some (entry, row) => s.tombstoneEntry job entry row
    | none => s
  let s := s.releaseResources (fun row => row.job == job && row.generation == generation && row.recordName == some name)
  { s with fragments := s.fragments.delete (fun _ fragment =>
      ((s.entries.get fragment.entry).any (fun row => row.job == job
        && (row.photoId == some name || row.masterId == some name)))
      || s.fragments.any (fun _ other => other.job == job && other.record.recordName == name
        && other.entry == fragment.entry)) }

-- An asset another photo's baseline owns has no staged bytes for a photo that still has to be placed.
def reopenShared (s : Store) (job : Nat) (generation : String) : Store :=
  { s with resources := s.resources.update (fun _ row =>
      if row.job == job && row.generation == generation && row.stagingPath.isNone
          && (row.state != .pending || row.verifiedCache.isSome)
          && row.recordName.any (fun name => s.entries.any (fun _ entry => entry.job == row.job
            && entry.photoId.any (fun id => id != name)
            && entry.baseline.any (fun photo => photo.original.assetId == row.assetId
              || photo.thumbnail.assetId == row.assetId)))
          && s.publications.any (fun _ publication => publication.job == row.job
            && (publication.state == .pending || publication.state == .publishing)
            && ((row.role == .original && publication.originalAssetId == some row.assetId)
              || (row.role == .thumbnail && publication.thumbnailAssetId == some row.assetId)))
      then { row with state := .pending, verifiedCache := none } else row) }

def unresolved (s : Store) (job : Nat) : Nat :=
  (s.resources.select (fun _ row => row.job == job && some row.generation == s.generationOf job
    && row.recordName.isSome && row.state != .verified && row.state != .retained)).length
  + (s.conflicts.select (fun _ row => row.job == job && row.isOpen)).length
  + (s.publications.select (fun _ row => row.job == job && openPublication row)).length
  + (((s.fragments.select (fun _ row => row.job == job)).map (fun found => found.2.entry)).dedup).length

def requireProgress (s : Store) (job : Nat) : Result NativeProgress :=
  match s.progressOf job with
  | some progress => .ok progress
  | none => invalid "synchronization receive position does not exist yet"

def updateProgress (s : Store) (job : Nat) (change : NativeProgress → NativeProgress) : Store :=
  { s with progress := s.progress.update (fun _ row => if row.job = job then change row else row) }

def promote (platform : Platform) (s : Store) (job : Nat) (graph : RemoteGraph) (target : String)
    (digests : LocalDigests) : Result Store := do
  let progress ← s.requireProgress job
  let generation := progress.databaseGeneration
  let s ← graph.photos.foldlM (promotePhoto platform job generation digests) s
  let s := graph.tombstones.foldl (buryRecord job generation) s
  let s := s.reopenShared job generation
  let left := s.unresolved job
  let s := s.updateProgress job (fun row => { row with targetToken := some target })
  let promoted ← s.requireProgress job
  if promoted.canApply left then return s.updateProgress job (fun row => { row with appliedToken := row.targetToken })
  else return s

-- The markers belong to the job: every receive position of it shares them.
def bootstrapTypesOf (s : Store) (job : Nat) : List (String × TypeMarker) := (s.progressOf job).elim [] NativeProgress.bootstrapTypes

def beginReceive (s : Store) (job : Nat) (zoneNamespace : NativeNamespace) (generation scope zoneName owner : String) : Store :=
  let changed := (s.progressOf job).any (fun progress => !progress.isFor zoneNamespace generation scope)
  let s := if changed then (s.updateProgress job NativeProgress.cleared).clearJobPending job else s
  match s.progress.first? (fun _ row => row.job == job && row.zoneName == zoneName && row.owner == owner) with
  | some (id, _) => { s with progress := s.progress.modify id (fun row => { row with
    zoneNamespace := zoneNamespace, databaseGeneration := generation, scopeDigest := scope }) }
  | none => { s with progress := s.progress.insert {
    job := job, zoneName := zoneName, owner := owner, zoneNamespace := zoneNamespace
    databaseGeneration := generation, scopeDigest := scope, snapshotToken := none, bootstrapStarted := false
    bootstrapTypes := s.bootstrapTypesOf job, ingestToken := none, appliedToken := none, targetToken := none } }

def pinSnapshot (s : Store) (job : Nat) (snapshot zoneToken : String) : Result Store := do
  let progress ← s.requireProgress job
  ensure (progress.snapshotToken.all (fun old => old == snapshot)) "cannot replace an in-progress bootstrap snapshot"
  return s.updateProgress job (fun row => { row with snapshotToken := some snapshot, ingestToken := some zoneToken })

def saveBootstrapPage (s : Store) (job : Nat) (recordType : String) (marker : Option String) (count : Nat) : Result Store := do
  let progress ← s.requireProgress job
  let types := progress.bootstrapTypes.filter (fun found => found.1 != recordType) ++ [(recordType, ⟨marker.isNone, marker, count⟩)]
  return s.updateProgress job (fun row => { row with bootstrapStarted := true, bootstrapTypes := types })

def saveDeltaPage (platform : Platform) (s : Store) (job : Nat) (records : List NativeRecord) (next : String) : Result Store := do
  let progress ← s.requireProgress job
  let s ← records.foldlM (stageRecord platform progress.job) s
  return s.updateProgress job (fun row => { row with ingestToken := some next })

def advanceApplied (s : Store) (job : Nat) : Result Store := do
  let left := s.unresolved job
  let progress ← s.requireProgress job
  ensure (progress.canApply left)
    ("cannot advance applied position: " ++ toString left ++ " unresolved items remain")
  return s.updateProgress job (fun row => { row with appliedToken := row.targetToken })

def adoptConfirmedHead (s : Store) (job : Nat) (token : String) : Result Store := do
  let left := s.unresolved job
  ensure (left == 0) ("cannot adopt a confirmed upload head: " ++ toString left ++ " unresolved items remain")
  ensure (!s.tasks.any (fun _ task => task.job == job && task.state == .issued))
    "cannot adopt a confirmed upload head while issued operations remain"
  return s.updateProgress job (fun row =>
    { row with ingestToken := some token, targetToken := some token, appliedToken := some token })

def resetReceive (s : Store) (job : Nat) : Store := (s.updateProgress job NativeProgress.cleared).clearJobPending job

end Store

variable {s t : Store} {generation : String} {tombstones : List String}
variable {job entry : Nat} {platform : Platform} {photo : RemotePhoto} {digests : LocalDigests} {row : Entry} {name : String}

section Moves
variable {policy : Policy}

theorem updateProgress_moves (change : NativeProgress → NativeProgress) :
    Moves policy s (s.updateProgress job change) := .elsewhere rfl rfl rfl

theorem pinSnapshot_moves {snapshot zoneToken : String} (done : s.pinSnapshot job snapshot zoneToken = .ok t) : Moves policy s t := by
  obtain ⟨_, _, _, _, rest⟩ := bind2_ok done
  cases rest
  exact updateProgress_moves _

theorem saveBootstrapPage_moves {recordType : String} {marker : Option String} {count : Nat}
    (done : s.saveBootstrapPage job recordType marker count = .ok t) : Moves policy s t := by
  obtain ⟨_, _, rest⟩ := bind_ok.mp done
  cases rest
  exact updateProgress_moves _

theorem advanceApplied_moves (s t : Store) (job : Nat) (done : s.advanceApplied job = .ok t) : Moves policy s t := by
  obtain ⟨_, _, _, _, rest⟩ := bind2_ok done
  cases rest
  exact updateProgress_moves _

theorem adoptConfirmedHead_moves {token : String} (done : s.adoptConfirmedHead job token = .ok t) : Moves policy s t := by
  obtain ⟨_, _, _, _, rest⟩ := bind2_ok done
  cases rest
  exact updateProgress_moves _

theorem admitProjected_moves (guards : ReceiveGuards policy) (done : admitProjected platform s job photo = .ok t) :
    Moves policy s t := by
  unfold admitProjected at done
  split at done
  · cases done
    exact .refl
  · next entry _ _ =>
    obtain ⟨admitted, placed, rest⟩ := bind_ok.mp done
    cases rest
    refine (admitAssetMetadata_moves guards placed).trans ?_
    have sized : Moves policy admitted (admitted.updateEntryMedia entry (fun row =>
        if row.storageLocation = .cloudOnly then { row with fileSize := photo.original.size } else row)) := by
      refine .entry_media entry _ (fun _ row _ _ cloud => .inl ?_)
      rw [if_pos cloud]
      exact cloud
    have revised : ∀ (t : Store) (asset master : Option String), Moves policy t (t.updateEntry entry (fun row =>
        { row with
          assetRevision := asset.or row.assetRevision
          masterRevision := master.or row.masterRevision })) :=
      fun _ _ _ => .entry_frame entry _ (fun _ => by constructor <;> rfl)
    exact sized.trans ((revised _ _ _).trans (clearPending_moves))

theorem dropPhotoPlaceholders_moves (s : Store) (job : Nat) (photo : String) (guards : ReceiveGuards policy) :
    Moves policy s (s.dropPhotoPlaceholders job photo) := by
  refine .deleteEntries _ (fun id row _ picked => guards.placeholder id row ?_)
  simp only [Bool.and_eq_true] at picked
  exact picked.1

theorem obligeResource_moves {resource : RemoteResource} : Moves policy s (s.obligeResource job generation resource) := by
  unfold obligeResource
  split <;> exact .elsewhere rfl rfl rfl

theorem promotePhoto_moves (guards : ReceiveGuards policy)
    (done : promotePhoto platform job generation digests s photo = .ok t) : Moves policy s t := by
  obtain ⟨⟨projected, content⟩, settled, admitted, placed, rest⟩ := bind2_ok done
  refine (projectPublication_moves _ settled).trans ?_
  refine (admitProjected_moves guards placed).trans ?_
  refine (dropPhotoPlaceholders_moves admitted job photo.photoId guards).trans ?_
  dsimp only at rest
  split at rest
  · split at rest
    · cases rest
      exact .refl
    · cases rest
      exact .elsewhere rfl rfl rfl
  · cases rest
    exact (obligeResource_moves).trans (obligeResource_moves)

-- A tombstone of a photo may retire its entry, or drop it when its own deletion was waiting for exactly this.
structure TombstoneGuards (policy : Policy) (tombstones : List String) : Prop where
  retire : ∀ id row, (∃ name ∈ tombstones, row.photoId = some name) → policy.guards.retire id row
  buried : ∀ id row, (∃ name ∈ tombstones, row.photoId = some name) → row.dirty = .delete → policy.drop id row

theorem retireConfirmed_moves (read : s.entries.get entry = some row) (kept : row.dirty ≠ .delete)
    (retire : ∀ media, policy.guards.retire entry { row with media := media }) :
    Moves policy s (s.retireConfirmed entry row) := by
  refine (Moves.deleteMedia _).trans (.trans (.entry_media entry _ (fun _ media _ _ cloud => .inl ?_))
    (retire_moves (fun found again => ?_)))
  · rw [if_neg (by rw [cloud]; decide)]
    exact cloud
  · rw [updateEntryMedia_entries] at again
    simp only [deleteMedia, Table.get_update, read, Option.map_some, Option.some.injEq] at again
    rw [← again]
    exact ⟨kept, retire _⟩

theorem tombstoneEntry_moves (job : Nat) (guards : TombstoneGuards policy tombstones) (member : name ∈ tombstones)
    (read : s.entries.get entry = some row) (bound : row.photoId = some name) :
    Moves policy s (s.tombstoneEntry job entry row) := by
  refine .trans ?_ (supersedePending_moves _ _)
  split
  · next deleting =>
    refine .deleteEntries _ (fun id found again picked => ?_)
    simp only [Bool.and_eq_true, beq_iff_eq] at picked
    rw [picked.1, read] at again
    cases again
    exact guards.buried id row ⟨name, member, bound⟩ deleting
  · next clean =>
    exact retireConfirmed_moves read (by rw [clean]; decide)
      (fun media => guards.retire entry _ ⟨name, member, bound⟩)
  · exact writeConflict_moves

theorem buryRecord_moves (job : Nat) (generation : String) (s : Store) (guards : TombstoneGuards policy tombstones)
    (member : name ∈ tombstones) : Moves policy s (buryRecord job generation s name) := by
  unfold buryRecord
  split
  · next entry row found =>
    obtain ⟨read, test⟩ := Table.first?_some found
    simp only [Bool.and_eq_true, beq_iff_eq] at test
    exact (tombstoneEntry_moves job guards member read test.2).trans (.elsewhere rfl rfl rfl)
  · exact .elsewhere rfl rfl rfl

theorem buryRecords_moves (job : Nat) (generation : String) (s : Store) {names : List String}
    (guards : TombstoneGuards policy tombstones) (within : ∀ name ∈ names, name ∈ tombstones) :
    Moves policy s (names.foldl (buryRecord job generation) s) := by
  induction names generalizing s with
  | nil => exact .refl
  | cons name rest ih =>
    have first : Moves policy s (buryRecord job generation s name) :=
      buryRecord_moves job generation s guards (within name List.mem_cons_self)
    exact first.trans (ih _ (fun other later => within other (List.mem_cons_of_mem _ later)))

theorem promote_moves {graph : RemoteGraph} {target : String} (guards : ReceiveGuards policy)
    (tombstones : TombstoneGuards policy graph.tombstones)
    (done : promote platform s job graph target digests = .ok t) : Moves policy s t := by
  obtain ⟨progress, _, projected, photos, promoted, _, rest⟩ := bind3_ok done
  have first : Moves policy s projected := .loop _ _ (fun photo _ _ _ stepped => promotePhoto_moves guards stepped) photos
  refine first.trans ((buryRecords_moves job progress.databaseGeneration projected tombstones
    (fun _ member => member)).trans ?_)
  split at rest
  · cases rest
    exact .elsewhere rfl rfl rfl
  · cases rest
    exact .elsewhere rfl rfl rfl

theorem saveDeltaPage_moves {records : List NativeRecord} {next : String} (guards : ReceiveGuards policy)
    (done : saveDeltaPage platform s job records next = .ok t) : Moves policy s t := by
  obtain ⟨progress, _, staged, stored, rest⟩ := bind2_ok done
  cases rest
  have first : Moves policy s staged := .loop _ _ (fun record _ _ _ stepped => stageRecord_moves guards stepped) stored
  exact first.trans (updateProgress_moves _)

theorem beginReceive_moves {zoneNamespace : NativeNamespace} {scope zoneName owner : String} :
    Moves policy s (s.beginReceive job zoneNamespace generation scope zoneName owner) := by
  unfold beginReceive
  dsimp only
  split <;> split <;> exact .elsewhere rfl rfl rfl

end Moves
end PhotoSync
