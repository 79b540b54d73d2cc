import PhotoSync.Lib.Table
import PhotoSync.Native.Records

set_option autoImplicit false

namespace PhotoSync
open Relational

inductive StoreError where
  | backend (message : String)
  | unique (columns : String)
  | noRows
deriving DecidableEq, Repr

abbrev Result (α : Type) := Except StoreError α

inductive NativeDirty where
  | clean
  | new
  | modified
  | delete
deriving DecidableEq, Repr

inductive ChangeCategory where
  | metadata
  | content
  | deletion
deriving DecidableEq, Repr

inductive StorageLocation where
  | localOnly
  | cloudOnly
  | both
deriving DecidableEq, Repr

structure Media where
  uri : String
  path : String
  folderPath : String
  takenAt : Option Int
  fileMtimeNs : Int
  fileSize : Nat
  isFavorite : Int
  trashedAt : Option Int
  storageLocation : StorageLocation
  thumbnailReady : Bool
deriving DecidableEq, Repr

structure NewMediaItem where
  uri : String
  path : String
  folderPath : String
  takenAt : Option Int
  fileMtimeNs : Int
  fileSize : Nat
deriving DecidableEq, Repr

structure Connection where
  credentialRef : String
  account : Option Nat
  enabled : Bool
deriving DecidableEq, Repr

inductive SyncDirection where
  | bidirectional
  | uploadOnly
deriving DecidableEq, Repr

inductive UploadScope where
  | all
  | selectedAlbums
deriving DecidableEq, Repr

structure Job where
  connection : Nat
  localRoot : String
  direction : SyncDirection
  uploadScope : UploadScope
  uploadAlbums : List String
  cycleId : Option String
  paused : Bool
  configGeneration : Nat
  zoneName : String
  owner : String
deriving DecidableEq, Repr

-- sync_job_changes: the accepted edit that is not installed yet.
structure PendingChange where
  revision : Nat
  uploadAlbums : Option (List String)
  direction : Option SyncDirection
  delete : Bool
deriving DecidableEq, Repr

structure LocalDigest where
  entryId : Nat
  localVersion : Nat
  digest : ContentDigest
deriving DecidableEq, Repr

-- One synchronized path of a job. The baseline photo, which the schema keeps
-- as records owned by the entry, is a column here.
structure Entry where
  job : Nat
  media : Option Nat
  relativePath : String
  retired : Bool
  dirty : NativeDirty
  uploadError : Option String
  localVersion : Nat
  metadataVersion : Nat
  contentVersion : Nat
  deletionVersion : Nat
  ackedMetadataVersion : Nat
  ackedContentVersion : Nat
  ackedDeletionVersion : Nat
  events : EditEvents
  digest : Option LocalDigest
  photoId : Option String
  masterId : Option String
  assetRevision : Option String
  masterRevision : Option String
  confirmedGeneration : Option String
  contentGeneration : Option String
  baseline : Option RemotePhoto
deriving DecidableEq, Repr

-- What an INSERT that names only the job, the path and a few columns leaves in the others.
def Entry.inserted (job : Nat) (relativePath : String) : Entry where
  job := job
  media := none
  relativePath := relativePath
  retired := false
  dirty := .clean
  uploadError := none
  localVersion := 0
  metadataVersion := 0
  contentVersion := 0
  deletionVersion := 0
  ackedMetadataVersion := 0
  ackedContentVersion := 0
  ackedDeletionVersion := 0
  events := .none
  digest := none
  photoId := none
  masterId := none
  assetRevision := none
  masterRevision := none
  confirmedGeneration := none
  contentGeneration := none
  baseline := none

-- A received record waiting for promotion: the sync_records rows whose owner
-- kind is pending, position 0 for the master and 1 for the asset.
structure Fragment where
  job : Nat
  entry : Nat
  master : Bool
  photoId : Option String
  record : NativeRecord
deriving DecidableEq, Repr

inductive UploadPhase where
  | delete
  | modify
  | create
deriving DecidableEq, Repr

structure Versions where
  localVersion : Nat
  metadataVersion : Nat
  contentVersion : Nat
  deletionVersion : Nat
deriving DecidableEq, Repr

def Entry.versions (entry : Entry) : Versions := ⟨entry.localVersion, entry.metadataVersion, entry.contentVersion, entry.deletionVersion⟩

structure LocalMetadata where
  isTrashed : Int
  isFavorite : Int
  assetDate : Option Int
  relativePath : String
deriving DecidableEq, Repr

structure PreparedResource where
  path : String
  digest : ContentDigest
  session : Option String
  asset : Option AssetDescriptor
deriving DecidableEq, Repr

structure PreparedResources where
  original : PreparedResource
  thumbnail : PreparedResource
deriving DecidableEq, Repr

structure Preparation where
  sendMetadata : Bool
  metadata : LocalMetadata
  events : EditEvents
  assetRevision : Option String
  masterRevision : Option String
  resources : Option PreparedResources
deriving DecidableEq, Repr

inductive OperationType where
  | create
  | update
  | delete
deriving DecidableEq, Repr

structure RequestRecord where
  recordName : String
  recordType : Option String
  recordChangeTag : Option String
  fields : Fields
  events : EditEvents
deriving DecidableEq, Repr

structure RecordOperation where
  operationType : OperationType
  record : RequestRecord
deriving DecidableEq, Repr

structure RequestBody where
  zone : ZoneId
  operations : List RecordOperation
deriving DecidableEq, Repr

structure Issued where
  id : String
  job : Nat
  config : Nat
  entry : Nat
  generation : String
  phase : UploadPhase
  versions : Versions
  dirty : NativeDirty
  photo : String
  master : String
  contentGeneration : String
  body : Option RequestBody
  preparation : Preparation
deriving DecidableEq, Repr

inductive TaskState where
  | issued
  | confirmed
  | failed
deriving DecidableEq, Repr

structure Task where
  operationId : String
  job : Nat
  entry : Option Nat
  action : UploadPhase
  state : TaskState
  issued : Issued
deriving DecidableEq, Repr

structure Conflict where
  job : Nat
  entry : Nat
  isOpen : Bool
  reason : String
  remote : Option RemotePhoto
  recovery : Option String
deriving DecidableEq, Repr

inductive AssetRole where
  | original
  | thumbnail
deriving DecidableEq, Repr

inductive ResourceState where
  | pending
  | staged
  | verified
  | retained
  | failed
deriving DecidableEq, Repr

structure Resource where
  job : Nat
  generation : String
  assetId : String
  role : AssetRole
  recordName : Option String
  expectedSha256 : Option String
  expectedSize : Option Nat
  stagingPath : Option String
  state : ResourceState
  verifiedCache : Option String
deriving DecidableEq, Repr

-- What a placement decision captured. A collision capture has no projection.
structure Capture where
  job : Nat
  entry : Nat
  localVersion : Nat
  config : Nat
  dirty : NativeDirty
  photo : Option String
  contentGeneration : Option String
  preserveMetadata : Bool
  localRelativePath : Option String
  favorite : Option Int
  takenAt : Option Int
  projection : Option RemotePhoto
deriving DecidableEq, Repr

structure FileStamp where
  length : Nat
  modified : Nat
deriving DecidableEq, Repr

structure FileIdentity where
  inode : Nat
  length : Nat
  modified : Int
deriving DecidableEq, Repr

-- What a publication or a collision journals before it touches the disk.
structure RecoveryDetails where
  collision : Bool := false
  source : Option String := none
  preserved : Option String := none
  root : Option String := none
  target : Option String := none
  next : Option String := none
  backup : Option String := none
  oldPath : Option String := none
  sha256 : Option String := none
  size : Option Nat := none
  hadOld : Option Bool := none
  identity : Option FileIdentity := none
  oldStamp : Option FileStamp := none
  oldLocalStamp : Option FileStamp := none
deriving DecidableEq, Repr

inductive PublicationState where
  | pending
  | publishing
  | complete
  | superseded
deriving DecidableEq, Repr

structure Publication where
  publicationId : String
  job : Nat
  entry : Option Nat
  photoId : Option String
  masterId : Option String
  originalAssetId : Option String
  thumbnailAssetId : Option String
  state : PublicationState
  capture : Option Capture
  details : Option RecoveryDetails
deriving DecidableEq, Repr

structure TypeMarker where
  complete : Bool
  continuationMarker : Option String
  recordCount : Nat
deriving DecidableEq, Repr

structure NativeNamespace where
  tenant : String
  container : String
  environment : String
  database : String
deriving DecidableEq, Repr

structure NativeProgress where
  job : Nat
  zoneName : String
  owner : String
  zoneNamespace : NativeNamespace
  databaseGeneration : String
  scopeDigest : String
  snapshotToken : Option String
  bootstrapStarted : Bool
  bootstrapTypes : List (String × TypeMarker)
  ingestToken : Option String
  appliedToken : Option String
  targetToken : Option String
deriving DecidableEq, Repr

structure ResetIntent where
  token : String
  error : Option String
deriving DecidableEq, Repr

-- One local change as it was recorded on an entry, with the local version it
-- produced. The journal is a history variable: no operation reads it.
structure LocalChange where
  entry : Nat
  category : ChangeCategory
  version : Nat
deriving DecidableEq, Repr

structure Store where
  media : Table Media
  connections : Table Connection
  jobs : Table Job
  changes : List (Nat × PendingChange)
  entries : Table Entry
  fragments : Table Fragment
  tasks : Table Task
  conflicts : Table Conflict
  publications : Table Publication
  resources : Table Resource
  progress : Table NativeProgress
  reset : Option ResetIntent
  localChangesEnabled : Bool
  selectedAccount : Option Int
  journal : List LocalChange

def Store.empty : Store where
  media := .empty
  connections := .empty
  jobs := .empty
  changes := []
  entries := .empty
  fragments := .empty
  tasks := .empty
  conflicts := .empty
  publications := .empty
  resources := .empty
  progress := .empty
  reset := none
  localChangesEnabled := true
  selectedAccount := none
  journal := []

end PhotoSync
