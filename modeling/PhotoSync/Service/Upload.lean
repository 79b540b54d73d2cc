import PhotoSync.Service.Body
import PhotoSync.Store.Command

set_option autoImplicit false

namespace PhotoSync
open Relational Transaction

structure DirtyEntry where
  entryId : Nat
  columns : Entry

namespace DirtyEntry

def matchesPhase (entry : DirtyEntry) (phase : UploadPhase) : Bool :=
  match entry.columns.dirty with
  | .delete => phase == .delete
  | .new => phase == .create
  | .modified => phase == .modify
  | .clean => false

def contentDue (entry : DirtyEntry) (phase : UploadPhase) : Bool := phase == .create || phase == .modify && entry.columns.contentPending

end DirtyEntry

structure Names where
  operation : String
  photo : String
  master : String
  generation : String

namespace DirtyEntry

def operation (entry : DirtyEntry) (phase : UploadPhase) (names : Names) (config : Nat) (generation : String)
    (metadata : LocalMetadata) : Issued where
  id := names.operation
  job := entry.columns.job
  config := config
  entry := entry.entryId
  generation := generation
  phase := phase
  versions := entry.columns.versions
  dirty := entry.columns.dirty
  photo := entry.columns.photoId.getD names.photo
  master := entry.columns.masterId.getD names.master
  contentGeneration := entry.columns.contentGeneration.getD names.generation
  body := none
  preparation :=
    { sendMetadata := phase == .create || entry.columns.metadataPending
      metadata := metadata
      events := entry.columns.events
      assetRevision := if phase == .delete then none else entry.columns.assetRevision
      masterRevision := if phase == .delete then none else entry.columns.masterRevision
      resources := none }

def deletion (entry : DirtyEntry) (name : String) (revision : Option String) : RecordOperation :=
  ⟨.delete, ⟨name, none, revision, [], { EditEvents.none with deletion := entry.columns.events.deletion }⟩⟩

def deleteBody (entry : DirtyEntry) (operation : Issued) (zone : ZoneId) : RequestBody :=
  ⟨zone, [entry.deletion operation.photo entry.columns.assetRevision, entry.deletion operation.master entry.columns.masterRevision]⟩

def issue (entry : DirtyEntry) (phase : UploadPhase) (names : Names) (config : Nat) (generation : String)
    (metadata : LocalMetadata) (zone : ZoneId) : Issued :=
  let operation := entry.operation phase names config generation metadata
  if phase == .delete then { operation with body := some (entry.deleteBody operation zone) } else operation

end DirtyEntry

-- An item that was never published is cancelled by ConfirmAbsentDeletion; one
-- with half an identity waits for reconciliation.
def DirtyEntry.deletable (entry : DirtyEntry) : Bool := entry.columns.photoId.isSome && entry.columns.masterId.isSome

-- local_metadata is two queries: the columns of the row, then the baseline.
def Store.localMetadataThen (columns baseline : Store) (entry : Nat) : Result LocalMetadata := do
  let row ← requireRow (columns.entries.get entry)
  return { row with baseline := (baseline.entries.get entry).bind Entry.baseline }.localMetadata
    (row.media.bind columns.media.get)

-- Where one upload stands: its local variables between two steps of prepare_and_send and execute_issued. A thumbnail
-- is kept with the state of the store it was read in.
inductive Activity where
  | listed (entry : DirtyEntry) (phase : UploadPhase)
  | current (entry : DirtyEntry) (phase : UploadPhase)
  | rendered (entry : DirtyEntry) (phase : UploadPhase) (thumbnail : Option (PreparedResource × Store))
  | reading (entry : DirtyEntry) (phase : UploadPhase) (thumbnail : Option (PreparedResource × Store)) (columns : Store)
  | captured (entry : DirtyEntry) (thumbnail : Option (PreparedResource × Store)) (operation : Issued)
  | prepared (entry : DirtyEntry) (operation : Issued)
  | verified (operation : Issued)
  | executing (operation : Issued)

structure Reading where
  operation : String
  columns : Store
  baseline : Store

structure Snapshot where
  operation : String
  original : Store
  thumbnail : Store
  resources : PreparedResources

-- The store, the uploads in progress, and a history of the states in which
-- each operation read its metadata and its content.
structure Service where
  store : Store
  activities : List Activity
  readings : List Reading
  snapshots : List Snapshot

inductive ServiceEvent where
  | elsewhere (command : Command)
  | list (entry : Nat) (phase : UploadPhase)
  | check (activity : Nat)
  | render (activity : Nat) (path : String) (digest : ContentDigest)
  | skipContent (activity : Nat)
  | readColumns (activity : Nat)
  | capture (activity : Nat) (names : Names) (config : Nat) (generation : String) (zone : ZoneId)
  | snapshot (activity : Nat) (path : String) (digest : ContentDigest) (generation : String)
  | keepContent (activity : Nat)
  | verify (activity : Nat)
  | save (activity : Nat) (epoch : Epoch)
  | resume (task : Nat)
  | reserve (activity : Nat) (epoch : Epoch) (role : AssetRole) (session : String)
  | publish (activity : Nat) (epoch : Epoch) (role : AssetRole) (asset : AssetDescriptor)
  | compose (activity : Nat) (epoch : Epoch) (zone : ZoneId)
  | confirm (activity : Nat) (epoch : Epoch) (response : Option (List ConfirmedRecord)) (leaseHeld : Bool)
  | abandon (activity : Nat)

def Command.belongsToUpload : Command → Bool
  | .save .. => true
  | .confirm .. => true
  | _ => false

def Store.uplinkEntryVersion (s : Store) (job entry : Nat) : Option Nat :=
  ((s.entries.get entry).filter (fun row => row.job == job && row.dirty != .clean)).map Entry.localVersion

def PreparedResources.change (role : AssetRole) (rewrite : PreparedResource → PreparedResource)
    (resources : PreparedResources) : PreparedResources :=
  match role with
  | .original => { resources with original := rewrite resources.original }
  | .thumbnail => { resources with thumbnail := rewrite resources.thumbnail }

def Issued.withResources (generation : String) (resources : PreparedResources) (operation : Issued) : Issued :=
  { operation with
    contentGeneration := generation
    preparation := { operation.preparation with resources := some resources } }

def Issued.changeResource (role : AssetRole) (rewrite : PreparedResource → PreparedResource) (operation : Issued) : Issued :=
  { operation with preparation := { operation.preparation with
    resources := operation.preparation.resources.map (PreparedResources.change role rewrite) } }

def Issued.published (operation : Issued) : Bool :=
  operation.preparation.resources.all (fun resources => resources.original.asset.isSome && resources.thumbnail.asset.isSome)

namespace Service

def empty : Service := ⟨.empty, [], [], []⟩

def become (service : Service) (index : Nat) (activity : Activity) : Service :=
  { service with activities := service.activities.set index activity }

def stale {α : Type} : Result α := invalid "the upload is at another step"

def saveAs (service : Service) (index : Nat) (epoch : Epoch) (operation : Issued) : Result Service := do
  let store ← service.store.saveIssued epoch operation
  return { service.become index (.executing operation) with store := store }

def perform (platform : Platform) (service : Service) : ServiceEvent → Result Service
  | .elsewhere command => do
    ensure (!command.belongsToUpload) "an upload saves and confirms its own operation"
    let store ← command.execute platform service.store
    return { service with store := store }
  | .list entry phase => do
    let row ← requireRow (service.store.entries.get entry)
    ensure (DirtyEntry.matchesPhase ⟨entry, row⟩ phase) "the entry waits for another phase"
    return { service with activities := service.activities ++ [.listed ⟨entry, row⟩ phase] }
  | .check index =>
    match service.activities[index]? with
    | some (.listed entry phase) => do
      ensure (service.store.uplinkEntryVersion entry.columns.job entry.entryId == some entry.columns.localVersion)
        "the entry changed since it was listed"
      return service.become index (.current entry phase)
    | _ => stale
  | .render index path digest =>
    match service.activities[index]? with
    | some (.current entry phase) => do
      ensure (entry.contentDue phase) "no content is due"
      return service.become index (.rendered entry phase (some (⟨path, digest, none, none⟩, service.store)))
    | _ => stale
  | .skipContent index =>
    match service.activities[index]? with
    | some (.current entry phase) => do
      ensure (!entry.contentDue phase) "content is due"
      return service.become index (.rendered entry phase none)
    | _ => stale
  | .readColumns index =>
    match service.activities[index]? with
    | some (.rendered entry phase thumbnail) => .ok (service.become index (.reading entry phase thumbnail service.store))
    | _ => stale
  | .capture index names config generation zone =>
    match service.activities[index]? with
    | some (.reading entry phase thumbnail columns) => do
      let metadata ← columns.localMetadataThen service.store entry.entryId
      ensure (phase != .delete || entry.deletable)
        "unconfirmed local creation requires cancellation/reconciliation before cloud deletion"
      let operation := entry.issue phase names config generation metadata zone
      return { service.become index (.captured entry thumbnail operation) with
        readings := ⟨operation.id, columns, service.store⟩ :: service.readings }
    | _ => stale
  | .snapshot index path digest generation =>
    match service.activities[index]? with
    | some (.captured entry (some (thumbnail, seen)) operation) =>
      let resources : PreparedResources := ⟨⟨path, digest, none, none⟩, thumbnail⟩
      .ok { service.become index (.prepared entry (operation.withResources generation resources)) with
        snapshots := ⟨operation.id, service.store, seen, resources⟩ :: service.snapshots }
    | _ => stale
  | .keepContent index =>
    match service.activities[index]? with
    | some (.captured entry none operation) => .ok (service.become index (.prepared entry operation))
    | _ => stale
  | .verify index =>
    match service.activities[index]? with
    | some (.prepared entry operation) => do
      ensure (service.store.uplinkEntryVersion entry.columns.job entry.entryId == some entry.columns.localVersion)
        "local version changed while preparing the operation"
      return service.become index (.verified operation)
    | _ => stale
  | .save index epoch =>
    match service.activities[index]? with
    | some (.verified operation) => service.saveAs index epoch operation
    | _ => stale
  | .resume task => do
    let found ← requireRow (service.store.tasks.get task)
    ensure (found.state == .issued) "the operation is settled"
    return { service with activities := service.activities ++ [.executing found.issued] }
  | .reserve index epoch role session =>
    match service.activities[index]? with
    | some (.executing operation) => do
      ensure operation.body.isNone "the request is composed"
      service.saveAs index epoch (operation.changeResource role (fun resource => { resource with session := some session }))
    | _ => stale
  | .publish index epoch role asset =>
    match service.activities[index]? with
    | some (.executing operation) => do
      ensure operation.body.isNone "the request is composed"
      service.saveAs index epoch (operation.changeResource role (fun resource => { resource with asset := some asset }))
    | _ => stale
  | .compose index epoch zone =>
    match service.activities[index]? with
    | some (.executing operation) => do
      ensure (operation.body.isNone && operation.published) "a resource is not uploaded"
      let body ← operation.bodyFor zone
      service.saveAs index epoch { operation with body := some body }
    | _ => stale
  | .confirm index epoch response leaseHeld =>
    match service.activities[index]? with
    | some (.executing operation) => do
      let store ← service.store.confirm epoch operation response leaseHeld
      return { service with store := store }
    | _ => stale
  | .abandon index => .ok { service with activities := service.activities.eraseIdx index }

end Service
end PhotoSync
