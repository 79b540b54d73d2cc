import PhotoSync.Store.Tables

set_option autoImplicit false

namespace PhotoSync

-- The SET clauses of every statement that rewrites the obligation columns of a sync entry, one function a statement.
-- A statement's WHERE clause and its uniqueness checks belong to the operations that issue it.
namespace Entry

def metadataPending (entry : Entry) : Bool := decide (entry.ackedMetadataVersion < entry.metadataVersion)

def contentPending (entry : Entry) : Bool := decide (entry.ackedContentVersion < entry.contentVersion)

def withChange (category : ChangeCategory) (stamp : EditEvent) (entry : Entry) : Entry :=
  match category with
  | .metadata => { entry with
    metadataVersion := entry.metadataVersion + 1, events := { entry.events with metadata := some stamp } }
  | .content => { entry with
    contentVersion := entry.contentVersion + 1, events := { entry.events with content := some stamp } }
  | .deletion => { entry with
    deletionVersion := entry.deletionVersion + 1, events := { entry.events with deletion := some stamp } }

-- CASE WHEN bit=4 THEN 4 WHEN native_dirty=4 THEN 4 WHEN native_photo_id IS NULL THEN 1 ELSE 2 END.
def markedDirty (category : ChangeCategory) (entry : Entry) : NativeDirty :=
  if category = .deletion ∨ entry.dirty = .delete then .delete
  else if entry.photoId = none then .new
  else .modified

def mark (category : ChangeCategory) (stamp : EditEvent) (entry : Entry) : Entry :=
  { entry.withChange category stamp with
    dirty := entry.markedDirty category
    localVersion := entry.localVersion + 1
    digest := none }

def confirmDelete (versions : Versions) (entry : Entry) : Entry :=
  let unmoved := entry.localVersion == versions.localVersion
  { entry with
    retired := unmoved
    photoId := none
    masterId := none
    assetRevision := none
    masterRevision := none
    contentGeneration := none
    confirmedGeneration := none
    baseline := none
    dirty := if unmoved then .clean else .new
    ackedDeletionVersion := max entry.ackedDeletionVersion versions.deletionVersion }

end Entry

def Issued.metadataSent (operation : Issued) : Bool := operation.phase == .create || operation.preparation.sendMetadata

def Issued.contentSent (operation : Issued) : Bool := operation.phase == .create || operation.preparation.resources.isSome

namespace Entry

-- Confirm of a create or modify operation: the first statement binds the
-- identity and acknowledges what was sent, the second settles the state.
def acknowledge (operation : Issued) (assetRevision masterRevision : Option String) (generation : String) (entry : Entry) : Entry :=
  { entry with
    retired := false
    photoId := some operation.photo
    masterId := some operation.master
    assetRevision := assetRevision.or entry.assetRevision
    masterRevision := masterRevision.or entry.masterRevision
    contentGeneration := some operation.contentGeneration
    confirmedGeneration := some generation
    ackedMetadataVersion := max entry.ackedMetadataVersion
      (if operation.metadataSent then operation.versions.metadataVersion else 0)
    ackedContentVersion := max entry.ackedContentVersion
      (if operation.contentSent then operation.versions.contentVersion else 0) }

def confirmedDirty (versions : Versions) (entry : Entry) : NativeDirty :=
  if entry.dirty = .delete then .delete
  else if entry.localVersion ≠ versions.localVersion ∨ entry.metadataPending ∨ entry.contentPending then .modified
  else .clean

def confirmUpload (operation : Issued) (assetRevision masterRevision : Option String) (generation : String) (entry : Entry) : Entry :=
  let acknowledged := entry.acknowledge operation assetRevision masterRevision generation
  { acknowledged with dirty := acknowledged.confirmedDirty operation.versions }

structure Settlement where
  photo : RemotePhoto
  assetRevision : Option String
  masterRevision : Option String
  preserveMetadata : Bool
  keepContent : Bool
  keepDelete : Bool
deriving DecidableEq, Repr

def Settlement.dirty (decision : Settlement) : NativeDirty :=
  if decision.keepDelete then .delete
  else if decision.preserveMetadata || decision.keepContent then .modified
  else .clean

def settle (decision : Settlement) (entry : Entry) : Entry :=
  { entry with
    photoId := some decision.photo.photoId
    masterId := some decision.photo.masterId
    dirty := decision.dirty
    assetRevision := decision.assetRevision.or entry.assetRevision
    masterRevision := decision.masterRevision.or entry.masterRevision
    ackedMetadataVersion := if decision.preserveMetadata then entry.ackedMetadataVersion else entry.metadataVersion
    ackedContentVersion := if decision.keepContent then entry.ackedContentVersion else entry.contentVersion
    ackedDeletionVersion := if decision.keepDelete then entry.ackedDeletionVersion else entry.deletionVersion }

-- Adoption of identical bytes: the pending metadata edit, if any, stands.
def adopt (media : Nat) (photo : RemotePhoto) (assetRevision masterRevision generation : String) (entry : Entry) : Entry := { entry with
    media := some media
    photoId := some photo.photoId
    masterId := some photo.masterId
    assetRevision := some assetRevision
    masterRevision := some masterRevision
    contentGeneration := some photo.contentGeneration
    confirmedGeneration := some generation
    dirty := if entry.metadataPending then .modified else .clean
    retired := false
    ackedContentVersion := max entry.ackedContentVersion entry.contentVersion
    ackedMetadataVersion := if entry.metadataPending then entry.ackedMetadataVersion
      else max entry.ackedMetadataVersion entry.metadataVersion }

def forgetIdentity (entry : Entry) : Entry :=
  { entry with
    photoId := none
    masterId := none
    baseline := none
    assetRevision := none
    masterRevision := none
    contentGeneration := none
    confirmedGeneration := none
    retired := false }

def retire (entry : Entry) : Entry :=
  { entry with
    retired := true
    dirty := .clean
    photoId := none
    masterId := none
    assetRevision := none
    masterRevision := none
    contentGeneration := none
    baseline := none
    confirmedGeneration := none }

def withBothEvents (stamp : EditEvent) (entry : Entry) : Entry :=
  { entry with
    metadataVersion := entry.metadataVersion + 1
    contentVersion := entry.contentVersion + 1
    events := { entry.events with metadata := some stamp, content := some stamp } }

def recreate (stamp : EditEvent) (entry : Entry) : Entry :=
  { entry.withBothEvents stamp with
    retired := false
    dirty := .new
    localVersion := entry.localVersion + 1 }

def deleteCloud (stamp : EditEvent) (entry : Entry) : Entry :=
  { entry with
    dirty := .delete
    localVersion := entry.localVersion + 1
    deletionVersion := entry.deletionVersion + 1
    events := { entry.events with deletion := some stamp } }

def bindIdentity (photo : RemotePhoto) (assetRevision masterRevision : String) (entry : Entry) : Entry :=
  { entry with
    photoId := some photo.photoId
    masterId := some photo.masterId
    assetRevision := some assetRevision
    masterRevision := some masterRevision
    contentGeneration := some photo.contentGeneration
    retired := false
    localVersion := entry.localVersion + 1 }

def keepLocal (stamp : EditEvent) (entry : Entry) : Entry := { entry.withBothEvents stamp with dirty := .modified }

def acceptCloud (entry : Entry) : Entry := { entry with dirty := .clean, baseline := none }

def relocate (path : String) (entry : Entry) : Entry :=
  { entry with relativePath := path, localVersion := entry.localVersion + 1, digest := none }

def admission (media : Nat) (photo : RemotePhoto) (assetRevision masterRevision : String) (generation : Option String)
    (path : String) (entry : Entry) : Entry :=
  { entry with
    media := some media
    photoId := some photo.photoId
    masterId := some photo.masterId
    assetRevision := some assetRevision
    masterRevision := some masterRevision
    contentGeneration := some photo.contentGeneration
    confirmedGeneration := generation
    relativePath := path
    digest := none }

end Entry
end PhotoSync
