import PhotoSync.Service.Collision
import PhotoSync.Service.Transfer

set_option autoImplicit false

namespace PhotoSync
open Relational Transaction Durable Posix

-- One call of publish_pair, with what it takes from elsewhere: two fresh identifiers, the clock, the date the file
-- carries, whether the thumbnail cache took the thumbnail, and the stamp of the local event.
structure PairCall (calendar : Calendar) where
  photo : RemotePhoto
  root : String
  original : String
  thumbnail : String
  job : Nat
  id : String
  newName : String
  backupName : String
  now : Int
  recorded : Option (DateTime calendar)
  cached : Bool
  stamp : EditEvent

structure PreparedPair where
  target : String
  next : String
  backup : String
  old : Option (Nat × File Bytes)
  details : RecoveryDetails
  item : NewMediaItem

section Paths

def temporaryPrefix : String := ".photoviewer-sync-"

def extensionOf (target : String) : String := ((splitExtension (fileName target)).2.map String.ofList).getD "bin"

def nextPath (parent target newName : String) : String := joinPath parent (temporaryPrefix ++ newName ++ ".new." ++ extensionOf target)

def backupPath (parent backupName : String) : String := joinPath parent (temporaryPrefix ++ backupName ++ ".old")

end Paths

variable {calendar : Calendar} (platform : Platform) (hash : Bytes → String)

def publicationPath (s : Store) (call : PairCall calendar) : Result String := do
  let capture ← s.captureOf call.id "missing publication capture"
  Store.admittedPath capture call.photo

def publishedRow (s : Store) (job : Nat) (photo : String) : Result (Bool × Option Media) := do
  let found ← requireRow (s.entryOfPhoto job photo)
  return (found.2.baseline.isSome, found.2.media.bind s.media.get)

def restoreModified (next : String) (media : Option Media) : Routine Unit :=
  match media with
  | none => pure ()
  | some row => onDisk (fun disk => disk.setModified next row.fileMtimeNs)

def refuseUnowned (next target : String) (old : Option (Nat × File Bytes)) (row : Bool × Option Media) : Routine Unit :=
  if old.isSome && (!row.1 || row.2.map Media.path != some target) then do
    let _ ← (onDisk (fun disk => disk.remove next)).attempt
    refuse "an unowned local file occupies the remote path"
  else pure ()

def modifiedOf (name : String) : Routine Int := do
  match ← statOf name with
  | none => .fail (.io .notFound)
  | some (_, file) => pure file.modified

def stampAt (name : Option String) : Routine (Option FileStamp) :=
  .read (fun world => (name.bind world.disk.stat).map (fun found => fileStamp found.2))

def preparePair (call : PairCall calendar) : Routine PreparedPair := do
  demand (!call.photo.isHidden) "hidden media requires explicit conflict resolution"
  verifyDescriptor hash call.original call.photo.original
  verifyDescriptor hash call.thumbnail call.photo.thumbnail
  let capture ← queried (fun s => s.captureOf call.id "missing publication capture")
  let relative ← queried (fun s => publicationPath s call)
  let target ← destination call.root relative
  let parent ← required (Store.requireText (parentPath target) "publication has no parent")
  let next := nextPath parent target call.newName
  let backup := backupPath parent call.backupName
  onDisk (fun disk => disk.copy call.original next call.now)
  let old ← statOf target
  let row ← queried (fun s => publishedRow s call.job call.photo.photoId)
  restoreModified next row.2
  refuseUnowned next target old row
  demand call.cached "thumbnail cache preparation failed"
  let modified ← modifiedOf next
  let oldLocalStamp ← stampAt (row.2.map Media.path)
  return {
    target, next, backup, old
    details := {
      target := some target, next := some next, backup := some backup, root := some call.root
      hadOld := some old.isSome, oldStamp := old.map (fun found => fileStamp found.2), oldPath := row.2.map Media.path
      oldLocalStamp, sha256 := some call.photo.thumbnailSourceSha256, size := some call.photo.original.size }
    item := placedItem platform capture call.photo target call.recorded modified }

def cleanupRenamedSource (details : RecoveryDetails) : Routine Unit :=
  match details.oldPath with
  | none => pure ()
  | some old =>
    match details.target with
    | none => refuse "publication target is missing"
    | some target =>
      if old == target then pure ()
      else do
        let root ← required (Store.requireText details.root "publication root is missing")
        let relative ← required (Store.requireText (relativeUnder root old) "renamed source escaped its job root")
        let _ ← destination root relative
        match ← statOf old with
        | none => pure ()
        | some (_, file) => do
          demand (some (fileStamp file) == details.oldLocalStamp)
            "previous path was edited during remote rename; file retained"
          onDisk (fun disk => disk.remove old)

def backUp (pair : PreparedPair) : Routine Unit :=
  if pair.old.isSome then onDisk (fun disk => disk.hardLink pair.target pair.backup) else pure ()

def removeFile (name : String) : Routine Unit := do
  if ← isFile name then onDisk (fun disk => disk.remove name) else pure ()

def undoPlacement (pair : PreparedPair) : Routine Unit := do
  let published ← matchesPublished hash pair.target pair.details
  demand published "local file changed before rollback; previous complete backup retained"
  if ← isFile pair.backup then onDisk (fun disk => disk.rename pair.backup pair.target)
  else if pair.old.isNone then onDisk (fun disk => disk.remove pair.target)
  else pure ()

def placePair (call : PairCall calendar) (pair : PreparedPair) : Routine Unit := do
  onStore (fun s => recordDetails pair.details (s.publishing call.id pair.details))
  let now ← statOf pair.target
  demand (pair.old.map (fun found => fileStamp found.2) == now.map (fun found => fileStamp found.2))
    "local file changed during publication preparation"
  backUp pair
  onDisk (fun disk => disk.rename pair.next pair.target)
  match ← (onStore (fun s => s.admission call.id call.photo pair.item call.stamp)).attempt with
  | .error failure => do
    undoPlacement hash pair
    .fail failure
  | .ok () => do
    removeFile pair.backup
    cleanupRenamedSource pair.details
    onStore (fun s => .ok (s.cleanPublication call.id))

def publishPair (call : PairCall calendar) : Routine Unit := do
  let pair ← preparePair platform hash call
  placePair hash call pair

-- An external edit after the interruption is never discarded.
def restoreBackup (target backup : String) (details : RecoveryDetails) : Routine Unit := do
  let found ← statOf target
  if found.isSome && found.map (fun held => fileStamp held.2) != details.oldStamp then do
    let published ← matchesPublished hash target details
    demand published "interrupted publication has a newer local edit; backup retained"
    onDisk (fun disk => disk.rename backup target)
  else onDisk (fun disk => disk.rename backup target)

def withdrawTarget (target : String) (details : RecoveryDetails) : Routine Unit := do
  let published ← matchesPublished hash target details
  demand published "unowned file at interrupted publication target"
  onDisk (fun disk => disk.remove target)

def restoreTarget (target backup : String) (details : RecoveryDetails) : Routine Unit := do
  if ← isFile backup then restoreBackup hash target backup details
  else do
    let there ← isFile target
    if details.hadOld == some false && there then withdrawTarget hash target details else pure ()

def recoverPublication (row : String × PublicationState) : Routine Unit := do
  let details ← queried (fun s => s.detailsOf row.1 "missing publication recovery details")
  if details.collision then recoverCollision row.1 details
  else do
    let target ← required (Store.requireText details.target "publication recovery path is missing")
    let backup ← required (Store.requireText details.backup "publication recovery path is missing")
    let next ← required (Store.requireText details.next "publication recovery path is missing")
    let root ← required (Store.requireText details.root "publication recovery path is missing")
    let relative ← required (Store.requireText (relativeUnder root target) "publication recovery escaped its root")
    let safe ← destination root relative
    demand (safe == target && parentPath backup == parentPath target && parentPath next == parentPath target)
      "publication recovery path ownership mismatch"
    if row.2 == .complete then do
      cleanupRenamedSource details
      removeFile backup
      removeFile next
      onStore (fun s => .ok (s.cleanPublication row.1))
    else do
      restoreTarget hash target backup details
      removeFile next
      onStore (fun s => .ok (s.rollback row.1))

def recorded (job : Nat) (row : Publication) : Bool :=
  row.job == job && row.details.isSome && (row.state == .publishing || row.state == .complete)

def recoverPublications (job : Nat) : Routine Unit := do
  let rows ← .read (fun world => (world.store.publications.select (fun _ row => recorded job row)).map (fun found =>
    (found.2.publicationId, found.2.state)))
  Program.forEach (recoverPublication hash) rows

end PhotoSync
