import PhotoSync.Service.Files

set_option autoImplicit false

namespace PhotoSync
open Relational Transaction Durable Posix

def ownedPath (root path : String) : Routine Unit := do
  let relative ← required (Store.requireText (relativeUnder root path) "collision recovery escaped the root")
  let safe ← destination root relative
  demand (safe == path) "collision recovery path mismatch"

def returnSource (source preserved : String) (details : RecoveryDetails) : Routine Unit := do
  match ← statOf source with
  | some held => demand (some (fileIdentity held) == details.identity) "collision source changed after interruption"
  | none => onDisk (fun disk => disk.hardLink preserved source)

-- The original name comes back, and the name it was preserved under goes.
def restoreSource (source preserved : String) (details : RecoveryDetails) : Routine Unit := do
  match ← statOf preserved with
  | none => pure ()
  | some found => do
    demand (some (fileIdentity found) == details.identity) "preserved collision changed after interruption"
    returnSource source preserved details
    onDisk (fun disk => disk.remove preserved)

def recoverCollision (id : String) (details : RecoveryDetails) : Routine Unit := do
  let source ← required (Store.requireText details.source "collision recovery has no source")
  let preserved ← required (Store.requireText details.preserved "collision recovery has no preserved path")
  let root ← required (Store.requireText details.root "collision recovery has no root")
  ownedPath root source
  ownedPath root preserved
  demand (parentPath source == parentPath preserved) "collision recovery changed albums"
  restoreSource source preserved details
  onStore (fun s => .ok (s.abortCollision id))

structure LocalEntry where
  relativePath : String
  localPath : String
  fileSize : Nat
  entryId : Nat
  localVersion : Nat
  photoId : Option String
deriving DecidableEq, Repr

-- The live media rows at an entry's path; the entry's own media is not asked.
def Store.localEntry (s : Store) (owner : Job) (found : Nat × Entry) : List LocalEntry :=
  (s.media.select (fun _ item => item.path == underRoot owner.localRoot found.2.relativePath && item.trashedAt.isNone
    && item.storageLocation != .cloudOnly)).map (fun item =>
      ⟨found.2.relativePath, item.2.path, item.2.fileSize, found.1, found.2.localVersion, found.2.photoId⟩)

def Store.localEntriesForPaths (s : Store) (job : Nat) (paths : List String) : List LocalEntry :=
  match (s.jobs.get job).filter s.connectionEnabled with
  | none => []
  | some owner => (s.entries.select (fun _ row => row.job == job && paths.contains row.relativePath)).flatMap
    (s.localEntry owner)

-- What preserve_receive_paths knows when it moves a file aside, and a fresh identifier for each name it tries.
structure CollisionCall where
  job : Nat
  root : String
  config : Nat
  entry : LocalEntry
  dirty : NativeDirty
  photo : String
  reserved : List String
  ids : Nat → String

def identityOf (path : String) : Routine FileIdentity := do
  if ← .read (fun world => world.symlink path) then refuse "a receive collision is not a regular file"
  else
    match ← statOf path with
    | none => .fail (.io .notFound)
    | some held => pure (fileIdentity held)

def fileStem (path : String) : Option String :=
  let name := fileName path
  if name = [] ∨ name = ['.', '.'] then none else some (String.ofList (splitExtension name).1)

def preservedName (path stem : String) (number : Nat) : String :=
  stem ++ "_" ++ toString number ++ ((splitExtension (fileName path)).2.elim "" (fun ending => "." ++ String.ofList ending))

def Store.occupied (s : Store) (job : Nat) (relative path : String) : Bool :=
  s.entries.any (fun _ row => row.job == job && row.relativePath == relative) || s.media.any (fun _ item => item.path == path)

def CollisionCall.capture (call : CollisionCall) : Capture where
  job := call.job
  entry := call.entry.entryId
  localVersion := call.entry.localVersion
  config := call.config
  dirty := call.dirty
  photo := some call.photo
  contentGeneration := none
  preserveMetadata := false
  localRelativePath := none
  favorite := none
  takenAt := none
  projection := none

def CollisionCall.details (call : CollisionCall) (identity : FileIdentity) (preserved : String) : RecoveryDetails where
  collision := true
  source := some call.entry.localPath
  preserved := some preserved
  root := some call.root
  identity := some identity

-- Whether the file is now under this name; another name is tried when the name was taken in the meantime.
def preserveAs (platform : Platform) (call : CollisionCall) (identity : FileIdentity) (id preserved : String) : Routine Bool := do
  onStore (fun s => recordDetails (call.details identity preserved)
    (s.beginCollision id call.capture (call.details identity preserved)))
  let now ← identityOf call.entry.localPath
  if now != identity then do
    onStore (fun s => .ok (s.abortCollision id))
    refuse "local collision changed before preservation"
  else
    match ← (onDisk (fun disk => disk.hardLink call.entry.localPath preserved)).attempt with
    | .error failure => do
      onStore (fun s => .ok (s.abortCollision id))
      if failure = .io .alreadyExists then pure false else .fail failure
    | .ok () =>
      match ← (onDisk (fun disk => disk.remove call.entry.localPath)).attempt with
      | .error failure => do
        recoverCollision id (call.details identity preserved)
        .fail failure
      | .ok () =>
        match ← (onStore (fun s => s.finishCollision platform id)).attempt with
        | .error failure => do
          recoverCollision id (call.details identity preserved)
          .fail failure
        | .ok () => pure true

def preserveFrom (platform : Platform) (call : CollisionCall) (identity : FileIdentity) (stem parent : String) :
    Nat → Nat → Routine String
  | 0, _ => refuse "no free numeric suffix for the local collision"
  | left + 1, number => do
    let preserved := joinPath parent (preservedName call.entry.localPath stem number)
    let relative ← required (Store.requireText (relativeUnder call.root preserved) "collision escaped the job root")
    let there ← .read (fun world => world.symlink preserved || world.disk.present preserved)
    if call.reserved.contains relative || there then preserveFrom platform call identity stem parent left (number + 1)
    else do
      let occupied ← .read (fun world => world.store.occupied call.job relative preserved)
      if occupied then preserveFrom platform call identity stem parent left (number + 1)
      else do
        let moved ← preserveAs platform call identity (call.ids number) preserved
        if moved then pure relative else preserveFrom platform call identity stem parent left (number + 1)

def preserveLocal (platform : Platform) (call : CollisionCall) : Routine String := do
  let identity ← identityOf call.entry.localPath
  let stem ← required (Store.requireText (fileStem call.entry.localPath) "collision path has no stem")
  let parent ← required (Store.requireText (parentPath call.entry.localPath) "collision path has no parent")
  preserveFrom platform call identity stem parent (2 ^ 32 - 1) 1

end PhotoSync
