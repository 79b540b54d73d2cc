import PhotoSync.Library.Files

set_option autoImplicit false

namespace PhotoSync.Library
open Relational Transaction Durable Posix

def nanosPerSecond : Int := 1000000000

-- The seconds after the epoch that a chrono date can hold.
def lastSecond : Int := 8210266876799

def stemOf (path : Path) : Option String := path.fileName.bind (fun name => fromUtf8 name.splitExtension.1)

def extensionOf (path : Path) : Option String := path.extension.bind fromUtf8

def candidateName (stem ext : String) (number : Nat) : String :=
  if number = 0 then stem ++ "." ++ ext else stem ++ "_" ++ toString number ++ "." ++ ext

def candidatePaths (folder : Path) (stem ext : String) : List Path :=
  (List.range 10000).map (fun number => folder.join (.ofText (candidateName stem ext number)))

section Relocate
variable (desktop : Desktop) (outside : Outside)

def noAvailableName (folder : Path) (stem ext : String) : AppError :=
  .backend ("no available filename for " ++ stem ++ "." ++ ext ++ " in " ++ desktop.text folder)

def fillCopy (source target : Path) : Task Unit := do
  let content ← readBytes outside source
  writeBytes outside target content
  settle outside
  settle outside
  settle outside

def copyToUnique (source : Path) (taken : AppError) : List Path → Task Path
  | [] => .fail taken
  | candidate :: rest => do
    match ← (createNew outside candidate).attempt with
    | .error failure =>
      if failure = .io .alreadyExists then copyToUnique source taken rest else .fail failure
    | .ok () =>
      match ← (fillCopy outside source candidate).attempt with
      | .ok () => pure candidate
      | .error failure => do
        regardless (removeFile outside candidate)
        .fail failure

-- The source goes; if it will not, what was put in its stead goes.
def dropSource (source placed : Path) : Task Path := do
  match ← (removeFile outside source).attempt with
  | .ok () => pure placed
  | .error failure => do
    regardless (removeFile outside placed)
    .fail failure

def moveToUnique (source : Path) (taken : AppError) (all : List Path) : List Path → Task Path
  | [] => .fail taken
  | candidate :: rest => do
    match ← (hardLink outside source candidate).attempt with
    | .ok () => dropSource outside source candidate
    | .error failure =>
      if failure = .io .alreadyExists then moveToUnique source taken all rest
      else if failure = .io .crossesDevices then do
        let copied ← copyToUnique outside source taken all
        dropSource outside source copied
      else .fail failure

-- The time of the new file, cut to whole seconds; now where there is none.
def copiedTime (found : Except AppError Stat) (now : Int) : Int :=
  match found with
  | .ok stat =>
    if 0 ≤ stat.modified ∧ stat.modified / nanosPerSecond ≤ lastSecond then stat.modified / nanosPerSecond * nanosPerSecond
    else now
  | .error _ => now

def movedTime (found : Except AppError Stat) (now : Int) : Int :=
  match found with
  | .ok stat => stat.modified
  | .error _ => now

def rollbackMove (current original : Path) : Task Unit := do
  if ← existsNow outside original then pure () else regardless (renameFile outside current original)

-- The URI of the path itself, where the column has its text.
def platformAt (path : Path) : Platform := ⟨fun _ => desktop.fromPath path, desktop.photoSha256⟩

def updateMediaLocation (id : Nat) (path folder : Path) (stamp : EditEvent) : Task Unit := do
  let found ← (metadata outside path).attempt
  let now ← clockNow outside
  commit outside (Store.updateMediaLocation (platformAt desktop path) id (desktop.text path) (desktop.text folder)
    (tsNs (movedTime found now)) stamp)

def readBack (actor : Bool) (id : Nat) : Task Unit := do
  if actor then do
    let _ ← mediaItem outside id
    pure ()
  else pure ()

def insertMediaItem (actor : Bool) (item : NewMediaItem) : Task Unit := do
  let id ← .read (fun library => library.store.media.next)
  commit outside (fun s => s.insertMediaItem item)
  readBack outside actor id

def copiedItem (item : Media) (target folder : Path) (time : Int) : NewMediaItem where
  uri := desktop.fromPath target
  path := desktop.text target
  folderPath := desktop.text folder
  takenAt := item.takenAt
  fileMtimeNs := tsNs time
  fileSize := item.fileSize

def addCopy (actor : Bool) (item : Media) (folder : Path) : Task Path := do
  let source := Path.ofText item.path
  let stem := (stemOf source).getD "photo"
  let ext := (extensionOf source).getD "jpg"
  let target ← copyToUnique outside source (noAvailableName desktop folder stem ext) (candidatePaths folder stem ext)
  let found ← (metadata outside target).attempt
  let now ← clockNow outside
  match ← (insertMediaItem outside actor (copiedItem desktop item target folder (copiedTime found now))).attempt with
  | .ok () => pure target
  | .error failure => do
    regardless (removeFile outside target)
    .fail failure

def addMove (actor : Bool) (id : Nat) (item : Media) (folder : Path) (stamp : EditEvent) : Task Path := do
  let source := Path.ofText item.path
  let stem := (stemOf source).getD "photo"
  let ext := (extensionOf source).getD "jpg"
  let candidates := candidatePaths folder stem ext
  let target ← moveToUnique outside source (noAvailableName desktop folder stem ext) candidates candidates
  match ← (do updateMediaLocation desktop outside id target folder stamp; readBack outside actor id : Task Unit).attempt with
  | .ok () => pure target
  | .error failure => do
    rollbackMove outside target source
    .fail failure

inductive AlbumOpMode where
  | copy
  | move
deriving DecidableEq, Repr

def addOne (actor : Bool) (id : Nat) (item : Media) (folder : Path) (mode : AlbumOpMode) (stamp : EditEvent) : Task Path :=
  match mode with
  | .copy => addCopy desktop outside actor item folder
  | .move => addMove desktop outside actor id item folder stamp

end Relocate

section Rename

-- White_Space of Unicode.
def isSpace (letter : Char) : Bool :=
  let code := letter.toNat
  (9 ≤ code && code ≤ 13) || code == 32 || code == 133 || code == 160 || code == 5760 || (8192 ≤ code && code ≤ 8202)
    || code == 8232 || code == 8233 || code == 8239 || code == 8287 || code == 12288

def trim (text : String) : String := .ofList ((text.toList.dropWhile isSpace).reverse.dropWhile isSpace).reverse

def renameTargetPath (current : Path) (requested : String) : Except AppError Path :=
  let trimmed := trim requested
  if trimmed.isEmpty then .error (.backend "file name cannot be empty")
  else if trimmed.toList.any (fun letter => letter == '/' || letter == '\\' || letter == '\x00') then
    .error (.backend "file name cannot contain path separators")
  else
    match ((stemOf (.ofText trimmed)).map trim).filter (fun stem => !stem.isEmpty) with
    | none => .error (.backend "file name cannot be empty")
    | some stem =>
      match current.parent with
      | none => .error (.backend "current file has no parent folder")
      | some parent =>
        .ok (parent.join (.ofText (match extensionOf current with
          | some ext => stem ++ "." ++ ext
          | none => stem)))

variable (desktop : Desktop) (outside : Outside)

def renameMediaFile (id : Nat) (requested : String) (stamp : EditEvent) : Task Path := do
  let item ← mediaItem outside id
  let source := Path.ofText item.path
  let target ← .lift (renameTargetPath source requested)
  if target = source then pure target
  else do
    if ← existsNow outside target then refuse ("target file already exists: " ++ desktop.text target)
    else do
      renameFile outside source target
      match target.parent with
      | none => refuse "renamed file has no parent folder"
      | some parent =>
        match ← (do
            updateMediaLocation desktop outside id target parent stamp
            mediaItem outside id : Task Media).attempt with
        | .error failure => do
          regardless (renameFile outside target source)
          .fail failure
        | .ok changed =>
          if Path.ofText changed.path = target then pure target
          else do
            regardless (renameFile outside target source)
            refuse "renamed media row did not persist target path"

end Rename
end PhotoSync.Library
