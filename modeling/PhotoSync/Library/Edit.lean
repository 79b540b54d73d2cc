import PhotoSync.Library.Relocate

set_option autoImplicit false

namespace PhotoSync.Library
open Relational Transaction Durable Posix

-- What rendering and encoding an edit gives: the bytes of the new image, or why there are none.
abbrev Encoded : Type := Except AppError Bytes

section Names

def editedMark : List Char := "_edited_".toList

def digits (text : List Char) : Bool := !text.isEmpty && text.all (fun letter => '0' ≤ letter && letter ≤ '9')

-- rsplit_once: what comes before the last mark, and what comes after it.
def splitLast (mark : List Char) (text : List Char) : Option (List Char × List Char) :=
  ((List.range (text.length + 1)).reverse.find? (fun start => mark.isPrefixOf (text.drop start))).map (fun start =>
    (text.take start, text.drop (start + mark.length)))

-- An edit of an edited copy does not stack the marks.
def editedBase (stem : String) : String :=
  match splitLast editedMark stem.toList with
  | some (base, timestamp) => if !base.isEmpty && digits timestamp then .ofList base else stem
  | none => stem

def editedCandidate (original : Path) (timestamp : Nat) : Path :=
  let base := editedBase ((stemOf original).getD "image")
  let ext := (extensionOf original).getD "jpg"
  (original.parent.getD ⟨[.here]⟩).join (.ofText (base ++ "_edited_" ++ toString timestamp ++ "." ++ ext))

-- The first free name from this time on; a tree has one within its size.
def generateEditedPath (tree : Tree) (original : Path) (timestamp : Nat) : Path :=
  let free := (List.range (tree.nodes.length + 1)).find? (fun later =>
    !(tree.stat (editedCandidate original (timestamp + later))).toBool)
  editedCandidate original (timestamp + free.getD (tree.nodes.length + 1))

def backupPathFor (path : Path) : Path := .parse (path.bytes ++ utf8 ".bak")

end Names

section Save
variable (desktop : Desktop) (outside : Outside)

def acquire (path : Path) : Task Unit := do
  let _ ← metadata outside path
  pure ()

def stage (encoded : Encoded) : Task Bytes := do
  settle outside
  .lift encoded

def editedMetadata (source : Media) (path : Path) : Task NewMediaItem := do
  let found ← metadata outside path
  let _ ← readBytes outside path
  return {
    uri := desktop.fromPath path
    path := desktop.text path
    folderPath := source.folderPath
    takenAt := source.takenAt
    fileMtimeNs := tsNs found.modified
    fileSize := found.size }

def atomicCopy (source target : Path) : Task Unit := do
  let content ← readBytes outside source
  settle outside
  change outside (fun now tree => tree.persist now target content)
  settle outside

-- One row comes back, unless a publication is placing its file there.
def insertEdited (item : NewMediaItem) (stamp : EditEvent) : Task Unit := do
  let written ← .read (fun library => (library.store.upsertMediaItems [(item, stamp)] none).map Prod.snd)
  commit outside (fun s => (s.upsertMediaItems [(item, stamp)] none).map Prod.fst)
  if written.toOption.any List.isEmpty then refuse "saved copy row missing" else pure ()

def saveCopy (source : Media) (encoded : Encoded) (timestamp : Nat) (stamp : EditEvent) : Task Path := do
  let original := Path.ofText source.path
  acquire outside original
  let content ← stage outside encoded
  let target ← .read (fun library => generateEditedPath library.tree original timestamp)
  change outside (fun now tree => tree.persistNoclobber now target content)
  settle outside
  let item ← editedMetadata desktop outside source target
  match ← (insertEdited outside item stamp).attempt with
  | .ok () => pure target
  | .error failure => do
    regardless (removeFile outside target)
    .fail failure

def saveOverwrite (actor : Bool) (id : Nat) (source : Media) (encoded : Encoded) (stamp : EditEvent) : Task Path := do
  let path := Path.ofText source.path
  acquire outside path
  let before ← metadata outside path
  let content ← stage outside encoded
  settle outside
  settle outside
  let current ← metadata outside path
  if before.size ≠ current.size ∨ before.modified ≠ current.modified then
    refuse "source changed while rendering; reopen the image before saving"
  else do
    let backup := backupPathFor path
    atomicCopy outside path backup
    change outside (fun now tree => tree.persist now path content)
    settle outside
    match ← (do
        let item ← editedMetadata desktop outside source path
        commit outside (Store.updateMediaEditMetadata id item stamp)
        readBack outside actor id : Task Unit).attempt with
    | .ok () => pure path
    | .error failure =>
      match ← (atomicCopy outside backup path).attempt with
      | .ok () => .fail failure
      | .error rollback => refuse ("save commit failed: " ++ outside.describe failure ++ "; restore failed: " ++
        outside.describe rollback ++ "; original retained at " ++ desktop.text backup)

end Save
end PhotoSync.Library
