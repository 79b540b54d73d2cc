import PhotoSync.Lib.Crash
import PhotoSync.Library.Scan
import PhotoSync.Store.LocalOperation

set_option autoImplicit false

namespace PhotoSync
open Posix Durable

structure TrashedMedia where
  original : Path
  file : Path
deriving DecidableEq, Repr

section Prepare
variable (desktop : Desktop) (volume : Volume) (mediaRoots trashRoots : List Path)

-- The files an entry stands for: those inside a trashed directory have no entry of their own.
def entryMedia (entry : Trash.TrashEntry) : List TrashedMedia :=
  if !mediaRoots.any entry.original.startsWith then []
  else if volume.fs.existsAt entry.original then []
  else if volume.fs.isDir entry.filePath then (volume.fs.walk entry.filePath).filterMap (fun inner =>
    let file := entry.filePath.below inner
    if volume.fs.linksFile file && isSupportedMediaPath file then some ⟨entry.original.below inner, file⟩ else none)
  else if !isSupportedMediaPath entry.original then []
  else [⟨entry.original, entry.filePath⟩]

-- The item of the trash copy, under the place it was deleted from.
def processFileAt (media : TrashedMedia) : Option NewMediaItem :=
  match volume.extract media.file, volume.fs.stat media.file, volume.fs.read media.file with
  | some takenAt, .ok found, .ok _ => some {
    uri := desktop.fromPath media.original
    path := desktop.text media.original
    folderPath := desktop.text (folderOf media.original)
    takenAt := takenAt
    fileMtimeNs := tsNs found.modified
    fileSize := found.size }
  | _, _, _ => none

inductive Admission where
  | skip
  | mark (id : Nat)
  | insert (item : NewMediaItem)
deriving DecidableEq, Repr

def admission (s : Store) (media : TrashedMedia) : Admission :=
  match s.mediaOfUri (desktop.fromPath media.original) with
  | some (id, row) => if row.trashedAt.isSome then .skip else .mark id
  | none =>
    match processFileAt desktop volume media with
    | some item => .insert item
    | none => .skip

def Admission.marked : Admission → Option Nat
  | .mark id => some id
  | _ => none

def Admission.inserted : Admission → Option NewMediaItem
  | .insert item => some item
  | _ => none

def trashedMedia : List TrashedMedia := (Trash.scanTrashEntries desktop volume.fs trashRoots).flatMap (entryMedia volume mediaRoots)

def prunable (row : Media) : Bool :=
  row.trashedAt.isSome && !volume.fs.existsAt (.ofText row.path) && (Path.ofText row.path).parent.any volume.fs.isDir &&
    !(Trash.scanTrashEntries desktop volume.fs trashRoots).any (fun entry => entry.original == Path.ofText row.path)

def prepareTrashReconcile (clock : Clock) (s : Store) : TrashReconcilePlan :=
  let admissions := (trashedMedia desktop volume mediaRoots trashRoots).map (admission desktop volume s)
  { newItems := (admissions.filterMap Admission.inserted).map (fun item => (item, clock.found item))
    markIds := (admissions.filterMap Admission.marked).map (fun id => (id, clock.stamp id))
    pruneIds := (s.media.select (fun _ row => prunable desktop volume trashRoots row)).map (fun found =>
      (found.1, clock.stamp found.1)) }

end Prepare

section Commit
variable (now : Int)

def markMissing (id : Nat × EditEvent) : Program Store StoreError Unit := do
  .act (fun s => .ok (s.markTrashed id.1 now))
  .act (Store.commitTrashMetadata [id])

def markInserted (id : Nat) : Program Store StoreError Unit := .act (fun s => .ok (s.markTrashed id now))

def pruneRow (id : Nat × EditEvent) : Program Store StoreError Unit := .act (Store.commitPermanentDeletions [id])

-- Every statement is a transaction of its own: a failure keeps what came before.
def commitTrashReconcile (plan : TrashReconcilePlan) : Program Store StoreError Unit := do
  .forEach (markMissing now) plan.markIds
  let inserted ← .transact (fun s => s.upsertMediaItems plan.newItems none)
  .forEach (markInserted now) inserted
  .forEach pruneRow plan.pruneIds

end Commit

def reconcileTrash (desktop : Desktop) (volume : Volume) (mediaRoots trashRoots : List Path) (clock : Clock) :
    Program Store StoreError Unit := do
  let plan ← .read (prepareTrashReconcile desktop volume mediaRoots trashRoots clock)
  commitTrashReconcile clock.now plan

end PhotoSync
