import PhotoSync.Library.Trash

set_option autoImplicit false

namespace PhotoSync
open Posix Transaction

def Media.live (row : Media) : Bool := row.trashedAt.isNone && row.storageLocation != .cloudOnly

-- load_unchanged_index, as the map it fills: a later row replaces an earlier.
def Store.unchangedIndex (s : Store) (uri : String) : Option (Int × Nat) :=
  (s.media.last? (fun _ row => row.live && row.uri == uri)).map (fun found => (found.2.fileMtimeNs, found.2.fileSize))

-- The time a scan compares: nanoseconds after the epoch that fit an i64.
def indexTime (modified : Int) : Option Int := if 0 ≤ modified ∧ modified < 2 ^ 63 then some modified else none

def isExcludedPath (path : Path) (excluded : List Path) : Bool := excluded.any path.startsWith

section Scan
variable (desktop : Desktop) (volume : Volume)

def scanRootIsAvailable (root : Path) : Bool := volume.fs.isDir root && (volume.fs.list root).toBool

def folderOf (path : Path) : Path := path.parent.getD ⟨[.root]⟩

def processFile (path : Path) (found : Stat) : Option NewMediaItem := (volume.extract path).map (fun takenAt => {
    uri := desktop.fromPath path
    path := desktop.text path
    folderPath := desktop.text (folderOf path)
    takenAt := takenAt
    fileMtimeNs := tsNs found.modified
    fileSize := found.size })

def unchanged (index : String → Option (Int × Nat)) (path : Path) (found : Stat) : Bool :=
  (indexTime found.modified).any (fun time => index (desktop.fromPath path) == some (time, found.size))

def scanFile (index : String → Option (Int × Nat)) (path : Path) : Option NewMediaItem :=
  match volume.fs.stat path with
  | .error _ => none
  | .ok found =>
    if found.kind != .file || !isSupportedMediaPath path || unchanged desktop index path found then none
    else processFile desktop volume path found

def walkedPaths (root : Path) (excluded : List Path) : List Path :=
  ((volume.fs.walk root).map root.below).filter (fun path => !isExcludedPath path excluded)

-- Items go to the store in batches; together they are the items of the walk.
def scanDir (root : Path) (excluded : List Path) (clock : Clock) (s : Store) : Result Store := do
  let items := (walkedPaths volume root excluded).filterMap (scanFile desktop volume s.unchangedIndex)
  let (s, _) ← s.upsertMediaItems (items.map (fun item => (item, clock.found item))) none
  return s

def scannedRoots (roots : List Path) : List Path := roots.filter (scanRootIsAvailable volume)

def scanRoots (roots excluded : List Path) (clock : Clock) (s : Store) : Result Store :=
  (scannedRoots volume roots).foldlM (fun s root => scanDir desktop volume root excluded clock s) s

def looksMissing (row : Media) : Bool := volume.fs.absent (.ofText row.folderPath) ||
    ((volume.fs.list (.ofText row.folderPath)).toBool && volume.fs.absent (.ofText row.path))

def collectMissing (roots excluded : List Path) (s : Store) : List Nat :=
  let available := roots.filter (scanRootIsAvailable volume)
  (s.media.select (fun _ row => row.live && available.any (Path.ofText row.path).startsWith &&
    !isExcludedPath (.ofText row.path) excluded && looksMissing volume row)).map Prod.fst

def vanished (clock : Clock) (path : String) : Option Store.Vanished :=
  if volume.fs.unlinked (.ofText path) then
    some ⟨path, Trash.isTrashed desktop volume (desktop.platform.fileUri path), clock.now, clock.stamp⟩
  else none

-- delete_media_by_ids_returning with the evidence of a prune.
def pruneMissing (clock : Clock) (ids : List Nat) (s : Store) : Result Store :=
  let paths := ids.filterMap (fun id => ((s.media.get id).filter (fun row => row.trashedAt.isNone)).map Media.path)
  s.deleteLiveMediaByPaths desktop.platform (paths.filterMap (vanished desktop volume clock))

-- Each file is looked at again just before its row goes, whatever the order in which the missing rows arrive.
def ScanAndPrune (roots excluded : List Path) (clock : Clock) (s t : Store) : Prop :=
  ∃ indexed order, scanRoots desktop volume roots excluded clock s = .ok indexed ∧
    order.Perm (collectMissing volume (scannedRoots volume roots) excluded indexed) ∧
    pruneMissing desktop volume clock order indexed = .ok t

end Scan
end PhotoSync
