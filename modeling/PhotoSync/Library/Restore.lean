import PhotoSync.Library.Relocate
import PhotoSync.Library.Trash

set_option autoImplicit false

namespace PhotoSync.Library
open Durable Posix Trash

section Trashing
variable (desktop : Desktop) (outside : Outside)

def moveFile (source target : Path) : Task Unit := do
  match ← (renameFile outside source target).attempt with
  | .ok () => pure ()
  | .error failure =>
    if failure = .io .crossesDevices then do
      let content ← readBytes outside source
      change outside (fun now tree => tree.persist now target content)
      removeFile outside source
    else .fail failure

def createDirAll (path : Path) : Task Unit := change outside (fun _ tree => tree.createDirAll path)

def trashinfoFor (original : Path) (date : String) : String :=
  "[Trash Info]\nPath=" ++ percentEncodePath desktop original ++ "\nDeletionDate=" ++ date ++ "\n"

def infoName (name : String) : Path := .ofText (name ++ ".trashinfo")

def trashCandidate (stem : String) (ext : Option String) (number : Nat) : String :=
  match ext.filter (fun ext => !ext.isEmpty) with
  | some ext => stem ++ "." ++ toString number ++ "." ++ ext
  | none => stem ++ "." ++ toString number

def freeTrashName (files info : Path) (last : String) : List String → Task String
  | [] => pure last
  | name :: rest => do
    if ← existsNow outside (files.join (.ofText name)) then freeTrashName files info last rest
    else if ← existsNow outside (info.join (infoName name)) then freeTrashName files info last rest
    else pure name

def uniqueTrashName (files info : Path) (basename : String) : Task String := do
  let path := Path.ofText basename
  let names := (List.range 10000).map (trashCandidate ((stemOf path).getD basename) (extensionOf path))
  let now ← clockNow outside
  freeTrashName outside files info (basename ++ "." ++ toString now) (basename :: names)

def movePathToTrashRoot (original root : Path) (date : String) : Task Unit := do
  let found ← (metadata outside original).attempt
  if found.toOption.any (fun stat => stat.kind == .file) then do
    createDirAll outside (infoDir root)
    createDirAll outside (filesDir root)
    match original.fileName.bind (fun name => fromUtf8 name.bytes) with
    | none => refuse "orig path has no filename"
    | some basename => do
      let actual ← uniqueTrashName outside (filesDir root) (infoDir root) basename
      let target := (filesDir root).join (.ofText actual)
      moveFile outside original target
      match ← (change outside (fun now tree => tree.persist now ((infoDir root).join (infoName actual))
          (utf8 (trashinfoFor desktop original date)))).attempt with
      | .ok () => pure ()
      | .error failure => do
        regardless (moveFile outside target original)
        .fail failure
  else refuse ("file does not exist: " ++ desktop.text original)

end Trashing

section Index
open List

def hexByte (digit : UInt8) : UInt8 := .ofNat (upperHex digit).toNat

abbrev ReadsBack (byte : UInt8) : Prop :=
  let encoded := (percentEncodeByte byte).flatMap String.utf8EncodeChar
  ('\n' ∉ percentEncodeByte byte ∧ '\x0d' ∉ percentEncodeByte byte) ∧ (encoded = [byte] ∧ byte ≠ percent ∨
    encoded = [percent, hexByte (byte / 16), hexByte (byte % 16)] ∧ hexPair (hexByte (byte / 16)) (hexByte (byte % 16)) = some byte)

theorem readsBack (byte : UInt8) : ReadsBack byte := by
  have table : ∀ number < 256, ReadsBack (.ofNat number) := by decide +kernel
  have here := table byte.toNat byte.toNat_lt
  rwa [UInt8.ofNat_toNat] at here

theorem percentDecode_encode (bytes : Bytes) : percentDecodeBytes (utf8 (String.ofList (bytes.flatMap percentEncodeByte))) = bytes := by
  unfold utf8
  rw [String.toUTF8_eq_toByteArray, String.toByteArray_ofList, utf8Encode]
  simp only [flatMap_assoc, data_toByteArray]
  induction bytes with
  | nil => rfl
  | cons byte rest ih =>
    rw [flatMap_cons]
    obtain ⟨-, ⟨plain, other⟩ | ⟨escaped, pair⟩⟩ := readsBack byte
    · rw [plain, singleton_append]
      generalize rest.flatMap _ = more at ih ⊢
      have passed : percentDecodeBytes (byte :: more) = byte :: percentDecodeBytes more := by
        rcases more with _ | ⟨high, _ | ⟨low, tail⟩⟩
        iterate 2 rfl
        simp only [percentDecodeBytes, if_neg other]
        split <;> rfl
      rw [passed, ih]
    · rw [escaped]
      simp only [cons_append, nil_append, percentDecodeBytes, pair, if_true, ih]

theorem trashinfo_names_original (desktop : Desktop) (original : Path) (date : String) :
    (pathLine (trashinfoFor desktop original date)).map (fun line => percentDecode desktop (String.ofList line)) =
      some (desktop.text original) := by
  have front : "[Trash Info]\nPath=".toList = "[Trash Info]".toList ++ '\n' :: "Path=".toList := by decide
  have back : "\nDeletionDate=".toList = '\n' :: "DeletionDate=".toList := by decide
  unfold pathLine textLines trashinfoFor percentEncodePath
  generalize spelled : (utf8 (desktop.text original)).flatMap percentEncodeByte = encoded
  have clean : ∀ letter ∉ "Path=".toList, (∀ byte, letter ∉ percentEncodeByte byte) → letter ∉ "Path=".toList ++ encoded := by
    intro letter start never member
    rcases mem_append.mp member with fixed | rest
    · exact start fixed
    · rw [← spelled] at rest
      obtain ⟨byte, -, inside⟩ := mem_flatMap.mp rest
      exact never byte inside
  simp only [String.toList_append, String.toList_ofList, front, back, append_assoc, cons_append]
  rw [splitOn_append_cons_self_of_not_mem (by decide), ← append_assoc,
    splitOn_append_cons_self_of_not_mem (clean '\n' (by decide) (fun byte => (readsBack byte).1.1))]
  have kept : stripSuffix ['\x0d'] ("Path=".toList ++ encoded) = none := by
    refine if_neg (fun ending => ?_)
    exact clean '\x0d' (by decide) (fun byte => (readsBack byte).1.2)
      ((isSuffixOf_iff_suffix.mp ending).subset (mem_singleton_self _))
  rw [map_cons, map_cons, find?_cons_of_neg (by decide), kept, Option.getD_none, find?_cons_of_pos (by simp),
    Option.map_some, Option.map_some, drop_left' (by decide), ← spelled, percentDecode, percentDecode_encode,
    desktop.lossy_utf8]

end Index

-- A directory is read in an order of its own.
def shown (order : Path → List FileName → List FileName) (tree : Tree) : FileSystem :=
  { tree.fileSystem with list := fun folder => (tree.list folder).map (order folder) }

section Prepare
variable (desktop : Desktop) (outside : Outside) (order : Path → List FileName → List FileName)

-- The path of the URI, the trash file of the entry that records it, and the entry's .trashinfo.
def trashedEntry (uri : String) (trashRoots : List Path) : Task (Path × Path × Path) := do
  let path ← .lift ((toPath desktop uri).mapError .store)
  let found ← .read (fun library => resolveTrashEntry desktop (shown order library.tree) path trashRoots)
  let (actual, info) ← .lift (found.mapError .store)
  return (path, (filesDirFor info).join (.ofText actual), info)

structure PreparedRestore where
  original : Path
  trashed : Path
  info : Path
deriving DecidableEq, Repr

-- A new file at the original path belongs to the user.
def moveBack (trashed original : Path) : Task Unit :=
  change outside (fun _ tree => if (tree.stat original).toBool then .error .alreadyExists else tree.rename trashed original)

def prepareRestore (uri : String) (trashRoots : List Path) : Task PreparedRestore := do
  let (path, trashed, info) ← trashedEntry desktop order uri trashRoots
  path.parent.elim (pure ()) (createDirAll outside)
  moveBack outside trashed path
  return ⟨path, trashed, info⟩

structure PreparedPermanentDelete where
  original : Path
  staged : Path
  info : Path
deriving DecidableEq, Repr

def preparePermanentDelete (uri : String) (trashRoots : List Path) : Task PreparedPermanentDelete := do
  let (_, original, info) ← trashedEntry desktop order uri trashRoots
  let suffix ← clockNow outside
  let staged := original.withExtension ("photo-viewer-delete-" ++ toString suffix)
  renameFile outside original staged
  return ⟨original, staged, info⟩

end Prepare
end PhotoSync.Library
