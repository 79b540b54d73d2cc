import PhotoSync.Library.Desktop

set_option autoImplicit false

namespace PhotoSync
open Posix

namespace Trash

def hexDigit (byte : UInt8) : Option UInt8 :=
  if 48 ≤ byte ∧ byte ≤ 57 then some (byte - 48)
  else if 97 ≤ byte ∧ byte ≤ 102 then some (byte - 97 + 10)
  else if 65 ≤ byte ∧ byte ≤ 70 then some (byte - 65 + 10)
  else none

def percent : UInt8 := 37

def hexPair (high low : UInt8) : Option UInt8 :=
  match hexDigit high, hexDigit low with
  | some first, some second => some (first * 16 + second)
  | _, _ => none

-- An escape that is not two hexadecimal digits stays as it is.
def percentDecodeBytes : Bytes → Bytes
  | [] => []
  | byte :: high :: low :: rest =>
    match hexPair high low with
    | some value => if byte = percent then value :: percentDecodeBytes rest
      else byte :: percentDecodeBytes (high :: low :: rest)
    | none => byte :: percentDecodeBytes (high :: low :: rest)
  | byte :: rest => byte :: percentDecodeBytes rest

def percentDecode (desktop : Desktop) (input : String) : String := desktop.lossy (percentDecodeBytes (utf8 input))

def unreserved (byte : UInt8) : Bool :=
  (65 ≤ byte ∧ byte ≤ 90) || (97 ≤ byte ∧ byte ≤ 122) || (48 ≤ byte ∧ byte ≤ 57) || byte = 45 || byte = 46 ||
    byte = 95 || byte = 126 || byte = 47

def upperHex (digit : UInt8) : Char := Char.ofNat (if digit < 10 then 48 + digit.toNat else 55 + digit.toNat)

def percentEncodeByte (byte : UInt8) : List Char :=
  if unreserved byte then [Char.ofNat byte.toNat] else ['%', upperHex (byte / 16), upperHex (byte % 16)]

def percentEncodePath (desktop : Desktop) (path : Path) : String := String.ofList ((utf8 (desktop.text path)).flatMap percentEncodeByte)

structure TrashEntry where
  original : Path
  actualName : String
  infoPath : Path
  filePath : Path
deriving DecidableEq, Repr

def infoDir (root : Path) : Path := root.join (.ofText "info")

def filesDir (root : Path) : Path := root.join (.ofText "files")

def stripSuffix (ending text : List Char) : Option (List Char) :=
  if ending.isSuffixOf text then some (text.take (text.length - ending.length)) else none

-- str::lines: a carriage return before the line feed belongs to it.
def textLines (content : String) : List (List Char) :=
  (content.toList.splitOn '\n').map (fun line => (stripSuffix ['\x0d'] line).getD line)

def pathLine (content : String) : Option (List Char) :=
  ((textLines content).find? (fun line => "Path=".toList.isPrefixOf line)).map (List.drop 5)

section Entries
variable (desktop : Desktop) (fs : FileSystem)

-- One name of an info directory; anything that cannot be read is passed over.
def trashEntry (root : Path) (name : FileName) : Option TrashEntry := do
  let fileName ← fromUtf8 name.bytes
  let actual ← stripSuffix ".trashinfo".toList fileName.toList
  let infoPath := (infoDir root).child name
  let bytes ← (fs.read infoPath).toOption
  let content ← fromUtf8 bytes
  let recorded ← pathLine content
  let filePath := (filesDir root).join (.ofText (String.ofList actual))
  if fs.existsAt filePath then some ⟨.ofText (percentDecode desktop (String.ofList recorded)), String.ofList actual, infoPath, filePath⟩
  else none

def rootEntries (root : Path) : List TrashEntry :=
  match fs.list (infoDir root) with
  | .ok names => names.filterMap (trashEntry desktop fs root)
  | .error _ => []

def scanTrashEntries (trashRoots : List Path) : List TrashEntry := trashRoots.flatMap (rootEntries desktop fs)

def findTrashEntry (original : Path) (trashRoots : List Path) : Option (String × Path) :=
  ((scanTrashEntries desktop fs trashRoots).find? (fun entry => entry.original == original)).map
    (fun entry => (entry.actualName, entry.infoPath))

def resolveTrashEntry (original : Path) (trashRoots : List Path) : Result (String × Path) :=
  match findTrashEntry desktop fs original trashRoots with
  | some found => .ok found
  | none => invalid ("no verified trash entry for " ++ desktop.text original)

def filesDirFor (infoPath : Path) : Path :=
  match infoPath.parent.bind Path.parent with
  | some root => filesDir root
  | none => .ofText "/tmp/Trash/files"

def toPath (uri : String) : Result Path :=
  match desktop.toPath uri with
  | some path => .ok path
  | none => invalid ("URI is not a local file: " ++ uri)

-- The trash file that prepare_restore_in_roots moves back and prepare_permanent_delete_in_roots removes.
def trashedFile (uri : String) (trashRoots : List Path) : Result Path := do
  let path ← toPath desktop uri
  let (actual, info) ← resolveTrashEntry desktop fs path trashRoots
  return (filesDirFor info).join (.ofText actual)

-- trashed_file_uri(uri).is_ok(), over the roots of the original path.
def isTrashed (volume : Volume) (uri : String) : Bool :=
  match desktop.toPath uri with
  | some path => (trashedFile desktop volume.fs uri (volume.trashRootsFor path)).toBool
  | none => false

end Entries
end Trash
end PhotoSync
