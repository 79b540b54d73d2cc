import PhotoSync.Lib.Paths

set_option autoImplicit false

namespace Posix

inductive Kind where
  | file
  | directory
  | other
deriving DecidableEq, Repr

structure Stat where
  kind : Kind
  -- nanoseconds since the epoch
  modified : Int
  size : Nat
deriving DecidableEq, Repr

inductive Fault where
  | missing
  | refused
deriving DecidableEq, Repr

-- What a program can observe of a file system that does not change. Links, mounts and permissions show in the answers
-- only; all that is asked of them is that a path which leads to a file has a directory entry.
structure FileSystem where
  stat : Path → Except Fault Stat
  lstat : Path → Except Fault Stat
  list : Path → Except Fault (List FileName)
  read : Path → Except Fault Bytes
  -- the positions a walk visits below a path, which is the first of them
  walk : Path → List (List FileName)
  entered : ∀ path found, stat path = .ok found → lstat path ≠ .error .missing

namespace FileSystem

variable (fs : FileSystem)

def existsAt (path : Path) : Bool := (fs.stat path).toBool

def hasKind (kind : Kind) (path : Path) : Bool := match fs.stat path with
  | .ok found => found.kind == kind
  | .error _ => false

def isFile (path : Path) : Bool := fs.hasKind .file path

def isDir (path : Path) : Bool := fs.hasKind .directory path

def linksFile (path : Path) : Bool := match fs.lstat path with
  | .ok found => found.kind == .file
  | .error _ => false

def absent (path : Path) : Bool := match fs.stat path with
  | .error .missing => true
  | _ => false

def unlinked (path : Path) : Bool := match fs.lstat path with
  | .error .missing => true
  | _ => false

end FileSystem

inductive Node where
  | directory (readable : Bool)
  | file (content : Bytes) (modified : Int)
deriving DecidableEq, Repr

def Node.stat : Node → Stat
  | .directory _ => ⟨.directory, 0, 0⟩
  | .file content modified => ⟨.file, modified, content.length⟩

-- Directories and regular files by their names from the root down. Only what lies in a directory can be reached.
structure Tree where
  nodes : List (List FileName × Node)
deriving DecidableEq, Repr

namespace Tree

variable (tree : Tree)

def ofPaths (nodes : List (String × Node)) : Tree := ⟨nodes.map (fun held => ((Path.ofText held.1).names, held.2))⟩

def node (position : List FileName) : Option Node :=
  if position = [] then some (.directory true)
  else (tree.nodes.find? (fun held => held.1 == position)).map Prod.snd

def follow (position : List FileName) : Component → List FileName
  | .root => []
  | .here => position
  | .above => position.dropLast
  | .name held => position ++ [held]

def resolve : List FileName → List Component → Except Fault (List FileName)
  | position, [] => .ok position
  | position, part :: rest =>
    match tree.node position with
    | none => .error .missing
    | some (.file _ _) => .error .refused
    | some (.directory _) => resolve (follow position part) rest

def locate (path : Path) : Except Fault (List FileName) :=
  if path.parts = [] then .error .missing else tree.resolve [] path.parts

def lookup (path : Path) : Except Fault (List FileName × Node) :=
  match tree.locate path with
  | .error fault => .error fault
  | .ok position =>
    match tree.node position with
    | none => .error .missing
    | some node => .ok (position, node)

def stat (path : Path) : Except Fault Stat := (tree.lookup path).map (fun found => found.2.stat)

def step (position inner : List FileName) : Option (List FileName) :=
  if position.isPrefixOf inner then some (inner.drop position.length) else none

def list (path : Path) : Except Fault (List FileName) :=
  match tree.lookup path with
  | .error fault => .error fault
  | .ok (position, .directory true) => .ok (tree.nodes.filterMap (fun held =>
    match step position held.1 with
    | some [name] => some name
    | _ => none))
  | .ok _ => .error .refused

def read (path : Path) : Except Fault Bytes :=
  match tree.lookup path with
  | .error fault => .error fault
  | .ok (_, .file content _) => .ok content
  | .ok _ => .error .refused

def opens (position inner : List FileName) : Bool :=
  (List.range inner.length).all (fun depth => tree.node (position ++ inner.take depth) == some (.directory true))

def walk (path : Path) : List (List FileName) :=
  match tree.lookup path with
  | .error _ => []
  | .ok (position, _) => [] :: tree.nodes.filterMap (fun held =>
    match step position held.1 with
    | none => none
    | some inner => if inner ≠ [] ∧ tree.opens position inner then some inner else none)

def fileSystem : FileSystem where
  stat := tree.stat
  lstat := tree.stat
  list := tree.list
  read := tree.read
  walk := tree.walk
  entered := fun path found there missing => by rw [there] at missing; cases missing

end Tree
end Posix
