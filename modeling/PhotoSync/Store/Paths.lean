import Mathlib.Data.List.Basic

set_option autoImplicit false

namespace PhotoSync

-- SQL's rtrim(root, '/').
def rtrimSlash (root : String) : String := String.ofList (root.toList.reverse.dropWhile (· == '/')).reverse

-- The path a job root and a relative path name, in SQL (concatenation) and in
-- the code (Path::join). The two agree on roots without trailing slashes.
def underRoot (root relative : String) : String := rtrimSlash root ++ "/" ++ relative

-- A path below a root loses the root and the slash after it. The SQL test `substr(path, 1, length(root) + 1) = root
-- || '/'`, `str::strip_prefix` and `Path::strip_prefix` agree on paths in the form a directory walk yields.
def relativeUnder (root path : String) : Option String :=
  let above := (rtrimSlash root).toList ++ ['/']
  if above.isPrefixOf path.toList then some (String.ofList (path.toList.drop above.length)) else none

def parentPath (path : String) : Option String :=
  match path.toList.reverse.dropWhile (· != '/') with
  | [] => if path.isEmpty then none else some ""
  | _ :: rest =>
    if rest.isEmpty then (if path == "/" then none else some "/") else some (String.ofList rest.reverse)

theorem relativeUnder_eq_some {root path relative : String} :
    relativeUnder root path = some relative ↔ path = underRoot root relative := by
  unfold relativeUnder underRoot
  constructor
  · intro found
    dsimp only at found
    split at found
    · next above =>
      obtain ⟨rest, split⟩ := List.isPrefixOf_iff_prefix.mp above
      rw [← split, List.drop_left] at found
      cases found
      apply String.toList_inj.mp
      rw [← split]
      simp
    · cases found
  · intro same
    subst same
    have shape : (rtrimSlash root ++ "/" ++ relative).toList = (rtrimSlash root).toList ++ ['/'] ++ relative.toList := by
      simp
    have above : ((rtrimSlash root).toList ++ ['/']).isPrefixOf (rtrimSlash root ++ "/" ++ relative).toList = true := by
      rw [shape, List.isPrefixOf_iff_prefix]
      exact List.prefix_append _ _
    rw [if_pos above, shape, List.drop_left, String.ofList_toList]

-- The reserved directory for entries whose path is not known yet, matched as
-- `LIKE '.photoviewer-sync-pending/%'` matches: ASCII case is ignored.
def placeholderPrefix : String := ".photoviewer-sync-pending/"

def isPlaceholder (path : String) : Bool := placeholderPrefix.toList.isPrefixOf (path.toList.map Char.toLower)

end PhotoSync
