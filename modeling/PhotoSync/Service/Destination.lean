import PhotoSync.Store.Basic

set_option autoImplicit false

namespace PhotoSync
open List

def joinSegments (segments : List (List Char)) : String := String.ofList (['/'].intercalate segments)

-- Path::components: a segment, or none for a component that is not a plain name
-- (the root, a leading dot, a double dot).
def components (path : String) : List (Option (List Char)) :=
  match pathSegments path with
  | [] => []
  | first :: rest =>
    (if first = [] ∨ first = ['.'] ∨ first = ['.', '.'] then none else some first) ::
      (rest.filter (fun segment => !segment.isEmpty && segment != ['.'])).map (fun segment =>
        if segment = ['.', '.'] then none else some segment)

-- One component after the other; no symbolic link is followed.
def descend (symlink : String → Bool) : String → List (Option (List Char)) → Result String
  | path, [] => .ok path
  | _, none :: _ => invalid "photo path escapes its root"
  | path, some segment :: rest =>
    let path := path ++ "/" ++ String.ofList segment
    if symlink path then invalid "photo path crosses a symlink" else descend symlink path rest

def safeDestination (symlink : String → Bool) (root relative : String) : Result String :=
  if relative.toList.isEmpty || relative.toList.contains '\\' || relative.toList.contains '\x00' then
    invalid "unsafe relative photo path"
  else if symlink root then invalid "publication root is a symlink"
  else descend symlink (rtrimSlash root) (components relative)

-- Path::join of a directory that Path::parent gave.
def joinPath (parent name : String) : String := if parent == "/" then "/" ++ name else parent ++ "/" ++ name

def fileName (path : String) : List Char := (path.toList.reverse.takeWhile (· != '/')).reverse

-- Path::file_stem and Path::extension: a dot that starts the name starts no extension.
def splitExtension (name : List Char) : List Char × Option (List Char) :=
  let ending := (name.reverse.takeWhile (· != '.')).reverse
  let front := name.take (name.length - ending.length)
  if front.isEmpty || front == ['.'] then (name, none) else (front.dropLast, some ending)

variable {root relative target : String} {segments front : List (List Char)} {letter : Char} {last : List Char}
variable {path : String} {name : List Char}

section Segments

structure NormalSegment (segment : List Char) : Prop where
  filled : segment ≠ []
  here : segment ≠ ['.']
  above : segment ≠ ['.', '.']
  slash : '/' ∉ segment
  backslash : '\\' ∉ segment
  zero : '\x00' ∉ segment

theorem not_mem_splitOn (separator : Char) (text segment : List Char) (member : segment ∈ text.splitOn separator) :
    separator ∉ segment := by
  induction text generalizing segment with
  | nil =>
    simp only [splitOn, splitOnP_nil, mem_singleton] at member
    simp [member]
  | cons first rest ih =>
    rw [splitOn_cons_eq_if_modifyHead] at member
    split at member
    · rcases mem_cons.mp member with rfl | later
      · exact not_mem_nil
      · exact ih segment later
    · next different =>
      rw [beq_iff_eq] at different
      cases shape : rest.splitOn separator with
      | nil => exact absurd shape (splitOn_ne_nil separator rest)
      | cons head =>
        rw [shape, modifyHead_cons] at member
        rw [shape] at ih
        rcases mem_cons.mp member with rfl | later
        · rw [mem_cons, not_or]
          exact ⟨fun same => different same.symm, ih head mem_cons_self⟩
        · exact ih segment (mem_cons_of_mem _ later)

theorem mem_of_mem_segment {segment : List Char} (member : segment ∈ pathSegments path) (inside : letter ∈ segment) :
    letter ∈ path.toList := by
  have whole : ['/'].intercalate (pathSegments path) = path.toList := intercalate_splitOn '/'
  rw [← whole]
  generalize pathSegments path = segments at member
  induction segments with
  | nil => cases member
  | cons first rest ih =>
    cases rest with
    | nil =>
      rw [mem_singleton] at member
      simpa [intercalate, ← member] using inside
    | cons second others =>
      have shape : ['/'].intercalate (first :: second :: others) = first ++ '/' :: ['/'].intercalate (second :: others) := by
        simp [intercalate]
      rw [shape]
      rcases mem_cons.mp member with rfl | later
      · exact mem_append_left _ inside
      · exact mem_append_right _ (mem_cons_of_mem _ (ih later))

theorem intercalate_concat (front : List (List Char)) (last : List Char) :
    ['/'].intercalate (front ++ [last]) = if front = [] then last else ['/'].intercalate front ++ '/' :: last := by
  induction front with
  | nil => simp [intercalate]
  | cons first rest ih =>
    cases rest with
    | nil => simp [intercalate]
    | cons => simpa [intercalate] using ih

theorem intercalate_mem (member : letter ∈ ['/'].intercalate segments) : letter = '/' ∨ ∃ segment ∈ segments, letter ∈ segment := by
  induction segments with
  | nil => simp [intercalate] at member
  | cons first rest ih =>
    cases rest with
    | nil =>
      refine .inr ⟨first, mem_cons_self, ?_⟩
      simpa [intercalate] using member
    | cons second others =>
      have shape : ['/'].intercalate (first :: second :: others) = first ++ '/' :: ['/'].intercalate (second :: others) := by
        simp [intercalate]
      rw [shape, mem_append, mem_cons] at member
      rcases member with inside | rfl | later
      · exact .inr ⟨first, mem_cons_self, inside⟩
      · exact .inl rfl
      · exact (ih later).imp_right (fun ⟨segment, there, inside⟩ => ⟨segment, mem_cons_of_mem _ there, inside⟩)

theorem pathSegments_join (some : segments ≠ []) (normal : ∀ segment ∈ segments, NormalSegment segment) :
    pathSegments (joinSegments segments) = segments := by
  unfold pathSegments joinSegments
  rw [String.toList_ofList]
  exact splitOn_intercalate '/' (fun segment member => (normal segment member).slash) some

def directoryOf (root : String) (front : List (List Char)) : List Char :=
  if front = [] then (rtrimSlash root).toList else (rtrimSlash root).toList ++ '/' :: ['/'].intercalate front

theorem underRoot_concat (root : String) (front : List (List Char)) (last : List Char) :
    (underRoot root (joinSegments (front ++ [last]))).toList = directoryOf root front ++ '/' :: last := by
  unfold underRoot joinSegments directoryOf
  rw [intercalate_concat]
  by_cases empty : front = []
  · simp [empty]
  · simp [empty]

theorem directoryOf_concat (root : String) (front : List (List Char)) (segment : List Char) :
    (underRoot root (joinSegments (front ++ [segment]))).toList = directoryOf root (front ++ [segment]) := by
  rw [underRoot_concat]
  unfold directoryOf
  rw [intercalate_concat]
  by_cases empty : front = []
  · simp [empty]
  · simp [empty]

-- No directory on the way, and not the file itself, is a symbolic link.
def NoSymlink (symlink : String → Bool) (root : String) (segments : List (List Char)) : Prop :=
  symlink root = false ∧ ∀ front segment back, segments = front ++ segment :: back →
    symlink (underRoot root (joinSegments (front ++ [segment]))) = false

theorem underRoot_step (segment : List Char) (start : path.toList = directoryOf root front) :
    path ++ "/" ++ String.ofList segment = underRoot root (joinSegments (front ++ [segment])) := by
  apply String.toList_inj.mp
  rw [underRoot_concat]
  simp [start]

theorem descend_ok (symlink : String → Bool) (root : String) (front : List (List Char)) (rest : List (Option (List Char)))
    (path target : String) (start : path.toList = directoryOf root front) (done : descend symlink path rest = .ok target) :
    ∃ back, rest = back.map some ∧ target.toList = directoryOf root (front ++ back) ∧
      ∀ before segment after, back = before ++ segment :: after →
        symlink (underRoot root (joinSegments (front ++ before ++ [segment]))) = false := by
  induction rest generalizing front path with
  | nil =>
    cases done
    refine ⟨[], rfl, by simpa using start, fun before segment after shape => ?_⟩
    simp at shape
  | cons component rest ih =>
    cases component with
    | none => cases done
    | some segment =>
      unfold descend at done
      dsimp only at done
      split at done
      · cases done
      · next plain =>
        rw [Bool.not_eq_true] at plain
        rw [underRoot_step segment start] at done plain
        obtain ⟨back, shape, ends, clear⟩ := ih (front ++ [segment]) _ (directoryOf_concat root front segment) done
        refine ⟨segment :: back, by rw [shape]; rfl, by simpa using ends, ?_⟩
        intro before last after split
        cases before with
        | nil =>
          cases split
          simpa using plain
        | cons first others =>
          simp only [cons_append, cons.injEq] at split
          obtain ⟨rfl, split⟩ := split
          simpa using clear others last after split

theorem descend_clear (symlink : String → Bool) (root : String) (front back : List (List Char)) (path : String)
    (start : path.toList = directoryOf root front) (clear : ∀ before segment after, back = before ++ segment :: after →
      symlink (underRoot root (joinSegments (front ++ before ++ [segment]))) = false) :
    descend symlink path (back.map some) = .ok (String.ofList (directoryOf root (front ++ back))) := by
  induction back generalizing front path with
  | nil =>
    rw [append_nil, ← start, String.ofList_toList]
    rfl
  | cons segment rest ih =>
    have plain := clear [] segment rest rfl
    rw [append_nil] at plain
    rw [map_cons]
    unfold descend
    dsimp only
    rw [underRoot_step segment start, plain]
    have continued := ih (front ++ [segment]) _ (directoryOf_concat root front segment)
      (fun before last after split => by
        simpa using clear (segment :: before) last after (by rw [split]; rfl))
    simpa using continued

theorem components_plain (plain : ∀ segment ∈ pathSegments path, segment ≠ [] ∧ segment ≠ ['.'] ∧ segment ≠ ['.', '.']) :
    components path = (pathSegments path).map some := by
  unfold components
  cases shape : pathSegments path with
  | nil => exact absurd shape (splitOn_ne_nil '/' path.toList)
  | cons first rest =>
    rw [shape] at plain
    have head := plain first mem_cons_self
    have kept : rest.filter (fun segment => !segment.isEmpty && segment != ['.']) = rest := by
      refine filter_eq_self.mpr (fun segment member => ?_)
      have own := plain segment (mem_cons_of_mem _ member)
      simp [own.1, own.2.1]
    have same : rest.map (fun segment => if segment = ['.', '.'] then none else some segment) = rest.map some := by
      refine map_congr_left (fun segment member => ?_)
      rw [if_neg (plain segment (mem_cons_of_mem _ member)).2.2]
    simp [head.1, head.2.1, head.2.2, kept, same]

theorem components_join (filled : segments ≠ []) (normal : ∀ segment ∈ segments, NormalSegment segment) :
    components (joinSegments segments) = segments.map some := by
  have split := pathSegments_join filled normal
  have plain := components_plain (fun segment member => by
    rw [split] at member
    exact ⟨(normal segment member).filled, (normal segment member).here, (normal segment member).above⟩)
  rw [plain, split]

theorem safeDestination_join {symlink : String → Bool} (filled : segments ≠ [])
    (normal : ∀ segment ∈ segments, NormalSegment segment) (clear : NoSymlink symlink root segments) :
    safeDestination symlink root (joinSegments segments) = .ok (underRoot root (joinSegments segments)) := by
  have letters : ∀ letter, letter ∈ (joinSegments segments).toList → letter = '/' ∨ ∃ segment ∈ segments, letter ∈ segment := by
    intro letter member
    rw [joinSegments, String.toList_ofList] at member
    exact intercalate_mem member
  have some : (joinSegments segments).toList.isEmpty = false := by
    cases shape : (joinSegments segments).toList with
    | cons => rfl
    | nil =>
      have empty : pathSegments (joinSegments segments) = [[]] := by
        simp [pathSegments, shape, splitOn]
      rw [pathSegments_join filled normal] at empty
      exact absurd rfl (normal [] (by simp [empty])).filled
  have backslash : (joinSegments segments).toList.contains '\\' = false := by
    rw [← Bool.not_eq_true, contains_iff_mem]
    intro member
    rcases letters _ member with slash | ⟨segment, there, inside⟩
    · cases slash
    · exact (normal segment there).backslash inside
  have zero : (joinSegments segments).toList.contains '\x00' = false := by
    rw [← Bool.not_eq_true, contains_iff_mem]
    intro member
    rcases letters _ member with slash | ⟨segment, there, inside⟩
    · cases slash
    · exact (normal segment there).zero inside
  have reached := descend_clear symlink root [] segments (rtrimSlash root) (by simp [directoryOf])
    (fun before segment after split => by simpa using clear.2 before segment after split)
  have whole : String.ofList (directoryOf root segments) = underRoot root (joinSegments segments) := by
    simp [directoryOf, filled, underRoot, joinSegments, ← String.toList_inj]
  unfold safeDestination
  rw [some, backslash, zero, clear.1, components_join filled normal, reached]
  exact congrArg Except.ok (by simpa using whole)

theorem components_normal (plain : components path = segments.map some) (backslash : '\\' ∉ path.toList)
    (zero : '\x00' ∉ path.toList) : segments ≠ [] ∧ ∀ segment ∈ segments, NormalSegment segment := by
  have letters : ∀ segment ∈ pathSegments path, segment ≠ [] → segment ≠ ['.'] → segment ≠ ['.', '.'] →
      NormalSegment segment := fun segment member filled here above =>
    ⟨filled, here, above, not_mem_splitOn '/' _ _ member, fun there => backslash (mem_of_mem_segment member there),
      fun there => zero (mem_of_mem_segment member there)⟩
  unfold components at plain
  cases shape : pathSegments path with
  | nil => exact absurd shape (splitOn_ne_nil '/' path.toList)
  | cons =>
    rw [shape] at plain letters
    cases segments with
    | nil => cases plain
    | cons head tail =>
      simp only [map_cons, cons.injEq] at plain
      refine ⟨cons_ne_nil _ _, fun segment member => ?_⟩
      rcases mem_cons.mp member with rfl | later
      · have start := plain.1
        split at start
        · cases start
        · next named =>
          cases start
          rw [not_or, not_or] at named
          exact letters _ mem_cons_self named.1 named.2.1 named.2.2
      · have held : some segment ∈ tail.map some := mem_map_of_mem later
        rw [← plain.2, mem_map] at held
        obtain ⟨other, kept, same⟩ := held
        rw [mem_filter] at kept
        simp only [Bool.and_eq_true, Bool.not_eq_true', isEmpty_eq_false_iff, bne_iff_ne] at kept
        split at same
        · cases same
        · next above =>
          cases same
          exact letters _ (mem_cons_of_mem _ kept.1) kept.2.1 kept.2.2 above

theorem safeDestination_ok {symlink : String → Bool} (done : safeDestination symlink root relative = .ok target) :
    ∃ segments, segments ≠ [] ∧ (∀ segment ∈ segments, NormalSegment segment) ∧ NoSymlink symlink root segments ∧
      target = underRoot root (joinSegments segments) := by
  unfold safeDestination at done
  split at done
  · cases done
  · next clean =>
    split at done
    · cases done
    · next plain =>
      simp only [Bool.or_eq_true, not_or, contains_iff_mem] at clean
      obtain ⟨segments, shape, ends, clear⟩ := descend_ok symlink root [] _ (rtrimSlash root) target (by simp [directoryOf]) done
      obtain ⟨filled, normal⟩ := components_normal shape clean.1.2 clean.2
      refine ⟨segments, filled, normal, ⟨by simpa using plain, fun front segment back split => ?_⟩, ?_⟩
      · simpa using clear front segment back split
      · apply String.toList_inj.mp
        rw [ends]
        simp [directoryOf, filled, underRoot, joinSegments]

theorem safeDestination_valid {symlink : String → Bool} {root relative target : String}
    (valid : isSafeRelativePath relative = true) (done : safeDestination symlink root relative = .ok target) :
    target = underRoot root relative := by
  unfold isSafeRelativePath at valid
  split at valid
  · cases valid
  · have plain := components_plain (fun segment member => by
      have checked := all_eq_true.mp valid segment member
      simp only [Bool.and_eq_true, Bool.not_eq_true', isEmpty_eq_false_iff, bne_iff_ne] at checked
      exact ⟨checked.1.1.1, checked.1.1.2, checked.1.2⟩)
    unfold safeDestination at done
    split at done
    · cases done
    · split at done
      · cases done
      · obtain ⟨segments, shape, ends, _⟩ := descend_ok symlink root [] _ (rtrimSlash root) target (by simp [directoryOf]) done
        rw [plain] at shape
        have same : pathSegments relative = segments := map_injective_iff.mpr (fun _ _ => Option.some.inj) shape
        have filled : pathSegments relative ≠ [] := splitOn_ne_nil '/' relative.toList
        have whole : ['/'].intercalate (pathSegments relative) = relative.toList := intercalate_splitOn '/'
        apply String.toList_inj.mp
        rw [ends, nil_append, ← same, directoryOf, if_neg filled, whole]
        simp [underRoot]

theorem slash_intercalate (filled : segments ≠ []) : '/' :: ['/'].intercalate segments = segments.flatMap ('/' :: ·) := by
  induction segments with
  | nil => exact absurd rfl filled
  | cons first rest ih =>
    cases rest with
    | nil => simp [intercalate]
    | cons =>
      rw [flatMap_cons, ← ih (cons_ne_nil _ _)]
      simp [intercalate]

-- The string check on receipt and the component walk at placement agree: what
-- both let through is the root followed by the segments as they are written.
theorem safeDestination_below_root (symlink later : String → Bool) (root : String) :
    (∀ relative target, isSafeRelativePath relative = true → safeDestination symlink root relative = .ok target →
      target.toList = (rtrimSlash root).toList ++ (pathSegments relative).flatMap ('/' :: ·) ∧
      (∀ segment ∈ pathSegments relative, NormalSegment segment) ∧ NoSymlink symlink root (pathSegments relative)) ∧
    (∀ first second target, isSafeRelativePath first = true → isSafeRelativePath second = true →
      safeDestination symlink root first = .ok target → safeDestination later root second = .ok target → first = second) ∧
    ∀ relative, (relative.toList.head? = some '/' ∨
      ∃ segment ∈ pathSegments relative, segment = [] ∨ segment = ['.'] ∨ segment = ['.', '.']) →
      isSafeRelativePath relative = false := by
  have unique : ∀ first second, underRoot root first = underRoot root second → first = second := by
    intro first second same
    have back := relativeUnder_eq_some.mpr same
    rw [relativeUnder_eq_some.mpr rfl] at back
    exact Option.some.inj back
  refine ⟨fun relative target valid done => ?_, fun first second target valid other done again => ?_, fun relative bad => ?_⟩
  · have reached := safeDestination_valid valid done
    obtain ⟨segments, filled, normal, clear, ends⟩ := safeDestination_ok done
    have shape : pathSegments relative = segments := by
      rw [unique relative _ (reached.symm.trans ends)]
      exact pathSegments_join filled normal
    have whole : ['/'].intercalate (pathSegments relative) = relative.toList := intercalate_splitOn '/'
    rw [shape] at whole ⊢
    refine ⟨?_, normal, clear⟩
    rw [reached, ← slash_intercalate filled, whole]
    simp [underRoot]
  · exact unique first second ((safeDestination_valid valid done).symm.trans (safeDestination_valid other again))
  · unfold isSafeRelativePath
    split
    · rfl
    · next plain =>
      simp only [Bool.or_eq_true, beq_iff_eq, not_or] at plain
      rcases bad with absolute | ⟨segment, member, named⟩
      · exact absurd absolute plain.1.2
      · refine all_eq_false.mpr ⟨segment, member, ?_⟩
        rcases named with rfl | rfl | rfl <;> decide

theorem safeDestination_below_root_photo : (∃ target, safeDestination (fun _ => false) "/r" "a/b.jpg" = .ok target ∧
      target.toList = (rtrimSlash "/r").toList ++ (pathSegments "a/b.jpg").flatMap ('/' :: ·)) ∧
    isSafeRelativePath "a/../b" = false :=
  have below := safeDestination_below_root (fun _ => false) (fun _ => false) "/r"
  ⟨⟨"/r/a/b.jpg", by decide, (below.1 "a/b.jpg" "/r/a/b.jpg" (by decide) (by decide)).1⟩,
    below.2.2 "a/../b" (.inr ⟨['.', '.'], by decide, .inr (.inr rfl)⟩)⟩

end Segments

section Siblings

theorem rtrimSlash_last (root : String) (front : List Char) : (rtrimSlash root).toList ≠ front ++ ['/'] := by
  intro same
  rw [rtrimSlash, String.toList_ofList] at same
  have ends : (root.toList.reverse.dropWhile (· == '/')).head? = some '/' := by
    have reversed := congrArg reverse same
    simp only [reverse_reverse, reverse_append, reverse_cons, reverse_nil, nil_append, cons_append] at reversed
    rw [reversed]
    rfl
  have passed := head?_dropWhile_not (· == '/') root.toList.reverse
  rw [ends] at passed
  simp at passed

theorem directoryOf_ne_slash (root : String) (front : List (List Char)) (normal : ∀ segment ∈ front, NormalSegment segment) :
    directoryOf root front ≠ ['/'] := by
  unfold directoryOf
  split
  · exact rtrimSlash_last root []
  · next filled =>
    intro same
    obtain ⟨first, rest, rfl⟩ := exists_cons_of_ne_nil filled
    have split := pathSegments_join filled normal
    cases shape : (rtrimSlash root).toList with
    | nil =>
      rw [shape] at same
      simp only [nil_append, cons.injEq, true_and] at same
      unfold pathSegments joinSegments at split
      rw [same] at split
      simp only [String.toList_ofList, splitOn, splitOnP_nil, cons.injEq] at split
      exact (normal first mem_cons_self).filled split.1.symm
    | cons =>
      rw [shape] at same
      simp at same

theorem parentPath_concat {front : List Char} (shape : path.toList = front ++ '/' :: last) (filled : last ≠ [])
    (slash : '/' ∉ last) : parentPath path = some (if front = [] then "/" else String.ofList front) := by
  unfold parentPath
  have dropped : path.toList.reverse.dropWhile (· != '/') = '/' :: front.reverse := by
    rw [shape]
    simp only [reverse_append, reverse_cons, append_assoc, cons_append, nil_append]
    rw [dropWhile_append_of_pos]
    · simp
    · intro letter member
      rw [mem_reverse] at member
      simp only [bne_iff_ne, ne_eq]
      exact fun same => slash (same ▸ member)
  rw [dropped]
  by_cases empty : front = []
  · have different : (path == "/") = false := by
      rw [beq_eq_false_iff_ne]
      intro same
      rw [same, empty] at shape
      simp only [nil_append] at shape
      have letters : "/".toList = ['/'] := rfl
      rw [letters] at shape
      simp only [cons.injEq, true_and] at shape
      exact filled shape.symm
    simp [empty, different]
  · simp [empty]

theorem joinPath_directoryOf (root : String) (name : List Char) (normal : ∀ segment ∈ front, NormalSegment segment) :
    joinPath (if directoryOf root front = [] then "/" else String.ofList (directoryOf root front)) (String.ofList name) =
      underRoot root (joinSegments (front ++ [name])) := by
  apply String.toList_inj.mp
  rw [underRoot_concat]
  by_cases empty : directoryOf root front = []
  · simp [empty, joinPath]
  · have different : (String.ofList (directoryOf root front) == "/") = false := by
      rw [beq_eq_false_iff_ne]
      intro same
      have letters := congrArg String.toList same
      rw [String.toList_ofList] at letters
      exact directoryOf_ne_slash root front normal letters
    simp [empty, joinPath, different]

theorem safeDestination_again (symlink : String → Bool) (done : safeDestination symlink root relative = .ok target) :
    ∃ again, relativeUnder root target = some again ∧ safeDestination symlink root again = .ok target := by
  obtain ⟨segments, filled, normal, clear, rfl⟩ := safeDestination_ok done
  exact ⟨joinSegments segments, (relativeUnder_eq_some).mpr rfl, safeDestination_join filled normal clear⟩

theorem safeDestination_beside (symlink : String → Bool) {parent : String}
    (done : safeDestination symlink root relative = .ok target) (given : parentPath target = some parent)
    (filled : name ≠ []) (slash : '/' ∉ name) : parentPath (joinPath parent (String.ofList name)) = some parent := by
  obtain ⟨segments, some, normal, _, rfl⟩ := safeDestination_ok done
  obtain ⟨front, last, rfl⟩ : ∃ front last, segments = front ++ [last] :=
    ⟨segments.dropLast, segments.getLast some, (dropLast_append_getLast some).symm⟩
  have own := normal last (by simp)
  rw [parentPath_concat (underRoot_concat root front last) own.filled own.slash, Option.some.injEq] at given
  rw [← given, joinPath_directoryOf root name (fun segment member => normal segment (by simp [member]))]
  exact parentPath_concat (underRoot_concat root front name) filled slash

theorem fileName_plain (path : String) : '/' ∉ fileName path := by
  unfold fileName
  rw [mem_reverse]
  intro member
  have kept : (path.toList.reverse.takeWhile (· != '/')).all (· != '/') = true := all_takeWhile
  have different := all_eq_true.mp kept '/' member
  simp at different

theorem fileName_concat {front : List Char} (shape : path.toList = front ++ '/' :: last) (slash : '/' ∉ last) :
    fileName path = last := by
  unfold fileName
  have kept : path.toList.reverse.takeWhile (· != '/') = last.reverse := by
    rw [shape]
    simp only [reverse_append, reverse_cons, append_assoc, cons_append, nil_append]
    rw [takeWhile_append_of_pos]
    · simp
    · intro letter member
      rw [mem_reverse] at member
      simp only [bne_iff_ne, ne_eq]
      exact fun same => slash (same ▸ member)
  rw [kept, reverse_reverse]

theorem stem_mem (member : letter ∈ (splitExtension name).1) : letter ∈ name := by
  unfold splitExtension at member
  dsimp only at member
  split at member
  · exact member
  · exact mem_of_mem_take ((dropLast_sublist _).subset member)

theorem extension_mem {ending : List Char} (given : (splitExtension name).2 = some ending) (member : letter ∈ ending) :
    letter ∈ name := by
  unfold splitExtension at given
  dsimp only at given
  split at given
  · cases given
  · cases given
    rw [mem_reverse] at member
    exact mem_reverse.mp ((takeWhile_sublist _).subset member)

theorem noSymlink_beside {symlink : String → Bool} (clear : NoSymlink symlink root (front ++ [last]))
    (own : symlink (underRoot root (joinSegments (front ++ [name]))) = false) :
    NoSymlink symlink root (front ++ [name]) := by
  refine ⟨clear.1, fun before segment after shape => ?_⟩
  rcases after.eq_nil_or_concat with rfl | ⟨init, final, rfl⟩
  · obtain ⟨rfl, same⟩ := append_inj' shape rfl
    cases same
    exact own
  · have regrouped : front ++ [name] = (before ++ segment :: init) ++ [final] := by
      rw [shape]
      simp
    obtain ⟨rfl, _⟩ := append_inj' regrouped rfl
    exact clear.2 before segment (init ++ [last]) (by simp)

end Siblings
end PhotoSync
