import PhotoSync.Lib.FileSystem

set_option autoImplicit false

namespace Posix
open List

inductive IoError where
  | notFound
  | alreadyExists
  | crossesDevices
  | refused
deriving DecidableEq, Repr

def Fault.error : Fault → IoError
  | .missing => .notFound
  | .refused => .refused

variable {parts : List Component} {held : Option Node} {modified : Int}

namespace Tree

variable (tree : Tree)

def erase (position : List FileName) : Tree := ⟨tree.nodes.filter (fun held => !position.isPrefixOf held.1)⟩

def place (position : List FileName) (node : Node) : Tree := ⟨(position, node) :: (tree.erase position).nodes⟩

section Writes
variable (now : Int)

def createNew (path : Path) : Except IoError Tree :=
  match tree.locate path with
  | .error fault => .error fault.error
  | .ok position =>
    if (tree.node position).isSome then .error .alreadyExists else .ok (tree.place position (.file [] now))

-- File::create: a file that is there is cut to nothing.
def create (path : Path) : Except IoError Tree :=
  match tree.locate path with
  | .error fault => .error fault.error
  | .ok position =>
    match tree.node position with
    | some (.directory _) => .error .refused
    | _ => .ok (tree.place position (.file [] now))

def write (path : Path) (content : Bytes) : Except IoError Tree :=
  match tree.lookup path with
  | .error fault => .error fault.error
  | .ok (_, .directory _) => .error .refused
  | .ok (position, .file _ _) => .ok (tree.place position (.file content now))

def persist (path : Path) (content : Bytes) : Except IoError Tree :=
  match tree.locate path with
  | .error fault => .error fault.error
  | .ok position =>
    match tree.node position with
    | some (.directory _) => .error .refused
    | _ => .ok (tree.place position (.file content now))

def persistNoclobber (path : Path) (content : Bytes) : Except IoError Tree :=
  match tree.locate path with
  | .error fault => .error fault.error
  | .ok position =>
    if (tree.node position).isSome then .error .alreadyExists else .ok (tree.place position (.file content now))

end Writes

def remove (path : Path) : Except IoError Tree :=
  match tree.lookup path with
  | .error fault => .error fault.error
  | .ok (_, .directory _) => .error .refused
  | .ok (position, .file _ _) => .ok (tree.erase position)

-- Both names show the one file; nothing here writes through one of them.
def hardLink (source target : Path) : Except IoError Tree :=
  match tree.lookup source with
  | .error fault => .error fault.error
  | .ok (_, .directory _) => .error .refused
  | .ok (_, .file content modified) =>
    match tree.locate target with
    | .error fault => .error fault.error
    | .ok position =>
      if (tree.node position).isSome then .error .alreadyExists
      else .ok (tree.place position (.file content modified))

def rename (source target : Path) : Except IoError Tree :=
  match tree.lookup source with
  | .error fault => .error fault.error
  | .ok (_, .directory _) => .error .refused
  | .ok (position, .file content modified) =>
    match tree.locate target with
    | .error fault => .error fault.error
    | .ok destination =>
      match tree.node destination with
      | some (.directory _) => .error .refused
      | _ => .ok ((tree.erase position).place destination (.file content modified))

def createDir (path : Path) : Except IoError Tree :=
  match tree.locate path with
  | .error fault => .error fault.error
  | .ok position =>
    if (tree.node position).isSome then .error .alreadyExists else .ok (tree.place position (.directory true))

def createDirAll (path : Path) : Except IoError Tree := (List.range path.parts.length).foldlM (fun tree depth =>
    let folder : Path := ⟨path.parts.take (depth + 1)⟩
    match tree.createDir folder with
    | .ok made => .ok made
    | .error error => if (tree.stat folder).toOption.any (fun found => found.kind == .directory) then .ok tree
      else .error error) tree

section Nodes

theorem node_nil : tree.node [] = some (.directory true) := if_pos rfl

theorem node_of_ne {position : List FileName} (some : position ≠ []) :
    tree.node position = (tree.nodes.find? (fun held => held.1 == position)).map Prod.snd := if_neg some

theorem node_erase (position other : List FileName) (inner : position ≠ []) :
    (tree.erase position).node other = if position <+: other then none else tree.node other := by
  by_cases root : other = []
  · subst root
    rw [node_nil, node_nil, if_neg (fun front => inner (prefix_nil.mp front))]
  · rw [node_of_ne _ root, node_of_ne _ root]
    unfold erase
    rw [find?_filter]
    split
    · next below =>
      rw [find?_eq_none.mpr, Option.map_none]
      intro held _ same
      simp only [Bool.not_eq_true', beq_iff_eq, decide_eq_true_eq] at same
      have front := same.1
      rw [same.2, isPrefixOf_iff_prefix.mpr below] at front
      cases front
    · next apart =>
      have free : position.isPrefixOf other = false := Bool.eq_false_iff.mpr (fun front => apart ( isPrefixOf_iff_prefix.mp front))
      congr 2
      funext held
      by_cases same : held.1 = other
      · simp [same, free]
      · simp [same]

theorem node_place (position other : List FileName) (node : Node) (inner : position ≠ []) : (tree.place position node).node other =
      if other = position then some node else if position <+: other then none else tree.node other := by
  by_cases root : other = []
  · subst root
    rw [node_nil, node_nil, if_neg (fun same => inner same.symm), if_neg (fun front => inner (prefix_nil.mp front))]
  · by_cases here : other = position
    · subst here
      rw [if_pos rfl, node_of_ne _ root]
      simp [place]
    · rw [if_neg here, ← node_erase tree position other inner, node_of_ne _ root, node_of_ne _ root]
      have skip : (position == other) = false := beq_false_of_ne (fun same => here same.symm)
      simp [place, skip]

end Nodes

section Seen

def Reached (position : List FileName) : Prop :=
  ∀ front, front <+: position → front ≠ position → ∃ readable, tree.node front = some (.directory readable)

-- What a path can find: an entry that no directory leads to is none.
open Classical in
noncomputable def seen (position : List FileName) : Option Node := if tree.Reached position then tree.node position else none

variable {tree} {other : Tree} {position final : List FileName} {node : Node}

theorem Reached.seen (reached : tree.Reached position) : tree.seen position = tree.node position := if_pos reached

theorem seen_some (found : tree.seen position = some node) : tree.Reached position ∧ tree.node position = some node := by
  unfold Tree.seen at found
  split at found
  · next reached => exact ⟨reached, found⟩
  · cases found

theorem reached_iff : tree.Reached position ↔
    ∀ front, front <+: position → front ≠ position → ∃ readable, tree.seen front = some (.directory readable) := by
  constructor
  · intro reached front inside proper
    have inner : tree.Reached front := fun deeper below _ => reached deeper (below.trans inside) (by
      rintro rfl
      exact proper (inside.eq_of_length_le below.length_le))
    obtain ⟨readable, here⟩ := reached front inside proper
    exact ⟨readable, inner.seen.trans here⟩
  · intro shown front inside proper
    obtain ⟨readable, here⟩ := shown front inside proper
    exact ⟨readable, (seen_some here).2⟩

theorem Reached.follow {readable : Bool} (reached : tree.Reached position)
    (here : tree.node position = some (.directory readable)) (part : Component) : tree.Reached (follow position part) := by
  intro front inside proper
  cases part with
  | root => exact absurd (prefix_nil.mp inside) proper
  | here => exact reached front inside proper
  | above =>
    refine reached front (inside.trans ( dropLast_prefix _)) ?_
    rintro rfl
    exact proper (inside.eq_of_length_le ( dropLast_prefix _).length_le)
  | name =>
    rcases prefix_concat_iff.mp inside with same | inner
    · exact absurd same proper
    · by_cases own : front = position
      · exact ⟨readable, own ▸ here⟩
      · exact reached front inner own

theorem resolve_reached (reached : tree.Reached position) (done : tree.resolve position parts = .ok final) : tree.Reached final := by
  induction parts generalizing position with
  | nil =>
    cases done
    exact reached
  | cons part rest step =>
    unfold resolve at done
    split at done
    · cases done
    · cases done
    · next here => exact step (reached.follow here part) done

theorem resolve_shown (reached : tree.Reached position)
    (shown : ∀ place readable, tree.seen place = some (.directory readable) → other.seen place = some (.directory readable))
    (done : tree.resolve position parts = .ok final) : other.resolve position parts = .ok final := by
  induction parts generalizing position with
  | nil => exact done
  | cons part rest step =>
    unfold resolve at done ⊢
    split at done
    · cases done
    · cases done
    · next readable here =>
      rw [(seen_some (shown _ _ (reached.seen.trans here))).2]
      exact step (reached.follow here part) done

theorem reached_nil : tree.Reached [] := fun _ inside proper => absurd (prefix_nil.mp inside) proper

variable {path : Path}

theorem locate_reached (done : tree.locate path = .ok position) : tree.Reached position := by
  unfold locate at done
  split at done
  · cases done
  · exact resolve_reached reached_nil done

theorem locate_shown
    (shown : ∀ place readable, tree.seen place = some (.directory readable) → other.seen place = some (.directory readable))
    (done : tree.locate path = .ok position) : other.locate path = .ok position := by
  unfold locate at done ⊢
  split at done
  · cases done
  · next proper =>
    rw [if_neg proper]
    exact resolve_shown reached_nil shown done

theorem resolve_alike (alike : other.seen = tree.seen) (reached : tree.Reached position) :
    other.resolve position parts = tree.resolve position parts := by
  induction parts generalizing position with
  | nil => rfl
  | cons part rest step =>
    have both : other.Reached position := reached_iff.mpr (by rw [alike]; exact reached_iff.mp reached)
    have same : other.node position = tree.node position := by rw [← both.seen, alike, reached.seen]
    unfold resolve
    rw [same]
    split
    · rfl
    · rfl
    · next here => exact step (reached.follow here part)

theorem lookup_alike (alike : other.seen = tree.seen) (path : Path) : other.lookup path = tree.lookup path := by
  have located : other.locate path = tree.locate path := by
    unfold locate
    rw [resolve_alike alike reached_nil]
  unfold lookup
  rw [located]
  cases found : tree.locate path with
  | error => rfl
  | ok =>
    have reached := locate_reached found
    have both := locate_reached (located.trans found)
    dsimp only
    rw [← reached.seen, ← both.seen, alike]

theorem lookup_ok : tree.lookup path = .ok (position, node) ↔ tree.locate path = .ok position ∧ tree.seen position = some node := by
  unfold lookup
  cases found : tree.locate path with
  | error => simp
  | ok place =>
    dsimp only
    rw [← (locate_reached found).seen]
    cases shown : tree.seen place with
    | none | some => aesop

theorem seen_update (reached : tree.Reached position) (plain : ∀ readable, tree.node position ≠ some (.directory readable))
    (fresh : ∀ readable, other.node position ≠ some (.directory readable))
    (same : ∀ place, ¬ position <+: place → other.node place = tree.node place) :
    other.seen = Function.update tree.seen position (other.node position) := by
  have kept : ∀ place, ¬ (position <+: place ∧ position ≠ place) → (other.Reached place ↔ tree.Reached place) := by
    intro place apart
    refine forall_congr' (fun front => forall_congr' (fun inside => forall_congr' (fun proper => ?_)))
    rw [same front (fun above => apart ⟨above.trans inside, ?_⟩)]
    rintro rfl
    exact proper (inside.eq_of_length_le above.length_le)
  funext place
  by_cases own : place = position
  · subst own
    rw [Function.update_self]
    exact Reached.seen ((kept place (by simp)).mpr reached)
  · rw [Function.update_of_ne own]
    by_cases under : position <+: place
    · have hidden : ∀ held : Tree, (∀ readable, held.node position ≠ some (.directory readable)) → held.seen place = none :=
        fun held file => if_neg (fun there => by
          obtain ⟨readable, here⟩ := there position under (fun same => own same.symm)
          exact file readable here)
      rw [hidden other fresh, hidden tree plain]
    · have both := kept place (fun inside => under inside.1)
      by_cases there : tree.Reached place
      · rw [there.seen, (both.mpr there).seen, same place under]
      · exact (if_neg (fun found => there (both.mp found))).trans (if_neg there).symm

theorem inner_of_plain (plain : ∀ readable, tree.node position ≠ some (.directory readable)) : position ≠ [] := by
  rintro rfl
  exact plain true tree.node_nil

theorem seen_place {content : Bytes} (reached : tree.Reached position)
    (plain : ∀ readable, tree.seen position ≠ some (.directory readable)) :
    (tree.place position (.file content modified)).seen = Function.update tree.seen position (some (.file content modified)) := by
  rw [reached.seen] at plain
  have inner := inner_of_plain plain
  have own : (tree.place position (.file content modified)).node position = some (.file content modified) := by
    rw [node_place _ _ _ _ inner, if_pos rfl]
  rw [seen_update reached plain (by simp [own]) (fun place apart => ?_), own]
  have other : place ≠ position := fun same => apart (same ▸ prefix_refl _)
  rw [node_place _ _ _ _ inner, if_neg other, if_neg apart]

theorem seen_erase (reached : tree.Reached position) (plain : ∀ readable, tree.seen position ≠ some (.directory readable)) :
    (tree.erase position).seen = Function.update tree.seen position none := by
  rw [reached.seen] at plain
  have inner := inner_of_plain plain
  have own : (tree.erase position).node position = none := by rw [node_erase _ _ _ inner, if_pos (prefix_refl _)]
  rw [seen_update reached plain (by simp [own]) (fun place apart => ?_), own]
  rw [node_erase _ _ _ inner, if_neg apart]

theorem locate_update (shape : other.seen = Function.update tree.seen position held)
    (plain : ∀ readable, tree.seen position ≠ some (.directory readable)) {path : Path}
    (located : tree.locate path = .ok final) : other.locate path = .ok final := by
  refine locate_shown (fun place readable here => ?_) located
  have apart : place ≠ position := fun same => plain readable (same ▸ here)
  rw [shape, Function.update_of_ne apart]
  exact here

theorem locate_last {name : FileName} (last : path.fileName = some name) (located : tree.locate path = .ok position) :
    ∃ front, position = front ++ [name] := by
  have ending : ∀ (parts : List Component) (start : List FileName), parts.getLast? = some (.name name) →
      tree.resolve start parts = .ok position → ∃ front, position = front ++ [name] := by
    intro parts
    induction parts with
    | nil => simp
    | cons part rest step =>
      intro start last done
      unfold resolve at done
      split at done
      · cases done
      · cases done
      · cases rest with
        | nil =>
          cases last
          cases done
          exact ⟨start, rfl⟩
        | cons => exact step _ (by simpa using last) done
  unfold locate at located
  split at located
  · cases located
  · refine ending path.parts [] ?_ located
    unfold Path.fileName at last
    split at last
    · next held named => exact named.trans (by rw [Option.some.inj last])
    · cases last

theorem locate_named (located : tree.locate path = .ok position)
    (plain : ∀ readable, tree.seen position ≠ some (.directory readable)) : ∃ name, path.fileName = some name := by
  have ending : ∀ (parts : List Component) (start : List FileName), tree.Reached start → parts ≠ [] →
      tree.resolve start parts = .ok position → ∃ name, parts.getLast? = some (.name name) := by
    intro parts
    induction parts with
    | nil => exact fun _ _ none => absurd rfl none
    | cons part rest step =>
      intro start reached _ done
      unfold resolve at done
      split at done
      · cases done
      · cases done
      · next readable here =>
        have next := reached.follow here part
        cases rest with
        | cons => simpa using step _ next (cons_ne_nil _ _) done
        | nil =>
          cases done
          cases part with
          | name name => exact ⟨name, rfl⟩
          | root => exact absurd (next.seen.trans tree.node_nil) (plain true)
          | here => exact absurd (next.seen.trans here) (plain readable)
          | above =>
            rcases eq_nil_or_concat start with rfl | ⟨front, last, rfl⟩
            · exact absurd (next.seen.trans tree.node_nil) (plain true)
            · obtain ⟨open', above⟩ := reached front (by simp) (by simp)
              have outer : tree.node (follow (front.concat last) .above) = some (.directory open') := by simpa [follow] using above
              exact absurd (next.seen.trans outer) (plain open')
  unfold locate at located
  split at located
  · cases located
  · next some =>
    obtain ⟨name, last⟩ := ending path.parts [] reached_nil some located
    exact ⟨name, by rw [Path.fileName, last]⟩

end Seen

section Changes
variable {tree} {other : Tree} {now : Int} {path target : Path} {content : Bytes}

-- One name shows something else, and every other what it showed.
structure Changes (tree other : Tree) (path : Path) (position : List FileName) (held : Option Node) : Prop where
  located : tree.locate path = .ok position
  plain : ∀ readable, tree.seen position ≠ some (.directory readable)
  shape : other.seen = Function.update tree.seen position held

theorem Changes.locate {position final : List FileName} (changed : Changes tree other path position held)
    (located : tree.locate target = .ok final) : other.locate target = .ok final :=
  locate_update changed.shape changed.plain located

theorem Changes.read_other {position final : List FileName} (changed : Changes tree other path position held)
    (located : tree.locate target = .ok final) (apart : final ≠ position) : other.read target = tree.read target := by
  have still := changed.locate located
  have same : other.node final = tree.node final := by
    rw [← (locate_reached still).seen, changed.shape, Function.update_of_ne apart, (locate_reached located).seen]
  simp only [read, lookup, located, still, same]

theorem placed {position : List FileName} (located : tree.locate path = .ok position)
    (plain : ∀ readable, tree.seen position ≠ some (.directory readable)) :
    Changes tree (tree.place position (.file content modified)) path position (some (.file content modified)) :=
  ⟨located, plain, seen_place (locate_reached located) plain⟩

theorem erased {position : List FileName} (located : tree.locate path = .ok position)
    (plain : ∀ readable, tree.seen position ≠ some (.directory readable)) :
    Changes tree (tree.erase position) path position none :=
  ⟨located, plain, seen_erase (locate_reached located) plain⟩

theorem persist_ok : tree.persist now path content = .ok other ↔ ∃ position, tree.locate path = .ok position ∧
    (∀ readable, tree.seen position ≠ some (.directory readable)) ∧ other = tree.place position (.file content now) := by
  unfold persist
  cases located : tree.locate path with
  | error => simp
  | ok position =>
    have shown := (locate_reached located).seen
    cases here : tree.node position with
    | none => simp [shown, here, eq_comm]
    | some node => cases node <;> simp [shown, here, eq_comm]

theorem persistNoclobber_ok : tree.persistNoclobber now path content = .ok other ↔ ∃ position,
    tree.locate path = .ok position ∧ tree.seen position = none ∧ other = tree.place position (.file content now) := by
  unfold persistNoclobber
  cases located : tree.locate path with
  | error => simp
  | ok position =>
    have shown := (locate_reached located).seen
    cases here : tree.node position <;> simp [shown, here, eq_comm]

theorem remove_ok : tree.remove path = .ok other ↔ ∃ position content modified, tree.locate path = .ok position ∧
    tree.seen position = some (.file content modified) ∧ other = tree.erase position := by
  unfold remove
  cases found : tree.lookup path with
  | error =>
    refine ⟨nofun, ?_⟩
    rintro ⟨position, content, modified, located, here, _⟩
    rw [lookup_ok.mpr ⟨located, here⟩] at found
    cases found
  | ok held =>
    obtain ⟨position, node⟩ := held
    obtain ⟨located, here⟩ := lookup_ok.mp found
    cases node <;> simp [located, here, eq_comm]

theorem read_ok : tree.read path = .ok content ↔ ∃ position modified, tree.locate path = .ok position ∧
    tree.seen position = some (.file content modified) := by
  unfold read
  cases found : tree.lookup path with
  | error =>
    refine ⟨nofun, ?_⟩
    rintro ⟨position, modified, located, here⟩
    rw [lookup_ok.mpr ⟨located, here⟩] at found
    cases found
  | ok held =>
    obtain ⟨position, node⟩ := held
    obtain ⟨located, here⟩ := lookup_ok.mp found
    cases node <;> simp [located, here]

end Changes


end Tree
end Posix
