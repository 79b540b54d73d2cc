import Mathlib.Data.List.Basic
import Mathlib.Algebra.Ring.Nat
import Mathlib.Algebra.Group.Int.Defs

set_option autoImplicit false

namespace Posix
open List

abbrev Bytes := List UInt8

def utf8 (text : String) : Bytes := text.toUTF8.data.toList

def fromUtf8 (bytes : Bytes) : Option String := String.fromUTF8? ⟨bytes.toArray⟩

theorem fromUtf8_utf8 (text : String) : fromUtf8 (utf8 text) = some text := by
  unfold fromUtf8 utf8
  rw [Array.toArray_toList, String.toUTF8_eq_toByteArray]
  exact dif_pos text.isValidUTF8

theorem utf8_fromUtf8 (bytes : Bytes) (text : String) (decoded : fromUtf8 bytes = some text) : utf8 text = bytes := by
  unfold fromUtf8 String.fromUTF8? at decoded
  split at decoded
  · cases decoded
    rfl
  · cases decoded

theorem utf8_injective (first second : String) (same : utf8 first = utf8 second) : first = second := by
  have decoded := congrArg fromUtf8 same
  rw [fromUtf8_utf8, fromUtf8_utf8] at decoded
  exact Option.some.inj decoded

def slash : UInt8 := 47

theorem utf8_append (first second : String) : utf8 (first ++ second) = utf8 first ++ utf8 second := by
  unfold utf8
  simp [String.toUTF8_eq_toByteArray]

theorem utf8_length (text : String) : (utf8 text).length = text.utf8ByteSize := by
  unfold utf8
  rw [String.toUTF8_eq_toByteArray, Array.length_toList, ← String.size_toByteArray]
  rfl

theorem utf8_of_valid (bytes : ByteArray) (valid : bytes.IsValidUTF8) : ∃ text, utf8 text = bytes.data.toList := ⟨⟨bytes, valid⟩, rfl⟩

-- A slash is never part of a longer character, so what is before and after it is text.
theorem utf8_split {first rest : Bytes} {text : String} (spelled : utf8 text = first ++ slash :: rest) :
    ∃ before after, utf8 before = first ∧ utf8 after = rest := by
  have size : text.utf8ByteSize = first.length + (rest.length + 1) := by
    rw [← utf8_length, spelled, length_append, length_cons]
  have inside : (⟨first.length⟩ : String.Pos.Raw) < text.rawEndPos := by
    rw [String.Pos.Raw.lt_iff, String.byteIdx_rawEndPos, size]
    exact Nat.lt_add_of_pos_right (Nat.succ_pos _)
  have boundary : (⟨first.length⟩ : String.Pos.Raw).IsValid text := by
    rw [String.Pos.Raw.isValid_iff_isUTF8FirstByte]
    refine .inr ⟨inside, ?_⟩
    have byte : (utf8 text)[first.length]? = some slash := by simp [spelled]
    unfold utf8 at byte
    rw [Array.getElem?_toList, String.toUTF8_eq_toByteArray] at byte
    obtain ⟨_, read⟩ := Array.getElem?_eq_some_iff.mp byte
    change (text.toByteArray.data[first.length]).IsUTF8FirstByte
    rw [read]
    decide
  obtain ⟨_, front⟩ := String.Pos.Raw.isValid_iff_isValidUTF8_extract_zero.mp boundary
  obtain ⟨_, back⟩ := String.Pos.Raw.isValid_iff_isValidUTF8_extract_utf8ByteSize.mp boundary
  have bytes : text.toByteArray.data.toList = first ++ slash :: rest := spelled
  have tail : text.toByteArray.extract first.length text.utf8ByteSize = ['/'].utf8Encode ++ ⟨rest.toArray⟩ := by
    have encoded : (['/'].utf8Encode).data.toList = [slash] := by decide
    apply ByteArray.ext
    apply Array.ext'
    simp [bytes, size, encoded]
  rw [tail, ByteArray.isValidUTF8_utf8Encode_singleton_append_iff] at back
  obtain ⟨before, left⟩ := utf8_of_valid _ front
  obtain ⟨after, right⟩ := utf8_of_valid _ back
  refine ⟨before, after, ?_, right⟩
  rw [left]
  simp [bytes]

def dot : UInt8 := 46

def properName (bytes : Bytes) : Bool := !bytes.isEmpty && !bytes.contains slash && bytes != [dot] && bytes != [dot, dot]

-- What a directory can hold: any bytes but a slash, and neither of the two names every directory has.
structure FileName where
  bytes : Bytes
  proper : properName bytes = true
deriving DecidableEq, Repr

namespace FileName

theorem ext {first second : FileName} (same : first.bytes = second.bytes) : first = second := by
  cases first
  cases second
  cases same
  rfl

theorem slash_not_mem (name : FileName) : slash ∉ name.bytes := by
  have proper := name.proper
  simp only [properName, Bool.and_eq_true, Bool.not_eq_true'] at proper
  simpa using proper.1.1.2

-- A dot that starts the name starts no extension.
def splitExtension (name : FileName) : Bytes × Option Bytes :=
  let ending := (name.bytes.reverse.takeWhile (· != dot)).reverse
  let front := name.bytes.take (name.bytes.length - ending.length)
  if front.isEmpty || front == [dot] then (name.bytes, none) else (front.dropLast, some ending)

def extension (name : FileName) : Option Bytes := name.splitExtension.2

end FileName

inductive Component where
  | root
  | here
  | above
  | name (name : FileName)
deriving DecidableEq, Repr

def Component.bytes : Component → Bytes
  | .root => []
  | .here => [dot]
  | .above => [dot, dot]
  | .name held => held.bytes

-- Two spellings of one path are the same path: repeated and trailing slashes and dots inside say nothing.
structure Path where
  parts : List Component
deriving DecidableEq, Repr

def segmentPart (segment : Bytes) : Option Component :=
  if proper : properName segment = true then some (.name ⟨segment, proper⟩)
  else if segment = [dot, dot] then some .above
  else none

namespace Path

def leading (bytes : Bytes) : List Component :=
  match bytes.splitOn slash with
  | [] :: _ :: _ => [.root]
  | [only] :: _ => if only = dot then [.here] else []
  | _ => []

def parse (bytes : Bytes) : Path := ⟨leading bytes ++ (bytes.splitOn slash).filterMap segmentPart⟩

def ofText (text : String) : Path := parse (utf8 text)

def bytes (path : Path) : Bytes :=
  if path.parts = [.root] then [slash] else [slash].intercalate (path.parts.map Component.bytes)

def parent (path : Path) : Option Path :=
  match path.parts.getLast? with
  | none => none
  | some .root => none
  | some _ => some ⟨path.parts.dropLast⟩

def fileName (path : Path) : Option FileName :=
  match path.parts.getLast? with
  | some (.name name) => some name
  | _ => none

def extension (path : Path) : Option Bytes := path.fileName.bind FileName.extension

def startsWith (path root : Path) : Bool := root.parts.isPrefixOf path.parts

-- An absolute path replaces what it is joined to.
def join (path rest : Path) : Path :=
  if rest.parts.head? = some .root then rest
  else if path.parts = [] then rest
  else ⟨path.parts ++ rest.parts.filter (· != .here)⟩

def withExtension (path : Path) (ending : String) : Path :=
  match path.fileName with
  | none => path
  | some name => (Path.mk path.parts.dropLast).join (parse (name.splitExtension.1 ++ dot :: utf8 ending))

def below (path : Path) (names : List FileName) : Path := ⟨path.parts ++ names.map .name⟩

def child (path : Path) (name : FileName) : Path := path.below [name]

def absolute (names : List FileName) : Path := ⟨.root :: names.map .name⟩

def plain (path : Path) : Bool :=
  match path.parts with
  | .root :: rest => rest.all (fun part => match part with
      | .name _ => true
      | _ => false)
  | _ => false

def names (path : Path) : List FileName := path.parts.filterMap (fun part => match part with
    | .name held => some held
    | _ => none)

theorem absolute_below (front names : List FileName) : (absolute front).below names = absolute (front ++ names) := by
  simp [below, absolute]

theorem absolute_injective (first second : List FileName) (same : absolute first = absolute second) : first = second := by
  simp only [absolute, Path.mk.injEq, cons.injEq, true_and] at same
  exact map_injective_iff.mpr (fun _ _ equal => Component.name.inj equal) same

theorem plain_iff (path : Path) : path.plain = true ↔ ∃ names, path = absolute names := by
  constructor
  · intro plain
    obtain ⟨parts⟩ := path
    unfold Path.plain at plain
    split at plain
    · next rest shape =>
      cases shape
      have named : ∃ names : List FileName, rest = names.map Component.name := by
        induction rest with
        | nil => exact ⟨[], rfl⟩
        | cons first others ih =>
          rw [all_cons, Bool.and_eq_true] at plain
          obtain ⟨names, rfl⟩ := ih plain.2
          cases first with
          | name name => exact ⟨name :: names, rfl⟩
          | root | here | above => cases plain.1
      obtain ⟨names, rfl⟩ := named
      exact ⟨names, rfl⟩
    · cases plain
  · rintro ⟨names, rfl⟩
    simp [Path.plain, absolute]

theorem absolute_plain (names : List FileName) : (absolute names).plain = true := (plain_iff _).mpr ⟨names, rfl⟩

theorem below_plain (path : Path) (names : List FileName) (plain : path.plain = true) : (path.below names).plain = true := by
  obtain ⟨front, rfl⟩ := (plain_iff path).mp plain
  rw [absolute_below]
  exact absolute_plain _

theorem parent_absolute (front : List FileName) (name : FileName) : (absolute (front ++ [name])).parent = some (absolute front) := by
  have shape : (absolute (front ++ [name])).parts = (absolute front).parts ++ [.name name] := by simp [absolute]
  unfold parent
  rw [shape]
  simp

theorem segmentPart_name (name : FileName) : segmentPart name.bytes = some (.name name) := by
  unfold segmentPart
  rw [dif_pos name.proper]

theorem absolute_bytes {names : List FileName} (some : names ≠ []) :
    (absolute names).bytes = names.flatMap (fun name => slash :: name.bytes) := by
  have joined : ∀ (front : Bytes) (rest : List FileName),
      [slash].intercalate (front :: rest.map FileName.bytes) = front ++ rest.flatMap (fun name => slash :: name.bytes) := by
    intro front rest
    induction rest generalizing front with
    | nil => simp
    | cons first rest step =>
      rw [map_cons, intercalate_cons_cons, step, flatMap_cons]
      simp
  unfold bytes
  rw [if_neg (by simp [absolute, some])]
  have spelled : (absolute names).parts.map Component.bytes = [] :: names.map FileName.bytes := by
    simp [absolute, Component.bytes, Function.comp_def]
  rw [spelled, joined, nil_append]

theorem parse_bytes (names : List FileName) : parse (absolute names).bytes = absolute names := by
  cases names with
  | nil => decide
  | cons first rest =>
    have spelled : (absolute (first :: rest)).bytes = [slash].intercalate ([] :: (first :: rest).map FileName.bytes) := by
      unfold bytes
      rw [if_neg (by simp [absolute])]
      simp [absolute, Component.bytes, Function.comp_def]
    have split : (absolute (first :: rest)).bytes.splitOn slash = [] :: (first :: rest).map FileName.bytes := by
      rw [spelled]
      refine splitOn_intercalate slash (fun segment member => ?_) (by simp)
      rcases mem_cons.mp member with rfl | named
      · exact not_mem_nil
      · obtain ⟨name, _, rfl⟩ := mem_map.mp named
        exact name.slash_not_mem
    have parts : (([] : Bytes) :: (first :: rest).map FileName.bytes).filterMap segmentPart = (first :: rest).map Component.name := by
      rw [filterMap_cons]
      have empty : segmentPart [] = none := by decide
      rw [empty]
      rw [filterMap_map]
      simp [segmentPart_name]
    unfold parse leading
    rw [split, parts]
    rfl

theorem intercalate_last (separator last ending : Bytes) (rest : List Bytes) :
    separator.intercalate (rest ++ [last ++ ending]) = separator.intercalate (rest ++ [last]) ++ ending := by
  induction rest with
  | nil => simp
  | cons first others step =>
    cases others with
    | nil => simp
    | cons =>
      simp only [cons_append, intercalate_cons_cons] at step ⊢
      rw [step]
      simp

theorem parse_append {path : Path} {name longer : FileName} {ending : Bytes} (last : path.fileName = some name)
    (spelled : longer.bytes = name.bytes ++ ending) : (parse (path.bytes ++ ending)).fileName = some longer := by
  obtain ⟨parts⟩ := path
  obtain ⟨front, rfl⟩ : ∃ front, parts = front ++ [.name name] := by
    unfold fileName at last
    split at last
    · next held found =>
      obtain ⟨front, rfl⟩ := getLast?_eq_some_iff.mp found
      cases last
      exact ⟨front, rfl⟩
    · cases last
  have several : front ++ [Component.name name] ≠ [.root] := by cases front <;> simp
  have joined : (Path.mk (front ++ [.name name])).bytes ++ ending =
      [slash].intercalate (front.map Component.bytes ++ [longer.bytes]) := by
    unfold bytes
    rw [if_neg several, spelled, intercalate_last, map_append]
    rfl
  have split : ((Path.mk (front ++ [.name name])).bytes ++ ending).splitOn slash = front.map Component.bytes ++ [longer.bytes] := by
    rw [joined]
    refine splitOn_intercalate slash (fun segment member => ?_) (by simp)
    rcases mem_append.mp member with inner | outer
    · obtain ⟨part, _, rfl⟩ := mem_map.mp inner
      cases part with
      | name held => exact held.slash_not_mem
      | _ => decide
    · rw [mem_singleton.mp outer]
      exact longer.slash_not_mem
  unfold parse fileName
  rw [split, filterMap_append]
  simp [segmentPart_name]

end Path
end Posix
