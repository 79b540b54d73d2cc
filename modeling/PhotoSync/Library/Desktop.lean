import PhotoSync.Lib.FileSystem
import PhotoSync.Store.Media

set_option autoImplicit false

namespace PhotoSync
open Posix List

-- Code outside the repository: gio's file URIs and the decoding of file names that are not text. A path of plain
-- names comes back from its URI, and text comes back from its bytes.
structure Desktop where
  fromPath : Path → String
  toPath : String → Option Path
  lossy : Bytes → String
  photoSha256 : RemotePhoto → String
  toPath_fromPath : ∀ path, path.plain = true → toPath (fromPath path) = some path
  lossy_utf8 : ∀ text, lossy (utf8 text) = text

namespace Desktop

variable (desktop : Desktop)

-- to_string_lossy, the form in which every path is stored.
def text (path : Path) : String := desktop.lossy path.bytes

def platform : Platform := ⟨fun path => desktop.fromPath (.ofText path), desktop.photoSha256⟩

theorem fromPath_injective {first second : Path} (plain : first.plain = true) (plain' : second.plain = true)
    (same : desktop.fromPath first = desktop.fromPath second) : first = second := by
  have read := congrArg desktop.toPath same
  rw [desktop.toPath_fromPath first plain, desktop.toPath_fromPath second plain'] at read
  exact Option.some.inj read

theorem text_eq (path : Path) (spelling : String) (spelled : path.bytes = utf8 spelling) : desktop.text path = spelling := by
  unfold Desktop.text
  rw [spelled, desktop.lossy_utf8]

-- Bytes that are no text are replaced inside a name; slashes stay.
structure NameWise : Prop where
  split : ∀ first rest, desktop.lossy (first ++ slash :: rest) = desktop.lossy first ++ "/" ++ desktop.lossy rest
  proper : ∀ name : FileName, properName (utf8 (desktop.lossy name.bytes)) = true

section NameWise
variable {desktop} (nameWise : desktop.NameWise)

include nameWise

def NameWise.legible (name : FileName) : FileName := ⟨utf8 (desktop.lossy name.bytes), nameWise.proper name⟩

theorem NameWise.lossy_flatMap (front : Bytes) (names : List FileName) :
    utf8 (desktop.lossy (front ++ names.flatMap (fun name => slash :: name.bytes))) =
      utf8 (desktop.lossy front) ++ (names.map nameWise.legible).flatMap (fun name => slash :: name.bytes) := by
  have separator : utf8 "/" = [slash] := by decide
  induction names generalizing front with
  | nil => simp
  | cons first rest step =>
    rw [flatMap_cons, cons_append, nameWise.split, utf8_append, utf8_append, step, separator]
    simp [NameWise.legible]

theorem NameWise.utf8_text (names : List FileName) :
    utf8 (desktop.text (.absolute names)) = (Path.absolute (names.map nameWise.legible)).bytes := by
  have empty : desktop.lossy [] = "" := desktop.lossy_utf8 ""
  unfold Desktop.text
  by_cases none : names = []
  · subst none
    exact congrArg utf8 (desktop.lossy_utf8 "/")
  · rw [Path.absolute_bytes none, Path.absolute_bytes (by simpa using none)]
    have spelled := nameWise.lossy_flatMap [] names
    rw [nil_append, empty] at spelled
    rw [spelled]
    rfl

theorem NameWise.ofText_text (names : List FileName) :
    Path.ofText (desktop.text (.absolute names)) = .absolute (names.map nameWise.legible) := by
  unfold Path.ofText
  rw [nameWise.utf8_text, Path.parse_bytes]

theorem NameWise.text_legible (names : List FileName) :
    desktop.text (.absolute (names.map nameWise.legible)) = desktop.text (.absolute names) :=
  desktop.text_eq _ _ (nameWise.utf8_text names).symm

end NameWise

def verbatim : Desktop where
  fromPath path := "file://" ++ String.ofList (path.bytes.map (fun byte => Char.ofNat byte.toNat))
  toPath uri := some (.parse ((uri.toList.drop 7).map (fun letter => UInt8.ofNat letter.toNat)))
  lossy bytes := (fromUtf8 bytes).getD "\uFFFD"
  photoSha256 := fun _ => ""
  toPath_fromPath := by
    intro path plain
    obtain ⟨names, rfl⟩ := (Path.plain_iff path).mp plain
    have letter : ∀ byte : UInt8, UInt8.ofNat (Char.ofNat byte.toNat).toNat = byte := by
      intro byte
      have small : ∀ number < 256, (Char.ofNat number).toNat = number := by decide +kernel
      rw [small byte.toNat byte.toNat_lt, UInt8.ofNat_toNat]
    have spelled : (("file://" ++ String.ofList ((Path.absolute names).bytes.map (fun byte => Char.ofNat byte.toNat))).toList.drop
        7).map (fun letter => UInt8.ofNat letter.toNat) = (Path.absolute names).bytes := by
      simp [Function.comp_def, letter]
    rw [spelled, Path.parse_bytes]
  lossy_utf8 := fun text => by rw [fromUtf8_utf8, Option.getD_some]

def legibleByte (byte : UInt8) : Char := if byte < 128 then Char.ofNat byte.toNat else '\uFFFD'

def legibleSegment (segment : Bytes) : String := (fromUtf8 segment).getD (String.ofList (segment.map legibleByte))

def legibleSegments (bytes : Bytes) : String := "/".intercalate ((bytes.splitOn slash).map legibleSegment)

theorem intercalate_append (separator : String) (first second : List String) (some : first ≠ []) (some' : second ≠ []) :
    separator.intercalate (first ++ second) = separator.intercalate first ++ separator ++ separator.intercalate second := by
  induction first with
  | nil => exact absurd rfl some
  | cons head rest step =>
    cases rest with
    | nil =>
      obtain ⟨next, more, rfl⟩ := exists_cons_of_ne_nil some'
      simp [String.intercalate_cons_cons]
    | cons =>
      rw [cons_append, cons_append, String.intercalate_cons_cons, ← cons_append, step (by simp), String.intercalate_cons_cons]
      simp [String.append_assoc]

theorem legibleSegments_split (first rest : Bytes) :
    legibleSegments (first ++ slash :: rest) = legibleSegments first ++ "/" ++ legibleSegments rest := by
  unfold legibleSegments
  rw [splitOn_append_cons_self, map_append]
  exact intercalate_append _ _ _ (by simp [splitOn_ne_nil]) (by simp [splitOn_ne_nil])

theorem legibleSegment_utf8 (text : String) : legibleSegment (utf8 text) = text := by
  unfold legibleSegment
  rw [fromUtf8_utf8, Option.getD_some]

theorem legibleSegments_utf8 (text : String) : legibleSegments (utf8 text) = text := by
  have decoded : ∀ (segments : List Bytes) (text : String), segments ≠ [] → utf8 text = [slash].intercalate segments →
      "/".intercalate (segments.map legibleSegment) = text := by
    intro segments
    induction segments with
    | nil => exact fun _ none => absurd rfl none
    | cons first rest step =>
      intro text _ spelled
      cases rest with
      | nil =>
        rw [intercalate_singleton] at spelled
        rw [map_singleton, String.intercalate_singleton, ← spelled, legibleSegment_utf8]
      | cons =>
        rw [intercalate_cons_cons, append_assoc, singleton_append] at spelled
        obtain ⟨before, after, front, back⟩ := utf8_split spelled
        rw [map_cons, map_cons, String.intercalate_cons_cons, ← map_cons, step after (by simp) back, ← front, legibleSegment_utf8]
        refine utf8_injective _ _ ?_
        have separator : utf8 "/" = [slash] := by decide
        rw [utf8_append, utf8_append, separator, spelled, front, back, append_assoc, singleton_append]
  exact decoded _ text (splitOn_ne_nil _ _) (intercalate_splitOn slash).symm

def legibleBytes (segment : Bytes) : Bytes := segment.flatMap (fun byte => if byte < 128 then [byte] else [0xEF, 0xBF, 0xBD])

theorem utf8_legibleBytes (segment : Bytes) : utf8 (String.ofList (segment.map legibleByte)) = legibleBytes segment := by
  have each : ∀ byte : UInt8, String.utf8EncodeChar (legibleByte byte) =
      if byte < 128 then [byte] else [0xEF, 0xBF, 0xBD] := by
    intro byte
    have cases : ∀ number < 256, String.utf8EncodeChar (legibleByte (.ofNat number)) =
      if UInt8.ofNat number < 128 then [UInt8.ofNat number] else [0xEF, 0xBF, 0xBD] := by decide +kernel
    have here := cases byte.toNat byte.toNat_lt
    rwa [UInt8.ofNat_toNat] at here
  unfold utf8 legibleBytes
  rw [String.toUTF8_eq_toByteArray, String.toByteArray_ofList, utf8Encode]
  simp [flatMap_map, each]

theorem legibleBytes_ascii {segment : Bytes} (ascii : Bytes) (small : ∀ byte ∈ ascii, byte < 128)
    (same : legibleBytes segment = ascii) : segment = ascii := by
  unfold legibleBytes at same
  induction segment generalizing ascii with
  | nil => exact same
  | cons byte rest step =>
    rw [flatMap_cons] at same
    split at same
    · rw [singleton_append] at same
      subst same
      exact congrArg (cons byte) (step _ (fun other member => small other (mem_cons_of_mem _ member)) rfl)
    · subst same
      exact absurd (small 0xEF (by simp)) (by decide)

theorem legibleBytes_proper (name : FileName) : properName (legibleBytes name.bytes) = true := by
  have kept : ∀ ascii : Bytes, (∀ byte ∈ ascii, byte < 128) → properName ascii = false → legibleBytes name.bytes ≠ ascii := by
    intro ascii small improper same
    rw [← legibleBytes_ascii ascii small same, name.proper] at improper
    cases improper
  have slashless : slash ∉ legibleBytes name.bytes := by
    intro member
    obtain ⟨byte, held, among⟩ := mem_flatMap.mp member
    split at among
    · rw [← mem_singleton.mp among] at held
      exact name.slash_not_mem held
    · exact absurd among (by decide)
  have some := kept [] (by simp) (by decide)
  have one := kept [dot] (by simp [dot]) (by decide)
  have two := kept [dot, dot] (by simp [dot]) (by decide)
  unfold properName
  simp [some, one, two, slashless]

-- A replacement character for every byte that is no text in a name that is none.
def replacing : Desktop :=
  { verbatim with
    lossy := legibleSegments
    lossy_utf8 := legibleSegments_utf8 }

theorem replacing_nameWise : replacing.NameWise := by
  refine ⟨legibleSegments_split, fun name => ?_⟩
  change properName (utf8 (legibleSegments name.bytes)) = true
  unfold legibleSegments
  rw [splitOn_eq_singleton name.slash_not_mem, map_singleton, String.intercalate_singleton]
  unfold legibleSegment
  cases decoded : fromUtf8 name.bytes with
  | none =>
    rw [Option.getD_none, utf8_legibleBytes]
    exact legibleBytes_proper name
  | some =>
    rw [Option.getD_some, utf8_fromUtf8 _ _ decoded]
    exact name.proper

end Desktop

def mediaExtensions : List String := ["jpg", "jpeg", "png", "webp", "heic", "heif", "gif", "mp4", "m4v", "mov", "webm", "mkv", "avi"]

def asciiLower (byte : UInt8) : UInt8 := if 65 ≤ byte ∧ byte ≤ 90 then byte + 32 else byte

def isSupportedMediaPath (path : Path) : Bool :=
  path.extension.any (fun ending => mediaExtensions.any (fun known => ending.map asciiLower == utf8 known))

-- A file system, the date that metadata extraction reads from a file (or that
-- it fails), and the places where a file's trash entry may lie.
structure Volume where
  fs : FileSystem
  extract : Path → Option (Option Int)
  trashRootsFor : Path → List Path

-- Times and edit events that the writes of one pass take from the clock.
structure Clock where
  now : Int
  stamp : Nat → EditEvent
  found : NewMediaItem → EditEvent

-- ts_ns: nanoseconds, or whole seconds where they do not fit.
def tsNs (time : Int) : Int :=
  if -(2 ^ 63) ≤ time ∧ time < 2 ^ 63 then time
  else max (-(2 ^ 63)) (min (2 ^ 63 - 1) (time / 1000000000 * 1000000000))

end PhotoSync
