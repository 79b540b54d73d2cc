import Mathlib
import PhotoSync.Lib.Paths

set_option autoImplicit false

namespace PhotoSync.Orientation
open List Posix

def exifPrefix : Bytes := [0x45, 0x78, 0x69, 0x66, 0, 0]

def isJpeg (data : Bytes) : Bool := isPrefixOf [0xff, 0xd8] data

def toBeBytes (number : Nat) : Bytes := [UInt8.ofNat (number / 256), UInt8.ofNat number]

-- SOS and EOI, behind which nothing is looked at.
def isLast (marker : UInt8) : Bool := marker == 0xda || marker == 0xd9

def isStandalone (marker : UInt8) : Bool := marker == 0x01 || decide (0xd0 ≤ marker) && decide (marker ≤ 0xd7)

-- The loop over the rest of the file, with the copy behind it.
def withoutExif : Bytes → Except String Bytes
  | first :: marker :: high :: low :: rest =>
    if first ≠ 0xff ∨ isLast marker = true then return first :: marker :: high :: low :: rest
    else if isStandalone marker then return first :: marker :: (← withoutExif (high :: low :: rest))
    else
      let len := high.toNat * 256 + low.toNat
      if len < 2 ∨ rest.length < len - 2 then throw "truncated JPEG segment"
      else do
        let payload := rest.take (len - 2)
        let later ← withoutExif (rest.drop (len - 2))
        if marker == 0xe1 && exifPrefix.isPrefixOf payload then return later
        else return first :: marker :: high :: low :: payload ++ later
  | data => return data
termination_by data => data.length

def writeJpegExifSegment (data tiff : Bytes) : Except String Bytes :=
  if !isJpeg data then throw "not a JPEG file"
  else
    let segmentLen := exifPrefix.length + tiff.length + 2
    if segmentLen > 65535 then throw "EXIF segment too large for JPEG"
    else do
      let exifSegment := [0xff, 0xe1] ++ toBeBytes segmentLen ++ exifPrefix ++ tiff
      return data.take 2 ++ exifSegment ++ (← withoutExif (data.drop 2))

inductive Segment where
  | alone (marker : UInt8) (standalone : isStandalone marker = true)
  | block (marker : UInt8) (payload : Bytes) (inner : isLast marker = false ∧ isStandalone marker = false)
    (fits : payload.length + 2 ≤ 65535)

def Segment.bytes : Segment → Bytes
  | alone marker _ => [0xff, marker]
  | block marker payload _ _ => 0xff :: marker :: toBeBytes (payload.length + 2) ++ payload

def Segment.isExif : Segment → Bool
  | alone _ _ => false
  | block marker payload _ _ => marker == 0xe1 && exifPrefix.isPrefixOf payload

structure TiffBlock where
  tiff : Bytes
  fits : exifPrefix.length + tiff.length + 2 ≤ 65535

def TiffBlock.segment (block : TiffBlock) : Segment :=
  .block 0xe1 (exifPrefix ++ block.tiff) (by decide) (by rw [length_append]; exact block.fits)

structure Jpeg where
  segments : List Segment
  tail : Bytes
  ends : tail = [] ∨ ∃ marker rest, tail = 0xff :: marker :: rest ∧ isLast marker = true

def Jpeg.bytes (file : Jpeg) : Bytes := [0xff, 0xd8] ++ (file.segments.flatMap Segment.bytes ++ file.tail)

def Jpeg.withExif (file : Jpeg) (block : TiffBlock) : Jpeg := { file with segments := block.segment :: file.segments.filter (!·.isExif) }

theorem withoutExif_short {data : Bytes} (short : data.length < 4) : withoutExif data = .ok data := by
  unfold withoutExif
  split
  · simp only [length_cons] at short
    omega
  · rfl

theorem withoutExif_segment (segment : Segment) (rest : Bytes) : withoutExif (segment.bytes ++ rest) =
      (withoutExif rest).map (fun later => if segment.isExif then later else segment.bytes ++ later) := by
  cases segment with
  | alone marker standalone =>
    have inner : isLast marker = false := by
      rw [isLast, Bool.or_eq_false_iff, beq_eq_false_iff_ne, beq_eq_false_iff_ne]
      constructor <;> rintro rfl <;> cases standalone
    rcases rest with _ | ⟨high, _ | ⟨low, more⟩⟩
    iterate 2
      rw [withoutExif_short (by simp [Segment.bytes]), withoutExif_short (by simp)]
      rfl
    · rw [Segment.bytes, cons_append, cons_append, nil_append, withoutExif, if_neg (by simp [inner]), if_pos standalone]
      cases withoutExif (high :: low :: more) <;> rfl
  | block marker payload inner fits =>
    have len : (UInt8.ofNat ((payload.length + 2) / 256)).toNat * 256 + (UInt8.ofNat (payload.length + 2)).toNat =
        payload.length + 2 := by
      simp only [UInt8.toNat_ofNat']
      omega
    simp only [Segment.bytes, Segment.isExif, toBeBytes, cons_append, nil_append]
    rw [withoutExif, if_neg (by simp [inner.1]), if_neg (by simp [inner.2])]
    simp only [len]
    rw [if_neg (by simp), Nat.add_sub_cancel, take_left, drop_left]
    cases withoutExif rest with
    | error => rfl
    | ok later =>
      by_cases exif : (marker == 0xe1 && exifPrefix.isPrefixOf payload) = true
      · simp only [exif, if_true]
        rfl
      · simp only [exif]
        rfl

theorem withoutExif_segments (file : Jpeg) : withoutExif (file.segments.flatMap Segment.bytes ++ file.tail) =
    .ok ((file.segments.filter (!·.isExif)).flatMap Segment.bytes ++ file.tail) := by
  obtain ⟨segments, tail, ends⟩ := file
  induction segments with
  | nil =>
    rcases ends with rfl | ⟨marker, rest, rfl, last⟩
    · exact withoutExif_short (by decide)
    · show withoutExif (0xff :: marker :: rest) = .ok (0xff :: marker :: rest)
      unfold withoutExif
      split
      · next same =>
        cases same
        rw [if_pos (.inr last)]
        rfl
      · rfl
  | cons segment rest ih =>
    dsimp only at ih ⊢
    rw [flatMap_cons, append_assoc, withoutExif_segment, ih, filter_cons]
    cases segment.isExif <;> simp [Except.map]

theorem writeJpeg_file (file : Jpeg) (block : TiffBlock) :
    writeJpegExifSegment file.bytes block.tiff = .ok (file.withExif block).bytes := by
  have fits := block.fits
  unfold writeJpegExifSegment
  rw [if_neg (by simp [isJpeg, Jpeg.bytes])]
  dsimp only
  rw [if_neg (by omega), show file.bytes.drop 2 = file.segments.flatMap Segment.bytes ++ file.tail from rfl, withoutExif_segments]
  simp [Jpeg.bytes, Jpeg.withExif, TiffBlock.segment, Segment.bytes, bind, Except.bind, pure, Except.pure]

theorem jpeg_rewrite_touches_only_exif (file : Jpeg) (first second : TiffBlock) :
    writeJpegExifSegment file.bytes second.tiff = .ok (file.withExif second).bytes ∧
    (writeJpegExifSegment file.bytes first.tiff >>= (writeJpegExifSegment · second.tiff)) =
      writeJpegExifSegment file.bytes second.tiff := by
  refine ⟨writeJpeg_file file second, ?_⟩
  have same : (file.withExif first).withExif second = file.withExif second := by
    simp [Jpeg.withExif, TiffBlock.segment, Segment.isExif, filter_filter]
  rw [writeJpeg_file file first, writeJpeg_file file second, ← same]
  exact writeJpeg_file (file.withExif first) second

end PhotoSync.Orientation
