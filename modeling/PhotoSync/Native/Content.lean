import PhotoSync.Lib.Paths

set_option autoImplicit false

namespace PhotoSync

abbrev Bytes := List UInt8

-- A SHA-256 in both encodings the wire uses, with the size of what was read.
structure ContentDigest where
  size : Nat
  hex : String
  base64 : String
deriving DecidableEq, Repr

def hexDigit (nibble : Nat) : Char :=
  if nibble < 10 then Char.ofNat (48 + nibble) else Char.ofNat (87 + nibble)

def toHex (bytes : Bytes) : String :=
  String.ofList (bytes.flatMap (fun byte => [hexDigit (byte.toNat / 16), hexDigit (byte.toNat % 16)]))

def base64Alphabet : Bytes := "ABCDEFGHIJKLMNOPQRSTUVWXYZabcdefghijklmnopqrstuvwxyz0123456789+/".toUTF8.data.toList

def base64Padding : UInt8 := 61

def base64Index (byte : UInt8) : Option Nat := base64Alphabet.findIdx? (· == byte)

def base64Buffer : Nat → Bytes → Option Nat
  | buffer, [] => some buffer
  | buffer, byte :: rest =>
    if byte = base64Padding then base64Buffer (buffer * 64) rest
    else (base64Index byte).bind (fun index => base64Buffer (buffer * 64 + index) rest)

def base64Group (group : Bytes) : Option Bytes :=
  let padding := group.count base64Padding
  if padding > 2 then none
  else (base64Buffer 0 group).map (fun buffer =>
    (List.range (3 - padding)).map (fun index => UInt8.ofNat (buffer / 2 ^ (16 - index * 8))))

def base64Groups : Bytes → Option Bytes
  | [] => some []
  | first :: second :: third :: fourth :: rest =>
    (base64Group [first, second, third, fourth]).bind (fun decoded => (base64Groups rest).map (decoded ++ ·))
  | _ => none

def fromBase64 (value : String) : Option Bytes := base64Groups value.toUTF8.data.toList

def base64Char (n : Nat) : UInt8 := base64Alphabet.getD (n % 64) 0

def base64Quad (chunk : Bytes) : Bytes :=
  let n := (chunk.getD 0 0).toNat * 2 ^ 16 + (chunk.getD 1 0).toNat * 2 ^ 8 + (chunk.getD 2 0).toNat
  [base64Char (n / 2 ^ 18), base64Char (n / 2 ^ 12),
    if chunk.length > 1 then base64Char (n / 2 ^ 6) else base64Padding,
    if chunk.length > 2 then base64Char n else base64Padding]

def base64Quads : Bytes → Bytes
  | [] => []
  | first :: second :: third :: rest => base64Quad [first, second, third] ++ base64Quads rest
  | chunk => base64Quad chunk

def toBase64 (bytes : Bytes) : String := String.ofList ((base64Quads bytes).map (fun byte => Char.ofNat byte.toNat))

-- Whole groups of the alphabet; padding stands only at the end of the last
-- group, and the bits it cuts off the character before it are zero.
def isCanonicalBase64 : Bytes → Bool
  | [] => true
  | first :: second :: third :: fourth :: rest =>
    match base64Index first, base64Index second, base64Index third, base64Index fourth with
    | some _, some _, some _, some _ => isCanonicalBase64 rest
    | some _, some _, some index, none => index % 4 = 0 ∧ fourth = base64Padding ∧ rest = []
    | some _, some index, none, none => index % 16 = 0 ∧ third = base64Padding ∧ fourth = base64Padding ∧ rest = []
    | _, _, _, _ => false
  | _ => false

section Base64

open Posix List

@[simp] theorem base64Index_char (n : Nat) : base64Index (base64Char n) = some (n % 64) := by
  have each : ∀ index : Fin 64, base64Index (base64Char index) = some index.val := by decide +kernel
  have here := each ⟨n % 64, Nat.mod_lt _ (by decide)⟩
  simpa [base64Char] using here

@[simp] theorem base64Index_padding : base64Index base64Padding = none := by decide

@[simp] theorem base64Char_plain (n : Nat) : base64Char n ≠ base64Padding := by
  intro same
  have given := base64Index_char n
  rw [same, base64Index_padding] at given
  cases given

theorem base64Char_index {byte : UInt8} {index : Nat} (found : base64Index byte = some index) :
    index < 64 ∧ base64Char index = byte := by
  obtain ⟨inside, same, _⟩ := findIdx?_eq_some_iff_getElem.mp found
  have size : base64Alphabet.length = 64 := by decide
  have small : index < 64 := size ▸ inside
  refine ⟨small, ?_⟩
  rw [base64Char, Nat.mod_eq_of_lt small, getD_eq_getElem?_getD, getElem?_eq_getElem inside]
  exact beq_iff_eq.mp same

theorem ofNat_eq (n : Nat) (byte : UInt8) : UInt8.ofNat n = byte ↔ n % 256 = byte.toNat := by
  rw [← UInt8.toNat_inj, UInt8.toNat_ofNat']

theorem base64Group_quad {chunk : Bytes} (filled : chunk ≠ []) (short : chunk.length ≤ 3) :
    base64Group (base64Quad chunk) = some chunk := by
  match chunk with
  | [] => exact absurd rfl filled
  | [first] =>
    have bound := first.toNat_lt
    simp [base64Quad, base64Group, base64Buffer, range_succ, ofNat_eq]
    omega
  | [first, second] =>
    have bound := first.toNat_lt
    have other := second.toNat_lt
    simp [base64Quad, base64Group, base64Buffer, range_succ, ofNat_eq]
    omega
  | [first, second, third] =>
    have bound := first.toNat_lt
    have other := second.toNat_lt
    have last := third.toNat_lt
    simp [base64Quad, base64Group, base64Buffer, range_succ, ofNat_eq, -UInt8.ofNat_add]
    omega
  | _ :: _ :: _ :: _ :: _ =>
    simp only [length_cons] at short
    omega

theorem base64Groups_quad {chunk : Bytes} (filled : chunk ≠ []) (short : chunk.length ≤ 3) (rest : Bytes) :
    base64Groups (base64Quad chunk ++ rest) = (base64Groups rest).map (chunk ++ ·) := by
  have whole := base64Group_quad filled short
  obtain ⟨first, second, third, fourth, shape⟩ : ∃ first second third fourth, base64Quad chunk = [first, second, third, fourth] :=
    ⟨_, _, _, _, rfl⟩
  rw [shape] at whole ⊢
  simp [base64Groups, whole]

theorem base64Groups_quads (bytes : Bytes) : base64Groups (base64Quads bytes) = some bytes := by
  fun_induction base64Quads bytes with
  | case1 => rfl
  | case2 first second third rest ih =>
    rw [base64Groups_quad (by simp) (by simp), ih]
    rfl
  | case3 chunk filled short =>
    have size : chunk.length ≤ 3 := by
      match chunk with
      | [] | [_] | [_, _] => simp
      | first :: second :: third :: rest => exact absurd rfl (short first second third rest)
    have whole := base64Groups_quad filled size []
    simpa [base64Groups] using whole

theorem isCanonicalBase64_quads (bytes : Bytes) : isCanonicalBase64 (base64Quads bytes) = true := by
  fun_induction base64Quads bytes with
  | case1 => rfl
  | case2 first second third rest ih => simpa [base64Quad, isCanonicalBase64] using ih
  | case3 chunk filled short =>
    match chunk with
    | [] => exact absurd rfl filled
    | [first] =>
      simp [base64Quad, isCanonicalBase64]
      omega
    | [first, second] =>
      simp [base64Quad, isCanonicalBase64]
      omega
    | first :: second :: third :: rest => exact absurd rfl (short first second third rest)

theorem base64Char_eq (m n : Nat) : base64Char m = base64Char n ↔ m % 64 = n % 64 := by
  constructor
  · intro same
    simpa using congrArg base64Index same
  · intro same
    rw [base64Char, same, base64Char]

-- A canonical text is what the encoder writes for the bytes of its indexes.
theorem quads_of_canonical {text : Bytes} (canonical : isCanonicalBase64 text = true) : ∃ source, base64Quads source = text := by
  fun_induction isCanonicalBase64 text with
  | case1 => exact ⟨[], rfl⟩
  | case2 first second third fourth rest i j k l d c b a ih =>
    obtain ⟨source, rfl⟩ := ih canonical
    obtain ⟨_, rfl⟩ := base64Char_index a
    obtain ⟨_, rfl⟩ := base64Char_index b
    obtain ⟨_, rfl⟩ := base64Char_index c
    obtain ⟨_, rfl⟩ := base64Char_index d
    refine ⟨.ofNat (i * 4 + j / 16) :: .ofNat (j % 16 * 16 + k / 4) :: .ofNat (k % 4 * 64 + l) :: source, ?_⟩
    simp [base64Quads, base64Quad, base64Char_eq, -UInt8.ofNat_add, -UInt8.ofNat_mul]
    omega
  | case3 first second third fourth rest i j k d c b a =>
    simp only [Bool.decide_and, Bool.and_eq_true, decide_eq_true_eq] at canonical
    obtain ⟨unused, rfl, rfl⟩ := canonical
    obtain ⟨_, rfl⟩ := base64Char_index a
    obtain ⟨_, rfl⟩ := base64Char_index b
    obtain ⟨_, rfl⟩ := base64Char_index c
    refine ⟨[.ofNat (i * 4 + j / 16), .ofNat (j % 16 * 16 + k / 4)], ?_⟩
    simp [base64Quads, base64Quad, base64Char_eq, -UInt8.ofNat_add, -UInt8.ofNat_mul]
    omega
  | case4 first second third fourth rest i j d c b a =>
    simp only [Bool.decide_and, Bool.and_eq_true, decide_eq_true_eq] at canonical
    obtain ⟨unused, rfl, rfl, rfl⟩ := canonical
    obtain ⟨_, rfl⟩ := base64Char_index a
    obtain ⟨_, rfl⟩ := base64Char_index b
    refine ⟨[.ofNat (i * 4 + j / 16)], ?_⟩
    simp [base64Quads, base64Quad, base64Char_eq, -UInt8.ofNat_add, -UInt8.ofNat_mul]
    omega
  | case5 | case6 => cases canonical

theorem utf8_toBase64 (bytes : Bytes) : utf8 (toBase64 bytes) = base64Quads bytes := by
  have ascii : ∀ byte ∈ base64Padding :: base64Alphabet, String.utf8EncodeChar (.ofNat byte.toNat) = [byte] := by
    decide +kernel
  have quad : ∀ chunk, ∀ byte ∈ base64Quad chunk, byte ∈ base64Padding :: base64Alphabet := by
    have letter : ∀ n, base64Char n ∈ base64Alphabet := by
      intro n
      have inside : n % 64 < base64Alphabet.length := Nat.mod_lt n (by decide)
      rw [base64Char, getD_eq_getElem?_getD, getElem?_eq_getElem inside]
      exact getElem_mem inside
    intro chunk byte member
    simp only [base64Quad, mem_cons, not_mem_nil, or_false] at member
    rcases member with rfl | rfl | rfl | rfl
    · simp [letter]
    · simp [letter]
    · split <;> simp [letter]
    · split <;> simp [letter]
  have each : ∀ byte ∈ base64Quads bytes, String.utf8EncodeChar (.ofNat byte.toNat) = [byte] := by
    intro byte member
    fun_induction base64Quads bytes with
    | case1 => cases member
    | case2 first second third rest ih => exact (mem_append.mp member).elim (ascii byte ∘ quad _ byte) ih
    | case3 => exact ascii byte (quad _ byte member)
  unfold utf8 toBase64
  rw [String.toUTF8_eq_toByteArray, String.toByteArray_ofList, utf8Encode, flatMap_map, flatMap_congr each, flatMap_singleton']
  simp

theorem base64_text_unique_iff (text : String) (bytes : Bytes) : fromBase64 (toBase64 bytes) = some bytes ∧
    (fromBase64 text = some bytes → (text = toBase64 bytes ↔ isCanonicalBase64 (utf8 text) = true)) := by
  have written : ∀ bytes, fromBase64 (toBase64 bytes) = some bytes := by
    intro bytes
    have read : fromBase64 (toBase64 bytes) = base64Groups (utf8 (toBase64 bytes)) := rfl
    rw [read, utf8_toBase64, base64Groups_quads]
  refine ⟨written bytes, fun decoded => ⟨?_, fun canonical => ?_⟩⟩
  · rintro rfl
    rw [utf8_toBase64]
    exact isCanonicalBase64_quads bytes
  · obtain ⟨source, shape⟩ := quads_of_canonical canonical
    have same : text = toBase64 source := by
      refine utf8_injective _ _ ?_
      rw [utf8_toBase64]
      exact shape.symm
    rw [same, written] at decoded
    rw [same, Option.some.inj decoded]

theorem base64_text_unique_letter : fromBase64 "QQ==" = some [65] ∧ "QQ==" = toBase64 [65] :=
  ⟨by decide, ((base64_text_unique_iff "QQ==" [65]).2 (by decide)).mpr (by decide)⟩

-- Stray bits, and padding that does not stand at the end, are read as well.
theorem base64_text_not_unique :
    fromBase64 "QR==" = some [65] ∧ fromBase64 "Q=Q=" = some [64] ∧ toBase64 [65] = "QQ==" ∧ toBase64 [64] = "QA==" := by
  decide

end Base64

def ContentDigest.hexFromDescriptorBase64 (checksum : String) : Option String := (fromBase64 checksum).map toHex

end PhotoSync
