import Boundary.Wire.Utf8
import Mathlib.Data.String.Basic

/-! # The order of texts

Texts are ordered character by character. Their UTF-8 forms, byte by byte, stand in the same
order (`Boundary.Utf8.encode_lt_encode`): a character of a wider form has a larger first
byte, and two forms of one width are compared like their numbers, digit by digit.
-/

namespace Boundary

namespace Utf8

theorem lt_digit {number larger : Nat} (before : number < larger) :
    number / 64 < larger / 64 ∨ number / 64 = larger / 64 ∧ number % 64 < larger % 64 := by
  omega

/-- A byte that continues a form carries a digit to the base of 64. -/
theorem lt_digits {number larger : Nat} (before : number < larger) :
    number / 262144 < larger / 262144 ∨ number / 262144 = larger / 262144 ∧
      (number / 4096 % 64 < larger / 4096 % 64 ∨ number / 4096 % 64 = larger / 4096 % 64 ∧
        (number / 64 % 64 < larger / 64 % 64 ∨ number / 64 % 64 = larger / 64 % 64 ∧
          number % 64 < larger % 64)) := by
  rcases lt_digit before with before | last
  · rcases lt_digit before with before | last
    · rcases lt_digit before with before | last <;> omega
    · omega
  · omega

/-- The forms of two characters decide the order, whatever follows them. -/
theorem encodeChar_append_lt {character other : Char} (before : character < other)
    (rest others : Bytes) :
    String.utf8EncodeChar character ++ rest < String.utf8EncodeChar other ++ others := by
  have smaller : character.val.toNat < other.val.toNat := before
  have bounded : other.val.toNat < 0x110000 := by
    have valid := other.valid
    unfold UInt32.isValidChar Nat.isValidChar at valid
    omega
  have digits := lt_digits smaller
  dsimp only [String.utf8EncodeChar]
  -- One case for each two widths, of which those that begin with the wider one cannot be.
  split_ifs <;> simp (disch := omega) only [List.cons_append, List.nil_append,
    List.cons_lt_cons_iff, UInt8.lt_iff_toNat_lt, ← UInt8.toNat_inj, UInt8.toNat_ofNat',
    Nat.mod_eq_of_lt] <;> omega

/-- Encodings of characters are ordered as the characters are. -/
theorem flatMap_encodeChar_lt {characters others : List Char} (before : characters < others) :
    characters.flatMap String.utf8EncodeChar < others.flatMap String.utf8EncodeChar := by
  induction before with
  | @nil character rest =>
      rw [List.flatMap_nil, List.flatMap_cons]
      cases form : String.utf8EncodeChar character with
      | nil => exact absurd form String.utf8EncodeChar_ne_nil
      | cons first bytes => exact List.nil_lt_cons _ _
  | rel precedes =>
      rw [List.flatMap_cons, List.flatMap_cons]
      exact encodeChar_append_lt precedes _ _
  | cons _ ih =>
      rw [List.flatMap_cons, List.flatMap_cons]
      exact List.append_left_lt ih

/-- A text is encoded character by character. -/
theorem encode_eq_flatMap (text : String) :
    encode text = text.toList.flatMap String.utf8EncodeChar := by
  rw [← String.ofList_toList (s := text)]
  unfold encode
  rw [String.toByteArray_ofList, List.utf8Encode, List.data_toByteArray,
    String.toList_ofList]

/-- **The bytes of texts are in the order of the texts.** -/
theorem encode_lt_encode {text other : String} : encode text < encode other ↔ text < other := by
  have ascends {text other : String} (before : text < other) : encode text < encode other := by
    rw [encode_eq_flatMap, encode_eq_flatMap]
    exact flatMap_encodeChar_lt (String.lt_iff_toList_lt.mp before)
  refine ⟨fun before => ?_, ascends⟩
  rcases lt_trichotomy text other with first | same | last
  · exact first
  · exact absurd (same ▸ before) (List.lt_irrefl _)
  · exact absurd before (List.lt_asymm (ascends last))

end Utf8

end Boundary
