import Mathlib.Data.String.Basic
import SampleProfile.Bytes

/-!
# Texts in byte order

Texts are compared character by character.  Comparing their bytes instead gives the same answer, for
the encoding of a greater character is greater at the first byte that differs, whatever follows
(`textBytes_le_iff`).
-/

namespace SampleProfile.Text

theorem textBytes_eq_flatMap (text : String) :
    textBytes text = text.toList.flatMap String.utf8EncodeChar := by
  conv_lhs => rw [← String.ofList_toList (s := text)]
  rw [textBytes, String.toUTF8_eq_toByteArray, String.toByteArray_ofList, List.utf8Encode,
    List.data_toByteArray]

/-- The encoding of a greater character is greater, and not only because it is longer. -/
theorem utf8EncodeChar_append_lt {first second : Char} (less : first < second)
    (front back : List UInt8) :
    String.utf8EncodeChar first ++ front < String.utf8EncodeChar second ++ back := by
  have numbers : first.val.toNat < second.val.toNat := UInt32.lt_iff_toNat_lt.mp less
  have bound : second.val.toNat < 0x110000 := by
    rcases second.valid with low | ⟨_, high⟩
    · exact Nat.lt_trans low (by decide)
    · exact high
  have twice (number : Nat) : number / 4096 = number / 64 / 64 := by omega
  have thrice (number : Nat) : number / 262144 = number / 64 / 64 / 64 := by omega
  simp only [String.utf8EncodeChar, twice, thrice]
  generalize first.val.toNat = one at *
  generalize second.val.toNat = two at *
  -- The first byte grows with the number of bytes, and bytes of encodings of one length are digits
  -- to the base 64.
  split_ifs <;> simp only [List.cons_append, List.nil_append, List.cons_lt_cons_iff,
    UInt8.lt_iff_toNat_lt, ← UInt8.toNat_inj, UInt8.toNat_ofNat'] <;> omega

theorem flatMap_utf8EncodeChar_lt {left right : List Char} (less : left < right) :
    left.flatMap String.utf8EncodeChar < right.flatMap String.utf8EncodeChar := by
  induction left generalizing right with
  | nil =>
      cases right with
      | nil => exact absurd less (List.lt_irrefl _)
      | cons second others =>
          have someByte := String.utf8EncodeChar_ne_nil (c := second)
          obtain ⟨byte, rest, encoded⟩ := List.exists_cons_of_ne_nil someByte
          rw [List.flatMap_cons, encoded]
          exact List.nil_lt_cons ..
  | cons first rest inductionHypothesis =>
      cases right with
      | nil => exact absurd less (List.not_lt_nil _)
      | cons second others =>
          rw [List.flatMap_cons, List.flatMap_cons]
          rcases List.cons_lt_cons_iff.mp less with smaller | ⟨rfl, later⟩
          · exact utf8EncodeChar_append_lt smaller _ _
          · exact List.append_left_lt (inductionHypothesis later)

theorem textBytes_lt {left right : String} (less : left < right) :
    textBytes left < textBytes right := by
  rw [textBytes_eq_flatMap, textBytes_eq_flatMap]
  exact flatMap_utf8EncodeChar_lt (String.lt_iff_toList_lt.mp less)

/-- Texts are ordered as their bytes are. -/
theorem textBytes_le_iff {left right : String} :
    textBytes left ≤ textBytes right ↔ left ≤ right := by
  constructor
  · intro ordered
    exact le_of_not_gt fun greater => List.not_lt.mpr ordered (textBytes_lt greater)
  · intro ordered
    rcases ordered.eq_or_lt with rfl | less
    · exact List.le_refl _
    · exact List.le_of_lt (textBytes_lt less)

end SampleProfile.Text
