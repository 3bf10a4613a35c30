import Mathlib.Data.List.DropRight
import SampleProfile.Focus

/-!
# Build-ids and their padding

Two build-ids match if one of them is empty, or if zeros at their ends make them equal up to case.
How many zeros a build-id is padded with therefore never changes what it matches, and build-ids of
one length match only if they are equal up to case.
-/

namespace SampleProfile.Focus

/-! ## Zeros at the end -/

/-- The text of a build-id in lower case. -/
def lowered (buildId : String) : List Char :=
  buildId.toList.map Char.toLower

/-- Zeros at their ends make two build-ids equal up to case. -/
def Agree (left right : String) : Prop :=
  ∃ first second, lowered left ++ List.replicate first '0' =
    lowered right ++ List.replicate second '0'

theorem toLower_eq_zero_iff {char : Char} : char.toLower = '0' ↔ char = '0' := by
  delta Char.toLower
  split
  · next upper =>
    have bounds : 65 ≤ char.val ∧ char.val ≤ 90 := upper
    constructor
    · intro zero
      have code : char.val + 32 = 48 := congrArg Char.val zero
      grind
    · rintro rfl
      exact absurd bounds (by decide)
  · exact Iff.rfl

theorem rdropWhile_append_zeros (chars : List Char) (count : Nat) :
    (chars ++ List.replicate count '0').rdropWhile (· = '0') = chars.rdropWhile (· = '0') := by
  induction count with
  | zero => rw [List.replicate_zero, List.append_nil]
  | succ count inductionHypothesis =>
      rw [List.replicate_succ', ← List.append_assoc, List.rdropWhile_concat_pos _ _ _ (by simp),
        inductionHypothesis]

theorem exists_eq_append_zeros (chars : List Char) :
    ∃ count, chars = chars.rdropWhile (· = '0') ++ List.replicate count '0' := by
  have zeros : chars.rtakeWhile (· = '0') =
      List.replicate (chars.rtakeWhile (· = '0')).length '0' := by
    refine List.eq_replicate_of_mem fun char member => ?_
    simpa using List.mem_rtakeWhile_imp member
  refine ⟨(chars.rtakeWhile (· = '0')).length, ?_⟩
  rw [← zeros, List.rdropWhile_append_rtakeWhile]

theorem significant_eq_rdropWhile (buildId : String) :
    significant buildId = (lowered buildId).rdropWhile (· = '0') := by
  rw [significant, lowered, List.rdropWhile, ← List.map_reverse, List.dropWhile_map,
    List.map_reverse]
  congr 3
  funext char
  simp [toLower_eq_zero_iff]

theorem significant_eq_iff {left right : String} :
    significant left = significant right ↔ Agree left right := by
  rw [significant_eq_rdropWhile, significant_eq_rdropWhile]
  constructor
  · intro same
    obtain ⟨first, leftEq⟩ := exists_eq_append_zeros (lowered left)
    obtain ⟨second, rightEq⟩ := exists_eq_append_zeros (lowered right)
    -- Each is given the zeros of the other one.
    refine ⟨second, first, ?_⟩
    rw [leftEq, rightEq, same, List.append_assoc, List.append_assoc,
      List.replicate_append_replicate, List.replicate_append_replicate, Nat.add_comm]
  · rintro ⟨first, second, same⟩
    rw [← rdropWhile_append_zeros (lowered left) first, same, rdropWhile_append_zeros]

/-! ## Matching -/

namespace Agree

variable {left middle right : String}

theorem refl (buildId : String) : Agree buildId buildId :=
  ⟨0, 0, rfl⟩

theorem symm (agree : Agree left right) : Agree right left := by
  obtain ⟨first, second, same⟩ := agree
  exact ⟨second, first, same.symm⟩

theorem trans (agree : Agree left middle) (agreeAgain : Agree middle right) : Agree left right := by
  rw [← significant_eq_iff] at agree agreeAgain ⊢
  exact agree.trans agreeAgain

theorem iff_of_length_eq (same : left.length = right.length) :
    Agree left right ↔ lowered left = lowered right := by
  constructor
  · rintro ⟨first, second, equal⟩
    refine (List.append_inj equal ?_).1
    rw [lowered, lowered, List.length_map, List.length_map, String.length_toList,
      String.length_toList, same]
  · intro equal
    exact ⟨0, 0, by rw [equal]⟩

end Agree

theorem buildIdsMatch_iff {left right : String} :
    buildIdsMatch left right ↔ left = "" ∨ right = "" ∨ Agree left right := by
  simp only [buildIdsMatch, Bool.or_eq_true, String.isEmpty_iff, decide_eq_true_eq,
    significant_eq_iff, or_assoc]

theorem buildIdsMatch_comm (left right : String) :
    buildIdsMatch left right = buildIdsMatch right left := by
  have same : Agree left right ↔ Agree right left := ⟨Agree.symm, Agree.symm⟩
  rw [Bool.eq_iff_iff, buildIdsMatch_iff, buildIdsMatch_iff, same]
  exact or_left_comm

theorem buildIdsMatch_iff_of_length_eq {left right : String} (same : left.length = right.length) :
    buildIdsMatch left right ↔ lowered left = lowered right := by
  rw [buildIdsMatch_iff, ← Agree.iff_of_length_eq same]
  constructor
  · rintro (rfl | rfl | agree)
    · obtain rfl := String.length_eq_zero_iff.mp same.symm
      exact Agree.refl ""
    · obtain rfl := String.length_eq_zero_iff.mp same
      exact Agree.refl ""
    · exact agree
  · exact fun agree => Or.inr (Or.inr agree)

/-! ## Padding -/

theorem length_le_utf8ByteSize (text : String) : text.length ≤ text.utf8ByteSize := by
  induction text using String.push_induction with
  | empty => exact Nat.le_refl _
  | push text char inductionHypothesis =>
      have positive := Char.utf8Size_pos char
      rw [String.length_push, String.utf8ByteSize_push]
      omega

section Padding

variable (buildId : String)

theorem exists_lowered_padBuildId :
    ∃ count, lowered (padBuildId buildId) = lowered buildId ++ List.replicate count '0' := by
  rw [padBuildId]
  split
  · exact ⟨0, by rw [List.replicate_zero, List.append_nil]⟩
  · exact ⟨buildIdLength - buildId.length, by simp [lowered]⟩

theorem agree_padBuildId : Agree (padBuildId buildId) buildId := by
  obtain ⟨count, padded⟩ := exists_lowered_padBuildId buildId
  exact ⟨0, count, by rw [padded, List.replicate_zero, List.append_nil]⟩

theorem padBuildId_eq_empty_iff : padBuildId buildId = "" ↔ buildId = "" := by
  rw [padBuildId]
  split
  · exact Iff.rfl
  · next short =>
    have nonempty : buildId ≠ "" := by
      rintro rfl
      exact short rfl
    rw [String.append_eq_empty_iff, and_iff_left_iff_imp]
    exact fun empty => absurd empty nonempty

/-- A padded build-id fills the length, so that it is not padded again. -/
theorem padBuildId_padBuildId : padBuildId (padBuildId buildId) = padBuildId buildId := by
  by_cases kept : buildId.isEmpty || buildId.utf8ByteSize ≥ buildIdLength
  · rw [padBuildId.eq_def buildId, if_pos kept, padBuildId, if_pos kept]
  · have lengthEq : (padBuildId buildId).length =
        buildId.length + (buildIdLength - buildId.length) := by
      simp [padBuildId, kept]
    have filled : buildIdLength ≤ (padBuildId buildId).utf8ByteSize := by
      have bytes := length_le_utf8ByteSize (padBuildId buildId)
      omega
    rw [padBuildId.eq_def (padBuildId buildId), if_pos]
    simp [filled]

theorem buildIdsMatch_padBuildId_left (other : String) :
    buildIdsMatch (padBuildId buildId) other = buildIdsMatch buildId other := by
  have same : Agree (padBuildId buildId) other ↔ Agree buildId other :=
    ⟨(agree_padBuildId buildId).symm.trans, (agree_padBuildId buildId).trans⟩
  rw [Bool.eq_iff_iff, buildIdsMatch_iff, buildIdsMatch_iff, padBuildId_eq_empty_iff, same]

end Padding

/-- Padding either build-id, once or twice, changes no answer.  Every build-id matches itself,
matching goes both ways and goes on through a build-id that is not empty.  Build-ids of one length,
full ones among them, match exactly if they are equal up to case. -/
theorem buildIdsMatch_padded (left right : String) :
    buildIdsMatch (padBuildId left) right = buildIdsMatch left right ∧
      buildIdsMatch left (padBuildId right) = buildIdsMatch left right ∧
      padBuildId (padBuildId left) = padBuildId left ∧
      buildIdsMatch left left ∧
      buildIdsMatch left right = buildIdsMatch right left ∧
      (∀ middle, middle ≠ "" → buildIdsMatch left middle → buildIdsMatch middle right →
        buildIdsMatch left right) ∧
      (left.length = right.length → (buildIdsMatch left right ↔ lowered left = lowered right)) := by
  refine ⟨buildIdsMatch_padBuildId_left left right, ?_, padBuildId_padBuildId left, ?_,
    buildIdsMatch_comm left right, ?_, buildIdsMatch_iff_of_length_eq⟩
  · rw [buildIdsMatch_comm, buildIdsMatch_padBuildId_left, buildIdsMatch_comm]
  · exact buildIdsMatch_iff.mpr (Or.inr (Or.inr (Agree.refl left)))
  · intro middle nonempty matchesLeft matchesRight
    rw [buildIdsMatch_iff] at matchesLeft matchesRight ⊢
    rcases matchesLeft with empty | empty | agree
    · exact Or.inl empty
    · exact absurd empty nonempty
    · rcases matchesRight with empty | empty | agreeAgain
      · exact absurd empty nonempty
      · exact Or.inr (Or.inl empty)
      · exact Or.inr (Or.inr (agree.trans agreeAgain))

/-- Zeros of a build-id of its own, in capitals, and full build-ids that differ in such zeros only.
-/
theorem buildIdsMatch_padded_zeros :
    let spelled := "ABCDEF00"
    let bare := "abcdef"
    let full := "abcdefabcdefabcdefabcdefabcdefabcdefabc0"
    let fuller := "abcdefabcdefabcdefabcdefabcdefabcdefab00"
    bare ≠ "" ∧ buildIdsMatch spelled bare ∧ buildIdsMatch bare (padBuildId bare) ∧
      buildIdsMatch spelled (padBuildId bare) ∧
      full.length = fuller.length ∧ ¬ buildIdsMatch full fuller := by
  intro spelled bare full fuller
  have nonempty : bare ≠ "" := by decide
  have first : buildIdsMatch spelled bare := by decide +kernel
  have second : buildIdsMatch bare (padBuildId bare) := by decide +kernel
  have lengths : full.length = fuller.length := by decide +kernel
  obtain ⟨_, _, _, _, _, onward, _⟩ := buildIdsMatch_padded spelled (padBuildId bare)
  obtain ⟨_, _, _, _, _, _, inFull⟩ := buildIdsMatch_padded full fuller
  refine ⟨nonempty, first, second, onward bare nonempty first second, lengths, ?_⟩
  rw [inFull lengths]
  decide +kernel

end SampleProfile.Focus
