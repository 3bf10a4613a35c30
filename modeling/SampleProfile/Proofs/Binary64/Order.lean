import Mathlib.Data.Int.ConditionallyCompleteOrder
import Mathlib.Order.WithBot
import SampleProfile.Proofs.Binary64

/-!
# The order of double precision numbers

Apart from what is no number, all numbers stand in one row from one infinity to the other.
Multiplying a whole number by positive shares keeps their order, and no share of at most one makes
it larger.
-/

namespace SampleProfile.Binary64

/-! ## Places in the row -/

/-- Where a number stands, in units of the least positive one. -/
def place : Binary64 → WithBot (WithTop ℤ)
  | nan => ⊥
  | infinite true => ⊥
  | infinite false => ((⊤ : WithTop ℤ) : WithBot (WithTop ℤ))
  | finite negative significand exponent =>
      ((units negative significand exponent : WithTop ℤ) : WithBot (WithTop ℤ))

/-- One number is less than another, and neither is no number. -/
def Below (left right : Binary64) : Prop :=
  le left right ∧ ¬ le right left

instance : DecidableRel Below := fun _ _ => inferInstanceAs (Decidable (_ ∧ _))

section Row

variable {left middle right : Binary64}

theorem le_iff : le left right ↔ left ≠ nan ∧ right ≠ nan ∧ place left ≤ place right := by
  rcases left with _ | (_ | _) | ⟨_, _, _⟩ <;> rcases right with _ | (_ | _) | ⟨_, _, _⟩ <;>
    simp [le, place]

theorem le_refl {number : Binary64} (numberNe : number ≠ nan) : le number number :=
  le_iff.mpr ⟨numberNe, numberNe, le_rfl⟩

theorem le_trans (first : le left middle) (second : le middle right) : le left right := by
  rw [le_iff] at first second ⊢
  exact ⟨first.1, second.2.1, first.2.2.trans second.2.2⟩

theorem le_of_not_le (leftNe : left ≠ nan) (rightNe : right ≠ nan) (above : ¬ le left right) :
    le right left := by
  rw [le_iff] at above ⊢
  exact ⟨rightNe, leftNe, (le_total _ _).resolve_left fun below => above ⟨leftNe, rightNe, below⟩⟩

theorem below_of_not_le (leftNe : left ≠ nan) (rightNe : right ≠ nan) (above : ¬ le left right) :
    Below right left :=
  ⟨le_of_not_le leftNe rightNe above, above⟩

theorem Below.trans_le (below : Below left middle) (order : le middle right) : Below left right :=
  ⟨le_trans below.1 order, fun back => below.2 (le_trans order back)⟩

theorem min_eq (leftNe : left ≠ nan) (rightNe : right ≠ nan) :
    min left right = if le left right then left else right := by
  cases left with
  | nan => exact absurd rfl leftNe
  | infinite _ | finite _ _ _ =>
      cases right with
      | nan => exact absurd rfl rightNe
      | infinite _ | finite _ _ _ => rfl

theorem min_le_min_right {other : Binary64} (order : le left right) (otherNe : other ≠ nan) :
    le (min left other) (min right other) := by
  obtain ⟨leftNe, rightNe, _⟩ := le_iff.mp order
  rw [min_eq leftNe otherNe, min_eq rightNe otherNe]
  by_cases rightLeast : le right other
  · rw [if_pos rightLeast, if_pos (le_trans order rightLeast)]
    exact order
  · rw [if_neg rightLeast]
    split
    · next leftLeast => exact leftLeast
    · exact le_refl otherNe

end Row

theorem ofNat_ne_nan {number : Nat} (small : number < 2 ^ 128) : ofNat number ≠ nan :=
  (le_iff.mp (le_ofNat_of_le le_rfl small)).1

/-! ## Positive shares -/

section Share

variable {share larger : Binary64} {number : Nat}

theorem finite_true_le_zero (significand : Nat) (exponent : ℤ) :
    le (finite true significand exponent) zero := by
  have nothing : units false 0 minExponent = 0 := by simp [units]
  rw [zero, le, decide_eq_true_eq, nothing, units]
  simp only [if_true, Left.neg_nonpos_iff]
  positivity

/-- A positive share counts for at most one, as a finite number without a sign. -/
theorem exists_min_one_of_positive (inFormat : InFormat share) (positive : Below zero share) :
    ∃ significand exponent, min share one = finite false significand exponent ∧
      minExponent ≤ exponent ∧ (significand : ℚ) * 2 ^ exponent ≤ 1 := by
  have itself : ∃ significand exponent, one = finite false significand exponent ∧
      minExponent ≤ exponent ∧ (significand : ℚ) * 2 ^ exponent ≤ 1 :=
    ⟨_, _, rfl, by decide, one_value.le⟩
  have shareNe : share ≠ nan := (le_iff.mp positive.1).2.1
  rw [min_eq shareNe (by decide)]
  split
  · next small =>
    cases share with
    | nan => exact absurd rfl shareNe
    | infinite negative =>
        cases negative with
        | false => simp [le, one] at small
        | true => exact absurd positive.1 (by decide)
    | finite negative significand exponent =>
        have least : minExponent ≤ exponent := inFormat.2.1
        cases negative with
        | false =>
            rw [one, le_finite_iff least (by decide), one_value] at small
            exact ⟨_, _, rfl, least, small⟩
        | true => exact absurd (finite_true_le_zero significand exponent) positive.2
  · exact itself

theorem mul_le_mul_left {significand unit unit' : Nat} {exponent scale scale' : ℤ}
    (order : (unit : ℚ) * 2 ^ scale ≤ unit' * 2 ^ scale')
    (small : (significand : ℚ) * 2 ^ exponent * (unit' * 2 ^ scale') < 2 ^ 128) :
    le (mul (finite false significand exponent) (finite false unit scale))
      (mul (finite false significand exponent) (finite false unit' scale')) := by
  have products : (significand : ℚ) * 2 ^ exponent * (unit * 2 ^ scale) ≤
      significand * 2 ^ exponent * (unit' * 2 ^ scale') := by gcongr
  obtain ⟨_, _, productEq, bounds, rounds⟩ :=
    (mul_cases false false significand unit exponent scale).resolve_right
      fun overflow => absurd overflow.2 (products.trans_lt small).not_ge
  obtain ⟨_, _, productEq', bounds', rounds'⟩ :=
    (mul_cases false false significand unit' exponent scale').resolve_right
      fun overflow => absurd overflow.2 small.not_ge
  rw [productEq, productEq', Bool.bne_false, le_finite_iff bounds.2.1 bounds'.2.1]
  exact rounds.mono rounds' products

/-- A whole number times a larger share is no smaller. -/
theorem mul_min_one_le_mul_min_one (inFormat : InFormat share) (inFormat' : InFormat larger)
    (positive : Below zero share) (order : le share larger) (small : number ≤ 2 ^ 64) :
    le (mul (ofNat number) (min share one)) (mul (ofNat number) (min larger one)) := by
  obtain ⟨unit, scale, shareEq, least, _⟩ := exists_min_one_of_positive inFormat positive
  obtain ⟨unit', scale', largerEq, least', atMost⟩ :=
    exists_min_one_of_positive inFormat' (positive.trans_le order)
  obtain ⟨significand, exponent, numberEq, _, rounds⟩ := exists_ofNat (small.trans_lt (by decide))
  have values := min_le_min_right order (by decide : one ≠ nan)
  rw [shareEq, largerEq, le_finite_iff least least'] at values
  rw [shareEq, largerEq, numberEq]
  refine mul_le_mul_left values ?_
  calc (significand : ℚ) * 2 ^ exponent * (unit' * 2 ^ scale') ≤ 2 ^ 64 * 1 := by
        gcongr
        exact rounds.le_top small
    _ < 2 ^ 128 := by norm_num

/-- A whole number times a share of at most one is no larger. -/
theorem mul_min_one_le (inFormat : InFormat share) (positive : Below zero share)
    (small : number ≤ 2 ^ 64) : le (mul (ofNat number) (min share one)) (ofNat number) := by
  have itself : le (ofNat number) (ofNat number) :=
    le_ofNat_of_le le_rfl (small.trans_lt (by decide))
  have oneNe : one ≠ nan := by decide
  have shareNe : share ≠ nan := (le_iff.mp positive.1).2.1
  by_cases part : le share one
  · have oneInFormat : InFormat one := by decide
    have whole := (le_mul_min_one_iff oneInFormat (le_refl oneNe) small small).mpr itself
    exact le_trans (mul_min_one_le_mul_min_one inFormat oneInFormat positive part small) whole
  · have full := le_of_not_le shareNe oneNe part
    exact (le_mul_min_one_iff inFormat full small small).mpr itself

end Share

end SampleProfile.Binary64
