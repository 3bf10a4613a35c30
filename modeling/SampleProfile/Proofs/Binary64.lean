import Mathlib.Algebra.Order.Field.Power
import Mathlib.Data.Rat.Cast.Order
import Mathlib.Tactic.FieldSimp
import Mathlib.Tactic.Linarith
import Mathlib.Tactic.NormNum
import Mathlib.Tactic.Positivity
import Mathlib.Tactic.Ring
import SampleProfile.Binary64.Decimal

/-!
# Rounding to double precision

A fraction is rounded to a whole number of units, and the unit is a power of two that depends on the
fraction alone.  Hence rounding keeps order, leaves the numbers of the format as they are, and is
off by half a unit at most.
-/

namespace SampleProfile.Binary64

/-! ## Nearest whole numbers -/

/-- A whole number is nearest to a value, and even if another one is as near. -/
structure Nearest (number : Nat) (value : ℚ) : Prop where
  near : |value - number| ≤ 1 / 2
  even_of_tie : |value - number| = 1 / 2 → Even number

namespace Nearest

variable {lower upper number : Nat} {left right value : ℚ}

theorem self (number : Nat) : Nearest number (number : ℚ) where
  near := by simp
  even_of_tie := by
    intro tie
    rw [sub_self, abs_zero] at tie
    norm_num at tie

/-- Rounding keeps order: between two whole numbers in a row the even one wins from both sides. -/
theorem mono (nearest : Nearest lower left) (nearest' : Nearest upper right)
    (order : left ≤ right) :
    lower ≤ upper := by
  by_contra above
  have next : (upper : ℚ) + 1 ≤ lower := by exact_mod_cast Nat.lt_of_not_le above
  have fromLeft := (abs_le.mp nearest.near).1
  have fromRight := (abs_le.mp nearest'.near).2
  -- Everything has to be as tight as it can be.
  have leftTie : |left - lower| = 1 / 2 := by
    rw [abs_of_nonpos (by linarith)]
    linarith
  have rightTie : |right - upper| = 1 / 2 := by
    rw [abs_of_nonneg (by linarith)]
    linarith
  have consecutive : lower = upper + 1 := by
    have equal : (lower : ℚ) = upper + 1 := by linarith
    exact_mod_cast equal
  have lowerEven := nearest.even_of_tie leftTie
  have upperEven := nearest'.even_of_tie rightTie
  rw [consecutive, Nat.even_add_one] at lowerEven
  exact lowerEven upperEven

theorem eq_of_eq (nearest : Nearest lower left) (nearest' : Nearest upper right)
    (same : left = right) : lower = upper :=
  Nat.le_antisymm (nearest.mono nearest' same.le) (nearest'.mono nearest same.ge)

section Quotient

variable {quotient : Nat} {rest : ℚ}

theorem down (nonnegative : 0 ≤ rest) (half : rest ≤ 1 / 2) (even : rest = 1 / 2 → Even quotient) :
    Nearest quotient (quotient + rest) := by
  have distance : |(quotient : ℚ) + rest - quotient| = rest := by
    rw [add_sub_cancel_left, abs_of_nonneg nonnegative]
  constructor <;> rw [distance]
  · exact half
  · exact even

theorem up (half : 1 / 2 ≤ rest) (less : rest < 1) (odd : rest = 1 / 2 → ¬ Even quotient) :
    Nearest (quotient + 1) (quotient + rest) := by
  have distance : |(quotient : ℚ) + rest - (quotient + 1 : Nat)| = 1 - rest := by
    push_cast
    rw [abs_of_nonpos (by linarith)]
    ring
  constructor <;> rw [distance]
  · linarith
  · intro tie
    rw [Nat.even_add_one]
    exact odd (by linarith)

end Quotient

end Nearest

theorem nearest_roundDiv (numerator : Nat) {denominator : Nat} (positive : 0 < denominator) :
    Nearest (roundDiv numerator denominator) ((numerator : ℚ) / denominator) := by
  have denominatorPos : (0 : ℚ) < denominator := by exact_mod_cast positive
  have valueEq : (numerator : ℚ) / denominator =
      (numerator / denominator : Nat) + (numerator % denominator : Nat) / (denominator : ℚ) := by
    have whole :
        (denominator : ℚ) * (numerator / denominator : Nat) + (numerator % denominator : Nat) =
        numerator := by exact_mod_cast Nat.div_add_mod numerator denominator
    rw [← whole, add_div, mul_div_cancel_left₀ _ denominatorPos.ne']
  have less : ((numerator % denominator : Nat) : ℚ) / denominator < 1 := by
    rw [div_lt_one denominatorPos]
    exact_mod_cast Nat.mod_lt numerator positive
  have halfLe : 1 / 2 ≤ ((numerator % denominator : Nat) : ℚ) / denominator ↔
      denominator ≤ 2 * (numerator % denominator) := by
    rw [div_le_div_iff₀ two_pos denominatorPos, one_mul, mul_comm]
    norm_cast
  have leHalf : ((numerator % denominator : Nat) : ℚ) / denominator ≤ 1 / 2 ↔
      2 * (numerator % denominator) ≤ denominator := by
    rw [div_le_div_iff₀ denominatorPos two_pos, one_mul, mul_comm]
    norm_cast
  rw [valueEq, roundDiv]
  simp only [Bool.or_eq_true, Bool.and_eq_true, decide_eq_true_eq]
  split
  · next upward =>
    refine .up (halfLe.mpr (by omega)) less fun tie => ?_
    have tieLe := leHalf.mp tie.le
    rw [Nat.not_even_iff]
    omega
  · next downward =>
    refine .down (by positivity) (leHalf.mpr (by omega)) fun tie => ?_
    have tieLe := halfLe.mp tie.ge
    rw [Nat.even_iff]
    omega

/-! ## Exponents -/

/-- The exponent with which a value has a significand of full precision, or the least exponent. -/
structure IsExponent (value : ℚ) (exponent : ℤ) : Prop where
  least : minExponent ≤ exponent
  below : value < 2 ^ (exponent + 53)
  full : exponent = minExponent ∨ 2 ^ (exponent + 52) ≤ value

theorem zpow_two_le_iff {left right : ℤ} : (2 : ℚ) ^ left ≤ 2 ^ right ↔ left ≤ right :=
  zpow_le_zpow_iff_right₀ one_lt_two

theorem zpow_two_lt_iff {left right : ℤ} : (2 : ℚ) ^ left < 2 ^ right ↔ left < right :=
  zpow_lt_zpow_iff_right₀ one_lt_two

theorem pow_mul_zpow_two (bits : Nat) (exponent : ℤ) :
    ((2 ^ bits : Nat) : ℚ) * 2 ^ exponent = 2 ^ (exponent + bits) := by
  rw [zpow_add₀ two_ne_zero, zpow_natCast, mul_comm]
  push_cast
  rfl

theorem IsExponent.mono {left right : ℚ} {exponent exponent' : ℤ} (first : IsExponent left exponent)
    (second : IsExponent right exponent') (order : left ≤ right) : exponent ≤ exponent' := by
  rcases first.full with least | full
  · exact least ▸ second.least
  · have between : (2 : ℚ) ^ (exponent + 52) < 2 ^ (exponent' + 53) :=
      full.trans_lt (order.trans_lt second.below)
    rw [zpow_two_lt_iff] at between
    omega

/-- Values that need one of the greatest exponents lie far above all sizes of the program. -/
theorem IsExponent.le_of_large {value : ℚ} {exponent : ℤ} (isExponent : IsExponent value exponent)
    (large : 970 ≤ exponent) : (2 : ℚ) ^ 128 ≤ value := by
  have raised : exponent ≠ minExponent := by
    rintro rfl
    exact absurd large (by decide)
  calc (2 : ℚ) ^ 128 = 2 ^ (128 : ℤ) := by norm_cast
    _ ≤ 2 ^ (exponent + 52) := zpow_two_le_iff.mpr (by omega)
    _ ≤ value := isExponent.full.resolve_left raised

theorem powerOfTwo_pos (exponent : ℤ) :
    0 < (powerOfTwo exponent).1 ∧ 0 < (powerOfTwo exponent).2 := by
  rw [powerOfTwo]
  split
  · exact ⟨Nat.one_pos, Nat.two_pow_pos _⟩
  · exact ⟨Nat.two_pow_pos _, Nat.one_pos⟩

theorem powerOfTwo_div (exponent : ℤ) :
    ((powerOfTwo exponent).1 : ℚ) / (powerOfTwo exponent).2 = 2 ^ exponent := by
  rw [powerOfTwo]
  split
  · next negative =>
    have flipped : exponent = -(exponent.natAbs : ℤ) := by omega
    conv_rhs => rw [flipped, zpow_neg, zpow_natCast]
    simp
  · next nonnegative =>
    have kept : exponent = (exponent.natAbs : ℤ) := by omega
    conv_rhs => rw [kept, zpow_natCast]
    simp

theorem scaled_div (numerator denominator : Nat) (exponent : ℤ) :
    ((numerator * (powerOfTwo exponent).2 : Nat) : ℚ) /
        (denominator * (powerOfTwo exponent).1 : Nat) =
      (numerator : ℚ) / denominator / 2 ^ exponent := by
  push_cast
  rw [← powerOfTwo_div, mul_div_mul_comm, div_eq_mul_inv (numerator / denominator : ℚ), inv_div]

section Magnitude

variable {numerator denominator : Nat}

/-- The logarithms of numerator and denominator tell the magnitude of a fraction up to a factor of
four. -/
theorem log2_bounds (nonzero : numerator ≠ 0) (positive : 0 < denominator) :
    (2 : ℚ) ^ ((numerator.log2 : ℤ) - denominator.log2 - 1) ≤ (numerator : ℚ) / denominator ∧
      (numerator : ℚ) / denominator < 2 ^ ((numerator.log2 : ℤ) - denominator.log2 + 1) := by
  have denominatorPos : (0 : ℚ) < denominator := by exact_mod_cast positive
  have numeratorLow : (2 : ℚ) ^ (numerator.log2 : ℤ) ≤ numerator := by
    rw [zpow_natCast]
    exact_mod_cast Nat.log2_self_le nonzero
  have numeratorHigh : (numerator : ℚ) < 2 ^ ((numerator.log2 : ℤ) + 1) := by
    rw [← Nat.cast_succ, zpow_natCast]
    exact_mod_cast Nat.lt_log2_self
  have denominatorLow : (2 : ℚ) ^ (denominator.log2 : ℤ) ≤ denominator := by
    rw [zpow_natCast]
    exact_mod_cast Nat.log2_self_le positive.ne'
  have denominatorHigh : (denominator : ℚ) < 2 ^ ((denominator.log2 : ℤ) + 1) := by
    rw [← Nat.cast_succ, zpow_natCast]
    exact_mod_cast Nat.lt_log2_self
  constructor
  · rw [le_div_iff₀ denominatorPos]
    calc (2 : ℚ) ^ ((numerator.log2 : ℤ) - denominator.log2 - 1) * denominator
        ≤ 2 ^ ((numerator.log2 : ℤ) - denominator.log2 - 1) * 2 ^ ((denominator.log2 : ℤ) + 1) := by
          gcongr
      _ = 2 ^ (numerator.log2 : ℤ) := by
          rw [← zpow_add₀ two_ne_zero]
          congr 1
          ring
      _ ≤ numerator := numeratorLow
  · rw [div_lt_iff₀ denominatorPos]
    calc (numerator : ℚ) < 2 ^ ((numerator.log2 : ℤ) + 1) := numeratorHigh
      _ = 2 ^ ((numerator.log2 : ℤ) - denominator.log2 + 1) * 2 ^ (denominator.log2 : ℤ) := by
          rw [← zpow_add₀ two_ne_zero]
          congr 1
          ring
      _ ≤ 2 ^ ((numerator.log2 : ℤ) - denominator.log2 + 1) * denominator := by
          gcongr

theorem scaled_lt_iff (positive : 0 < denominator) (exponent : ℤ) :
    numerator * (powerOfTwo exponent).2 < Nat.pow 2 52 * (denominator * (powerOfTwo exponent).1) ↔
      (numerator : ℚ) / denominator < 2 ^ (exponent + 52) := by
  have scalePos : (0 : ℚ) < (denominator * (powerOfTwo exponent).1 : Nat) := by
    exact_mod_cast Nat.mul_pos positive (powerOfTwo_pos exponent).1
  have unitPos : (0 : ℚ) < 2 ^ exponent := zpow_pos two_pos exponent
  rw [← Nat.cast_lt (α := ℚ), Nat.cast_mul (Nat.pow 2 52), ← div_lt_iff₀ scalePos, scaled_div,
    div_lt_iff₀ unitPos, add_comm exponent, zpow_add₀ two_ne_zero]
  norm_num

theorem isExponent_exponentOf (nonzero : numerator ≠ 0) (positive : 0 < denominator) :
    IsExponent ((numerator : ℚ) / denominator) (exponentOf numerator denominator) := by
  obtain ⟨low, high⟩ := log2_bounds nonzero positive
  rw [exponentOf]
  simp only [scaled_lt_iff positive]
  -- The exponent before it is raised to the least one.
  obtain ⟨exponent, exponentEq⟩ : ∃ exponent : ℤ, exponent =
      if (numerator : ℚ) / denominator <
        2 ^ ((numerator.log2 : ℤ) - denominator.log2 - 52 + 52) then
        (numerator.log2 : ℤ) - denominator.log2 - 52 - 1
      else (numerator.log2 : ℤ) - denominator.log2 - 52 := ⟨_, rfl⟩
  rw [← exponentEq]
  have bounds : (2 : ℚ) ^ (exponent + 52) ≤ (numerator : ℚ) / denominator ∧
      (numerator : ℚ) / denominator < 2 ^ (exponent + 53) := by
    split at exponentEq
    · next under =>
      have lowEq : exponent + 52 = (numerator.log2 : ℤ) - denominator.log2 - 1 := by omega
      have highEq : exponent + 53 = (numerator.log2 : ℤ) - denominator.log2 - 52 + 52 := by omega
      rw [lowEq, highEq]
      exact ⟨low, under⟩
    · next above =>
      have lowEq : exponent + 52 = (numerator.log2 : ℤ) - denominator.log2 - 52 + 52 := by omega
      have highEq : exponent + 53 = (numerator.log2 : ℤ) - denominator.log2 + 1 := by omega
      rw [lowEq, highEq]
      exact ⟨not_lt.mp above, high⟩
  refine ⟨le_max_right _ _, ?_, ?_⟩
  · refine bounds.2.trans_le (zpow_two_le_iff.mpr ?_)
    omega
  · rcases le_total exponent minExponent with under | above
    · exact Or.inl (max_eq_right under)
    · rw [max_eq_left above]
      exact Or.inr bounds.1

end Magnitude

/-! ## Rounded values -/

/-- A value is rounded to a whole number of units of its exponent. -/
def RoundsTo (value rounded : ℚ) : Prop :=
  ∃ exponent number, IsExponent value exponent ∧ Nearest number (value / 2 ^ exponent) ∧
    rounded = number * 2 ^ exponent

namespace RoundsTo

variable {value value' rounded rounded' : ℚ}

/-- A significand never needs more than 53 bits, apart from a carry into the next exponent. -/
theorem number_le {exponent : ℤ} {number : Nat} (isExponent : IsExponent value exponent)
    (nearest : Nearest number (value / 2 ^ exponent)) : number ≤ 2 ^ 53 := by
  have unitPos : (0 : ℚ) < 2 ^ exponent := zpow_pos two_pos exponent
  refine nearest.mono (Nearest.self (2 ^ 53)) ?_
  rw [div_le_iff₀ unitPos]
  calc value ≤ 2 ^ (exponent + 53) := isExponent.below.le
    _ = ((2 ^ 53 : Nat) : ℚ) * 2 ^ exponent := (pow_mul_zpow_two 53 exponent).symm

theorem le_number {exponent : ℤ} {number : Nat} (isExponent : IsExponent value exponent)
    (nearest : Nearest number (value / 2 ^ exponent)) (raised : exponent ≠ minExponent) :
    2 ^ 52 ≤ number := by
  have unitPos : (0 : ℚ) < 2 ^ exponent := zpow_pos two_pos exponent
  refine (Nearest.self (2 ^ 52)).mono nearest ?_
  rw [le_div_iff₀ unitPos]
  calc ((2 ^ 52 : Nat) : ℚ) * 2 ^ exponent = 2 ^ (exponent + 52) := pow_mul_zpow_two 52 exponent
    _ ≤ value := isExponent.full.resolve_left raised

theorem zero : RoundsTo 0 0 := by
  refine ⟨minExponent, 0, ⟨le_rfl, by positivity, Or.inl rfl⟩, ?_, by simp⟩
  rw [zero_div]
  exact_mod_cast Nearest.self 0

theorem mono (rounds : RoundsTo value rounded) (rounds' : RoundsTo value' rounded')
    (order : value ≤ value') : rounded ≤ rounded' := by
  obtain ⟨exponent, number, isExponent, nearest, rfl⟩ := rounds
  obtain ⟨exponent', number', isExponent', nearest', rfl⟩ := rounds'
  have unitPos : (0 : ℚ) < 2 ^ exponent := zpow_pos two_pos exponent
  rcases (isExponent.mono isExponent' order).eq_or_lt with rfl | raised
  · have numbers := nearest.mono nearest' (by gcongr)
    gcongr
  · -- The power of two between the exponents separates the rounded values.
    have low : (number : ℚ) ≤ (2 ^ 53 : Nat) := by exact_mod_cast number_le isExponent nearest
    have raisedLeast : exponent' ≠ minExponent := by
      have least := isExponent.least
      omega
    have high : ((2 ^ 52 : Nat) : ℚ) ≤ number' := by
      exact_mod_cast le_number isExponent' nearest' raisedLeast
    calc (number : ℚ) * 2 ^ exponent ≤ (2 ^ 53 : Nat) * 2 ^ exponent := by gcongr
      _ = (2 ^ 52 : Nat) * 2 ^ (exponent + 1) := by
          rw [zpow_add_one₀ two_ne_zero]
          norm_num
          ring
      _ ≤ (2 ^ 52 : Nat) * 2 ^ exponent' := by
          have next : (2 : ℚ) ^ (exponent + 1) ≤ 2 ^ exponent' := zpow_two_le_iff.mpr raised
          gcongr
      _ ≤ number' * 2 ^ exponent' := by gcongr

/-- A number of the format is left as it is. -/
theorem eq_self {significand : Nat} {exponent : ℤ}
    (rounds : RoundsTo (significand * 2 ^ exponent) rounded) (bounded : significand < 2 ^ 53)
    (least : minExponent ≤ exponent) : rounded = significand * 2 ^ exponent := by
  obtain ⟨lower, number, isExponent, nearest, rfl⟩ := rounds
  have unitPos : (0 : ℚ) < 2 ^ lower := zpow_pos two_pos lower
  have lowerLe : lower ≤ exponent := by
    rcases isExponent.full with equal | full
    · exact equal ▸ least
    · have below : (2 : ℚ) ^ (lower + 52) < 2 ^ (exponent + 53) := by
        calc (2 : ℚ) ^ (lower + 52) ≤ significand * 2 ^ exponent := full
          _ < (2 ^ 53 : Nat) * 2 ^ exponent := by
              have boundedCast : (significand : ℚ) < (2 ^ 53 : Nat) := by exact_mod_cast bounded
              have positive : (0 : ℚ) < 2 ^ exponent := zpow_pos two_pos exponent
              gcongr
          _ = 2 ^ (exponent + 53) := pow_mul_zpow_two 53 exponent
      rw [zpow_two_lt_iff] at below
      omega
  -- In units of the lower exponent the number is a whole one.
  obtain ⟨shift, rfl⟩ := Int.le.dest lowerLe
  have whole : (significand : ℚ) * 2 ^ (lower + shift) / 2 ^ lower =
      (significand * 2 ^ shift : Nat) := by
    rw [zpow_add₀ two_ne_zero, zpow_natCast, div_eq_iff unitPos.ne']
    push_cast
    ring
  rw [nearest.eq_of_eq (Nearest.self _) whole, zpow_add₀ two_ne_zero, zpow_natCast]
  push_cast
  ring

/-- A value of one or more is off by at most a `2 ^ 53`-th of itself. -/
theorem error_le (rounds : RoundsTo value rounded) (large : 1 ≤ value) :
    |value - rounded| * 2 ^ 53 ≤ value := by
  obtain ⟨exponent, number, isExponent, nearest, rfl⟩ := rounds
  have unitPos : (0 : ℚ) < 2 ^ exponent := zpow_pos two_pos exponent
  have full : (2 : ℚ) ^ (exponent + 52) ≤ value := by
    rcases isExponent.full with equal | full
    · have tiny : (2 : ℚ) ^ (exponent + 52) ≤ 2 ^ (0 : ℤ) := by
        rw [equal, zpow_two_le_iff]
        decide
      rw [zpow_zero] at tiny
      exact tiny.trans large
    · exact full
  have inUnits : |value - number * 2 ^ exponent| =
      |value / 2 ^ exponent - number| * 2 ^ exponent := by
    rw [← abs_of_pos unitPos, ← abs_mul, abs_of_pos unitPos, sub_mul, div_mul_cancel₀ _ unitPos.ne']
  calc |value - number * 2 ^ exponent| * 2 ^ 53
      = |value / 2 ^ exponent - number| * 2 ^ exponent * 2 ^ 53 := by rw [inUnits]
    _ ≤ 1 / 2 * 2 ^ exponent * 2 ^ 53 := by
        have near := nearest.near
        gcongr
    _ = 2 ^ (exponent + 52) := by
        rw [zpow_add₀ two_ne_zero]
        norm_num
        ring
    _ ≤ value := full

end RoundsTo

/-! ## Numbers of the format -/

/-- A finite number keeps to the bounds of the format. -/
def InFormat : Binary64 → Prop
  | finite _ significand exponent =>
      significand < 2 ^ 53 ∧ minExponent ≤ exponent ∧ exponent ≤ maxExponent
  | _ => True

instance : DecidablePred InFormat
  | nan => inferInstanceAs (Decidable True)
  | infinite _ => inferInstanceAs (Decidable True)
  | finite _ _ _ => inferInstanceAs (Decidable (_ ∧ _))

section Fraction

variable {negative : Bool} {numerator denominator : Nat}

/-- Rounding a fraction gives the rounded value, unless that is too large for the format. -/
theorem ofFraction_cases (negative : Bool) (numerator : Nat) (positive : 0 < denominator) :
    (∃ significand exponent, ofFraction negative numerator denominator =
        finite negative significand exponent ∧
      InFormat (finite negative significand exponent) ∧
      RoundsTo ((numerator : ℚ) / denominator) (significand * 2 ^ exponent)) ∨
    ofFraction negative numerator denominator = infinite negative ∧
      (2 : ℚ) ^ 128 ≤ (numerator : ℚ) / denominator := by
  rw [ofFraction]
  split
  · next zero =>
    have bounds : InFormat (finite negative 0 minExponent) := ⟨by decide, by decide, by decide⟩
    refine Or.inl ⟨0, minExponent, rfl, bounds, ?_⟩
    rw [zero, Nat.cast_zero, zero_div, zero_mul]
    exact .zero
  · next nonzero =>
    dsimp only
    have isExponent := isExponent_exponentOf nonzero positive
    generalize exponentOf numerator denominator = exponent at isExponent ⊢
    have nearest := nearest_roundDiv (numerator * (powerOfTwo exponent).2)
      (Nat.mul_pos positive (powerOfTwo_pos exponent).1)
    rw [scaled_div] at nearest
    have numberLe := RoundsTo.number_le isExponent nearest
    generalize roundDiv (numerator * (powerOfTwo exponent).2)
      (denominator * (powerOfTwo exponent).1) =
      number at nearest numberLe ⊢
    have least := isExponent.least
    have precisionEq : Nat.pow 2 precision = 2 ^ 53 := rfl
    have greatest : maxExponent = 971 := rfl
    rw [precisionEq]
    by_cases carried : number = 2 ^ 53
    · simp only [carried, if_true]
      split
      · next large =>
        exact Or.inr ⟨rfl, isExponent.le_of_large (by omega)⟩
      · next small =>
        refine Or.inl ⟨_, _, rfl, ⟨by decide, by omega, by omega⟩, exponent, number, isExponent,
          nearest, ?_⟩
        rw [carried, zpow_add_one₀ two_ne_zero]
        norm_num
        ring
    · simp only [carried, if_false]
      split
      · next large =>
        exact Or.inr ⟨rfl, isExponent.le_of_large (by omega)⟩
      · next small =>
        exact Or.inl ⟨_, _, rfl, ⟨by omega, least, by omega⟩, exponent, number, isExponent,
          nearest, rfl⟩

theorem inFormat_ofFraction (negative : Bool) (numerator : Nat) (positive : 0 < denominator) :
    InFormat (ofFraction negative numerator denominator) := by
  rcases ofFraction_cases negative numerator positive with
    ⟨_, _, rounded, inFormat, _⟩ | ⟨overflown, _⟩
  · rw [rounded]
    exact inFormat
  · rw [overflown]
    trivial

end Fraction

/-- A product is rounded once, unless it is too large for the format. -/
theorem mul_cases (negative negative' : Bool) (significand significand' : Nat)
    (exponent exponent' : ℤ) :
    (∃ product scale,
      mul (finite negative significand exponent) (finite negative' significand' exponent') =
        finite (negative != negative') product scale ∧
      InFormat (finite (negative != negative') product scale) ∧
      RoundsTo (significand * 2 ^ exponent * (significand' * 2 ^ exponent'))
        (product * 2 ^ scale)) ∨
    mul (finite negative significand exponent) (finite negative' significand' exponent') =
        infinite (negative != negative') ∧
      (2 : ℚ) ^ 128 ≤ significand * 2 ^ exponent * (significand' * 2 ^ exponent') := by
  have productEq :
      ((significand * significand' * (powerOfTwo (exponent + exponent')).1 : Nat) : ℚ) /
      (powerOfTwo (exponent + exponent')).2 =
        significand * 2 ^ exponent * (significand' * 2 ^ exponent') := by
    push_cast
    rw [mul_div_assoc, powerOfTwo_div, zpow_add₀ two_ne_zero]
    ring
  rw [mul, ← productEq]
  exact ofFraction_cases _ _ (powerOfTwo_pos (exponent + exponent')).2

theorem inFormat_ofDecimal (decimal : Decimal) : InFormat (ofDecimal decimal) := by
  rw [ofDecimal]
  split
  · exact ⟨by decide, by decide, by decide⟩
  · split
    · trivial
    · split
      · exact inFormat_ofFraction _ _ (Nat.pow_pos (by decide))
      · exact inFormat_ofFraction _ _ Nat.one_pos

theorem inFormat_unsigned? {negative : Bool} {chars : List Char} {number : Binary64}
    (read : unsigned? negative chars = some number) : InFormat number := by
  rw [unsigned?] at read
  dsimp only at read
  -- With and without a point.
  split at read
  all_goals
    split at read
    · cases read
    · obtain ⟨_, _, rfl⟩ := Option.map_eq_some_iff.mp read
      exact inFormat_ofDecimal _

/-- Every number that is read from a text is one of the format. -/
theorem inFormat_parse? {text : String} {number : Binary64} (read : parse? text = some number) :
    InFormat number := by
  rw [parse?] at read
  dsimp only at read
  -- With either sign and without one.
  split at read
  all_goals
    split at read
    · obtain rfl := Option.some_inj.mp read
      trivial
    · split at read
      · obtain rfl := Option.some_inj.mp read
        trivial
      · exact inFormat_unsigned? read

section Order

variable {significand significand' : Nat} {exponent exponent' : ℤ}

theorem le_finite_iff (least : minExponent ≤ exponent) (least' : minExponent ≤ exponent') :
    le (finite false significand exponent) (finite false significand' exponent') ↔
      (significand : ℚ) * 2 ^ exponent ≤ significand' * 2 ^ exponent' := by
  have inUnits (number : Nat) {power : ℤ} (bound : minExponent ≤ power) :
      (number : ℚ) * 2 ^ power = (units false number power : ℚ) * 2 ^ minExponent := by
    obtain ⟨shift, rfl⟩ := Int.le.dest bound
    have kept : (minExponent + shift - minExponent).toNat = shift := by omega
    rw [units, kept, zpow_add₀ two_ne_zero, zpow_natCast]
    push_cast
    simp
    ring
  have unitPos : (0 : ℚ) < 2 ^ minExponent := zpow_pos two_pos minExponent
  rw [inUnits significand least, inUnits significand' least', mul_le_mul_iff_left₀ unitPos,
    le, decide_eq_true_eq]
  norm_cast

end Order

/-! ## Whole numbers -/

section Whole

variable {number number' : Nat}

theorem exists_ofNat (small : number < 2 ^ 128) :
    ∃ significand exponent, ofNat number = finite false significand exponent ∧
      InFormat (finite false significand exponent) ∧
      RoundsTo number (significand * 2 ^ exponent) := by
  have unchanged : (number : ℚ) / (1 : Nat) = number := by simp
  have cases := ofFraction_cases false number Nat.one_pos
  rw [unchanged] at cases
  refine cases.resolve_right fun overflow => ?_
  have large : 2 ^ 128 ≤ number := by exact_mod_cast overflow.2
  omega

/-- A larger whole number is never rounded to a smaller one. -/
theorem le_ofNat_of_le (order : number ≤ number') (small : number' < 2 ^ 128) :
    le (ofNat number) (ofNat number') := by
  obtain ⟨significand, exponent, numberEq, inFormat, rounds⟩ := exists_ofNat (order.trans_lt small)
  obtain ⟨significand', exponent', numberEq', inFormat', rounds'⟩ := exists_ofNat small
  rw [numberEq, numberEq', le_finite_iff inFormat.2.1 inFormat'.2.1]
  exact rounds.mono rounds' (by exact_mod_cast order)

theorem RoundsTo.natCast_eq {rounded : ℚ} (rounds : RoundsTo number rounded)
    (bounded : number ≤ 2 ^ 53) : rounded = number := by
  rcases bounded.eq_or_lt with rfl | less
  · have asNumber : ((2 ^ 53 : Nat) : ℚ) = (2 ^ 52 : Nat) * 2 ^ (1 : ℤ) := by norm_num
    rw [asNumber] at rounds ⊢
    exact rounds.eq_self (by decide) (by decide)
  · have asNumber : (number : ℚ) = number * 2 ^ (0 : ℤ) := by simp
    rw [asNumber] at rounds ⊢
    exact rounds.eq_self less (by decide)

theorem RoundsTo.le_top {rounded : ℚ} (rounds : RoundsTo number rounded) (small : number ≤ 2 ^ 64) :
    rounded ≤ 2 ^ 64 := by
  have top : (2 ^ 64 : Nat) < 2 ^ 128 := by decide
  obtain ⟨_, _, _, _, topRounds⟩ := exists_ofNat top
  have order := rounds.mono topRounds (by exact_mod_cast small)
  have asNumber : ((2 ^ 64 : Nat) : ℚ) = (1 : Nat) * 2 ^ (64 : ℤ) := by norm_num
  rw [asNumber] at topRounds
  rw [topRounds.eq_self (by decide) (by decide), ← asNumber] at order
  exact_mod_cast order

/-- Whole numbers up to `2 ^ 53` are compared exactly. -/
theorem le_ofNat_iff (bounded : number ≤ 2 ^ 53) (bounded' : number' ≤ 2 ^ 53) :
    le (ofNat number) (ofNat number') ↔ number ≤ number' := by
  obtain ⟨_, _, numberEq, inFormat, rounds⟩ := exists_ofNat (bounded.trans_lt (by decide))
  obtain ⟨_, _, numberEq', inFormat', rounds'⟩ := exists_ofNat (bounded'.trans_lt (by decide))
  rw [numberEq, numberEq', le_finite_iff inFormat.2.1 inFormat'.2.1, rounds.natCast_eq bounded,
    rounds'.natCast_eq bounded', Nat.cast_le]

theorem RoundsTo.error_le_natCast {rounded : ℚ} (rounds : RoundsTo number rounded) :
    |(number : ℚ) - rounded| * 2 ^ 53 ≤ number := by
  rcases Nat.eq_zero_or_pos number with rfl | positive
  · rw [rounds.natCast_eq (Nat.zero_le _)]
    simp
  · exact rounds.error_le (by exact_mod_cast positive)

/-- Whole numbers that are rounded to the same number differ by at most a `2 ^ 52`-th of the larger
one. -/
theorem sub_mul_le_of_le_ofNat (order : number' ≤ number) (small : number < 2 ^ 128)
    (reaches : le (ofNat number) (ofNat number')) : (number - number') * 2 ^ 52 ≤ number := by
  obtain ⟨_, _, numberEq, inFormat, rounds⟩ := exists_ofNat small
  obtain ⟨_, _, numberEq', inFormat', rounds'⟩ := exists_ofNat (order.trans_lt small)
  rw [numberEq, numberEq', le_finite_iff inFormat.2.1 inFormat'.2.1] at reaches
  have error := rounds.error_le_natCast
  have error' := rounds'.error_le_natCast
  generalize (_ : ℚ) * 2 ^ (_ : ℤ) = rounded at reaches error
  generalize (_ : ℚ) * 2 ^ (_ : ℤ) = rounded' at reaches error'
  have orderCast : (number' : ℚ) ≤ number := by exact_mod_cast order
  have below : (number : ℚ) - rounded ≤ |(number : ℚ) - rounded| := le_abs_self _
  have above : rounded' - number' ≤ |(number' : ℚ) - rounded'| := by
    rw [abs_sub_comm]
    exact le_abs_self _
  have difference : ((number - number' : Nat) : ℚ) * 2 ^ 52 ≤ number := by
    rw [Nat.cast_sub order]
    linarith
  exact_mod_cast difference

end Whole

/-! ## Shares of one and more -/

section Share

variable {share : Binary64} {number number' : Nat}

theorem units_pos {significand : Nat} (positive : 0 < significand) (exponent : ℤ) :
    0 < units false significand exponent :=
  Int.mul_pos (Int.natCast_pos.mpr positive) (Int.natCast_pos.mpr (Nat.two_pow_pos _))

theorem one_units_pos : 0 < units false (Nat.pow 2 52) (-52) :=
  units_pos (by decide) (-52)

theorem one_value : ((Nat.pow 2 52 : Nat) : ℚ) * 2 ^ (-52 : ℤ) = 1 := by
  norm_num

theorem negative_eq_false {negative : Bool} {significand : Nat} {exponent : ℤ}
    (full : le one (finite negative significand exponent)) : negative = false := by
  have above : units false (Nat.pow 2 52) (-52) ≤ units negative significand exponent :=
    of_decide_eq_true full
  cases negative with
  | false => rfl
  | true =>
      have nonpositive : units true significand exponent ≤ 0 := by
        rw [units]
        simp only [if_true, Left.neg_nonpos_iff]
        positivity
      exact absurd (one_units_pos.trans_le (above.trans nonpositive)) (lt_irrefl _)

theorem not_le_zero (full : le one share) : ¬ le share zero := by
  cases share with
  | nan => simp [le]
  | infinite negative =>
      cases negative with
      | false => simp [le, zero]
      | true => simp [le, one] at full
  | finite negative significand exponent =>
      intro empty
      have above : units false (Nat.pow 2 52) (-52) ≤ units negative significand exponent :=
        of_decide_eq_true full
      have below : units negative significand exponent ≤ units false 0 minExponent :=
        of_decide_eq_true empty
      have nothing : units false 0 minExponent = 0 := by simp [units]
      exact absurd (one_units_pos.trans_le (above.trans (below.trans nothing.le))) (lt_irrefl _)

theorem exists_min_one (inFormat : InFormat share) (full : le one share) :
    ∃ significand exponent, min share one = finite false significand exponent ∧
      minExponent ≤ exponent ∧ (significand : ℚ) * 2 ^ exponent = 1 := by
  have itself : ∃ significand exponent, one = finite false significand exponent ∧
      minExponent ≤ exponent ∧ (significand : ℚ) * 2 ^ exponent = 1 :=
    ⟨_, _, rfl, by decide, one_value⟩
  cases share with
  | nan => exact itself
  | infinite negative =>
      cases negative with
      | false => exact itself
      | true => simp [le, one] at full
  | finite negative significand exponent =>
      obtain rfl := negative_eq_false full
      have least : minExponent ≤ exponent := inFormat.2.1
      have minEq : min (finite false significand exponent) one =
          if le (finite false significand exponent) one then finite false significand exponent
          else one := rfl
      rw [minEq]
      split
      · next small =>
        rw [one, le_finite_iff least (by decide), one_value] at small
        rw [one, le_finite_iff (by decide) least, one_value] at full
        exact ⟨_, _, rfl, least, le_antisymm small full⟩
      · exact itself

/-- Multiplication by a share of one or more leaves a whole number in its place. -/
theorem le_mul_min_one_iff (inFormat : InFormat share) (full : le one share)
    (small : number ≤ 2 ^ 64) (small' : number' ≤ 2 ^ 64) :
    le (mul (ofNat number) (min share one)) (ofNat number') ↔
      le (ofNat number) (ofNat number') := by
  obtain ⟨unit, scale, shareEq, scaleLeast, unitEq⟩ := exists_min_one inFormat full
  obtain ⟨significand, exponent, numberEq, bounds, rounds⟩ :=
    exists_ofNat (small.trans_lt (by decide))
  obtain ⟨significand', exponent', numberEq', bounds', rounds'⟩ :=
    exists_ofNat (small'.trans_lt (by decide))
  have bounded := rounds.le_top small
  rw [shareEq, numberEq, numberEq', le_finite_iff bounds.2.1 bounds'.2.1]
  rcases mul_cases false false significand unit exponent scale with
    ⟨_, _, mul_eq, mulBounds, mulRounds⟩ | ⟨_, overflow⟩
  · rw [unitEq, mul_one] at mulRounds
    rw [mul_eq, Bool.bne_false, le_finite_iff mulBounds.2.1 bounds'.2.1,
      mulRounds.eq_self bounds.1 bounds.2.1]
  · rw [unitEq, mul_one] at overflow
    have excess := overflow.trans bounded
    norm_num at excess

end Share

end SampleProfile.Binary64
