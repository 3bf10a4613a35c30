/-!
# Double precision numbers

Numbers of the binary64 format as exact values: a significand below `2 ^ 53` times a power of two.
Operations compute with natural numbers and round once, to the nearest representable value and to an
even significand on a tie.
-/

namespace SampleProfile

/-- A number of the binary64 format. -/
inductive Binary64 where
  | nan
  | infinite (negative : Bool)
  /-- The value `significand * 2 ^ exponent`, negated if so marked. -/
  | finite (negative : Bool) (significand : Nat) (exponent : Int)
deriving DecidableEq, Repr

namespace Binary64

/-- Bits of a significand. -/
def precision : Nat := 53

/-- The least exponent. -/
def minExponent : Int := -1074

/-- The greatest exponent. -/
def maxExponent : Int := 971

/-- Zero without a sign. -/
def zero : Binary64 := finite false 0 minExponent

/-- The number one. -/
def one : Binary64 := finite false (Nat.pow 2 52) (-52)

/-- The whole number nearest to a fraction, the even one of two. -/
def roundDiv (numerator denominator : Nat) : Nat :=
  let quotient := numerator / denominator
  let twice := 2 * (numerator % denominator)
  if twice > denominator || (twice = denominator && quotient % 2 = 1) then
    quotient + 1
  else
    quotient

/-- Two to a power, as the numerator and denominator of a fraction. -/
def powerOfTwo (exponent : Int) : Nat × Nat :=
  if exponent < 0 then (1, Nat.pow 2 exponent.natAbs) else (Nat.pow 2 exponent.natAbs, 1)

/-- The exponent at which a positive fraction has a significand of full precision, or the least
exponent. -/
def exponentOf (numerator denominator : Nat) : Int :=
  let guess : Int := (numerator.log2 : Int) - denominator.log2 - 52
  let scale := powerOfTwo guess
  let exponent :=
    if numerator * scale.2 < Nat.pow 2 52 * (denominator * scale.1) then guess - 1 else guess
  max exponent minExponent

/-- The number nearest to a fraction with a positive denominator. -/
def ofFraction (negative : Bool) (numerator denominator : Nat) : Binary64 :=
  if numerator = 0 then
    finite negative 0 minExponent
  else
    let exponent := exponentOf numerator denominator
    let scale := powerOfTwo exponent
    let rounded := roundDiv (numerator * scale.2) (denominator * scale.1)
    let carried := rounded = Nat.pow 2 precision
    let exponent := if carried then exponent + 1 else exponent
    if exponent > maxExponent then
      infinite negative
    else
      finite negative (if carried then Nat.pow 2 52 else rounded) exponent

/-- The number nearest to a whole number. -/
def ofNat (value : Nat) : Binary64 :=
  ofFraction false value 1

/-- A finite value in units of the least positive one. -/
def units (negative : Bool) (significand : Nat) (exponent : Int) : Int :=
  let magnitude : Int := significand * Nat.pow 2 (exponent - minExponent).toNat
  if negative then -magnitude else magnitude

/-- Whether the first number is at most the second; never so if one is no number. -/
def le : Binary64 → Binary64 → Bool
  | nan, _ => false
  | _, nan => false
  | infinite true, _ => true
  | _, infinite false => true
  | infinite false, _ => false
  | _, infinite true => false
  | finite negative significand exponent, finite negative' significand' exponent' =>
      units negative significand exponent ≤ units negative' significand' exponent'

/-- The lesser of two numbers; if one of them is no number, the other. -/
def min : Binary64 → Binary64 → Binary64
  | nan, right => right
  | left, nan => left
  | left, right => if le left right then left else right

/-- The product of two numbers. -/
def mul : Binary64 → Binary64 → Binary64
  | nan, _ => nan
  | _, nan => nan
  | infinite left, infinite right => infinite (left != right)
  | infinite left, finite right significand _ =>
      if significand = 0 then nan else infinite (left != right)
  | finite left significand _, infinite right =>
      if significand = 0 then nan else infinite (left != right)
  | finite left significand exponent, finite right significand' exponent' =>
      let scale := powerOfTwo (exponent + exponent')
      ofFraction (left != right) (significand * significand' * scale.1) scale.2

end Binary64

end SampleProfile
