import SampleProfile.Binary64
import SampleProfile.Text.Integer

/-!
# Decimal text of double precision numbers

Numbers are read from positional or exponent notation and rounded once.  They are written with the
fewest digits that read back as the same number, and of those the nearest.
-/

namespace SampleProfile.Binary64

/-- A decimal number `digits * 10 ^ exponent` with a sign. -/
structure Decimal where
  negative : Bool
  digits : Nat
  exponent : Int

/-- The number nearest to a decimal.  Exponents far outside the range are decided without computing
the power. -/
def ofDecimal (decimal : Decimal) : Binary64 :=
  let length : Int := (Nat.toDigits 10 decimal.digits).length
  if decimal.digits = 0 || decimal.exponent + length < -400 then
    finite decimal.negative 0 minExponent
  else if decimal.exponent + length > 400 then
    infinite decimal.negative
  else if decimal.exponent < 0 then
    ofFraction decimal.negative decimal.digits (Nat.pow 10 decimal.exponent.natAbs)
  else
    ofFraction decimal.negative (decimal.digits * Nat.pow 10 decimal.exponent.natAbs) 1

/-- Splits decimal digits off the front of a text. -/
def spanDigits (chars : List Char) : List Char × List Char :=
  chars.span Char.isDigit

/-- The value of a row of decimal digits. -/
def digitsValue (digits : List Char) : Nat :=
  digits.foldl (fun value char => value * 10 + (char.toNat - '0'.toNat)) 0

/-- The exponent part of a number, which may be absent. -/
def exponent? : List Char → Option Int
  | [] => some 0
  | mark :: rest =>
      if mark = 'e' ∨ mark = 'E' then
        let (negative, digits) :=
          match rest with
          | '-' :: digits => (true, digits)
          | '+' :: digits => (false, digits)
          | digits => (false, digits)
        if digits.isEmpty || !digits.all Char.isDigit then
          none
        else
          let value : Int := digitsValue digits
          some (if negative then -value else value)
      else
        none

/-- Reads digits with an optional point and exponent. -/
def unsigned? (negative : Bool) (chars : List Char) : Option Binary64 :=
  let (whole, rest) := spanDigits chars
  let (fraction, rest) :=
    match rest with
    | '.' :: rest => spanDigits rest
    | rest => ([], rest)
  if whole.isEmpty && fraction.isEmpty then
    none
  else
    (exponent? rest).map fun exponent =>
      ofDecimal {
        negative
        digits := digitsValue (whole ++ fraction)
        exponent := exponent - fraction.length }

/-- Reads a number, or one of the words `inf`, `infinity` and `nan` in any case, after an optional
sign. -/
def parse? (text : String) : Option Binary64 :=
  let (negative, chars) :=
    match text.toList with
    | '-' :: rest => (true, rest)
    | '+' :: rest => (false, rest)
    | rest => (false, rest)
  let word := String.ofList (chars.map Char.toLower)
  if word = "inf" || word = "infinity" then
    some (infinite negative)
  else if word = "nan" then
    some nan
  else
    unsigned? negative chars

/-- A fraction as numerator and denominator. -/
structure Fraction where
  numerator : Nat
  denominator : Nat

/-- Whether the first fraction is below the second. -/
def Fraction.lt (left right : Fraction) : Bool :=
  left.numerator * right.denominator < right.numerator * left.denominator

/-- The values that round to one positive number: from `low` to `high`, the ends included for an
even significand. -/
structure Interval where
  low : Fraction
  value : Fraction
  high : Fraction
  closed : Bool

/-- The interval of a positive finite number. -/
def interval (significand : Nat) (exponent : Int) : Interval :=
  let scale := powerOfTwo (exponent - 2)
  let fraction := fun quarters : Nat => (⟨quarters * scale.1, scale.2⟩ : Fraction)
  let below := if significand = Nat.pow 2 52 ∧ exponent > minExponent then 1 else 2
  { low := fraction (4 * significand - below)
    value := fraction (4 * significand)
    high := fraction (4 * significand + 2)
    closed := significand % 2 = 0 }

/-- Whether a fraction lies in the interval. -/
def Interval.contains (range : Interval) (fraction : Fraction) : Bool :=
  if range.closed then
    !fraction.lt range.low && !range.high.lt fraction
  else
    range.low.lt fraction && fraction.lt range.high

/-- A multiple of a power of ten. -/
def tenfold (digits : Nat) (exponent : Int) : Fraction :=
  if exponent < 0 then ⟨digits, Nat.pow 10 exponent.natAbs⟩
  else ⟨digits * Nat.pow 10 exponent.natAbs, 1⟩

/-- The power of ten of the leading digit of a positive fraction. -/
def decimalExponent (fraction : Fraction) : Int :=
  let guess : Int := (Nat.toDigits 10 fraction.numerator).length -
    (Nat.toDigits 10 fraction.denominator).length
  if fraction.lt (tenfold 1 guess) then guess - 1 else guess

/-- The multiple of `10 ^ exponent` next to the value that lies in the interval, if one does; the
nearer of two, the greater on a tie. -/
def Interval.neighbour? (range : Interval) (exponent : Int) : Option Nat :=
  let unit := tenfold 1 exponent
  let numerator := range.value.numerator * unit.denominator
  let denominator := range.value.denominator * unit.numerator
  let below := numerator / denominator
  let nearBelow := 2 * (numerator % denominator) < denominator
  match range.contains (tenfold below exponent),
      range.contains (tenfold (below + 1) exponent) with
  | true, true => some (if nearBelow then below else below + 1)
  | true, false => some below
  | false, true => some (below + 1)
  | false, false => none

/-- The digits and the exponent of the last digit of the shortest decimal in the interval, trying so
many digits. -/
def Interval.shortest (range : Interval) (leading : Int) : Nat → Nat → Nat × Int
  | _, 0 => (0, 0)
  | digits, fuel + 1 =>
      match range.neighbour? (leading - digits) with
      | some found => (found, leading - digits)
      | none => range.shortest leading (digits + 1) fuel

/-- Digits without the zeros at their end. -/
def dropZeros (digits : List Char) : List Char :=
  (digits.reverse.dropWhile (· = '0')).reverse

/-- The digits of a positive number and the power of ten of its first digit. -/
def shortestDigits (significand : Nat) (exponent : Int) : List Char × Int :=
  let range := interval significand exponent
  let (value, last) := range.shortest (decimalExponent range.value) 0 17
  let digits := Nat.toDigits 10 value
  (dropZeros digits, last + digits.length - 1)

/-- Lays digits out around the point, from `10 ^ -4` up to `10 ^ 16`, or in exponent notation. -/
def layOut (digits : List Char) (leading : Int) : List Char :=
  if -4 ≤ leading ∧ leading < 0 then
    '0' :: '.' :: (List.replicate (leading.natAbs - 1) '0' ++ digits)
  else if 0 ≤ leading ∧ leading < 16 then
    let whole := leading.natAbs + 1
    let padded := digits ++ List.replicate (whole - digits.length) '0'
    let fraction := padded.drop whole
    padded.take whole ++ '.' :: (if fraction.isEmpty then ['0'] else fraction)
  else
    let mantissa :=
      match digits with
      | first :: second :: rest => first :: '.' :: second :: rest
      | digits => digits
    mantissa ++ 'e' :: (toString leading).toList

/-- Writes a number with the fewest digits that read back; whole numbers keep a zero after the
point. -/
def render : Binary64 → String
  | nan => "NaN"
  | infinite negative => if negative then "-inf" else "inf"
  | finite negative significand exponent =>
      let sign := if negative then ['-'] else []
      if significand = 0 then
        String.ofList (sign ++ ['0', '.', '0'])
      else
        let (digits, leading) := shortestDigits significand exponent
        String.ofList (sign ++ layOut digits leading)

end SampleProfile.Binary64
