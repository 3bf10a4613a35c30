/-!
# Integers in text

Numbers are written in digits after an optional sign.  They are read from left to right, and the
first thing that is wrong is reported: a character that is no digit before a value that has grown
too large.
-/

namespace SampleProfile.Text

/-- Why a text is no integer of the expected range. -/
inductive IntegerFault where
  | empty
  | invalidDigit
  | tooLarge
  | tooSmall
deriving DecidableEq, Repr

/-- The wording of a fault. -/
def IntegerFault.message : IntegerFault → String
  | empty => "cannot parse integer from empty string"
  | invalidDigit => "invalid digit found in string"
  | tooLarge => "number too large to fit in target type"
  | tooSmall => "number too small to fit in target type"

/-- The value of a digit in a base up to sixteen. -/
def digit? (base : Nat) (char : Char) : Option Nat :=
  let value :=
    if '0' ≤ char ∧ char ≤ '9' then char.toNat - '0'.toNat
    else if 'a' ≤ char ∧ char ≤ 'f' then char.toNat - 'a'.toNat + 10
    else if 'A' ≤ char ∧ char ≤ 'F' then char.toNat - 'A'.toNat + 10
    else base
  if value < base then some value else none

/-- Reads digits onto a value that must not pass the limit. -/
def readDigits (base limit : Nat) (overflow : IntegerFault) :
    Nat → List Char → Except IntegerFault Nat
  | value, [] => .ok value
  | value, char :: rest =>
      match digit? base char with
      | none => .error .invalidDigit
      | some digit =>
          if value * base + digit ≤ limit then
            readDigits base limit overflow (value * base + digit) rest
          else
            .error overflow

/-- Reads an unsigned integer in a base, with an optional plus sign. -/
def readUnsigned (base limit : Nat) : List Char → Except IntegerFault Nat
  | [] => .error .empty
  | ['+'] => .error .invalidDigit
  | '+' :: digits => readDigits base limit .tooLarge 0 digits
  | digits => readDigits base limit .tooLarge 0 digits

/-- Reads an unsigned 64-bit integer. -/
def readUInt64 (base : Nat) (chars : List Char) : Except IntegerFault UInt64 :=
  (readUnsigned base (UInt64.size - 1) chars).map UInt64.ofNat

/-- Reads a signed decimal 64-bit integer. -/
def readInt64 : List Char → Except IntegerFault Int64
  | [] => .error .empty
  | ['+'] => .error .invalidDigit
  | ['-'] => .error .invalidDigit
  | '+' :: digits =>
      (readDigits 10 (UInt64.size / 2 - 1) .tooLarge 0 digits).map fun value => Int64.ofInt value
  | '-' :: digits =>
      (readDigits 10 (UInt64.size / 2) .tooSmall 0 digits).map fun value => Int64.ofInt (-value)
  | digits =>
      (readDigits 10 (UInt64.size / 2 - 1) .tooLarge 0 digits).map fun value => Int64.ofInt value

/-- A hexadecimal address, after an optional `0x`. -/
def readAddress (chars : List Char) : Except IntegerFault UInt64 :=
  match chars with
  | '0' :: 'x' :: digits => readUInt64 16 digits
  | digits => readUInt64 16 digits

/-- The lower-case hexadecimal digits of a number. -/
def hexDigits (value : UInt64) : List Char :=
  Nat.toDigits 16 value.toNat

/-- The decimal digits of a number. -/
def decimalDigits (value : UInt64) : List Char :=
  Nat.toDigits 10 value.toNat

end SampleProfile.Text
