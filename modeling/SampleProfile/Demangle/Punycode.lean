import SampleProfile.Text.Integer

/-!
# Punycode

Identifiers with other characters than ASCII are written as their ASCII characters, and a row of
deltas that say where the other characters are inserted.
-/

namespace SampleProfile.Demangle.Punycode

/-- The largest value of a machine word. -/
def wordLimit : Nat := UInt64.size - 1

/-- The most characters an identifier may have to be decoded. -/
def lengthLimit : Nat := 128

/-- The value of a digit in base thirty-six. -/
def digit? (char : Char) : Option Nat :=
  if 'a' ≤ char ∧ char ≤ 'z' then some (char.toNat - 'a'.toNat)
  else if '0' ≤ char ∧ char ≤ '9' then some (26 + (char.toNat - '0'.toNat))
  else none

/-- Reads one delta of variable length. -/
def readDelta (bias : Nat) (weight place value : Nat) : List Char → Option (Nat × List Char)
  | [] => none
  | char :: rest => do
      let digit ← digit? char
      let value := value + digit * weight
      let threshold := min (max (place - bias) 1) 26
      if value > wordLimit then
        none
      else if digit < threshold then
        pure (value, rest)
      else
        let weight := weight * (36 - threshold)
        if weight > wordLimit then none else readDelta bias weight (place + 36) value rest

/-- Divides a delta until it is small, counting the steps. -/
def scaleDown : Nat → Nat → Nat → Nat × Nat
  | 0, delta, steps => (delta, steps)
  | fuel + 1, delta, steps =>
      if delta > 455 then scaleDown fuel (delta / 35) (steps + 36) else (delta, steps)

/-- The bias after a delta. -/
def adapt (delta damp length : Nat) : Nat :=
  let delta := delta / damp
  let delta := delta + delta / length
  let (delta, steps) := scaleDown 64 delta 0
  steps + (36 * delta) / (delta + 38)

/-- Inserts the characters that the deltas describe. -/
def insertAll : Nat → (output : List Char) → (bias damp position code : Nat) → List Char →
    Option (List Char)
  | 0, _, _, _, _, _, _ => none
  | fuel + 1, output, bias, damp, position, code, chars => do
      let (delta, rest) ← readDelta bias 1 36 0 chars
      let length := output.length + 1
      let position := position + delta
      let code := code + position / length
      let position := position % length
      if !code.isValidChar || length > lengthLimit then
        none
      else
        let output := output.take position ++ Char.ofNat code :: output.drop position
        if rest.isEmpty then
          pure output
        else
          insertAll fuel output (adapt delta damp length) 2 (position + 1) code rest

/-- Decodes the ASCII characters and deltas of an identifier. -/
def decode? (ascii deltas : List Char) : Option (List Char) :=
  if deltas.isEmpty || ascii.length > lengthLimit then
    none
  else
    insertAll (deltas.length + 1) ascii 72 700 0 0x80 deltas

end SampleProfile.Demangle.Punycode
