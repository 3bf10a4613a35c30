import SampleProfile.Text.Blank
import SampleProfile.Text.Integer

/-!
# Hashed symbol names

In the older mangling a symbol is `_ZN`, the elements of a path, each behind its length, and `E`.
Characters that linkers do not take are written between dollar signs, and the last element is
usually a hash, which is not shown.
-/

namespace SampleProfile.Demangle.Hashed

/-- The text behind the start of a mangled symbol, if it starts like one. -/
def body? : List Char → Option (List Char)
  | '_' :: 'Z' :: 'N' :: rest => some rest
  | 'Z' :: 'N' :: rest => some rest
  | '_' :: '_' :: 'Z' :: 'N' :: rest => some rest
  | _ => none

/-- Splits the elements off, up to the closing `E`; answers them with the text behind it. -/
def elements? : Nat → List Char → Option (List (List Char) × List Char)
  | 0, _ => none
  | fuel + 1, chars =>
      match chars with
      | [] => none
      | 'E' :: rest => some ([], rest)
      | chars =>
          let digits := chars.takeWhile Char.isDigit
          let rest := chars.drop digits.length
          match Text.readUnsigned 10 (UInt64.size - 1) digits with
          | .error _ => none
          | .ok length =>
              if rest.length ≤ length then
                none
              else do
                let (later, tail) ← elements? fuel (rest.drop length)
                pure (rest.take length :: later, tail)

/-- Whether an element is a hash. -/
def isHash : List Char → Bool
  | 'h' :: digits => digits.all fun digit => (Text.digit? 16 digit).isSome
  | _ => false

/-- The text that an escape stands for. -/
def unescape? (escape : List Char) : Option (List Char) :=
  match String.ofList escape with
  | "SP" => some ['@']
  | "BP" => some ['*']
  | "RF" => some ['&']
  | "LT" => some ['<']
  | "GT" => some ['>']
  | "LP" => some ['(']
  | "RP" => some [')']
  | "C" => some [',']
  | _ =>
      match escape with
      | 'u' :: digits =>
          if digits.all fun digit => digit.isDigit || ('a' ≤ digit && digit ≤ 'f') then
            match Text.readUnsigned 16 (UInt32.size - 1) digits with
            | .ok code =>
                if code.isValidChar && !(code < 0x20 || (0x7F ≤ code && code < 0xA0)) then
                  some [Char.ofNat code]
                else
                  none
            | .error _ => none
          else
            none
      | _ => none

/-- The readable form of an element: two points separate a path, escapes are replaced up to the
first that is none. -/
def readable : Nat → List Char → List Char
  | 0, chars => chars
  | fuel + 1, chars =>
      match chars with
      | '.' :: '.' :: rest => ':' :: ':' :: readable fuel rest
      | '.' :: rest => '.' :: readable fuel rest
      | '$' :: rest =>
          match Text.cutAt ['$'] rest with
          | none => '$' :: rest
          | some (escape, after) =>
              match unescape? escape with
              | some text => text ++ readable fuel after
              | none => '$' :: rest
      | chars =>
          let plain := chars.takeWhile fun char => char ≠ '$' && char ≠ '.'
          let rest := chars.drop plain.length
          if rest.isEmpty then chars else plain ++ readable fuel rest

/-- The readable form of an element that may start with an escape. -/
def element (chars : List Char) : List Char :=
  match chars with
  | '_' :: '$' :: rest => readable (chars.length + 1) ('$' :: rest)
  | chars => readable (chars.length + 1) chars

/-- The elements as a path, without a hash at the end. -/
def path (elements : List (List Char)) : List Char :=
  let shown := if elements.getLast?.any isHash then elements.dropLast else elements
  List.intercalate [':', ':'] (shown.map element)

/-- The readable form of a symbol and the text behind its mangled part. -/
def demangle? (chars : List Char) : Option (List Char × List Char) := do
  let body ← body? chars
  if body.any fun char => char.toNat ≥ 128 then
    none
  else
    let (elements, rest) ← elements? (body.length + 1) body
    pure (path elements, rest)

end SampleProfile.Demangle.Hashed
