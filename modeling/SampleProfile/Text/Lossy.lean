/-!
# Text from bytes that may not be text

Bytes are read as UTF-8.  Where they are not, each longest start of a character that breaks off
becomes one replacement character, and reading goes on with the byte that broke it.
-/

namespace SampleProfile.Text

/-- The character that stands for bytes that are no text. -/
def replacement : Char := '\uFFFD'

/-- How many bytes follow the first byte of a character, with the least and greatest second byte. -/
def following? (first : UInt8) : Option (Nat × UInt8 × UInt8) :=
  if first < 0x80 then some (0, 0, 0)
  else if first < 0xC2 then none
  else if first < 0xE0 then some (1, 0x80, 0xBF)
  else if first = 0xE0 then some (2, 0xA0, 0xBF)
  else if first = 0xED then some (2, 0x80, 0x9F)
  else if first < 0xF0 then some (2, 0x80, 0xBF)
  else if first = 0xF0 then some (3, 0x90, 0xBF)
  else if first < 0xF4 then some (3, 0x80, 0xBF)
  else if first = 0xF4 then some (3, 0x80, 0x8F)
  else none

/-- The bits that the first byte of a character contributes. -/
def leadingBits (first : UInt8) (count : Nat) : Nat :=
  match count with
  | 0 => first.toNat
  | 1 => first.toNat % 0x20
  | 2 => first.toNat % 0x10
  | _ => first.toNat % 0x08

/-- Reads the bytes after the first of a character: so many are missing, the next between two
bounds.  Answers the code point, if the character is complete. -/
def continueCharacter (code : Nat) (low high : UInt8) : Nat → List UInt8 → Option Nat × List UInt8
  | 0, rest => (some code, rest)
  | _ + 1, [] => (none, [])
  | missing + 1, byte :: rest =>
      if low ≤ byte && byte ≤ high then
        continueCharacter (code * 64 + byte.toNat % 64) 0x80 0xBF missing rest
      else
        (none, byte :: rest)

theorem length_continueCharacter (code : Nat) (low high : UInt8) (missing : Nat)
    (bytes : List UInt8) :
    (continueCharacter code low high missing bytes).2.length ≤ bytes.length := by
  fun_induction continueCharacter code low high missing bytes with
  | case1 => simp
  | case2 => simp
  | case3 code low high missing byte rest inside inductionHypothesis =>
      simp only [List.length_cons]
      omega
  | case4 => simp

/-- Reads bytes as text. -/
def ofBytes : List UInt8 → List Char
  | [] => []
  | first :: rest =>
      match following? first with
      | none => replacement :: ofBytes rest
      | some (count, low, high) =>
          match found : continueCharacter (leadingBits first count) low high count rest with
          | (code, others) =>
              have shorter : others.length ≤ rest.length := by
                have bound := length_continueCharacter
                  (leadingBits first count) low high count rest
                rwa [found] at bound
              (code.map Char.ofNat).getD replacement :: ofBytes others
termination_by bytes => bytes.length

/-- The text of bytes. -/
def lossy (bytes : List UInt8) : String :=
  String.ofList (ofBytes bytes)

/-- The text of bytes that are UTF-8 throughout. -/
def ofUtf8? (bytes : List UInt8) : Option String :=
  String.fromUTF8? ⟨bytes.toArray⟩

end SampleProfile.Text
