import SampleProfile.Samples
import SampleProfile.Text.Blank
import SampleProfile.Text.Integer

/-!
# The text format of sample sets

Three sections, each headed by the number of its entries: `begin-end:count`, `address:count` and
`from->to:count`, with addresses in hexadecimal and counts in decimal.  Blank lines and blanks
around lines, addresses and counts are ignored, and a text may end after any complete section.

A text is read line by line: `Reader.step` says what one non-blank line does to a reader, and the
reader stops at the first line that fits nowhere.
-/

namespace SampleProfile.Samples

/-- The three sections of a sample text, in order. -/
inductive Section where
  | ranges
  | addresses
  | branches
deriving DecidableEq, Repr

/-- How an entry of a section is written. -/
def Section.shape : Section → String
  | .ranges => "<begin>-<end>:<count>"
  | .addresses => "<addr>:<count>"
  | .branches => "<from>-><to>:<count>"

/-- What a reader waits for. -/
inductive Expectation where
  /-- The number of entries of a section. -/
  | header (upcoming : Section)
  /-- An entry of a section, and then so many more. -/
  | entry (current : Section) (more : Nat)
  /-- Nothing but blank lines. -/
  | nothing
deriving DecidableEq, Repr

/-- Why a line, or the end of the text, does not fit. -/
inductive TextFault where
  | badHeader (line : List Char)
  | badEntry (current : Section)
  | trailing (line : List Char)
  | missingEntry (current : Section)
deriving DecidableEq, Repr

/-- The wording of a fault. -/
def TextFault.message : TextFault → String
  | badHeader line => "expected entry count, got '" ++ String.ofList line ++ "'"
  | badEntry current => "expected " ++ current.shape
  | trailing line => "unexpected trailing data '" ++ String.ofList line ++ "'"
  | missingEntry current => "unexpected end of file, expected " ++ current.shape

/-- What waits after the last entry of a section. -/
def Section.following : Section → Expectation
  | .ranges => .header .addresses
  | .addresses => .header .branches
  | .branches => .nothing

/-- What waits when so many entries of a section are still to come. -/
def Section.remaining (current : Section) : Nat → Expectation
  | 0 => current.following
  | more + 1 => .entry current more

/-- A 64-bit number after blanks have been removed. -/
def readField? (read : List Char → Except Text.IntegerFault UInt64) (field : List Char) :
    Option UInt64 :=
  (read (Text.trim field)).toOption

/-- An entry made of a key and, after the last colon, its count. -/
def readCount? (line : List Char) : Option (List Char × UInt64) :=
  (Text.cutAtLast ':' line).bind fun parts =>
    (readField? (Text.readUInt64 10) parts.2).map (parts.1, ·)

/-- An entry whose key is two addresses around the first occurrence of a separator. -/
def readPair? (separator : List Char) (line : List Char) : Option (AddressPair × UInt64) :=
  (readCount? line).bind fun counted =>
    (Text.cutAt separator counted.1).bind fun sides =>
      (readField? Text.readAddress sides.1).bind fun first =>
        (readField? Text.readAddress sides.2).map fun second =>
          (⟨first, second⟩, counted.2)

/-- Adds the entry on a line to the samples; a repeated key keeps the later count. -/
def addLine? (samples : Samples) (line : List Char) : Section → Option Samples
  | .ranges => (readPair? ['-'] line).map fun entry =>
      { samples with ranges := samples.ranges.insert entry.1 entry.2 }
  | .addresses => (readCount? line).bind fun counted =>
      (readField? Text.readAddress counted.1).map fun address =>
        { samples with addresses := samples.addresses.insert address counted.2 }
  | .branches => (readPair? ['-', '>'] line).map fun entry =>
      { samples with branches := samples.branches.insert entry.1 entry.2 }

/-- What has been read so far and what comes next. -/
structure Reader where
  samples : Samples := {}
  expectation : Expectation := .header .ranges

namespace Reader

/-- Reads one line that has been trimmed and is not blank. -/
def step (reader : Reader) (line : List Char) : Except TextFault Reader :=
  match reader.expectation with
  | .header upcoming =>
      match Text.readUnsigned 10 (UInt64.size - 1) line with
      | .ok entries => .ok { reader with expectation := upcoming.remaining entries }
      | .error _ => .error (.badHeader line)
  | .entry current more =>
      match reader.samples.addLine? line current with
      | some samples => .ok { samples, expectation := current.remaining more }
      | none => .error (.badEntry current)
  | .nothing => .error (.trailing line)

/-- Reads lines that follow so many earlier ones.  A fault comes with the number of its line, or at
the end of the text with the number of the last line. -/
def run (reader : Reader) (before : Nat) : List (List Char) → Except (Nat × TextFault) Samples
  | [] =>
      match reader.expectation with
      | .entry current _ => .error (before, .missingEntry current)
      | _ => .ok reader.samples
  | line :: rest =>
      match Text.trim line with
      | [] => run reader (before + 1) rest
      | trimmed =>
          match reader.step trimmed with
          | .ok next => run next (before + 1) rest
          | .error fault => .error (before + 1, fault)

end Reader

/-- Reads a sample text and computes the total. -/
def parse (text : String) : Except (Nat × TextFault) Samples :=
  (Reader.run {} 0 (Text.lines text.toList)).map withTotal

/-- One line for each entry of a section. -/
def renderSection {Key : Type} [Ord Key] [Std.TransOrd Key] (key : Key → List Char)
    (entries : OrderedMap Key UInt64) : List Char :=
  Nat.toDigits 10 entries.size ++ '\n' ::
    entries.toList.flatMap fun entry =>
      key entry.1 ++ ':' :: (Text.decimalDigits entry.2 ++ ['\n'])

/-- Two addresses around a separator. -/
def renderPair (separator : List Char) (pair : AddressPair) : List Char :=
  Text.hexDigits pair.first ++ separator ++ Text.hexDigits pair.second

/-- Writes the three sections in order of their keys. -/
def render (samples : Samples) : String :=
  String.ofList <|
    renderSection (renderPair ['-']) samples.ranges ++
    renderSection Text.hexDigits samples.addresses ++
    renderSection (renderPair ['-', '>']) samples.branches

end SampleProfile.Samples
