import SampleProfile.Text.Blank
import SampleProfile.Text.Integer

/-!
# Prefetch hints

A hint names a load or store by its address, the distance from the accessed location to the next
cache miss, and a locality type such as `T0` or `NTA`.  A hint file holds one `address,delta,type`
per line; reading stops at the first line that is no hint.
-/

namespace SampleProfile

/-- A cache prefetch hint. -/
structure Hint where
  address : UInt64
  delta : Int64
  kind : String
deriving DecidableEq, Repr

namespace Hint

/-- Why a line is no hint. -/
inductive LineFault where
  | missingField (line : List Char)
  | badAddress (field : List Char) (fault : Text.IntegerFault)
  | badDelta (field : List Char) (fault : Text.IntegerFault)
  | badKind (field : List Char)
deriving DecidableEq, Repr

/-- The wording of a fault. -/
def LineFault.message : LineFault → String
  | missingField line =>
      "expected <pc>,<delta>,<type>, got '" ++ String.ofList line ++ "'"
  | badAddress field fault =>
      "invalid address '" ++ String.ofList field ++ "': " ++ fault.message
  | badDelta field fault =>
      "invalid delta '" ++ String.ofList field ++ "': " ++ fault.message
  | badKind field => "invalid hint type '" ++ String.ofList field ++ "'"

/-- The three fields of a line; the third keeps all further commas. -/
def fields? (line : List Char) : Option (List Char × List Char × List Char) :=
  (Text.cutAt [','] (Text.trim line)).bind fun first =>
    (Text.cutAt [','] first.2).map fun second =>
      (first.1, second.1, second.2)

/-- Reads one line. -/
def parseLine (line : List Char) : Except LineFault Hint :=
  match fields? line with
  | none => .error (.missingField line)
  | some (addressField, deltaField, kindField) =>
      let digits := Text.dropStart ['0', 'x'] (Text.trim addressField)
      match Text.readUInt64 16 digits with
      | .error fault => .error (.badAddress digits fault)
      | .ok address =>
          match Text.readInt64 (Text.trim deltaField) with
          | .error fault => .error (.badDelta deltaField fault)
          | .ok delta =>
              let kind := Text.trim kindField
              if kind.isEmpty || kind.any Text.isBlank then
                .error (.badKind kind)
              else
                .ok ⟨address, delta, String.ofList kind⟩

/-- The line of a hint file that ended the reading. -/
structure BadLine where
  /-- Counted from one. -/
  number : Nat
  fault : LineFault
deriving DecidableEq, Repr

/-- The report about a bad line of a file. -/
def BadLine.report (bad : BadLine) (file : String) : String :=
  "Error reading from " ++ file ++ " at line " ++ toString bad.number ++ ": " ++
    bad.fault.message

/-- Reads lines that follow so many earlier ones, up to the first that is neither blank nor a hint.
-/
def readLines (before : Nat) : List (List Char) → List Hint × Option BadLine
  | [] => ([], none)
  | line :: rest =>
      if (Text.trim line).isEmpty then
        readLines (before + 1) rest
      else
        match parseLine line with
        | .ok hint =>
            let later := readLines (before + 1) rest
            (hint :: later.1, later.2)
        | .error fault => ([], some ⟨before + 1, fault⟩)

/-- The hints of a file up to its first bad line, and that line. -/
def readAll (text : String) : List Hint × Option BadLine :=
  readLines 0 (Text.lines text.toList)

/-- What the names of all synthetic call targets start with. -/
def targetStart : String := "__prefetch_"

/-- The name of the synthetic call target for a hint with so many earlier hints at its address. -/
def targetName (kind : String) (earlier : Nat) : String :=
  targetStart ++ kind ++ "_" ++ toString earlier

end Hint

end SampleProfile
