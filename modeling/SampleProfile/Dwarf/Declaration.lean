import SampleProfile.Dwarf.Unit
import SampleProfile.OrderedMap
import SampleProfile.Text.Lossy

/-!
# Where functions are declared

Source lines in profiles count from the line at which a function is declared, so that they do not
change when the source above the function does.  `Sections.declarationLines` finds these lines, by
the names under which functions are linked.
-/

namespace SampleProfile.Dwarf

/-- The tag of entries that describe functions. -/
def functionTag : Nat := 0x2E

/-- Lines by name. -/
abbrev DeclarationLines := OrderedMap String UInt32

/-- Decodes attributes up to the end or a fault; answers those before it, and what comes after them.
-/
def decodePartly (encoding : Encoding) : List AttributeSpec → Cursor →
    List Attribute × Except Fault Cursor
  | [], cursor => ([], .ok cursor)
  | spec :: rest, cursor =>
      match spec.decode encoding cursor with
      | .error fault => ([], .error fault)
      | .ok (first, later) =>
          let (others, finish) := decodePartly encoding rest later
          (first :: others, finish)

/-- The value of the first attribute of a name, unless a fault comes before it. -/
def firstValue (attributes : List Attribute) (finish : Except Fault Cursor) (name : Nat) :
    Except Fault (Option AttributeValue) :=
  match attributes.find? fun given => given.name = name with
  | some given => .ok (some given.value)
  | none => finish.map fun _ => none

/-- A line as far as it can be represented. -/
def toLine (line : Nat) : UInt32 :=
  if line < UInt32.size then UInt32.ofNat line else 0

/-- Adds the line of a function, unless its name is known already. -/
def addDeclaration (unit : CodeUnit) (sections : Sections) (attributes : List Attribute)
    (finish : Except Fault Cursor) (lines : DeclarationLines) : Except Fault DeclarationLines := do
  let line? ← firstValue attributes finish AttributeName.declarationLine
  match line?.bind AttributeValue.toNat? with
  | none => return lines
  | some line =>
      let linkageName ← firstValue attributes finish AttributeName.linkageName
      let name ←
        match linkageName with
        | some value => pure (some value)
        | none => firstValue attributes finish AttributeName.name
      match name.map (unit.text sections) with
      | some (.ok bytes) => return lines.insertIfNew (Text.lossy bytes) (toLine line)
      | _ => return lines

/-- Adds the lines of all functions of a unit up to the first fault.  Each entry takes at least a
byte. -/
def addDeclarations (unit : CodeUnit) (sections : Sections) :
    Nat → Cursor → DeclarationLines → DeclarationLines
  | 0, _, lines => lines
  | bound + 1, cursor, lines =>
      if cursor.remaining = 0 then
        lines
      else
        match unit.decodeEntry cursor with
        | .error _ => lines
        | .ok (none, later) => addDeclarations unit sections bound later lines
        | .ok (some abbreviation, later) =>
            let (attributes, finish) := decodePartly unit.encoding abbreviation.specs later
            let added :=
              if abbreviation.tag = functionTag then
                addDeclaration unit sections attributes finish lines
              else
                .ok lines
            match added, finish with
            | .ok lines, .ok next => addDeclarations unit sections bound next lines
            | .ok lines, .error _ => lines
            | .error _, _ => lines

/-- The declaration lines of all functions; of several of one name the first counts, and units that
cannot be read do not. -/
def Sections.declarationLines (sections : Sections) (headers : List UnitHeader) :
    DeclarationLines :=
  headers.foldl
    (fun lines header =>
      match CodeUnit.ofHeader sections header with
      | .error _ => lines
      | .ok unit =>
          let entries := unit.header.entries
          addDeclarations unit sections entries.remaining entries lines)
    ∅

end SampleProfile.Dwarf
