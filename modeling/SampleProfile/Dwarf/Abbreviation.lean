import SampleProfile.Dwarf
import SampleProfile.OrderedMap

/-!
# Abbreviations

Entries of a unit do not say which attributes they have but refer by code to an abbreviation that
does.
-/

namespace SampleProfile.Dwarf

/-- Which attribute an entry has, and how its value is stored. -/
structure AttributeSpec where
  name : Nat
  form : Nat
  /-- The value itself, for the form that needs none in the entry. -/
  implied : Int
deriving DecidableEq, Repr

/-- What entries with a code have in common. -/
structure Abbreviation where
  code : Nat
  tag : Nat
  hasChildren : Bool
  specs : List AttributeSpec
deriving DecidableEq, Repr

/-- Abbreviations by code. -/
abbrev AbbreviationTable := OrderedMap Nat Abbreviation

/-- The form whose value stands in the abbreviation. -/
def impliedFormCode : Nat := 0x21

/-- Reads which attributes there are, up to the two zeros that end them.  Each takes at least a
byte. -/
def readSpecs : Nat → Decoding (List AttributeSpec)
  | 0 => throw .endsEarly
  | bound + 1 => do
      let name ← short
      let form ← short
      if name = 0 then
        if form = 0 then return [] else throw .nonzeroForm
      if form = 0 then
        throw .zeroForm
      let implied ← if form = impliedFormCode then signed else pure 0
      return ⟨name, form, implied⟩ :: (← readSpecs bound)

/-- Reads the abbreviation of a code. -/
def readAbbreviation (code : Nat) : Decoding Abbreviation := do
  let tag ← short
  if tag = 0 then
    throw .zeroTag
  let children ← number 1
  if 1 < children then
    throw .badChildren
  let specs ← readSpecs ((← remaining) + 1)
  return { code, tag, hasChildren := children = 1, specs }

/-- Reads abbreviations up to the zero that ends them.  Each takes at least a byte. -/
def readTable (table : AbbreviationTable) : Nat → Decoding AbbreviationTable
  | 0 => throw .endsEarly
  | bound + 1 => do
      let code ← unsigned
      if code = 0 then
        return table
      let abbreviation ← readAbbreviation code
      if table.contains code then
        throw .repeatedCode
      readTable (table.insert code abbreviation) bound

/-- The abbreviations at an offset of their section. -/
def Sections.abbreviationTable (sections : Sections) (offset : Nat) :
    Except Fault AbbreviationTable :=
  sections.decodeAt sections.abbreviations offset do
    readTable ∅ ((← remaining) + 1)

end SampleProfile.Dwarf
