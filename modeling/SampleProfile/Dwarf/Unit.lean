import SampleProfile.Dwarf.LineProgram

/-!
# Units

A unit is a header followed by a sequence of entries.  The attributes of its first entry say where
the unit's parts of other sections start.
-/

namespace SampleProfile.Dwarf

/-- What a unit describes. -/
inductive UnitKind where
  | compiled
  /-- Types alone. -/
  | types
  /-- Entries that others refer to. -/
  | shared
deriving DecidableEq, Repr

/-- The header of a unit. -/
structure UnitHeader where
  /-- Where the unit starts in its section. -/
  start : Nat
  encoding : Encoding
  kind : UnitKind
  abbreviationOffset : Nat
  /-- The entries, up to the end of the unit. -/
  entries : Cursor

/-- Reads the kind of a unit by its code, with what belongs to the kind. -/
def readUnitKind (encoding : Encoding) (code : Nat) : Decoding UnitKind := do
  match code with
  | 1 => return .compiled
  | 2 | 6 => do
      let _ ← number 8
      let _ ← encoding.offset
      return .types
  | 3 => return .shared
  | 4 | 5 => do
      let _ ← number 8
      return .compiled
  | _ => throw .unitType

/-- Reads the header of a unit at the start of its entries. -/
def readUnitHeader (start : Nat) : Decoding UnitHeader :=
  within fun wide => do
    let version ← number 2
    if version < 2 || 5 < version then
      throw .unknownVersion
    if version ≤ 4 then
      let abbreviationOffset ← number (if wide then 8 else 4)
      let size ← addressSize
      return { start, encoding := ⟨wide, version, size⟩, kind := .compiled, abbreviationOffset,
               entries := ← get }
    else
      let code ← number 1
      let size ← addressSize
      let encoding : Encoding := ⟨wide, version, size⟩
      let abbreviationOffset ← encoding.offset
      let kind ← readUnitKind encoding code
      return { start, encoding, kind, abbreviationOffset, entries := ← get }

/-- Reads the headers of all units, each of which takes at least a byte. -/
def readUnitHeaders : Nat → Decoding (List UnitHeader)
  | 0 => return []
  | bound + 1 => do
      if (← remaining) = 0 then
        return []
      let cursor ← get
      let header ← readUnitHeader cursor.position
      return header :: (← readUnitHeaders bound)

/-- The headers of all units. -/
def Sections.unitHeaders (sections : Sections) : Except Fault (List UnitHeader) :=
  sections.decodeAt sections.info 0 (readUnitHeaders sections.info.size)

/-! ## Entries -/

/-- A unit, of which the abbreviations and the attributes of the first entry are known. -/
structure CodeUnit where
  header : UnitHeader
  abbreviations : AbbreviationTable
  lowAddress : UInt64 := 0
  textOffsetsBase : Nat := 0
  addressBase : Nat := 0
  rangeListsBase : Nat := 0
  lines : Option LineProgram := none

/-- Decodes what an entry is; nothing stands for the end of a row of siblings. -/
def decodeEntry (table : AbbreviationTable) : Decoding (Option Abbreviation) := do
  let code ← unsigned
  if code = 0 then
    return none
  match table[code]? with
  | none => throw .unknownCode
  | some abbreviation => return some abbreviation

namespace CodeUnit

/-- How numbers are stored in the unit. -/
def encoding (unit : CodeUnit) : Encoding :=
  unit.header.encoding

/-- Decodes what an entry is. -/
def decodeEntry (unit : CodeUnit) : Decoding (Option Abbreviation) :=
  Dwarf.decodeEntry unit.abbreviations

/-- Decodes the attributes of an entry. -/
def decodeAttributes (unit : CodeUnit) (abbreviation : Abbreviation) : Decoding (List Attribute) :=
  abbreviation.decodeAttributes unit.encoding

/-- Leaves out the attributes of an entry. -/
def skipAttributes (unit : CodeUnit) (abbreviation : Abbreviation) : Decoding Unit :=
  abbreviation.skipAttributes unit.encoding

/-- The entries from an offset in the unit on. -/
def entriesFrom (unit : CodeUnit) (offset : Nat) : Except Fault Cursor :=
  let entries := unit.header.entries
  let position := unit.header.start + offset
  if entries.position ≤ position && position < entries.stop then
    .ok { entries with position }
  else
    .error .badOffset

/-! ## Values -/

/-- The address of a number in the unit's table of addresses. -/
def indexedAddress (unit : CodeUnit) (sections : Sections) (index : Nat) : Except Fault UInt64 :=
  sections.decodeAt sections.addresses (unit.addressBase + index * unit.encoding.addressSize)
    unit.encoding.address

/-- The address that a value stands for, if it stands for one. -/
def address? (unit : CodeUnit) (sections : Sections) :
    AttributeValue → Except Fault (Option UInt64)
  | .address address => return some address
  | .addressIndex index => return some (← unit.indexedAddress sections index)
  | _ => return none

/-- The text that a value stands for. -/
def text (unit : CodeUnit) (sections : Sections) : AttributeValue → Except Fault (List UInt8)
  | .text bytes => return bytes
  | .textOffset offset => sections.decodeAt sections.texts offset (decode Reading.zeroEnded)
  | .lineTextOffset offset => sections.decodeAt sections.lineTexts offset (decode Reading.zeroEnded)
  | .textIndex index => do
      let place := unit.textOffsetsBase + index * unit.encoding.offsetSize
      let offset ← sections.decodeAt sections.textOffsets place unit.encoding.offset
      sections.decodeAt sections.texts offset (decode Reading.zeroEnded)
  | _ => throw .noText

/-! ## First entry -/

/-- Takes up what an attribute of the first entry says about other sections. -/
def takeBase (unit : CodeUnit) (given : Attribute) : CodeUnit :=
  match given.value with
  | .sectionOffset offset =>
      if given.name = AttributeName.textOffsetsBase then
        { unit with textOffsetsBase := offset }
      else if given.name = AttributeName.addressBase ||
          given.name = AttributeName.vendorAddressBase then
        { unit with addressBase := offset }
      else if given.name = AttributeName.rangeListsBase ||
          given.name = AttributeName.vendorRangesBase then
        { unit with rangeListsBase := offset }
      else
        unit
  | _ => unit

/-- Decodes the attributes of the first entry; ends of rows before it do not count.  Each takes at
least a byte. -/
def decodeRoot (unit : CodeUnit) : Nat → Decoding (List Attribute)
  | 0 => throw .missingRoot
  | bound + 1 => do
      if (← remaining) = 0 then
        throw .missingRoot
      match ← unit.decodeEntry with
      | none => unit.decodeRoot bound
      | some abbreviation => unit.decodeAttributes abbreviation

/-- The value of the last attribute of a name. -/
def lastValue (attributes : List Attribute) (name : Nat) : Option AttributeValue :=
  (attributes.reverse.find? fun given => given.name = name).map Attribute.value

/-- The offset of the last attribute of a name that has an offset as its value. -/
def lastOffset (attributes : List Attribute) (name : Nat) : Option Nat :=
  attributes.reverse.findSome? fun given =>
    match given.value with
    | .sectionOffset offset => if given.name = name then some offset else none
    | _ => none

/-- The unit with a header. -/
def ofHeader (sections : Sections) (header : UnitHeader) : Except Fault CodeUnit := do
  let abbreviations ← sections.abbreviationTable header.abbreviationOffset
  let bare : CodeUnit := { header, abbreviations }
  let (attributes, _) ← bare.decodeRoot header.entries.remaining header.entries
  let based := attributes.foldl takeBase bare
  let lines ←
    match lastOffset attributes AttributeName.lineProgram with
    | none => pure none
    | some offset => do
        pure (some (← sections.lineProgram header.encoding.addressSize offset))
  let lowAddress ←
    match lastValue attributes AttributeName.lowAddress with
    | none => pure none
    | some value => based.address? sections value
  return { based with lines, lowAddress := lowAddress.getD 0 }

end CodeUnit

end SampleProfile.Dwarf
