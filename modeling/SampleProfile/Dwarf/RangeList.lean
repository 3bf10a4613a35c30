import SampleProfile.Dwarf.Unit

/-!
# Address ranges of entries

An entry that describes code has a first and a last address, or a list of ranges in a section of its
own.  There are two formats of such lists: pairs of addresses in early versions, and entries of
several kinds later.
-/

namespace SampleProfile.Dwarf

/-- An entry of a range list. -/
inductive RangeEntry where
  /-- From here on offsets count from an address. -/
  | base (address : UInt64)
  /-- Offsets of the first address and of the end. -/
  | offsets (first last : Nat)
  /-- The first address and the end. -/
  | addresses (first last : UInt64)
  /-- The first address and the length. -/
  | lengthed (first : UInt64) (length : Nat)
deriving DecidableEq, Repr

namespace CodeUnit

/-- Reads a pair of an early range list: two zeros end the list, and the greatest address announces
a base. -/
def readRangePair (unit : CodeUnit) : Decoding (Option RangeEntry) := do
  let first ← unit.encoding.address
  let last ← unit.encoding.address
  if first = 0 && last = 0 then
    return none
  else if first.toNat = unit.encoding.greatestAddress then
    return some (.base last)
  else
    return some (.offsets first.toNat last.toNat)

/-- Reads an entry of a later range list. -/
def readRangeEntry (unit : CodeUnit) (sections : Sections) : Decoding (Option RangeEntry) := do
  match ← number 1 with
  | 0 => return none
  | 1 => return some (.base (← unit.indexedAddress sections (← unsigned)))
  | 2 => do
      let first ← unsigned
      let last ← unsigned
      return some <| .addresses (← unit.indexedAddress sections first)
        (← unit.indexedAddress sections last)
  | 3 => do
      let first ← unsigned
      let length ← unsigned
      return some (.lengthed (← unit.indexedAddress sections first) length)
  | 4 => return some (.offsets (← unsigned) (← unsigned))
  | 5 => return some (.base (← unit.encoding.address))
  | 6 => return some (.addresses (← unit.encoding.address) (← unit.encoding.address))
  | 7 => return some (.lengthed (← unit.encoding.address) (← unsigned))
  | _ => throw .unknownRange

/-- The address that stands for code that was left out. -/
def leftOutAddress (unit : CodeUnit) : Nat :=
  if unit.encoding.version ≤ 4 then
    unit.encoding.greatestAddress - 1
  else
    unit.encoding.greatestAddress

/-- Leaves out ranges of code that was left out and refuses those that end before they start. -/
def checkRange (unit : CodeUnit) (range : AddressRange) : Except Fault (Option AddressRange) :=
  if range.start.toNat = unit.leftOutAddress then .ok none
  else if range.stop < range.start then .error .badRange
  else .ok (some range)

/-- The range of an entry of a range list, given the base of offsets; code that was left out has
none. -/
def rangeOf (unit : CodeUnit) (base : UInt64) : RangeEntry → Except Fault (Option AddressRange)
  | .base _ => return none
  | .offsets first last =>
      if base.toNat = unit.leftOutAddress then
        return none
      else
        unit.checkRange ⟨unit.encoding.wrapLength base first, unit.encoding.wrapLength base last⟩
  | .addresses first last => unit.checkRange ⟨first, last⟩
  | .lengthed first length => unit.checkRange ⟨first, unit.encoding.wrapLength first length⟩

/-- Reads a range list up to its end or that of the section.  Each entry takes at least a byte. -/
def readRanges (unit : CodeUnit) (sections : Sections) (base : UInt64) :
    Nat → Decoding (List AddressRange)
  | 0 => return []
  | bound + 1 => do
      if (← remaining) = 0 then
        return []
      let entry ←
        if unit.encoding.version ≤ 4 then unit.readRangePair else unit.readRangeEntry sections
      match entry with
      | none => return []
      | some entry =>
          let range ← (unit.rangeOf base entry : Except Fault _)
          let next :=
            match entry with
            | .base address => address
            | _ => base
          return range.toList ++ (← unit.readRanges sections next bound)

/-- The section that holds the unit's range lists. -/
def rangeSection (unit : CodeUnit) (sections : Sections) : ByteArray :=
  if unit.encoding.version ≤ 4 then sections.ranges else sections.rangeLists

/-- The ranges of the list at an offset. -/
def rangesAt (unit : CodeUnit) (sections : Sections) (offset : Nat) :
    Except Fault (List AddressRange) :=
  let bytes := unit.rangeSection sections
  sections.decodeAt bytes offset (unit.readRanges sections unit.lowAddress (bytes.size + 1))

/-- The offset of the range list that a value stands for. -/
def rangesOffset? (unit : CodeUnit) (sections : Sections) :
    AttributeValue → Except Fault (Option Nat)
  | .sectionOffset offset => return some offset
  | .rangeListIndex index => do
      let place := unit.rangeListsBase + index * unit.encoding.offsetSize
      let offset ← sections.decodeAt sections.rangeLists place unit.encoding.offset
      return some (unit.rangeListsBase + offset)
  | _ => return none

end CodeUnit

/-- What the attributes of an entry say about its addresses. -/
structure Extent where
  low : Option UInt64 := none
  high : Option UInt64 := none
  size : Option Nat := none
  rangesOffset : Option Nat := none
deriving DecidableEq, Repr

namespace Extent

/-- Takes up an attribute. -/
def add (unit : CodeUnit) (sections : Sections) (extent : Extent) (given : Attribute) :
    Except Fault Extent := do
  if given.name = AttributeName.lowAddress then
    let address ← unit.address? sections given.value
    return { extent with low := address <|> extent.low }
  else if given.name = AttributeName.highAddress then
    let address ← unit.address? sections given.value
    return { extent with
      high := address <|> extent.high
      size := given.value.toNat? <|> extent.size }
  else if given.name = AttributeName.ranges then
    return { extent with rangesOffset := ← unit.rangesOffset? sections given.value }
  else
    return extent

/-- What attributes say about addresses. -/
def ofAttributes (unit : CodeUnit) (sections : Sections) (attributes : List Attribute) :
    Except Fault Extent :=
  attributes.foldlM (add unit sections) {}

/-- The ranges that are not empty: those of the list if there is one, else the one between both
ends. -/
def ranges (unit : CodeUnit) (sections : Sections) (extent : Extent) :
    Except Fault (List AddressRange) := do
  let all ←
    match extent.rangesOffset, extent.low, extent.high, extent.size with
    | some offset, _, _, _ => unit.rangesAt sections offset
    | none, some low, some high, _ => pure [⟨low, high⟩]
    | none, some low, none, some size => pure [⟨low, low + UInt64.ofNat size⟩]
    | none, _, _, _ => pure []
  return all.filter fun range => range.start < range.stop

end Extent

end SampleProfile.Dwarf
