import SampleProfile.Dwarf.Function
import SampleProfile.Dwarf.LineTable

/-!
# Units of addresses

Which units an address may belong to is known from the address ranges of units: those of their first
entries, those of a table kept for the purpose, or those of their source lines.
-/

namespace SampleProfile.Dwarf

/-! ## The table of unit addresses -/

/-- A part of the table of unit addresses: ranges of the unit at an offset. -/
structure UnitAddresses where
  unitStart : Nat
  encoding : Encoding
  tuples : Cursor

/-- Reads the header of a part, up to its first pair. -/
def readUnitAddresses : Decoding UnitAddresses :=
  within fun wide => do
    let version ← number 2
    if version ≠ 2 && version ≠ 3 then
      throw .unknownVersion
    let unitStart ← number (if wide then 8 else 4)
    let size ← addressSize
    if (← number 1) ≠ 0 then
      throw .segmentSize
    let headerLength := if wide then 24 else 12
    decode (Reading.skip ((2 * size - headerLength % (2 * size)) % (2 * size)))
    return { unitStart, encoding := ⟨wide, version, size⟩, tuples := ← get }

/-- Reads all parts, each of which takes at least a byte. -/
def readAllUnitAddresses : Nat → Decoding (List UnitAddresses)
  | 0 => return []
  | bound + 1 => do
      if (← remaining) = 0 then
        return []
      let first ← readUnitAddresses
      return first :: (← readAllUnitAddresses bound)

/-- Reads the ranges of a part.  A pair of zeros does not count, and neither does an incomplete one
at the end.  Each takes at least a byte. -/
def readTuples (encoding : Encoding) : Nat → Decoding (List AddressRange)
  | 0 => return []
  | bound + 1 => do
      if (← remaining) < 2 * encoding.addressSize then
        return []
      let start ← encoding.address
      let length ← number encoding.addressSize
      let stop ← (encoding.addLength start length : Except Fault _)
      let others ← readTuples encoding bound
      return if length = 0 then others else ⟨start, stop⟩ :: others

/-- The ranges of a unit in the table of unit addresses. -/
def tabledRanges (table : List UnitAddresses) (unit : CodeUnit) :
    Except Fault (List AddressRange) := do
  let parts := table.filter fun part => part.unitStart = unit.header.start
  let ranges ← parts.mapM fun part => do
    return (← readTuples part.encoding part.tuples.remaining part.tuples).1
  return ranges.flatten

/-! ## Units by address -/

/-- A unit with its functions and source lines, which are only computed when they are needed. -/
structure MappedUnit where
  unit : CodeUnit
  functions : Thunk (Except Fault FunctionIndex)
  lines : Thunk (Except Fault (Option LineTable))

/-- The source lines of a unit. -/
def linesOf (unit : CodeUnit) (sections : Sections) : Except Fault (Option LineTable) :=
  match unit.lines with
  | none => .ok none
  | some program => (LineTable.ofProgram program (unit.text sections)).map some

/-- A unit with its functions and source lines. -/
def MappedUnit.of (unit : CodeUnit) (sections : Sections) : MappedUnit where
  unit := unit
  functions := Thunk.mk fun _ => FunctionIndex.ofUnit unit sections
  lines := Thunk.mk fun _ => linesOf unit sections

/-- A range of a unit, and the greatest end of this and all ranges before it. -/
structure UnitRange where
  range : AddressRange
  unit : MappedUnit
  greatestStop : UInt64

/-- The units that describe code, and their ranges by address. -/
structure AddressMap where
  units : Units
  ranges : List UnitRange

namespace AddressMap

/-- The attributes of the entry with which a unit starts; nothing if the unit starts with the end of
a row. -/
def firstAttributes (unit : CodeUnit) : Except Fault (Option (List Attribute)) := do
  match ← unit.decodeEntry unit.header.entries with
  | (none, _) => return none
  | (some abbreviation, later) => return some (← unit.decodeAttributes abbreviation later).1

/-- The address ranges of a unit with given attributes: those of its range list, else those of the
table, else those between its ends, else those of its source lines. -/
def rangesOf (sections : Sections) (table : List UnitAddresses) (mapped : MappedUnit)
    (attributes : List Attribute) : Except Fault (List AddressRange) := do
  let extent ← Extent.ofAttributes mapped.unit sections attributes
  let tabled ←
    if extent.rangesOffset.isSome then pure [] else tabledRanges table mapped.unit
  if !tabled.isEmpty then
    return tabled
  let own ← extent.ranges mapped.unit sections
  if !own.isEmpty then
    return own
  match mapped.lines.get with
  | .ok (some lines) => return lines.ranges
  | _ => return []

/-- A unit that others can refer to, with its address ranges; nothing stands for units that do not
count. -/
def mapUnit (sections : Sections) (table : List UnitAddresses) (header : UnitHeader) :
    Except Fault (Option (CodeUnit × List (AddressRange × MappedUnit))) := do
  if header.kind = .types then
    return none
  match CodeUnit.ofHeader sections header with
  | .error _ => return none
  | .ok unit =>
      if header.kind = .shared then
        return some (unit, [])
      match ← firstAttributes unit with
      | none => return none
      | some attributes =>
          let mapped := MappedUnit.of unit sections
          let ranges ← rangesOf sections table mapped attributes
          return some (unit, ranges.map fun range => (range, mapped))

/-- Adds to each range the greatest end so far. -/
def withStops (greatest : UInt64) : List (AddressRange × MappedUnit) → List UnitRange
  | [] => []
  | (range, unit) :: rest =>
      let next := max greatest range.stop
      ⟨range, unit, next⟩ :: withStops next rest

/-- The units of sections by address. -/
def ofSections (sections : Sections) (headers : List UnitHeader) : Except Fault AddressMap := do
  let table ← sections.decodeAt sections.unitAddresses 0 <|
    readAllUnitAddresses sections.unitAddresses.size
  let mapped ← headers.filterMapM fun header => mapUnit sections table header
  let ranges := (mapped.map Prod.snd).flatten
  let sorted := ranges.mergeSort fun left right => left.1.start ≤ right.1.start
  return ⟨mapped.map Prod.fst, withStops 0 sorted⟩

/-- The units whose ranges contain an address, the last range first.  The greatest address belongs
to no unit. -/
def unitsAt (map : AddressMap) (address : UInt64) : List MappedUnit :=
  if address = 0 - 1 then
    []
  else
    let started := (map.ranges.takeWhile fun entry => entry.range.start ≤ address).reverse
    let candidates := started.takeWhile fun entry => address < entry.greatestStop
    (candidates.filter fun entry => entry.range.contains address).map UnitRange.unit

end AddressMap

end SampleProfile.Dwarf
