import SampleProfile.Dwarf.Declaration
import SampleProfile.Dwarf.RangeList
import SampleProfile.Halving

/-!
# Functions and what is inlined into them

The entry of a function comes before the entries of what is inside it, among them the calls that
were inlined.  Which function an address belongs to is known from the ranges of all functions of a
unit; the chain of inlined calls around the address is found level by level, from the function
inwards.
-/

namespace SampleProfile.Dwarf

/-- The tag of entries that describe inlined calls. -/
def inlinedTag : Nat := 0x1D

/-- Whether an attribute of a name holds the name under which a function is linked. -/
def isLinkageName (name : Nat) : Bool :=
  name = AttributeName.linkageName || name = AttributeName.vendorLinkageName

/-- Whether an attribute of a name refers to an entry that says more about the same function. -/
def isOrigin (name : Nat) : Bool :=
  name = AttributeName.abstractOrigin || name = AttributeName.specification

/-! ## Names -/

/-- The units that entries can refer to. -/
abbrev Units := List CodeUnit

/-- The last unit that starts before an offset, with the entries from there on. -/
def Units.entriesAt (units : Units) (offset : Nat) : Except Fault (CodeUnit × Cursor) :=
  match (units.filter fun unit => unit.header.start < offset).getLast? with
  | none => .error .noEntry
  | some unit =>
      if units.any fun other => other.header.start = offset then
        .error .noEntry
      else
        match unit.entriesFrom (offset - unit.header.start) with
        | .error _ => .error .noEntry
        | .ok cursor => .ok (unit, cursor)

/-- The entries from the place that a value refers to, if it refers to one. -/
def Units.origin? (units : Units) (unit : CodeUnit) :
    AttributeValue → Except Fault (Option (CodeUnit × Cursor))
  | .entryInUnit offset => return some (unit, ← unit.entriesFrom offset)
  | .entryInSection offset => return some (← units.entriesAt offset)
  | _ => return none

/-- The readable text of a value. -/
def readable (unit : CodeUnit) (sections : Sections) (value : AttributeValue) :
    Option (List UInt8) :=
  (unit.text sections value).toOption

/-- The name that the entry of a value has, or the entry that it refers to in turn.  So many steps
are followed. -/
def Units.nameAt (units : Units) (sections : Sections) :
    Nat → CodeUnit → AttributeValue → Except Fault (Option (List UInt8))
  | 0, _, _ => return none
  | bound + 1, unit, value => do
      match ← units.origin? unit value with
      | none => return none
      | some (unit, cursor) =>
          match ← unit.decodeEntry cursor with
          | (none, _) => throw .noEntry
          | (some abbreviation, later) =>
              let (attributes, finish) := decodePartly unit.encoding abbreviation.specs later
              let linked := attributes.findSome? fun given =>
                if isLinkageName given.name then readable unit sections given.value else none
              match linked with
              | some name => return some name
              | none =>
                  let _ ← finish
                  let named := attributes.reverse.findSome? fun given =>
                    if given.name = AttributeName.name then
                      readable unit sections given.value
                    else
                      none
                  let next := attributes.reverse.find? fun given => isOrigin given.name
                  match named, next with
                  | some name, _ => return some name
                  | none, none => return none
                  | none, some given => units.nameAt sections bound unit given.value

/-- How many entries are followed in search of a name. -/
def nameSteps : Nat := 16

/-- Takes up what an attribute says about the name of a function. -/
def takeName (units : Units) (sections : Sections) (unit : CodeUnit)
    (name : Option (List UInt8)) (given : Attribute) : Except Fault (Option (List UInt8)) := do
  if isLinkageName given.name then
    return readable unit sections given.value <|> name
  else if name.isSome then
    return name
  else if given.name = AttributeName.name then
    return readable unit sections given.value
  else if isOrigin given.name then
    units.nameAt sections nameSteps unit given.value
  else
    return none

/-! ## Functions of a unit -/

/-- A function: where its entry is, and one of its address ranges. -/
structure FunctionRange where
  entry : Cursor
  range : AddressRange

/-- The functions of a unit, by address. -/
structure FunctionIndex where
  ranges : Array FunctionRange

/-- Reads the address ranges of all functions of a unit.  Each entry takes at least a byte. -/
def readFunctions (unit : CodeUnit) (sections : Sections) : Nat → Decoding (List FunctionRange)
  | 0 => return []
  | bound + 1 => do
      let entry ← get
      if entry.remaining = 0 then
        return []
      match ← unit.decodeEntry with
      | none => readFunctions unit sections bound
      | some abbreviation =>
          if abbreviation.tag = functionTag then
            let attributes ← unit.decodeAttributes abbreviation
            let extent ← (Extent.ofAttributes unit sections attributes : Except Fault _)
            let ranges ← (extent.ranges unit sections : Except Fault _)
            let others ← readFunctions unit sections bound
            return ranges.map (FunctionRange.mk entry) ++ others
          else
            unit.skipAttributes abbreviation
            readFunctions unit sections bound

/-- The functions of a unit, by address. -/
def FunctionIndex.ofUnit (unit : CodeUnit) (sections : Sections) :
    Except Fault FunctionIndex := do
  let entries := unit.header.entries
  let (ranges, _) ← readFunctions unit sections entries.remaining entries
  let sorted := ranges.mergeSort fun left right => left.range.start ≤ right.range.start
  return ⟨sorted.toArray⟩

/-- Where an address stands to a range. -/
def AddressRange.position (address : UInt64) (range : AddressRange) : Ordering :=
  if address < range.start then .gt
  else if range.stop ≤ address then .lt
  else .eq

/-- The entry of the function that an address belongs to. -/
def FunctionIndex.entryAt? (index : FunctionIndex) (address : UInt64) : Option Cursor :=
  (sought? (fun (function : FunctionRange) => function.range.position address) index.ranges).map
    fun found => found.2.entry

/-! ## Inlined calls -/

/-- An inlined call. -/
structure InlinedCall where
  name : Option (List UInt8)
  /-- The line of the call, zero if it is unknown. -/
  line : UInt32
deriving DecidableEq, Repr

/-- An address range of an inlined call, and how many inlined calls are around it. -/
structure InlinedRange where
  call : InlinedCall
  level : Nat
  range : AddressRange
deriving DecidableEq, Repr

/-- A function with everything inlined into it. -/
structure FunctionDetail where
  name : Option (List UInt8)
  inlined : Array InlinedRange
deriving DecidableEq, Repr

/-- An entry around the one that is read next: its depth, and the level of inlined calls inside it,
if they count. -/
structure Enclosing where
  depth : Int
  level : Option Nat
deriving DecidableEq, Repr

/-- Reads what attributes say about an inlined call at a level. -/
def readInlined (units : Units) (sections : Sections) (unit : CodeUnit) (level : Nat)
    (attributes : List Attribute) : Except Fault (List InlinedRange) := do
  let name ← attributes.foldlM (takeName units sections unit) none
  let extent ← Extent.ofAttributes unit sections attributes
  let line? := (CodeUnit.lastValue attributes AttributeName.callLine).bind AttributeValue.toNat?
  let ranges ← extent.ranges unit sections
  return ranges.map fun range => ⟨⟨name, UInt32.ofNat (line?.getD 0)⟩, level, range⟩

/-- Reads the inlined calls inside the entries around the next one, at a depth.  Functions inside
functions do not count.  Each entry takes at least a byte. -/
def readInside (units : Units) (sections : Sections) (unit : CodeUnit) :
    Nat → Int → List Enclosing → Decoding (List InlinedRange)
  | 0, _, _ => throw .endsEarly
  | bound + 1, depth, around => do
      match around.dropWhile fun enclosing => depth ≤ enclosing.depth with
      | [] => return []
      | enclosing :: outer =>
          match ← unit.decodeEntry with
          | none => readInside units sections unit bound (depth - 1) (enclosing :: outer)
          | some abbreviation =>
              let inner : Int := if abbreviation.hasChildren then depth + 1 else depth
              match enclosing.level.filter fun _ => abbreviation.tag = inlinedTag with
              | some level =>
                  let attributes ← unit.decodeAttributes abbreviation
                  let ranges ← (readInlined units sections unit level attributes : Except Fault _)
                  let others ← readInside units sections unit bound inner
                    (⟨depth, some (level + 1)⟩ :: enclosing :: outer)
                  return ranges ++ others
              | none =>
                  unit.skipAttributes abbreviation
                  let opened :=
                    if abbreviation.tag = functionTag then [⟨depth, none⟩] else []
                  readInside units sections unit bound inner (opened ++ enclosing :: outer)

/-- Reads a function from its entry on. -/
def readFunction (units : Units) (sections : Sections) (unit : CodeUnit) :
    Decoding FunctionDetail := do
  match ← unit.decodeEntry with
  | none => throw .noEntry
  | some abbreviation =>
      let attributes ← unit.decodeAttributes abbreviation
      let name ← (attributes.foldlM (takeName units sections unit) none : Except Fault _)
      let inner : Int := if abbreviation.hasChildren then 1 else 0
      let ranges ← readInside units sections unit ((← remaining) + 1) inner [⟨0, some 0⟩]
      let sorted := ranges.mergeSort fun left right =>
        left.level < right.level ||
          (left.level = right.level && left.range.start ≤ right.range.start)
      return ⟨name, sorted.toArray⟩

/-- Where an address at a level stands to a range of an inlined call. -/
def InlinedRange.position (level : Nat) (address : UInt64) (inlined : InlinedRange) : Ordering :=
  if level < inlined.level then .gt
  else if inlined.level < level then .lt
  else inlined.range.position address

/-- The inlined calls around an address, from a level inwards, among ranges by level and address. -/
def callsFrom (address : UInt64) (level : Nat) (ranges : Array InlinedRange) : List InlinedCall :=
  match sought? (InlinedRange.position level address) ranges with
  | none => []
  | some (place, found) =>
      if _inside : place < ranges.size then
        found.call :: callsFrom address (level + 1) (ranges.extract (place + 1) ranges.size)
      else
        []
termination_by ranges.size
decreasing_by
  simp only [Array.size_extract]
  omega

/-- The inlined calls around an address, outermost first. -/
def FunctionDetail.callsAt (detail : FunctionDetail) (address : UInt64) : List InlinedCall :=
  callsFrom address 0 detail.inlined

end SampleProfile.Dwarf
