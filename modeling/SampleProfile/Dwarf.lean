import SampleProfile.Bytes

/-!
# Debugging information

Debugging information describes functions and the source lines of instructions.  It comes in units,
one for each compiled file, and lies in several sections that refer to each other by offsets.  This
module holds what all parts of it share: faults, the sections, and how numbers are read.
-/

namespace SampleProfile.Dwarf

/-- Why debugging information cannot be read. -/
inductive Fault where
  | endsEarly
  | badUnsigned
  | badSigned
  | reservedLength
  | unknownVersion
  | addressSize
  | unitType
  | segmentSize
  | zeroTag
  | zeroForm
  | nonzeroForm
  | badChildren
  | repeatedCode
  | unknownCode
  | unknownForm
  | impliedForm
  | missingRoot
  | badOffset
  | noEntry
  | noText
  | unknownRange
  | badRange
  | addressOverflow
  | noPathFormat
  | zeroInstructionLength
  | zeroOperations
  | zeroLineRange
  | zeroOpcodeBase
deriving DecidableEq, Repr

/-- The wording of a fault. -/
def Fault.message : Fault → String
  | endsEarly => "Hit the end of input before it was expected"
  | badUnsigned => "An error parsing an unsigned LEB128 value"
  | badSigned => "An error parsing a signed LEB128 value"
  | reservedLength => "Found an unknown reserved length value"
  | unknownVersion => "Found an unknown DWARF version"
  | addressSize => "The specified address size is not supported"
  | unitType => "The DW_UT_* unit type is not supported"
  | segmentSize => "Nonzero segment selector sizes aren't supported yet"
  | zeroTag =>
      "An abbreviation declared that its tag is zero, but zero is reserved for null records"
  | zeroForm =>
      "An attribute specification declared that its form is zero, " ++
        "but zero is reserved for null records"
  | nonzeroForm => "Expected a zero, found something else"
  | badChildren =>
      "The abbreviation's has-children byte was not one of `DW_CHILDREN_\x7byes,no\x7d`"
  | repeatedCode => "Found an abbreviation code that has already been used"
  | unknownCode => "Found a record with an unknown abbreviation code"
  | unknownForm => "Found an unknown `DW_FORM_*` type"
  | impliedForm => "`DW_FORM_implicit_const` used in an invalid context"
  | missingRoot => "A compilation unit or type unit is missing its top level DIE"
  | badOffset => "The offset is out of bounds"
  | noEntry => "Did not find an entry at the given offset"
  | noText => "Expected an attribute value to be a string form"
  | unknownRange => "Found an unknown range list entry kind"
  | badRange => "The end of an address range must not be before the beginning"
  | addressOverflow => "Address calculation overflowed"
  | noPathFormat => "Missing DW_LNCT_path in file entry format"
  | zeroInstructionLength => "The minimum instruction length must not be zero"
  | zeroOperations => "The maximum number of operations per instruction must not be zero"
  | zeroLineRange => "The line range must not be zero"
  | zeroOpcodeBase => "The opcode base must not be zero"

/-- The sections with debugging information; those that are missing are empty. -/
structure Sections where
  order : ByteOrder
  info : ByteArray
  abbreviations : ByteArray
  lines : ByteArray
  texts : ByteArray
  lineTexts : ByteArray
  textOffsets : ByteArray
  addresses : ByteArray
  ranges : ByteArray
  rangeLists : ByteArray
  unitAddresses : ByteArray

/-- A stretch of addresses, without its end. -/
structure AddressRange where
  start : UInt64
  stop : UInt64
deriving DecidableEq, Repr

/-- Whether an address lies in the range. -/
def AddressRange.contains (range : AddressRange) (address : UInt64) : Bool :=
  range.start ≤ address && address < range.stop

/-- How numbers are stored in a unit. -/
structure Encoding where
  /-- Whether offsets have eight bytes and not four. -/
  wide : Bool
  version : Nat
  /-- The number of bytes of an address: one, two, four or eight. -/
  addressSize : Nat
deriving DecidableEq, Repr

/-- The number of bytes of an offset. -/
def Encoding.offsetSize (encoding : Encoding) : Nat :=
  if encoding.wide then 8 else 4

/-- The greatest address. -/
def Encoding.greatestAddress (encoding : Encoding) : Nat :=
  Nat.pow 2 (8 * encoding.addressSize) - 1

/-- The sum of an address and a length, if it is an address again. -/
def Encoding.addLength (encoding : Encoding) (address : UInt64) (length : Nat) :
    Except Fault UInt64 :=
  let sum := address.toNat + length
  if sum ≤ encoding.greatestAddress then .ok (UInt64.ofNat sum) else .error .addressOverflow

/-- The sum of an address and a length, modulo the number of addresses. -/
def Encoding.wrapLength (encoding : Encoding) (address : UInt64) (length : Nat) : UInt64 :=
  UInt64.ofNat ((address.toNat + length) % (encoding.greatestAddress + 1))

/-! ## Decoding -/

/-- Takes values from a section. -/
abbrev Decoding := StateT Cursor (Except Fault)

/-- Decodes what a reading takes; a reading that fails reaches past the end. -/
def decode {Value : Type} (reading : Reading Value) : Decoding Value := fun cursor =>
  match reading cursor with
  | some taken => .ok taken
  | none => .error .endsEarly

/-- A number of so many bytes. -/
def number (width : Nat) : Decoding Nat :=
  decode (Reading.number width)

/-- How many bytes are left. -/
def remaining : Decoding Nat := fun cursor =>
  .ok (cursor.remaining, cursor)

/-- A cursor into a section, from an offset on. -/
def Sections.cursor (sections : Sections) (bytes : ByteArray) (offset : Nat) :
    Except Fault Cursor :=
  if offset ≤ bytes.size then
    .ok (.between bytes sections.order offset bytes.size)
  else
    .error .endsEarly

/-- Decodes a value at an offset of a section. -/
def Sections.decodeAt {Value : Type} (sections : Sections) (bytes : ByteArray) (offset : Nat)
    (value : Decoding Value) : Except Fault Value := do
  let cursor ← sections.cursor bytes offset
  return (← value cursor).1

/-- Decodes seven bits of a number, and more as long as a byte says so.  So many bytes may follow;
the last that is possible holds a single bit. -/
def unsignedFrom : Nat → Decoding Nat
  | 0 => throw .badUnsigned
  | bound + 1 => do
      let byte ← number 1
      if bound = 0 && 1 < byte then
        throw .badUnsigned
      if byte < 128 then
        return byte
      else
        return byte % 128 + 128 * (← unsignedFrom bound)

/-- A number in as many bytes as it needs, at most ten. -/
def unsigned : Decoding Nat :=
  unsignedFrom 10

/-- Decodes seven bits of a signed number, and more as long as a byte says so. -/
def signedFrom : Nat → Decoding Int
  | 0 => throw .badSigned
  | bound + 1 => do
      let byte ← number 1
      if bound = 0 && byte ≠ 0 && byte ≠ 127 then
        throw .badSigned
      if byte < 64 then
        return byte
      else if byte < 128 then
        return (byte : Int) - 128
      else
        return (byte % 128 : Nat) + 128 * (← signedFrom bound)

/-- A signed number in as many bytes as it needs, at most ten. -/
def signed : Decoding Int :=
  signedFrom 10

/-- A number below `2 ^ 16` in as many bytes as it needs, at most three. -/
def short : Decoding Nat := do
  let first ← number 1
  if first < 128 then
    return first
  let second ← number 1
  if second < 128 then
    return first % 128 + 128 * second
  let third ← number 1
  if 3 < third then
    throw .badUnsigned
  return first % 128 + 128 * (second % 128) + 128 * 128 * third

/-- A length, and whether offsets of what it belongs to are wide. -/
def initialLength : Decoding (Nat × Bool) := do
  let length ← number 4
  if length < 0xFFFFFFF0 then
    return (length, false)
  else if length = 0xFFFFFFFF then
    return (← number 8, true)
  else
    throw .reservedLength

/-- A cursor over what an initial length announces, and whether offsets in it are wide. -/
def lengthed : Decoding (Cursor × Bool) := do
  let (length, wide) ← initialLength
  return (← decode (Reading.part length), wide)

/-- The number of bytes of an address. -/
def addressSize : Decoding Nat := do
  let size ← number 1
  if [1, 2, 4, 8].contains size then
    return size
  else
    throw .addressSize

namespace Encoding

/-- An offset. -/
def offset (encoding : Encoding) : Decoding Nat :=
  number encoding.offsetSize

/-- An address. -/
def address (encoding : Encoding) : Decoding UInt64 :=
  return UInt64.ofNat (← number encoding.addressSize)

end Encoding

end SampleProfile.Dwarf
