import SampleProfile.Dwarf.Abbreviation

/-!
# Attribute values

The form of an attribute says how its value is stored; many forms come in several widths.
-/

namespace SampleProfile.Dwarf

/-- How a value is stored.  Where a width may be missing, the number takes as many bytes as it
needs. -/
inductive Form where
  | address
  | addressIndex (width : Option Nat)
  | number (width : Nat)
  | unsigned
  | signed
  | implied
  | sectionOffset
  | text
  | textOffset
  | lineTextOffset
  | textIndex (width : Option Nat)
  /-- The offset of an entry from the start of its unit. -/
  | entryInUnit (width : Option Nat)
  /-- The offset of an entry from the start of the section. -/
  | entryInSection
  | rangeListIndex
  /-- Bytes that no attribute of interest has as its value. -/
  | bytes (length : Nat)
  /-- A number of bytes, and so many bytes, that no attribute of interest has as its value. -/
  | block (width : Option Nat)
  /-- A number that no attribute of interest has as its value. -/
  | otherIndex
  /-- An offset that no attribute of interest has as its value. -/
  | otherOffset
  /-- Another form, whose code stands before the value. -/
  | stated
deriving DecidableEq, Repr

/-- The form of a code. -/
def Form.ofCode? : Nat → Option Form
  | 0x01 => some address
  | 0x03 => some (block (some 2))
  | 0x04 => some (block (some 4))
  | 0x05 => some (number 2)
  | 0x06 => some (number 4)
  | 0x07 => some (number 8)
  | 0x08 => some text
  | 0x09 => some (block none)
  | 0x0A => some (block (some 1))
  | 0x0B => some (number 1)
  | 0x0C => some (bytes 1)
  | 0x0D => some signed
  | 0x0E => some textOffset
  | 0x0F => some unsigned
  | 0x10 => some entryInSection
  | 0x11 => some (entryInUnit (some 1))
  | 0x12 => some (entryInUnit (some 2))
  | 0x13 => some (entryInUnit (some 4))
  | 0x14 => some (entryInUnit (some 8))
  | 0x15 => some (entryInUnit none)
  | 0x16 => some stated
  | 0x17 => some sectionOffset
  | 0x18 => some (block none)
  | 0x19 => some (bytes 0)
  | 0x1A => some (textIndex none)
  | 0x1B => some (addressIndex none)
  | 0x1C => some (bytes 4)
  | 0x1D => some otherOffset
  | 0x1E => some (bytes 16)
  | 0x1F => some lineTextOffset
  | 0x20 => some (bytes 8)
  | 0x21 => some implied
  | 0x22 => some otherIndex
  | 0x23 => some rangeListIndex
  | 0x24 => some (bytes 8)
  | 0x25 => some (textIndex (some 1))
  | 0x26 => some (textIndex (some 2))
  | 0x27 => some (textIndex (some 3))
  | 0x28 => some (textIndex (some 4))
  | 0x29 => some (addressIndex (some 1))
  | 0x2A => some (addressIndex (some 2))
  | 0x2B => some (addressIndex (some 3))
  | 0x2C => some (addressIndex (some 4))
  | 0x1F01 => some (addressIndex none)
  | 0x1F02 => some (textIndex none)
  | 0x1F20 => some otherOffset
  | 0x1F21 => some otherOffset
  | _ => none

/-- The value of an attribute. -/
inductive AttributeValue where
  | address (address : UInt64)
  | addressIndex (index : Nat)
  | number (number : Nat)
  | signed (number : Int)
  | sectionOffset (offset : Nat)
  | text (bytes : List UInt8)
  | textOffset (offset : Nat)
  | lineTextOffset (offset : Nat)
  | textIndex (index : Nat)
  | entryInUnit (offset : Nat)
  | entryInSection (offset : Nat)
  | rangeListIndex (index : Nat)
  | other
deriving DecidableEq, Repr

/-- The value as a number that is not negative. -/
def AttributeValue.toNat? : AttributeValue → Option Nat
  | number value => some value
  | signed value => if 0 ≤ value then some value.toNat else none
  | _ => none

/-- An attribute of an entry. -/
structure Attribute where
  name : Nat
  value : AttributeValue
deriving DecidableEq, Repr

/-! Names of attributes. -/

namespace AttributeName

def name : Nat := 0x03
def lineProgram : Nat := 0x10
def lowAddress : Nat := 0x11
def highAddress : Nat := 0x12
def abstractOrigin : Nat := 0x31
def declarationLine : Nat := 0x3B
def specification : Nat := 0x47
def ranges : Nat := 0x55
def callLine : Nat := 0x59
def linkageName : Nat := 0x6E
def textOffsetsBase : Nat := 0x72
def addressBase : Nat := 0x73
def rangeListsBase : Nat := 0x74
def vendorLinkageName : Nat := 0x2007
def vendorRangesBase : Nat := 0x2132
def vendorAddressBase : Nat := 0x2133

end AttributeName

/-- Whether a number of so many bytes is an offset: some attributes may store theirs in the form of
a number. -/
def isOffset (encoding : Encoding) (name width : Nat) : Bool :=
  width = encoding.offsetSize && (name = AttributeName.lineProgram || name = AttributeName.ranges)

/-- A number of a width, or of as many bytes as it needs. -/
def numberOf : Option Nat → Decoding Nat
  | some width => number width
  | none => unsigned

/-- Decodes the value of an attribute in a form. -/
def Form.decode (encoding : Encoding) (name : Nat) (impliedValue : Int) :
    Form → Decoding AttributeValue
  | address => return .address (← encoding.address)
  | addressIndex width => return .addressIndex (← numberOf width)
  | number width => do
      let value ← Dwarf.number width
      return if isOffset encoding name width then .sectionOffset value else .number value
  | unsigned => return .number (← Dwarf.unsigned)
  | signed => return .signed (← Dwarf.signed)
  | implied => return .signed impliedValue
  | sectionOffset => return .sectionOffset (← encoding.offset)
  | text => return .text (← Dwarf.decode Reading.zeroEnded)
  | textOffset => return .textOffset (← encoding.offset)
  | lineTextOffset => return .lineTextOffset (← encoding.offset)
  | textIndex width => return .textIndex (← numberOf width)
  | entryInUnit width => return .entryInUnit (← numberOf width)
  | entryInSection =>
      return .entryInSection <|
        ← if encoding.version = 2 then Dwarf.number encoding.addressSize else encoding.offset
  | rangeListIndex => return .rangeListIndex (← Dwarf.unsigned)
  | bytes length => do
      Dwarf.decode (Reading.skip length)
      return .other
  | block width => do
      Dwarf.decode (Reading.skip (← numberOf width))
      return .other
  | otherIndex => do
      let _ ← Dwarf.unsigned
      return .other
  | otherOffset => do
      let _ ← encoding.offset
      return .other
  | stated => throw .unknownForm

/-- Decodes which form a value has, by a code that may refer to a code before the value.  Each such
step takes at least a byte. -/
def decodeForm : Nat → Nat → Decoding Form
  | 0, _ => throw .endsEarly
  | bound + 1, code =>
      match Form.ofCode? code with
      | none => throw .unknownForm
      | some .stated => do decodeForm bound (← short)
      | some form => return form

/-- The form of the value that is left, as far as the abbreviation leaves it open. -/
def AttributeSpec.decodeForm (spec : AttributeSpec) : Decoding Form := do
  Dwarf.decodeForm ((← remaining) + 1) spec.form

/-- Decodes the attribute that an abbreviation announces.  A value can only stand in the
abbreviation if that says so itself. -/
def AttributeSpec.decode (encoding : Encoding) (spec : AttributeSpec) : Decoding Attribute := do
  let form ← spec.decodeForm
  if form = .implied && spec.form ≠ impliedFormCode then
    throw .impliedForm
  return ⟨spec.name, ← form.decode encoding spec.name spec.implied⟩

/-- Decodes all attributes that an abbreviation announces. -/
def Abbreviation.decodeAttributes (encoding : Encoding) (abbreviation : Abbreviation) :
    Decoding (List Attribute) :=
  abbreviation.specs.mapM fun spec => spec.decode encoding

/-! ## Attributes of no interest -/

/-- Leaves out a number that takes as many bytes as it needs, however many those are. -/
def skipNumber : Nat → Decoding Unit
  | 0 => throw .endsEarly
  | bound + 1 => do
      if 128 ≤ (← number 1) then
        skipNumber bound

/-- Whether a value in a form is a number alone that takes as many bytes as it needs. -/
def Form.isOpenNumber : Form → Bool
  | unsigned | signed | rangeListIndex | otherIndex => true
  | addressIndex none | textIndex none | entryInUnit none => true
  | _ => false

/-- Leaves out a value, of which nothing is checked but its length. -/
def Form.skip (encoding : Encoding) (form : Form) : Decoding Unit := do
  if form.isOpenNumber then
    skipNumber ((← remaining) + 1)
  else
    let _ ← form.decode encoding 0 0

/-- Leaves out all attributes that an abbreviation announces. -/
def Abbreviation.skipAttributes (encoding : Encoding) (abbreviation : Abbreviation) :
    Decoding Unit :=
  abbreviation.specs.forM fun spec => do (← spec.decodeForm).skip encoding

end SampleProfile.Dwarf
