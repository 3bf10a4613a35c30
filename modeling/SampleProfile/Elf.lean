import SampleProfile.Bytes

/-!
# ELF files

An ELF file starts with a header that says where two tables are: one of segments, which are loaded
into memory, and one of sections, which divide the file by purpose.  `Elf.parse` reads the header
and both tables and checks what every reader of the file relies on: that the tables lie inside the
file and that sections refer to each other correctly.
-/

namespace SampleProfile.Elf

/-- Why bytes are no ELF file that can be read. -/
inductive Fault where
  | shortHeader
  | unsupportedHeader
  | segmentEntrySize
  | segmentTable
  | segmentCount
  | sectionEntrySize
  | sectionTable
  | firstSection
  | nameSectionCount
  | noNameSection
  | badNameSection
  | nameSectionSize
  | symbolTable
  | sectionIndex
  | textSectionKind
  | textSectionSize
  | symbolSections
  | relocatedSection
deriving DecidableEq, Repr

/-- The wording of a fault. -/
def Fault.message : Fault → String
  | shortHeader => "Invalid ELF header size or alignment"
  | unsupportedHeader => "Unsupported ELF header"
  | segmentEntrySize => "Invalid ELF program header entry size"
  | segmentTable => "Invalid ELF program header size or alignment"
  | segmentCount => "Missing ELF section headers for e_phnum overflow"
  | sectionEntrySize => "Invalid ELF section header entry size"
  | sectionTable => "Invalid ELF section header offset/size/alignment"
  | firstSection => "Invalid ELF section header offset or size"
  | nameSectionCount => "Missing ELF section headers for e_shstrndx overflow"
  | noNameSection => "Missing ELF e_shstrndx"
  | badNameSection => "Invalid ELF e_shstrndx"
  | nameSectionSize => "Invalid ELF shstrtab size"
  | symbolTable => "Invalid ELF symbol table data"
  | sectionIndex => "Invalid ELF section index"
  | textSectionKind => "Invalid ELF string section type"
  | textSectionSize => "Invalid str section size"
  | symbolSections => "Invalid ELF symtab_shndx data"
  | relocatedSection => "Invalid ELF sh_info for relocation section"

/-- How numbers are stored in a file. -/
structure Layout where
  order : ByteOrder
  /-- Whether addresses, offsets and sizes have eight bytes and not four. -/
  wide : Bool
deriving DecidableEq, Repr

namespace Layout

/-- An address, an offset or a size. -/
def word (layout : Layout) : Reading Nat :=
  Reading.number (if layout.wide then 8 else 4)

/-- The length of the header of a file. -/
def headerSize (layout : Layout) : Nat :=
  if layout.wide then 64 else 52

/-- The length of an entry of the table of segments. -/
def segmentSize (layout : Layout) : Nat :=
  if layout.wide then 56 else 32

/-- The length of an entry of the table of sections. -/
def sectionSize (layout : Layout) : Nat :=
  if layout.wide then 64 else 40

end Layout

/-! ## Header -/

/-- The header of a file, as far as it says where the tables are. -/
structure Header where
  segmentOffset : Nat
  sectionOffset : Nat
  segmentEntrySize : Nat
  segmentCount : Nat
  sectionEntrySize : Nat
  sectionCount : Nat
  /-- The number of the section that holds the names of sections. -/
  nameIndex : Nat
deriving DecidableEq, Repr

/-- Reads a header. -/
def readHeader (layout : Layout) : Reading Header := do
  Reading.skip 24
  let _ ← layout.word
  let segmentOffset ← layout.word
  let sectionOffset ← layout.word
  Reading.skip 6
  let segmentEntrySize ← Reading.number 2
  let segmentCount ← Reading.number 2
  let sectionEntrySize ← Reading.number 2
  let sectionCount ← Reading.number 2
  let nameIndex ← Reading.number 2
  return { segmentOffset, sectionOffset, segmentEntrySize, segmentCount, sectionEntrySize,
           sectionCount, nameIndex }

/-- The layout that the fifth, sixth and seventh byte of a file stand for: width, byte order and
version. -/
def Layout.ofCodes? (width order version : Nat) : Option Layout :=
  if version ≠ 1 then
    none
  else
    match width, order with
    | 1, 1 => some ⟨.little, false⟩
    | 1, 2 => some ⟨.big, false⟩
    | 2, 1 => some ⟨.little, true⟩
    | 2, 2 => some ⟨.big, true⟩
    | _, _ => none

/-! ## Segments and sections -/

/-- An entry of the table of segments. -/
structure Segment where
  kind : Nat
  offset : Nat
  address : Nat
  fileSize : Nat
  alignment : Nat
deriving DecidableEq, Repr

namespace SegmentKind

def loaded : Nat := 1
def notes : Nat := 4

end SegmentKind

/-- Reads an entry of the table of segments. -/
def readSegment (layout : Layout) : Reading Segment := do
  let kind ← Reading.number 4
  Reading.skip (if layout.wide then 4 else 0)
  let offset ← layout.word
  let address ← layout.word
  let _ ← layout.word
  let fileSize ← layout.word
  let _ ← layout.word
  Reading.skip (if layout.wide then 0 else 4)
  let alignment ← layout.word
  return { kind, offset, address, fileSize, alignment }

/-- An entry of the table of sections. -/
structure Section where
  /-- Where its name starts among the names of sections. -/
  name : Nat
  kind : Nat
  flags : Nat
  offset : Nat
  size : Nat
  /-- The number of a section that this one refers to. -/
  link : Nat
  /-- A second such number, or other information. -/
  info : Nat
  alignment : Nat
deriving DecidableEq, Repr

namespace SectionKind

def symbols : Nat := 2
def texts : Nat := 3
def relocationsWithAddends : Nat := 4
def notes : Nat := 7
def withoutContents : Nat := 8
def relocations : Nat := 9
def dynamicSymbols : Nat := 11
/-- The numbers of sections that are too large for an entry of the table of symbols. -/
def symbolSections : Nat := 18

end SectionKind

/-- Whether a section is compressed. -/
def Section.isCompressed (entry : Section) : Bool :=
  entry.flags / 0x800 % 2 = 1

/-- Whether a section would end beyond every offset. -/
def Section.overflows (entry : Section) : Bool :=
  entry.kind ≠ SectionKind.withoutContents && UInt64.size ≤ entry.offset + entry.size

/-- Reads an entry of the table of sections. -/
def readSection (layout : Layout) : Reading Section := do
  let name ← Reading.number 4
  let kind ← Reading.number 4
  let flags ← layout.word
  let _ ← layout.word
  let offset ← layout.word
  let size ← layout.word
  let link ← Reading.number 4
  let info ← Reading.number 4
  let alignment ← layout.word
  let _ ← layout.word
  return { name, kind, flags, offset, size, link, info, alignment }

/-- An ELF file: its bytes and its tables. -/
structure Image where
  bytes : ByteArray
  layout : Layout
  segments : List Segment
  sections : List Section
  /-- The section that holds the names of sections. -/
  names : Option Section

/-- Reads a table of entries of one size at an offset, all of which must lie inside the file. -/
def readTable {Row : Type} (bytes : ByteArray) (layout : Layout) (offset size count : Nat)
    (row : Reading Row) : Option (List Row) :=
  if offset + size * count ≤ bytes.size then
    (Reading.times count row (.between bytes layout.order offset bytes.size)).map Prod.fst
  else
    none

/-- The first section, which holds numbers that are too large for the header. -/
def firstSection? (bytes : ByteArray) (layout : Layout) (header : Header) :
    Except Fault (Option Section) :=
  if header.sectionOffset = 0 then
    .ok none
  else if header.sectionEntrySize ≠ layout.sectionSize then
    .error .sectionEntrySize
  else
    match readTable bytes layout header.sectionOffset layout.sectionSize 1 (readSection layout) with
    | some (first :: _) => .ok (some first)
    | _ => .error .firstSection

/-- A number of the header, for which another stands if it is marked as too large. -/
def largeNumber (number mark : Nat) (missing : Fault) (bytes : ByteArray) (layout : Layout)
    (header : Header) (stored : Section → Nat) : Except Fault Nat :=
  if number ≠ mark then
    .ok number
  else
    match firstSection? bytes layout header with
    | .error fault => .error fault
    | .ok none => .error missing
    | .ok (some first) => .ok (stored first)

/-- Reads the table of segments. -/
def readSegments (bytes : ByteArray) (layout : Layout) (header : Header) :
    Except Fault (List Segment) := do
  if header.segmentOffset = 0 then
    return []
  let count ← largeNumber header.segmentCount 0xFFFF .segmentCount bytes layout header Section.info
  if count = 0 then
    return []
  if header.segmentEntrySize ≠ layout.segmentSize then
    throw .segmentEntrySize
  match readTable bytes layout header.segmentOffset layout.segmentSize count
      (readSegment layout) with
  | some segments => return segments
  | none => throw .segmentTable

/-- Reads the table of sections. -/
def readSections (bytes : ByteArray) (layout : Layout) (header : Header) :
    Except Fault (List Section) := do
  if header.sectionOffset = 0 then
    return []
  let count ← largeNumber header.sectionCount 0 .sectionTable bytes layout header Section.size
  if count = 0 then
    return []
  if header.sectionEntrySize ≠ layout.sectionSize then
    throw .sectionEntrySize
  match readTable bytes layout header.sectionOffset layout.sectionSize count
      (readSection layout) with
  | some sections => return sections
  | none => throw .sectionTable

/-- Finds the section that holds the names of sections. -/
def findNames (bytes : ByteArray) (layout : Layout) (header : Header) (sections : List Section) :
    Except Fault (Option Section) := do
  if sections.isEmpty then
    return none
  let index ← largeNumber header.nameIndex 0xFFFF .nameSectionCount bytes layout header Section.link
  if index = 0 then
    throw .noNameSection
  match sections[index]? with
  | none => throw .badNameSection
  | some names =>
      if names.overflows then
        throw .nameSectionSize
      return some names

/-! ## Contents -/

namespace Image

/-- The contents of a stretch of the file, all of which must be there. -/
def stretch? (image : Image) (offset size : Nat) : Option Cursor :=
  if offset + size ≤ image.bytes.size then
    some (.between image.bytes image.layout.order offset (offset + size))
  else
    none

/-- The contents of a section; some kinds of sections occupy no place in the file. -/
def contents? (image : Image) (entry : Section) : Option Cursor :=
  if entry.kind = SectionKind.withoutContents then
    some (.ofBytes .empty image.layout.order)
  else
    image.stretch? entry.offset entry.size

/-- The text that starts at a place of a section of texts and ends before a zero. -/
def text? (image : Image) (texts : Option Section) (place : Nat) : Option (List UInt8) := do
  let entry ← texts
  if entry.kind = SectionKind.withoutContents then
    none
  let cursor ← image.stretch? entry.offset entry.size
  let read ← Reading.zeroEnded (cursor.advance place)
  return read.1

/-- The name of a section. -/
def name? (image : Image) (entry : Section) : Option (List UInt8) :=
  image.text? image.names entry.name

/-- The section of texts that another section refers to by number; number zero stands for none. -/
def linkedTexts (image : Image) (entry : Section) : Except Fault (Option Section) :=
  if entry.link = 0 then
    .ok none
  else
    match image.sections[entry.link]? with
    | none => .error .sectionIndex
    | some texts =>
        if texts.kind ≠ SectionKind.texts then .error .textSectionKind
        else if texts.overflows then .error .textSectionSize
        else .ok (some texts)

/-- The number of the first section of a kind, which is zero if there is none. -/
def indexOfKind (image : Image) (kind : Nat) : Nat :=
  (image.sections.findIdx? fun entry => entry.kind = kind).getD 0

/-- Checks what a table of symbols refers to. -/
def checkSymbolTable (image : Image) (kind : Nat) : Except Fault Unit := do
  match image.sections.find? fun entry => entry.kind = kind with
  | none => return ()
  | some table =>
      if (image.contents? table).isNone then
        throw .symbolTable
      let _ ← image.linkedTexts table
      let index := image.indexOfKind kind
      let companions := image.sections.filter fun entry =>
        entry.kind = SectionKind.symbolSections && entry.link = index
      if companions.any fun entry => (image.contents? entry).isNone then
        throw .symbolSections

/-- Checks that relocations by the table of symbols belong to sections that exist. -/
def checkRelocations (image : Image) : Except Fault Unit :=
  let index := image.indexOfKind SectionKind.symbols
  let misplaced := image.sections.any fun entry =>
    (entry.kind = SectionKind.relocations || entry.kind = SectionKind.relocationsWithAddends) &&
      entry.link = index && image.sections.length ≤ entry.info
  if misplaced then .error .relocatedSection else .ok ()

end Image

/-- Reads bytes that start like an ELF file. -/
def parse (bytes : ByteArray) : Except Fault Image := do
  let codes := stretch bytes 4 3
  let code (index : Nat) : Nat := (codes[index]?.getD 0).toNat
  if bytes.size < (Layout.headerSize ⟨.little, code 0 = 2⟩) then
    throw .shortHeader
  match Layout.ofCodes? (code 0) (code 1) (code 2) with
  | none => throw .unsupportedHeader
  | some layout =>
      match readHeader layout (.ofBytes bytes layout.order) with
      | none => throw .shortHeader
      | some (header, _) =>
          let segments ← readSegments bytes layout header
          let sections ← readSections bytes layout header
          let names ← findNames bytes layout header sections
          let image : Image := { bytes, layout, segments, sections, names }
          image.checkSymbolTable SectionKind.symbols
          image.checkSymbolTable SectionKind.dynamicSymbols
          image.checkRelocations
          return image

end SampleProfile.Elf
