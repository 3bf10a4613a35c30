import SampleProfile.Elf.BuildId
import SampleProfile.Elf.DebugSections
import SampleProfile.Elf.FunctionSymbols
import SampleProfile.Mapping

/-!
# Object files

The bytes at the start of a file say in which format it is.  ELF files are read; files of a few
other formats are accepted but seen as empty.
-/

namespace SampleProfile

/-- Why bytes are no object file that can be read. -/
inductive ObjectFault where
  /-- There are too few bytes to tell the format. -/
  | noMagic
  | unknownMagic
  /-- The format is known but holds other files, not code. -/
  | unsupportedFormat
  /-- The file starts like a program for DOS but is none for a later system. -/
  | dosProgram
  | shortHeader
  | elf (fault : Elf.Fault)
deriving DecidableEq, Repr

/-- The wording of a fault. -/
def ObjectFault.message : ObjectFault → String
  | noMagic => "Could not read file magic"
  | unknownMagic => "Unknown file magic"
  | unsupportedFormat => "Unsupported file format"
  | dosProgram => "Unknown MS-DOS file"
  | shortHeader => "Invalid header size or alignment"
  | elf fault => fault.message

/-- A file with code. -/
inductive ObjectFile where
  | elf (image : Elf.Image)
  /-- A file of a format of which nothing is read. -/
  | foreign

namespace ObjectFile

/-- How files start that only hold other files. -/
def containerStarts : List (List UInt8) :=
  ["!<arch>\n", "!<thin>\n", "dyld_v1 "].map textBytes ++
    [[0xCA, 0xFE, 0xBA, 0xBE], [0xCA, 0xFE, 0xBA, 0xBF], [0, 0, 0xFF, 0xFF, 0, 0]]

/-- How files of formats start of which nothing is read, each with the length of the header. -/
def foreignStarts : List (List UInt8 × Nat) :=
  [([0xFE, 0xED, 0xFA, 0xCE], 28), ([0xCE, 0xFA, 0xED, 0xFE], 28), ([0xFE, 0xED, 0xFA, 0xCF], 32),
    ([0xCF, 0xFA, 0xED, 0xFE], 32), ([0x4C, 0x01], 20), ([0x64, 0x86], 20), ([0xC4, 0x01], 20),
    ([0x64, 0xAA], 20), ([0, 0, 0xFF, 0xFF, 2, 0], 56), ([0x01, 0xDF], 20), ([0x01, 0xF7], 24)]

/-- Reads a file with code. -/
def parse (bytes : ByteArray) : Except ObjectFault ObjectFile :=
  if bytes.size < 16 then
    .error .noMagic
  else
    let magic := stretch bytes 0 16
    match magic with
    | 0x7F :: 0x45 :: 0x4C :: 0x46 :: width :: _ =>
        if width = 1 || width = 2 then
          match Elf.parse bytes with
          | .error fault => .error (.elf fault)
          | .ok image => .ok (.elf image)
        else
          .error .unknownMagic
    | 0x4D :: 0x5A :: _ => .error .dosProgram
    | _ =>
        if containerStarts.any (·.isPrefixOf magic) then
          .error .unsupportedFormat
        else
          match foreignStarts.find? fun format => format.1.isPrefixOf magic with
          | none => .error .unknownMagic
          | some (_, headerSize) =>
              if bytes.size < headerSize then .error .shortHeader else .ok .foreign

/-- The build-id of the file. -/
def buildId : ObjectFile → Option (List UInt8)
  | elf image => image.buildId
  | foreign => none

/-- The function symbols of the file. -/
def functions : ObjectFile → List Symbol
  | elf image => image.functions
  | foreign => []

/-- The segments of the file that are loaded from it. -/
def loadSegments : ObjectFile → List LoadSegment
  | elf image =>
      let loaded := image.segments.filter fun segment =>
        segment.kind = Elf.SegmentKind.loaded && segment.fileSize ≠ 0
      loaded.map fun segment =>
        ⟨UInt64.ofNat segment.address, UInt64.ofNat segment.offset, UInt64.ofNat segment.fileSize⟩
  | foreign => []

end ObjectFile

end SampleProfile
