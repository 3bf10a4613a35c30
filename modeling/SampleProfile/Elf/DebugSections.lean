import SampleProfile.Elf
import SampleProfile.Text.Lossy
import SampleProfile.Zlib

/-!
# Sections by name

Debugging information is spread over sections that are known by name.  A section may be compressed:
then it starts with a header that says how long it is in full, or its name says so and it starts
with a shorter header of its own.
-/

namespace SampleProfile.Elf.Image

/-- The first section of a name. -/
def section? (image : Image) (name : String) : Option Section :=
  image.sections.find? fun entry => image.name? entry = some (textBytes name)

/-- How the names of ordinary debug sections start, and those of sections whose name says that they
are compressed. -/
def debugStarts : String × String :=
  (".debug_", ".zdebug_")

/-- The first section of a name, or a section whose name differs from it by saying that it is
compressed. -/
def debugSection? (image : Image) (name : String) : Option Section :=
  match image.section? name with
  | some entry => some entry
  | none =>
      let (plain, compressed) := debugStarts
      let start := textBytes plain
      if start.isPrefixOf (textBytes name) then
        image.sections.find? fun entry =>
          image.name? entry = some (textBytes compressed ++ (textBytes name).drop start.length)
      else
        none

/-- Reads the header of a compressed section: the length in full, if the method is known. -/
def readCompression (layout : Layout) : Reading (Option Nat) := do
  let method ← Reading.number 4
  Reading.skip (if layout.wide then 4 else 0)
  let size ← layout.word
  let _ ← layout.word
  return if method = 1 then some size else none

/-- Reads the header of a section whose name says that it is compressed. -/
def readNamedCompression : Reading (Option Nat) := do
  let mark ← Reading.list 8
  let size ← Reading.list 4
  return if mark = textBytes "ZLIB" ++ [0, 0, 0, 0] then some (ByteOrder.big.number size) else none

/-- The decompressed contents that follow a header. -/
def expand (contents : Cursor) (header : Reading (Option Nat)) : Option ByteArray := do
  let (size, later) ← header contents
  Zlib.decompress (later.bytes.extract later.position later.stop) (← size)

/-- The contents of a section in full; none if they are not in the file or damaged. -/
def fullContents? (image : Image) (entry : Section) : Option ByteArray := do
  let contents ← image.contents? entry
  if entry.isCompressed then
    if entry.kind = SectionKind.withoutContents then
      none
    else
      expand contents (readCompression image.layout)
  else if (textBytes debugStarts.2).isPrefixOf ((image.name? entry).getD []) then
    expand contents readNamedCompression
  else
    return contents.bytes.extract contents.position contents.stop

/-- The contents of the section of a name, which are empty if it is missing or cannot be read. -/
def debugContents (image : Image) (name : String) : ByteArray :=
  ((image.debugSection? name).bind image.fullContents?).getD .empty

end SampleProfile.Elf.Image
