import SampleProfile.Elf

/-!
# Build-ids

The linker leaves a build-id in a note.  Notes stand one after the other in sections or segments,
each with an owner and a kind; the contents of a note and the next note start at a multiple of an
alignment.
-/

namespace SampleProfile.Elf

/-- A note. -/
structure Note where
  owner : List UInt8
  kind : Nat
  contents : List UInt8
deriving DecidableEq, Repr

/-- Whether a note holds the build-id: the owner, without zeros at its end, is GNU. -/
def Note.isBuildId (note : Note) : Bool :=
  note.kind = 3 && (note.owner.reverse.dropWhile (· = 0)).reverse = [0x47, 0x4E, 0x55]

/-- How many bytes are missing from a length to the next multiple of an alignment. -/
def padding (alignment length : Nat) : Nat :=
  (alignment - length % alignment) % alignment

/-- Reads a note; the padding after the last one may be missing. -/
def readNote (alignment : Nat) : Reading Note := do
  let ownerSize ← Reading.number 4
  let size ← Reading.number 4
  let kind ← Reading.number 4
  let owner ← Reading.list ownerSize
  Reading.skip (padding alignment (12 + ownerSize))
  let contents ← Reading.list size
  let cursor ← get
  Reading.skip (min (padding alignment size) cursor.remaining)
  return { owner, kind, contents }

/-- Reads notes up to the one that holds the build-id; answers nothing if one before it cannot be
read.  Each note takes at least one of the bytes left. -/
def searchNotes (alignment : Nat) : Nat → Cursor → Option (Option (List UInt8))
  | 0, _ => some none
  | bound + 1, cursor =>
      if cursor.remaining = 0 then
        some none
      else
        match readNote alignment cursor with
        | none => none
        | some (note, later) =>
            if note.isBuildId then some (some note.contents)
            else searchNotes alignment bound later

/-- The alignment of notes that a table entry stands for. -/
def noteAlignment? (stored : Nat) : Option Nat :=
  if stored ≤ 4 then some 4 else if stored = 8 then some 8 else none

/-- Searches the notes in a stretch of the file. -/
def searchStretch (alignment : Nat) (contents : Option Cursor) : Option (Option (List UInt8)) := do
  let cursor ← contents
  let alignment ← noteAlignment? alignment
  searchNotes alignment cursor.remaining cursor

/-- The first answer of several searches; one that fails ends the search. -/
def firstFound : List (Option (Option (List UInt8))) → Option (List UInt8)
  | [] => none
  | none :: _ => none
  | some (some found) :: _ => some found
  | some none :: rest => firstFound rest

/-- The build-id of a file, from its sections or, if it has none, from its segments. -/
def Image.buildId (image : Image) : Option (List UInt8) :=
  if image.sections.isEmpty then
    let noted := image.segments.filter fun segment => segment.kind = SegmentKind.notes
    firstFound <| noted.map fun segment =>
      searchStretch segment.alignment (image.stretch? segment.offset segment.fileSize)
  else
    let noted := image.sections.filter fun entry => entry.kind = SectionKind.notes
    firstFound <| noted.map fun entry => searchStretch entry.alignment (image.contents? entry)

end SampleProfile.Elf
