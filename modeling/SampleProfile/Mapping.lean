import SampleProfile.OrderedMap
import SampleProfile.Overflow

/-!
# From runtime addresses to link-time addresses

A process maps stretches of a binary's file into its memory; the binary's load segments say where
stretches of the file belong at link time.  A runtime address goes through the file offset to the
link-time address.  Both steps end in a sum of numbers that come from the files as they are, and
may overflow.
-/

namespace SampleProfile

/-- A stretch of the file and the link-time address where it is loaded. -/
structure LoadSegment where
  address : UInt64
  fileOffset : UInt64
  fileSize : UInt64
deriving DecidableEq, Repr

namespace LoadSegment

/-- Whether a file offset lies in the segment. -/
def containsOffset (segment : LoadSegment) (offset : UInt64) : Bool :=
  segment.fileOffset ≤ offset && offset - segment.fileOffset < segment.fileSize

/-- The address at which the first segment with a file offset loads it.  Offsets outside all
segments stay as they are. -/
def translate (segments : List LoadSegment) (offset : UInt64) : Except Overflow UInt64 :=
  match segments.find? (·.containsOffset offset) with
  | some segment => exactSum segment.address (offset - segment.fileOffset)
  | none => .ok offset

end LoadSegment

/-- A stretch of memory of a process into which a file is mapped from an offset on. -/
structure Mapping where
  start : UInt64
  length : UInt64
  pageOffset : UInt64
deriving DecidableEq, Repr

/-- The file offset of a runtime address inside the mapping. -/
def Mapping.fileOffset? (mapping : Mapping) (address : UInt64) :
    Option (Except Overflow UInt64) :=
  if mapping.start ≤ address ∧ address - mapping.start < mapping.length then
    some (exactSum (address - mapping.start) mapping.pageOffset)
  else
    none

/-- The mappings of each process, latest first. -/
structure MappingTable where
  byProcess : OrderedMap Int32 (List Mapping) := ∅

namespace MappingTable

/-- The mappings of a process, latest first. -/
def mappings (table : MappingTable) (process : Int32) : List Mapping :=
  table.byProcess.getD process []

/-- Adds a mapping; an earlier one of the process with the same start goes away. -/
def add (table : MappingTable) (process : Int32) (mapping : Mapping) : MappingTable where
  byProcess := table.byProcess.insert process <|
    mapping :: (table.mappings process).filter fun other => other.start ≠ mapping.start

/-- The file offset of a runtime address in the latest mapping of the process that contains it. -/
def fileOffset? (table : MappingTable) (process : Int32) (address : UInt64) :
    Option (Except Overflow UInt64) :=
  (table.mappings process).findSome? (·.fileOffset? address)

/-- The link-time address of a runtime address in a mapping of the process. -/
def linkAddress? (table : MappingTable) (segments : List LoadSegment) (process : Int32)
    (address : UInt64) : Option (Except Overflow UInt64) :=
  (table.fileOffset? process address).map (· >>= LoadSegment.translate segments)

/-- Whether no process has a mapping. -/
def isEmpty (table : MappingTable) : Bool :=
  table.byProcess.isEmpty

end MappingTable

end SampleProfile
