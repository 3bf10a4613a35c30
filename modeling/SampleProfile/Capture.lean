import SampleProfile.Focus
import SampleProfile.Mapping
import SampleProfile.Samples

/-!
# Captures

A capture is the record of a machine at work: which files processes mapped for execution, and at
which runtime addresses they were found.  `Capture.count` keeps the samples in mappings of one
binary and counts each once, at its link-time address.
-/

namespace SampleProfile

/-- What a capture records, in the order in which it happened. -/
inductive CaptureRecord where
  /-- A process mapped a file for execution; the build-id is absent if it is not known. -/
  | mapped (process : Int32) (mapping : Mapping) (path : String) (buildId : Option String)
  /-- A process was found at a runtime address. -/
  | sampled (process : Int32) (address : UInt64)
deriving DecidableEq, Repr

/-- Which mapped files are the binary. -/
structure FileFilter where
  pattern : Pattern
  /-- The expected build-id; an empty one accepts every build-id. -/
  buildId : String

/-- A file is the binary if its path matches and its build-id, when known, does not contradict. -/
def FileFilter.accepts (filter : FileFilter) (path : String) (buildId : Option String) : Bool :=
  filter.pattern.matchesIn path &&
    match buildId with
    | none => true
    | some actual => Focus.buildIdsMatch filter.buildId actual

namespace Capture

/-- The mappings of the binary so far and the samples counted. -/
structure Progress where
  table : MappingTable := {}
  addresses : OrderedMap UInt64 UInt64 := ∅

/-- Counts one more sample at an address. -/
def countSample (addresses : OrderedMap UInt64 UInt64) (address : UInt64) :
    Except Overflow (OrderedMap UInt64 UInt64) := do
  let samples ← exactSum (addresses.getD address 0) 1
  return addresses.insert address samples

/-- Follows one record. -/
def Progress.follow (filter : FileFilter) (segments : List LoadSegment) (progress : Progress) :
    CaptureRecord → Except Overflow Progress
  | .mapped process mapping path buildId =>
      if filter.accepts path buildId then
        return { progress with table := progress.table.add process mapping }
      else
        return progress
  | .sampled process address =>
      match progress.table.linkAddress? segments process address with
      | none => return progress
      | some target => do
          let addresses ← countSample progress.addresses (← target)
          return { progress with addresses }

/-- The samples of a binary in a sequence of records. -/
def count (filter : FileFilter) (segments : List LoadSegment) (records : List CaptureRecord) :
    Except Overflow Samples := do
  let final ← records.foldlM (Progress.follow filter segments) {}
  return Samples.withTotal { addresses := final.addresses }

end Capture

end SampleProfile
