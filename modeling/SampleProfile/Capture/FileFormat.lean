import SampleProfile.Capture
import SampleProfile.Capture.SharedObject

/-!
# The file format of captures

A capture file has a header, descriptions of the recorded events, a sequence of records, and
sections with further information.  Records carry the time at which they arose but are only roughly
in that order: they come in rounds, and a record may belong before others of its own round and of
the round before it.
-/

namespace SampleProfile.Capture

/-- Why a file is no capture that can be read. -/
inductive FileFormatFault where
  | unreadable
  | unknownMagic
  | truncated
  | badEventDescription
  | noEvents
  | ambiguousEvents
  | badRecordSize
deriving DecidableEq, Repr

/-- The wording of a fault. -/
def FileFormatFault.message : FileFormatFault → String
  | unreadable => "the capture cannot be read"
  | unknownMagic => "the file does not start like a capture"
  | truncated => "the capture ends too early"
  | badEventDescription => "the description of an event is too short"
  | noEvents => "the capture describes no event"
  | ambiguousEvents => "records of the capture do not say to which event they belong"
  | badRecordSize => "a record is shorter than its header"

/-- Takes values from a capture. -/
abbrev Decoding := StateT Cursor (Except FileFormatFault)

/-- Decodes what a reading takes; a reading that fails reaches past the end of the file. -/
def decode {Value : Type} (reading : Reading Value) : Decoding Value := fun cursor =>
  match reading cursor with
  | some taken => .ok taken
  | none => .error .truncated

/-- A stretch of the file. -/
structure Extent where
  offset : Nat
  length : Nat
deriving DecidableEq, Repr

/-- Reads where a stretch of the file is. -/
def readExtent : Reading Extent := do
  let offset ← Reading.number 8
  let length ← Reading.number 8
  return ⟨offset, length⟩

/-- A cursor over a stretch of the file, all of which must be there. -/
def Extent.cursor (extent : Extent) (file : Cursor) : Except FileFormatFault Cursor :=
  if extent.offset + extent.length ≤ file.stop then
    .ok (.between file.bytes file.order extent.offset (extent.offset + extent.length))
  else
    .error .truncated

/-! ## Header -/

/-- The header of a capture file. -/
structure Header where
  descriptionSize : Nat
  descriptions : Extent
  records : Extent
  /-- Numbers of the further sections, in order. -/
  features : List Nat

/-- The numbers of the bits that are set, from a word with the given number on. -/
def setBits (first : Nat) : List Nat → List Nat
  | [] => []
  | word :: rest =>
      ((List.range 64).filter fun bit => word.testBit bit).map (first + ·) ++
        setBits (first + 64) rest

/-- Reads the header after its magic bytes. -/
def readHeader : Reading Header := do
  Reading.skip 8
  let descriptionSize ← Reading.number 8
  let descriptions ← readExtent
  let records ← readExtent
  Reading.skip 16
  let first ← Reading.number 8
  let second ← Reading.number 8
  let third ← Reading.number 8
  let fourth ← Reading.number 8
  return ⟨descriptionSize, descriptions, records, setBits 0 [first, second, third, fourth]⟩

/-- The byte order that the first bytes of a file stand for. -/
def orderOf? (magic : List UInt8) : Option ByteOrder :=
  if magic = textBytes "PERFILE2" then some .little
  else if magic = textBytes "2ELIFREP" then some .big
  else none

/-- The number of the section with build-ids. -/
def buildIdFeature : Nat := 2

/-- Reads where the further sections are, which stands right after the records. -/
def readFeatures : List Nat → Reading (List (Nat × Extent))
  | [] => pure []
  | feature :: rest => do
      let extent ← readExtent
      let others ← readFeatures rest
      return (feature, extent) :: others

/-! ## Events -/

/-- Which fields the records of an event have. -/
structure EventDescription where
  /-- The fields of samples, by bit. -/
  fields : Nat
  /-- The counters in a field of read counters, by bit. -/
  counters : Nat
  /-- Whether records that are no samples end in some of the fields of samples. -/
  trailing : Bool
  /-- Whether branch records start with an index. -/
  branchIndex : Bool
  userRegisters : Nat
  interruptRegisters : Nat
  /-- Identifiers of the event in records. -/
  identifiers : List Nat
deriving DecidableEq, Repr

/-- How many bits are set. -/
def bitCount (word : Nat) : Nat :=
  ((List.range 64).filter fun bit => word.testBit bit).length

/-- Reads a number that is there only if a description is long enough to hold it. -/
def readIfWithin (size finish width : Nat) : Reading Nat := do
  if finish ≤ size then Reading.number width else return 0

/-- Reads a description of so many bytes, without its identifiers. -/
def readDescription (size : Nat) : Reading EventDescription := do
  Reading.skip 24
  let fields ← Reading.number 8
  let counters ← Reading.number 8
  let flags ← Reading.number 8
  Reading.skip 16
  Reading.skip (min (size - 64) 8)
  let branchFields ← readIfWithin size 80 8
  let userRegisters ← readIfWithin size 88 8
  Reading.skip (min (size - 88) 8)
  let interruptRegisters ← readIfWithin size 104 8
  return {
    fields
    counters
    trailing := flags.testBit 18
    branchIndex := branchFields.testBit 17
    userRegisters := bitCount userRegisters
    interruptRegisters := bitCount interruptRegisters
    identifiers := [] }

/-- Reads numbers of eight bytes. -/
def readNumbers : Nat → Reading (List Nat)
  | 0 => pure []
  | count + 1 => do
      let number ← Reading.number 8
      let rest ← readNumbers count
      return number :: rest

/-- The least size of a description. -/
def leastDescription : Nat := 64

/-- Reads one description with the stretch of its identifiers after it. -/
def descriptionAt (file : Cursor) (offset size : Nat) :
    Except FileFormatFault EventDescription := do
  if size < leastDescription + 16 then
    throw .badEventDescription
  let entry ← Extent.cursor ⟨offset, size⟩ file
  let (description, _) ← decode (readDescription (size - 16)) entry
  let (extent, _) ← decode readExtent (entry.advance (size - 16))
  let (identifiers, _) ← decode (readNumbers (extent.length / 8))
    { file with position := extent.offset }
  return { description with identifiers }

/-- All descriptions to which the header points, or enough of them to reach past the end of the
file. -/
def headerDescriptions (file : Cursor) (header : Header) :
    Except FileFormatFault (List EventDescription) :=
  if header.descriptionSize = 0 then
    .error .badEventDescription
  else
    let count := min (header.descriptions.length / header.descriptionSize)
      (file.stop / header.descriptionSize + 1)
    (List.range count).mapM fun index =>
      descriptionAt file (header.descriptions.offset + index * header.descriptionSize)
        header.descriptionSize

/-- Reads descriptions of so many bytes, each followed by the number of its identifiers, a name and
the identifiers.
-/
def readNamedDescriptions (size : Nat) : Nat → Reading (List EventDescription)
  | 0 => pure []
  | count + 1 => do
      let entry ← Reading.part size
      let identifierCount ← Reading.number 4
      let nameLength ← Reading.number 4
      Reading.skip nameLength
      let identifiers ← readNumbers identifierCount
      let rest ← readNamedDescriptions size count
      match readDescription size entry with
      | some (description, _) => return { description with identifiers } :: rest
      | none => failure

/-- All descriptions in a section of their own. -/
def namedDescriptions : Reading (List EventDescription) := do
  let count ← Reading.number 4
  let size ← Reading.number 4
  if size < leastDescription then
    failure
  readNamedDescriptions size count

/-- The number of the section with descriptions of events, which is used instead of those in the
header. -/
def descriptionFeature : Nat := 12

/-! ## Fields of records -/

/-- The fields that records may have, in the order in which samples hold them; `identifier` repeats
`eventId` at a fixed place. -/
inductive Field where
  | identifier
  | address
  | process
  | time
  | accessed
  | eventId
  | stream
  | processor
  | period
  | counters
  | callChain
  | raw
  | branches
  | userRegisters
  | userStack
  | weight
  | dataSource
  | transaction
  | interruptRegisters
  | physicalAddress
  | control
  | auxiliary
  | dataPageSize
  | codePageSize
deriving DecidableEq, Repr

/-- The bit of a field in a description. -/
def Field.bit : Field → Nat
  | address => 0
  | process => 1
  | time => 2
  | accessed => 3
  | counters => 4
  | callChain => 5
  | eventId => 6
  | processor => 7
  | period => 8
  | stream => 9
  | raw => 10
  | branches => 11
  | userRegisters => 12
  | userStack => 13
  | weight => 14
  | dataSource => 15
  | identifier => 16
  | transaction => 17
  | interruptRegisters => 18
  | physicalAddress => 19
  | auxiliary => 20
  | control => 21
  | dataPageSize => 22
  | codePageSize => 23

/-- Whether records of an event have a field. -/
def EventDescription.has (event : EventDescription) (field : Field) : Bool :=
  event.fields.testBit field.bit

/-- The bytes that those of some fields take which an event has. -/
def EventDescription.room (event : EventDescription) (fields : List Field) : Nat :=
  8 * (fields.filter event.has).length

/-- Where samples hold their time. -/
def EventDescription.sampleTime? (event : EventDescription) : Option Nat :=
  if event.has .time then some (event.room [.identifier, .address, .process]) else none

/-- Where other records hold their time, counted from the end. -/
def EventDescription.trailingTime? (event : EventDescription) : Option Nat :=
  if event.trailing && event.has .time then
    some (event.room [.time, .eventId, .stream, .processor, .identifier])
  else
    none

/-- Where samples hold the identifier of their event. -/
def EventDescription.sampleIdentifier? (event : EventDescription) : Option Nat :=
  if event.has .identifier then some 0
  else if event.has .eventId then
    some (event.room [.address, .process, .time, .accessed])
  else none

/-- Where other records hold the identifier of their event, counted from the end. -/
def EventDescription.trailingIdentifier? (event : EventDescription) : Option Nat :=
  if !event.trailing then none
  else if event.has .identifier then some 8
  else if event.has .eventId then some (event.room [.eventId, .stream, .processor])
  else none

/-- The event of a record by itself and by what stands in it. -/
structure EventTable where
  first : EventDescription
  all : List EventDescription

/-- The table of descriptions, of which there must be one at least.  If there are several, records
must hold the identifier of their event in one place, whichever event it is. -/
def EventTable.ofList : List EventDescription → Except FileFormatFault EventTable
  | [] => .error .noEvents
  | first :: rest =>
      let samePlace := rest.all fun event =>
        event.sampleIdentifier? = first.sampleIdentifier? &&
          event.trailingIdentifier? = first.trailingIdentifier?
      let marked := (first :: rest).all fun event =>
        event.has .identifier && event.trailing = first.trailing
      if samePlace || marked then .ok ⟨first, first :: rest⟩ else .error .ambiguousEvents

/-- The type of samples. -/
def sampleType : Nat := 9

/-- The number of eight bytes at a place of a record: counted from the start in samples, from the
end in others. -/
def numberAt? (record : Cursor) (isSample : Bool) (fromStart fromEnd : Option Nat) :
    Option Nat :=
  let offset? :=
    if isSample then fromStart
    else fromEnd.bind fun distance =>
      if distance ≤ record.remaining then some (record.remaining - distance) else none
  offset?.bind fun offset =>
    (Reading.number 8 (record.advance offset)).map Prod.fst

/-- The description of the event to which a record belongs; the first if the record does not say. -/
def EventTable.eventOf (table : EventTable) (record : Cursor) (isSample : Bool) :
    EventDescription :=
  match table.all with
  | [only] => only
  | several =>
      let found := (numberAt? record isSample table.first.sampleIdentifier?
        table.first.trailingIdentifier?).bind fun identifier =>
          several.reverse.find? fun event => event.identifiers.contains identifier
      found.getD table.first

/-! ## Records -/

/-- A record as it stands in the file. -/
structure RawRecord where
  kind : Nat
  flags : Nat
  body : Cursor

/-- The first type of records that are no part of what was observed. -/
def firstOwnType : Nat := 64

/-- The type of the record that ends a round. -/
def roundType : Nat := 68

/-- When a record arose, if it says so. -/
def RawRecord.time? (record : RawRecord) (table : EventTable) : Option Nat :=
  if firstOwnType ≤ record.kind then
    none
  else
    let isSample := record.kind = sampleType
    let event := table.eventOf record.body isSample
    numberAt? record.body isSample event.sampleTime? event.trailingTime?

/-- The type, flags and size in the header of a record. -/
def readRecordHeader : Reading (Nat × Nat × Nat) := do
  let kind ← Reading.number 4
  let flags ← Reading.number 2
  let size ← Reading.number 2
  return (kind, flags, size)

/-- Reads the records from a position to the end of their stretch, which may end within a record,
round by round.  Of a record that ends a round only the header is read; what it holds beyond counts
for the length of the stretch alone.
-/
def readRounds (current : List RawRecord) (finish : Nat) :
    Nat → Cursor → Except FileFormatFault (List (List RawRecord))
  | 0, _ => .ok [current.reverse]
  | bound + 1, cursor => do
      if finish ≤ cursor.position then
        return [current.reverse]
      let ((kind, flags, size), body) ← decode readRecordHeader cursor
      if size < 8 then
        throw .badRecordSize
      if kind = roundType then
        let later ← readRounds [] (finish - (size - 8)) bound body
        return current.reverse :: later
      let (part, next) ← decode (Reading.part (size - 8)) body
      readRounds (⟨kind, flags, part⟩ :: current) finish bound next

/-- A record with what decides its place in the order. -/
structure Dated where
  time : Option Nat
  record : RawRecord

/-- Whether a record belongs before another: those without a time first, and of one time in the
order of the file. -/
def Dated.before (left right : Dated) : Bool :=
  match left.time, right.time with
  | none, none => left.record.body.position ≤ right.record.body.position
  | none, some _ => true
  | some _, none => false
  | some first, some second =>
      first < second ||
        (first = second && left.record.body.position ≤ right.record.body.position)

/-- The latest of some records and of one that may be given. -/
def latest (held : Option Dated) (records : List Dated) : Option Dated :=
  records.foldl
    (fun best record =>
      match best with
      | none => some record
      | some other => some (if other.before record then record else other)) held

/-- Puts the records of rounds in order.  At the end of a round, the waiting records that belong
before the latest record of the rounds before it are released; at the end of the file all are. -/
def inOrder (waiting : List Dated) (bound : Option Dated) : List (List Dated) → List Dated
  | [] => waiting.mergeSort Dated.before
  | round :: rest =>
      let sorted := (waiting ++ round).mergeSort Dated.before
      let reach := latest bound round
      match bound with
      | none => inOrder sorted reach rest
      | some bound =>
          sorted.takeWhile (·.before bound) ++
            inOrder (sorted.dropWhile (·.before bound)) reach rest

/-! ## What records say -/

/-- Reads a mapping: where it is and what it shows. -/
def readMapping : Reading (Int32 × Mapping) := do
  let process ← Reading.number 4
  Reading.skip 4
  let start ← Reading.word
  let length ← Reading.word
  let pageOffset ← Reading.word
  return ((UInt32.ofNat process).toInt32, ⟨start, length, pageOffset⟩)

/-- Reads the path at the end of a record, up to the first zero byte if there is one. -/
def readPath : Reading (List UInt8) := do
  let text ← Reading.everything
  return text.takeWhile (· ≠ 0)

/-- The flag of mappings that are not for execution. -/
def dataFlag : Nat := 13

/-- The flag of mappings that give a build-id. -/
def buildIdFlag : Nat := 14

/-- Reads a mapping of the older form. -/
def readOlderMapping (known : BuildIds) (flags : Nat) : Reading (Option CaptureRecord) := do
  let (process, mapping) ← readMapping
  let path ← readPath
  if flags.testBit dataFlag then
    return none
  let buildId := known.find? path (.ofFlags flags)
  return some (.mapped process mapping (Text.lossy path) buildId)

/-- Reads a mapping of the newer form, which gives its protection and can give the build-id of the
file. -/
def readNewerMapping (known : BuildIds) (flags : Nat) : Reading (Option CaptureRecord) := do
  let (process, mapping) ← readMapping
  let length ← Reading.number 1
  Reading.skip 3
  let stored ← Reading.list 20
  let protection ← Reading.number 4
  Reading.skip 4
  let path ← readPath
  if !protection.testBit 2 then
    return none
  let buildId :=
    if flags.testBit buildIdFlag then
      some (Text.hexadecimal (stored.take length))
    else
      known.find? path (.ofFlags flags)
  return some (.mapped process mapping (Text.lossy path) buildId)

/-- Leaves out numbers of eight bytes. -/
def skipNumbers (count : Nat) : Reading Unit :=
  Reading.skip (8 * count)

/-- Leaves out the registers of a sample. -/
def skipRegisters (count : Nat) : Reading Unit := do
  let layout ← Reading.number 8
  if layout ≠ 0 then
    skipNumbers count

/-- Leaves out a field of read counters. -/
def skipCounters (counters : Nat) : Reading Unit := do
  let times := (if counters.testBit 0 then 1 else 0) + (if counters.testBit 1 then 1 else 0)
  let labels := (if counters.testBit 2 then 1 else 0) + (if counters.testBit 4 then 1 else 0)
  if counters.testBit 3 then
    let count ← Reading.number 8
    skipNumbers times
    skipNumbers (count * (1 + labels))
  else
    skipNumbers (1 + times + labels)

/-- Leaves out a field of a sample. -/
def skipField (event : EventDescription) : Field → Reading Unit
  | .counters => skipCounters event.counters
  | .callChain => do
      let count ← Reading.number 8
      skipNumbers count
  | .raw => do
      let length ← Reading.number 4
      Reading.skip length
  | .branches => do
      let count ← Reading.number 8
      if event.branchIndex then
        skipNumbers 1
      skipNumbers (3 * count)
  | .userRegisters => skipRegisters event.userRegisters
  | .interruptRegisters => skipRegisters event.interruptRegisters
  | .userStack => do
      let length ← Reading.number 8
      Reading.skip length
      if length ≠ 0 then
        skipNumbers 1
  | .auxiliary => do
      let length ← Reading.number 8
      Reading.skip length
  | .control => pure ()
  | _ => skipNumbers 1

/-- The fields after the process of a sample. -/
def laterFields : List Field :=
  [.time, .accessed, .eventId, .stream, .processor, .period, .counters, .callChain, .raw,
    .branches, .userRegisters, .userStack, .weight, .dataSource, .transaction,
    .interruptRegisters, .physicalAddress, .auxiliary, .dataPageSize, .codePageSize]

/-- Leaves out those of some fields that an event has. -/
def skipFields (event : EventDescription) : List Field → Reading Unit
  | [] => pure ()
  | field :: rest => do
      if event.has field then
        skipField event field
      skipFields event rest

/-- Reads a sample; one without an address or a process says nothing. -/
def readSample (event : EventDescription) : Reading (Option CaptureRecord) := do
  if event.has .identifier then
    skipNumbers 1
  let address ← Reading.when (event.has .address) Reading.word
  let process ← Reading.when (event.has .process) do
    let process ← Reading.number 4
    Reading.skip 4
    return (UInt32.ofNat process).toInt32
  skipFields event laterFields
  match process, address with
  | some process, some address => return some (.sampled process address)
  | _, _ => return none

/-- The type of mappings of the older form. -/
def olderMappingType : Nat := 1

/-- The type of mappings of the newer form. -/
def newerMappingType : Nat := 10

/-- What a record says about mappings and samples; a record that breaks off says nothing. -/
def RawRecord.meaning? (record : RawRecord) (table : EventTable) (known : BuildIds) :
    Option CaptureRecord :=
  let read :=
    if record.kind = olderMappingType then
      readOlderMapping known record.flags record.body
    else if record.kind = newerMappingType then
      readNewerMapping known record.flags record.body
    else if record.kind = sampleType then
      readSample (table.eventOf record.body true) record.body
    else
      none
  read.bind Prod.fst

/-- The records of a capture file that matter, in the order in which they happened. -/
def recordsOf (bytes : ByteArray) : Except FileFormatFault (List CaptureRecord) := do
  let (magic, _) ← decode (Reading.list 8) (.ofBytes bytes .little)
  let order ← match orderOf? magic with
    | some order => pure order
    | none => throw .unknownMagic
  let file := Cursor.ofBytes bytes order
  let (header, _) ← decode readHeader (file.advance 8)
  let finish := header.records.offset + header.records.length
  let (features, _) ← decode (readFeatures header.features) { file with position := finish }
  let sections ← features.mapM fun feature => do
    let cursor ← feature.2.cursor file
    return (feature.1, cursor)
  let events ← match sections.find? (·.1 = descriptionFeature) with
    | some (_, cursor) => (decode namedDescriptions cursor).map Prod.fst
    | none => headerDescriptions file header
  let table ← EventTable.ofList events
  let known := match sections.find? (·.1 = buildIdFeature) with
    | some (_, cursor) => BuildIds.ofSection cursor
    | none => []
  let rounds ← readRounds [] finish bytes.size { file with position := header.records.offset }
  let dated := rounds.map fun round =>
    round.map fun record => (⟨record.time? table, record⟩ : Dated)
  let ordered := inOrder [] none dated
  return ordered.filterMap fun entry => entry.record.meaning? table known

end SampleProfile.Capture
