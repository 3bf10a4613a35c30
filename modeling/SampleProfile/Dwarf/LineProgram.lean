import SampleProfile.Dwarf.AttributeValue

/-!
# Line programs

Which source line an instruction comes from is stored as a program: its instructions advance an
address and a line, and some of them say that from the address on the line holds.
-/

namespace SampleProfile.Dwarf

/-- A source file. -/
structure FileName where
  path : AttributeValue
  /-- The number of its directory. -/
  directory : Nat
deriving DecidableEq, Repr

/-- A line program with what is said about it in advance. -/
structure LineProgram where
  encoding : Encoding
  minimumLength : Nat
  operations : Nat
  lineBase : Int
  lineRange : Nat
  opcodeBase : Nat
  /-- The numbers of arguments of instructions, by opcode from one on. -/
  opcodeLengths : List UInt8
  directories : List AttributeValue
  files : List FileName
  instructions : Cursor

/-! ## Header -/

/-- Reads texts up to an empty one.  Each takes at least a byte. -/
def readDirectories : Nat → Decoding (List AttributeValue)
  | 0 => throw .endsEarly
  | bound + 1 => do
      let path ← decode Reading.zeroEnded
      if path.isEmpty then
        return []
      return .text path :: (← readDirectories bound)

/-- Reads what follows the path of a file: its directory, time and size. -/
def readFile (path : List UInt8) : Decoding FileName := do
  let directory ← unsigned
  let _ ← unsigned
  let _ ← unsigned
  return ⟨.text path, directory⟩

/-- Reads files up to an empty path.  Each takes at least a byte. -/
def readFiles : Nat → Decoding (List FileName)
  | 0 => throw .endsEarly
  | bound + 1 => do
      let path ← decode Reading.zeroEnded
      if path.isEmpty then
        return []
      let file ← readFile path
      return file :: (← readFiles bound)

/-- What a field of a directory or file is, and in which form. -/
structure FieldFormat where
  content : Nat
  form : Nat
deriving DecidableEq, Repr

namespace FieldContent

def path : Nat := 1
def directory : Nat := 2

end FieldContent

/-- Reads how directories or files are stored; each has exactly one path. -/
def readFieldFormats : Decoding (List FieldFormat) := do
  let count ← number 1
  let formats ← (List.replicate count ()).mapM fun _ => do
    return (⟨← unsigned, ← short⟩ : FieldFormat)
  if (formats.countP fun format => format.content = FieldContent.path) = 1 then
    return formats
  else
    throw .noPathFormat

/-- The codes of the forms in which fields may be stored. -/
def fieldForms : List Nat :=
  [0x03, 0x04, 0x05, 0x06, 0x07, 0x08, 0x09, 0x0A, 0x0B, 0x0C, 0x0D, 0x0E, 0x0F,
    0x17, 0x1A, 0x1D, 0x1E, 0x1F, 0x25, 0x26, 0x27, 0x28, 0x1F02, 0x1F21]

/-- Reads a field. -/
def FieldFormat.decode (encoding : Encoding) (format : FieldFormat) : Decoding AttributeValue :=
  match (Form.ofCode? format.form).filter fun _ => fieldForms.contains format.form with
  | none => throw .unknownForm
  | some form => form.decode encoding 0 0

/-- Reads the fields of a directory or file.  The last directory that is a number counts. -/
def readEntry (encoding : Encoding) (formats : List FieldFormat) : Decoding FileName := do
  let fields ← formats.mapM fun format => do
    return (format.content, ← format.decode encoding)
  let path := (fields.lookup FieldContent.path).getD .other
  let directory := fields.reverse.findSome? fun field =>
    if field.1 = FieldContent.directory then field.2.toNat? else none
  return ⟨path, directory.getD 0⟩

/-- Reads directories or files, as many as a number before them says.  Each takes at least a byte.
-/
def readEntries (encoding : Encoding) : Decoding (List FileName) := do
  let formats ← readFieldFormats
  let count ← unsigned
  if (← remaining) < count then
    throw .endsEarly
  (List.replicate count ()).mapM fun _ => readEntry encoding formats

/-- A byte as a signed number. -/
def signedByte : Decoding Int := do
  let byte ← number 1
  return if byte < 128 then (byte : Int) else (byte : Int) - 256

/-- Runs a decoding on what an initial length announces; offsets in it may be wide. -/
def within {Value : Type} (value : Bool → Decoding Value) : Decoding Value := do
  let (part, wide) ← lengthed
  return (← (value wide part : Except Fault _)).1

/-- Reads what stands between the version and the instructions. -/
def readLineHeader (encoding : Encoding) (instructions : Cursor) : Decoding LineProgram := do
  let minimumLength ← number 1
  if minimumLength = 0 then
    throw .zeroInstructionLength
  let operations ← if 4 ≤ encoding.version then number 1 else pure 1
  if operations = 0 then
    throw .zeroOperations
  let _ ← number 1
  let lineBase ← signedByte
  let lineRange ← number 1
  if lineRange = 0 then
    throw .zeroLineRange
  let opcodeBase ← number 1
  if opcodeBase = 0 then
    throw .zeroOpcodeBase
  let opcodeLengths ← decode (Reading.list (opcodeBase - 1))
  let (directories, files) ←
    if encoding.version ≤ 4 then do
      let directories ← readDirectories ((← remaining) + 1)
      let files ← readFiles ((← remaining) + 1)
      pure (directories, files)
    else do
      let directories ← readEntries encoding
      let files ← readEntries encoding
      pure (directories.map FileName.path, files)
  return { encoding, minimumLength, operations, lineBase, lineRange, opcodeBase, opcodeLengths,
           directories, files, instructions }

/-- Reads a line program.  Early versions do not say themselves how long addresses are. -/
def readLineProgram (unitAddressSize : Nat) : Decoding LineProgram :=
  within fun wide => do
    let version ← number 2
    if version < 2 || 5 < version then
      throw .unknownVersion
    let size ← if 5 ≤ version then addressSize else pure unitAddressSize
    if 5 ≤ version then
      if (← number 1) ≠ 0 then
        throw .segmentSize
    let encoding : Encoding := ⟨wide, version, size⟩
    let headerLength ← encoding.offset
    let header ← decode (Reading.part headerLength)
    let instructions ← get
    let (program, _) ← (readLineHeader encoding instructions header : Except Fault _)
    return program

/-- The line program at an offset of its section. -/
def Sections.lineProgram (sections : Sections) (unitAddressSize offset : Nat) :
    Except Fault LineProgram :=
  sections.decodeAt sections.lines offset (readLineProgram unitAddressSize)

/-! ## Instructions -/

/-- An instruction of a line program. -/
inductive Instruction where
  /-- Advances both address and line, by an opcode that is not reserved; then the line holds. -/
  | special (opcode : Nat)
  /-- The line holds. -/
  | copy
  | advance (operations : Nat)
  | advanceLine (lines : Int)
  /-- Advances the address as the last opcode would. -/
  | advanceMost
  | advanceFixed (length : Nat)
  | setAddress (address : UInt64)
  /-- The address is the end of a sequence of instructions. -/
  | endSequence
  | defineFile (file : FileName)
  /-- Changes nothing of interest. -/
  | ignored
deriving DecidableEq, Repr

/-- Reads an instruction that says how long it is. -/
def readExtended (program : LineProgram) : Decoding Instruction := do
  match ← number 1 with
  | 1 => return .endSequence
  | 2 => return .setAddress (← program.encoding.address)
  | 3 =>
      if program.encoding.version ≤ 4 then
        return .defineFile (← readFile (← decode Reading.zeroEnded))
      else
        return .ignored
  | 4 => do
      let _ ← unsigned
      return .ignored
  | _ => return .ignored

/-- Reads the arguments of an instruction of which only their number is known. -/
def readUnknown (program : LineProgram) (opcode : Nat) : Decoding Instruction := do
  match program.opcodeLengths[opcode - 1]? with
  | none => throw .endsEarly
  | some count =>
      let _ ← (List.replicate count.toNat ()).mapM fun _ => unsigned
      return .ignored

/-- Reads an instruction. -/
def readInstruction (program : LineProgram) : Decoding Instruction := do
  let opcode ← number 1
  if opcode = 0 then
    let length ← unsigned
    let part ← decode (Reading.part length)
    let (instruction, _) ← (readExtended program part : Except Fault _)
    return instruction
  else if program.opcodeBase ≤ opcode then
    return .special opcode
  else
    match opcode with
    | 1 => return .copy
    | 2 => return .advance (← unsigned)
    | 3 => return .advanceLine (← signed)
    | 4 | 5 | 12 => do
        let _ ← unsigned
        return .ignored
    | 6 | 7 | 10 | 11 => return .ignored
    | 8 => return .advanceMost
    | 9 => return .advanceFixed (← number 2)
    | _ => readUnknown program opcode

end SampleProfile.Dwarf
