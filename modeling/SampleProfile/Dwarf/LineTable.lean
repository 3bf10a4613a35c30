import SampleProfile.Dwarf.LineProgram
import SampleProfile.Halving

/-!
# Source lines of addresses

Running a line program gives rows of an address and a line, in sequences of rising addresses.  A
line holds from its address to that of the next row, or to the end of the sequence.
-/

namespace SampleProfile.Dwarf

/-- An address from which a source line holds. -/
structure LineRow where
  address : UInt64
  line : UInt32
deriving DecidableEq, Repr

/-- Rows of rising addresses, and the end of the last. -/
structure LineSequence where
  range : AddressRange
  rows : Array LineRow
deriving DecidableEq, Repr

/-- The sequences of a unit, by their first addresses. -/
structure LineTable where
  sequences : Array LineSequence
deriving DecidableEq, Repr

/-- Where a line program stands. -/
structure LineRegisters where
  address : UInt64 := 0
  /-- The operation inside an instruction that holds several. -/
  operation : Nat := 0
  line : Nat := 1
  /-- Whether the address is that of code that was left out. -/
  leftOut : Bool := false
deriving DecidableEq, Repr

namespace LineRegisters

/-- Advances the line, not below zero. -/
def advanceLine (registers : LineRegisters) (lines : Int) : LineRegisters :=
  { registers with line := (registers.line + lines).toNat % UInt64.size }

/-- Advances the address by operations. -/
def advance (program : LineProgram) (operations : Nat) (registers : LineRegisters) :
    Except Fault LineRegisters := do
  if registers.leftOut then
    return registers
  let total := (registers.operation + operations) % UInt64.size
  let length := program.minimumLength * (total / program.operations) % UInt64.size
  let address ← program.encoding.addLength registers.address length
  return { registers with address, operation := total % program.operations }

/-- Advances the address by a length. -/
def advanceFixed (program : LineProgram) (length : Nat) (registers : LineRegisters) :
    Except Fault LineRegisters := do
  if registers.leftOut then
    return registers
  let address ← program.encoding.addLength registers.address length
  return { registers with address, operation := 0 }

/-- Moves to an address.  A lower address, or the greatest one, belongs to code that was left out.
-/
def moveTo (program : LineProgram) (address : UInt64) (registers : LineRegisters) :
    LineRegisters :=
  if address < registers.address || address.toNat = program.encoding.greatestAddress then
    { registers with leftOut := true }
  else
    { registers with address, operation := 0, leftOut := false }

/-- How an opcode that is not reserved divides into lines and operations. -/
def ofOpcode (program : LineProgram) (opcode : Nat) : Int × Nat :=
  let adjusted := opcode - program.opcodeBase
  (program.lineBase + (adjusted % program.lineRange : Nat), adjusted / program.lineRange)

end LineRegisters

/-- A line program under way. -/
structure LineRun where
  registers : LineRegisters := {}
  /-- Rows of the sequence under way, latest first. -/
  rows : List LineRow := []
  /-- Finished sequences, latest first. -/
  sequences : List LineSequence := []
  /-- Files that the program defines, latest first. -/
  files : List FileName := []

namespace LineRun

/-- Adds a row; one at the address of the row before takes its place. -/
def addRow (row : LineRow) : List LineRow → List LineRow
  | last :: rest => if last.address = row.address then row :: rest else row :: last :: rest
  | [] => [row]

/-- The line holds from the address on. -/
def emit (run : LineRun) : LineRun :=
  if run.registers.leftOut then
    run
  else
    { run with
      rows := addRow ⟨run.registers.address, UInt32.ofNat run.registers.line⟩ run.rows }

/-- The address ends the sequence; sequences that start at zero are those of code that was left out.
-/
def finish (run : LineRun) : LineRun :=
  if run.registers.leftOut then
    { run with registers := {} }
  else
    match run.rows.getLast? with
    | none => { run with registers := {} }
    | some first =>
        let sequence : LineSequence :=
          ⟨⟨first.address, run.registers.address⟩, run.rows.reverse.toArray⟩
        { run with
          registers := {}
          rows := []
          sequences := if first.address = 0 then run.sequences else sequence :: run.sequences }

/-- Follows an instruction. -/
def step (program : LineProgram) (run : LineRun) : Instruction → Except Fault LineRun
  | .special opcode => do
      let (lines, operations) := LineRegisters.ofOpcode program opcode
      let registers ← (run.registers.advanceLine lines).advance program operations
      return { run with registers }.emit
  | .copy => return run.emit
  | .advance operations =>
      return { run with registers := ← run.registers.advance program operations }
  | .advanceLine lines => return { run with registers := run.registers.advanceLine lines }
  | .advanceMost => do
      let (_, operations) := LineRegisters.ofOpcode program 255
      return { run with registers := ← run.registers.advance program operations }
  | .advanceFixed length =>
      return { run with registers := ← run.registers.advanceFixed program length }
  | .setAddress address => return { run with registers := run.registers.moveTo program address }
  | .endSequence => return run.finish
  | .defineFile file => return { run with files := file :: run.files }
  | .ignored => return run

/-- Follows the instructions that are left, each of which takes at least a byte. -/
def follow (program : LineProgram) : Nat → LineRun → Decoding LineRun
  | 0, run => return run
  | bound + 1, run => do
      if (← remaining) = 0 then
        return run
      let instruction ← readInstruction program
      let next ← (run.step program instruction : Except Fault LineRun)
      follow program bound next

end LineRun

namespace LineTable

/-- Checks that the path of a file and that of its directory are readable. -/
def checkFile (program : LineProgram) (text : AttributeValue → Except Fault (List UInt8))
    (file : FileName) : Except Fault Unit := do
  if file.directory ≠ 0 then
    let index := if program.encoding.version ≤ 4 then file.directory - 1 else file.directory
    match program.directories[index]? with
    | none => pure ()
    | some directory => let _ ← text directory
  let _ ← text file.path

/-- Runs a line program.  All files that it speaks of must have readable paths. -/
def ofProgram (program : LineProgram) (text : AttributeValue → Except Fault (List UInt8)) :
    Except Fault LineTable := do
  let cursor := program.instructions
  let (run, _) ← LineRun.follow program cursor.remaining {} cursor
  (program.files ++ run.files.reverse).forM (checkFile program text)
  let sequences := run.sequences.reverse.mergeSort fun left right =>
    left.range.start ≤ right.range.start
  return ⟨sequences.toArray⟩

/-- The line of an address: the row last passed in the sequence that contains it. -/
def lineAt? (table : LineTable) (address : UInt64) : Option UInt32 :=
  let found := sought?
    (fun (sequence : LineSequence) =>
      if address < sequence.range.start then .gt
      else if sequence.range.stop ≤ address then .lt
      else .eq) table.sequences
  found.bind fun (_, sequence) =>
    (lastUpTo? (fun (row : LineRow) => compare row.address address) sequence.rows).map fun last =>
      last.2.line

/-- The address ranges of all sequences. -/
def ranges (table : LineTable) : List AddressRange :=
  table.sequences.toList.map LineSequence.range

end LineTable

end SampleProfile.Dwarf
