import SampleProfile.Dwarf.InlineStack
import SampleProfile.Mapping
import SampleProfile.ObjectFile
import SampleProfile.Text.Hexadecimal
import SampleProfile.Workspace

/-!
# Profiled binaries

What a profile needs to know of a binary: its functions, its load segments, its build-id, and where
inline stacks come from.
-/

namespace SampleProfile

/-- Where the inline stacks of a binary come from. -/
inductive DebugInfo where
  /-- The file of the binary, read when stacks are wanted. -/
  | inFile
  /-- A function given in advance. -/
  | given (resolve : UInt64 → Stack)
  /-- Nowhere; the reasons are listed from the outermost to the innermost. -/
  | unavailable (reasons : List String)

/-- A profiled binary. -/
structure Binary where
  path : String
  /-- The build-id in hexadecimal digits. -/
  buildId : Option String
  symbols : List Symbol
  segments : List LoadSegment
  debugInfo : DebugInfo

/-- Why a file could not be opened as a binary. -/
inductive BinaryFault where
  | file (path : String) (fault : FileFault)
  | object (fault : ObjectFault)
deriving DecidableEq, Repr

/-- The reasons behind a fault, from the outermost to the innermost. -/
def BinaryFault.reasons : BinaryFault → List String
  | file path fault => ["Failed to read binary " ++ path, fault.message]
  | object fault => ["Failed to parse object file", fault.message]

/-- Why a file has no inline stacks. -/
inductive StackSourceFault where
  | file (fault : FileFault)
  | object (fault : ObjectFault)
  | noDebugInfo (path : String)
  | damaged (fault : Dwarf.StackFault)
deriving DecidableEq, Repr

/-- The reasons behind a fault, from the outermost to the innermost. -/
def StackSourceFault.reasons : StackSourceFault → List String
  | file fault => ["Failed to read binary file", fault.message]
  | object fault => ["Failed to parse object file", fault.message]
  | noDebugInfo path => ["No DWARF debug information in " ++ path]
  | damaged fault => fault.reasons

/-- The debugging information of a file, if it has any. -/
def ObjectFile.debugInfo? : ObjectFile → Option Dwarf.Sections
  | foreign => none
  | elf image =>
      (image.debugSection? ".debug_info").map fun _ =>
        { order := image.layout.order
          info := image.debugContents ".debug_info"
          abbreviations := image.debugContents ".debug_abbrev"
          lines := image.debugContents ".debug_line"
          texts := image.debugContents ".debug_str"
          lineTexts := image.debugContents ".debug_line_str"
          textOffsets := image.debugContents ".debug_str_offsets"
          addresses := image.debugContents ".debug_addr"
          ranges := image.debugContents ".debug_ranges"
          rangeLists := image.debugContents ".debug_rnglists"
          unitAddresses := image.debugContents ".debug_aranges" }

namespace Binary

/-- The binary that the bytes of a file are. -/
def ofBytes (path : String) (bytes : ByteArray) : Except ObjectFault Binary := do
  let file ← ObjectFile.parse bytes
  return {
    path
    buildId := file.buildId.map Text.hexadecimal
    symbols := file.functions
    segments := file.loadSegments
    debugInfo := .inFile }

/-- The inline stacks that the bytes of a file answer. -/
def stacksOfBytes (path : String) (bytes : ByteArray) :
    Except StackSourceFault (UInt64 → Stack) := do
  let file ← (ObjectFile.parse bytes).mapError .object
  match file.debugInfo? with
  | none => throw (.noDebugInfo path)
  | some sections =>
      let source ← (Dwarf.StackSource.ofSections sections).mapError .damaged
      return source.stackAt

variable {m : Type → Type} [Monad m] [Workspace m]

/-- Opens the file of a binary. -/
def load (path : String) : m (Except BinaryFault Binary) := do
  match ← Workspace.read path with
  | .error fault => return .error (.file path fault)
  | .ok bytes => return (ofBytes path bytes).mapError .object

/-- The inline stacks that a file answers. -/
def loadStacks (path : String) : m (Except StackSourceFault (UInt64 → Stack)) := do
  match ← Workspace.read path with
  | .error fault => return .error (.file fault)
  | .ok bytes => return stacksOfBytes path bytes

/-- What answers the inline stack of an address inside a scope, and no stack for addresses outside;
or the reasons why there is nothing, from the outermost to the innermost. -/
def resolver (binary : Binary) (scope : Scope) : m (Except (List String) (UInt64 → Stack)) := do
  Workspace.note (.resolverRequested scope)
  match binary.debugInfo with
  | .given resolve => return .ok (scope.restrict resolve)
  | .unavailable reasons => return .error reasons
  | .inFile =>
      match ← loadStacks binary.path with
      | .error fault => return .error fault.reasons
      | .ok resolve => return .ok (scope.restrict resolve)

end Binary

end SampleProfile
