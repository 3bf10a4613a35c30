import SampleProfile.Attribution
import SampleProfile.Prefetch.Hint

/-!
# Files

Everything that reads and writes files does so through a `Workspace`: a monad with a handful of file
operations, each of which may be refused.  `Workspace.replaceFile` writes a file as a whole: the
contents go to a temporary file beside it, which then takes its place, so that no reader ever sees
half a file and a refusal leaves the old one.
-/

namespace SampleProfile

/-- Why a file operation was refused. -/
inductive FileFault where
  | missing
  | notDirectory
  | isDirectory
  | busy
  | badName
  | notText
  | other (description : String)
deriving DecidableEq, Repr

/-- The wording of a fault. -/
def FileFault.message : FileFault → String
  | missing => "No such file or directory (os error 2)"
  | notDirectory => "Not a directory (os error 20)"
  | isDirectory => "Is a directory (os error 21)"
  | busy => "Device or resource busy (os error 16)"
  | badName => "file name contained an unexpected NUL byte"
  | notText => "stream did not contain valid UTF-8"
  | other description => description

/-- Why a file could not be written. -/
structure WriteFault where
  cause : FileFault
  /-- The temporary file that could not be made or filled. -/
  temporary : Option String := none
deriving DecidableEq, Repr

/-- The wording of a fault, with the temporary file that it is about. -/
def WriteFault.message (fault : WriteFault) : String :=
  match fault.temporary with
  | none => fault.cause.message
  | some path => fault.cause.message ++ " at path \"" ++ path ++ "\""

/-- What is noted on the way, apart from results. -/
inductive Event where
  /-- The reading of a hint file ended at a bad line. -/
  | badHint (file : String) (line : Hint.BadLine)
  /-- Inline stacks were asked for. -/
  | resolverRequested (scope : Scope)

/-- File operations, each on a path relative to a working directory. -/
class Workspace (m : Type → Type) where
  read : String → m (Except FileFault ByteArray)
  /-- Whether there is a file at a path. -/
  isFile : String → m Bool
  /-- Makes an empty temporary file in a directory. -/
  makeTemporary : String → m (Except WriteFault String)
  /-- Writes the contents of a temporary file. -/
  fill : String → ByteArray → m (Except FileFault Unit)
  /-- Moves a temporary file to a path, in place of a file that may be there. -/
  rename : String → String → m (Except FileFault Unit)
  /-- Deletes a temporary file. -/
  discard : String → m Unit
  note : Event → m Unit

namespace Workspace

variable {m : Type → Type} [Monad m] [Workspace m]

/-- Reads a file of UTF-8 text. -/
def readText (path : String) : m (Except FileFault String) := do
  match ← read path with
  | .error fault => return .error fault
  | .ok contents =>
      match String.fromUTF8? contents with
      | some text => return .ok text
      | none => return .error .notText

/-- The parts of a path between its slashes. -/
def parts (path : String) : List String :=
  (Text.splitOn '/' path.toList).map String.ofList

/-- Whether a path starts from the root directory. -/
def isAbsolute (path : String) : Bool :=
  path.toList.head? = some '/'

/-- The directory that holds what a path names; single points after the start of the path do not
count. -/
def directoryOf (path : String) : String :=
  match parts path with
  | [] => "."
  | first :: rest =>
      let later := rest.filter fun part => part ≠ "" && part ≠ "."
      let steps := if first = "" then later else first :: later
      match isAbsolute path, steps.dropLast with
      | true, outer => "/" ++ String.intercalate "/" outer
      | false, [] => "."
      | false, outer => String.intercalate "/" outer

/-- Writes a file as a whole or leaves it as it was. -/
def replaceFile (path : String) (contents : ByteArray) : m (Except WriteFault Unit) := do
  match ← makeTemporary (directoryOf path) with
  | .error fault => return .error fault
  | .ok temporary =>
      match ← fill temporary contents with
      | .error fault =>
          discard temporary
          return .error ⟨fault, some temporary⟩
      | .ok () =>
          match ← rename temporary path with
          | .error fault =>
              discard temporary
              return .error ⟨fault, none⟩
          | .ok () => return .ok ()

end Workspace

end SampleProfile
