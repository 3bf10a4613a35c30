import SampleProfile.CommandLine.Run
import SampleProfile.CommandLine.Usage

/-!
# The program

Runs a command on the files of the system.
-/

namespace SampleProfile.Main

/-- The fault that an error of the system stands for. -/
def faultOf : IO.Error → FileFault
  | .noFileOrDirectory _ _ _ => .missing
  | .inappropriateType _ code _ => if code = 21 then .isDirectory else .notDirectory
  | .resourceBusy _ _ => .busy
  | error => .other (toString error)

/-- Tries an operation on a path. -/
def attempt {Answer : Type} (path : String) (operation : IO Answer) :
    IO (Except FileFault Answer) := do
  if path.toList.contains '\x00' then
    return .error .badName
  match ← operation.toBaseIO with
  | .ok answer => return .ok answer
  | .error error => return .error (faultOf error)

/-- Reads a file. -/
def readFile (path : String) : IO (Except FileFault ByteArray) :=
  attempt path (IO.FS.readBinFile path)

/-- Whether a path names a file; one that cannot be read counts too. -/
def isFile (path : String) : IO Bool := do
  match ← readFile path with
  | .error .missing => return false
  | .error .notDirectory => return false
  | .error .isDirectory => return false
  | .error .badName => return false
  | _ => return true

/-- Makes an empty file in a directory, under a name that is not taken; so many names are tried. -/
def makeTemporary (directory : String) : Nat → IO (Except WriteFault String)
  | 0 => return .error ⟨.other "no free name for a temporary file", none⟩
  | tries + 1 => do
      let path := directory ++ "/.tmp" ++ toString (← IO.rand 100000000 999999999)
      match ← (IO.FS.Handle.mk path .writeNew).toBaseIO with
      | .ok _ => return .ok path
      | .error (.alreadyExists _ _ _) => makeTemporary directory tries
      | .error error => return .error ⟨faultOf error, some path⟩

/-- Prints what is noted, as far as the user has to know it. -/
def note : Event → IO Unit
  | .badHint file line => IO.eprintln (line.report file)
  | .resolverRequested _ => return ()

instance : Workspace IO where
  read := readFile
  isFile := isFile
  makeTemporary directory := makeTemporary directory 100
  fill path contents := attempt path (IO.FS.writeBinFile path contents)
  rename temporary path := attempt path (IO.FS.rename temporary path)
  discard path := do
    let _ ← (IO.FS.removeFile path).toBaseIO
  note := note

/-- Prints why arguments were refused. -/
def refuse (fault : CommandLine.UsageFault) : IO Unit := do
  if fault = .helpRequested then
    IO.print CommandLine.usage
  else
    IO.eprint ("error: " ++ fault.message ++ "\n\n" ++ CommandLine.usage)

end SampleProfile.Main

open SampleProfile in
/-- Runs the command that the arguments ask for. -/
def main (arguments : List String) : IO UInt32 := do
  match CommandLine.parse arguments with
  | .error fault =>
      Main.refuse fault
      return UInt32.ofNat fault.exitCode
  | .ok command =>
      let outcome ← (command.run : IO CommandLine.Outcome)
      IO.print outcome.output
      IO.eprint outcome.report
      return UInt32.ofNat outcome.exitCode
