import SampleProfile.CallGraph
import SampleProfile.CommandLine
import SampleProfile.Demangle

/-!
# Running commands

A command either succeeds, perhaps with something to print, or says why not.  The source kind is
checked before any file is opened.
-/

namespace SampleProfile.CommandLine

/-- Why a command failed. -/
inductive RunFault where
  | session (fault : SessionFault)
  | binary (path : String) (fault : BinaryFault)
  /-- Samples of a capture cannot be collected without the binary. -/
  | binaryMissing
deriving DecidableEq, Repr

namespace RunFault

/-- What went wrong, followed by the causes, from the outermost to the innermost. -/
def reasons : RunFault → List String
  | session fault => fault.message :: fault.causes
  | binary path fault => ("Error reading binary " ++ path) :: fault.reasons
  | binaryMissing => ["--binary is required to merge perf samples"]

/-- What is printed about a fault.  An overflow is not reported by the program, which it stops. -/
def report : RunFault → String
  | session (.overflow cause) => cause.message ++ "\n"
  | fault => "error: " ++ String.intercalate ": " fault.reasons ++ "\n"

/-- The exit code of a fault: an unknown source kind is a mistake in the use of the program. -/
def exitCode : RunFault → Nat
  | session (.unsupportedSource _) => 2
  | session (.overflow _) => 101
  | _ => 1

end RunFault

/-- What a finished command leaves behind apart from files. -/
structure Outcome where
  exitCode : Nat
  output : String
  report : String
deriving DecidableEq, Repr

/-- What a command leaves that printed something or failed. -/
def Outcome.of : Except RunFault String → Outcome
  | .ok output => ⟨0, output, ""⟩
  | .error fault => ⟨fault.exitCode, "", fault.report⟩

variable {m : Type → Type} [Monad m] [Workspace m]

/-- Opens a binary. -/
def loadBinary (path : String) : ExceptT RunFault m Binary := do
  match ← (Binary.load path : m _) with
  | .ok binary => return binary
  | .error fault => throw (.binary path fault)

/-- Checks the word for a source kind. -/
def checkSource (token : String) : ExceptT RunFault m SourceKind :=
  MonadExcept.ofExcept ((SourceKind.parse token).mapError .session)

/-- Runs a step of a new session. -/
def inSession {Answer : Type} (session : Session)
    (step : ExceptT SessionFault (StateT Session m) Answer) : ExceptT RunFault m Answer := do
  let (answer, _) ← (step.run.run session : m _)
  MonadExcept.ofExcept (answer.mapError .session)

/-- Makes a profile. -/
def runCreate (binary profile profiler output : String) (format : ReportFormat)
    (options : Options) (listSymbols : Bool) : ExceptT RunFault m String := do
  let _ ← checkSource profiler
  let session : Session := { binary := some (← loadBinary binary), options }
  inSession session (Session.create profile profiler format output listSymbols)
  return ""

/-- The binary by which samples of a kind are collected. -/
def mergeBinary : SourceKind → Option String → ExceptT RunFault m (Option Binary)
  | .perf, some path => return some (← loadBinary path)
  | .perf, none => throw .binaryMissing
  | _, _ => return none

/-- Collects samples. -/
def runMerge (profile profiler : String) (binary : Option String) (output : String)
    (focus : Option String) : ExceptT RunFault m String := do
  let kind ← checkSource profiler
  let session : Session := { binary := ← mergeBinary kind binary, options := { focus } }
  let answer ← (session.merge profile profiler output : m _)
  MonadExcept.ofExcept (answer.mapError .session)
  return ""

/-- Prints the call graph of a profile. -/
def runDump (binary profile profiler : String) (options : Options) (keepMangled : Bool) :
    ExceptT RunFault m String := do
  let _ ← checkSource profiler
  let session : Session := { binary := some (← loadBinary binary), options }
  let map ← inSession session (Session.build profile profiler)
  return (CallGraph.ofProfileMap map).dump (if keepMangled then id else Demangle.display)

/-- Runs a command; answers what it prints. -/
def Command.perform : Command → ExceptT RunFault m String
  | create binary profile profiler output format options listSymbols =>
      runCreate binary profile profiler output format options listSymbols
  | merge profile profiler binary output focus => runMerge profile profiler binary output focus
  | total profile => do
      let total ← (Session.textTotal profile : m _)
      return toString total.toNat ++ "\n"
  | dump binary profile profiler options keepMangled =>
      runDump binary profile profiler options keepMangled

/-- Runs a command. -/
def Command.run (command : Command) : m Outcome := do
  return .of (← command.perform.run)

end SampleProfile.CommandLine
