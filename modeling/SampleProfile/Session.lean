import SampleProfile.Binary
import SampleProfile.Prefetch.Conversion
import SampleProfile.Report
import SampleProfile.Samples.Source

/-!
# Making profiles

A `Session` makes profiles of one binary: it reads samples, attributes them and writes what comes
out.  Each step either succeeds or says why not, and a step that fails changes neither the samples
held nor a profile nor any file.
-/

namespace SampleProfile

/-- Why a step failed. -/
inductive SessionFault where
  | unsupportedSource (token : String)
  | noBinary
  | noSamples
  | sampleRead (path : String) (fault : SampleFault)
  | resolverUnavailable (binary : String) (reasons : List String)
  | hintRead (path : String) (fault : FileFault)
  | write (path : String) (fault : WriteFault)
  /-- The program stopped in the middle of the step. -/
  | overflow (fault : Overflow)
deriving DecidableEq, Repr

/-- The wording of a fault. -/
def SessionFault.message : SessionFault → String
  | unsupportedSource token => "Unsupported profiler type: " ++ token
  | noBinary => "Profile creator is not bound to a binary"
  | noSamples => "No samples have been read"
  | sampleRead path fault => "Error reading profile " ++ path ++ ": " ++ fault.message
  | resolverUnavailable binary reasons =>
      "Error reading binary " ++ binary ++ ": " ++ String.intercalate ": " reasons
  | hintRead path fault =>
      "Cannot open " ++ path ++ " to read prefetch hints: " ++ fault.message
  | write path fault => "Failed to write " ++ path ++ ": " ++ fault.message
  | overflow fault => fault.message

/-- The fault of a step that could not read samples from a file. -/
def SessionFault.ofSampleFault (path : String) : SampleFault → SessionFault
  | .overflow cause => .overflow cause
  | fault => .sampleRead path fault

/-- The wordings of the causes behind a fault, from the outermost to the innermost. -/
def SessionFault.causes : SessionFault → List String
  | sampleRead _ fault => fault.message :: fault.causes
  | hintRead _ fault => [fault.message]
  | write _ fault =>
      fault.message :: (if fault.temporary.isSome then [fault.cause.message] else [])
  | _ => []

/-- How profiles are made. -/
structure Options where
  /-- The pattern of paths at which processes map the binary; by default every path that ends in its
  name. -/
  focus : Option String := none
  /-- The least total count of a function that is reported. -/
  threshold : UInt64 := standardThreshold
  /-- The share of the unprofiled size that the list of unprofiled symbols covers. -/
  coverage : Binary64 := .one
  /-- The markers at which names of variants are cut. -/
  markers : List String := Suffix.standardMarkers

/-- A binary, options, and the samples read last. -/
structure Session where
  binary : Option Binary := none
  options : Options := {}
  held : Option Samples := none

/-- The kind for a word, or the fault that there is none. -/
def SourceKind.parse (token : String) : Except SessionFault SourceKind :=
  match SourceKind.ofToken? token with
  | some kind => .ok kind
  | none => .error (.unsupportedSource token)

namespace Session

/-- The binary of the session. -/
def requireBinary (session : Session) : Except SessionFault Binary :=
  match session.binary with
  | some binary => .ok binary
  | none => .error .noBinary

/-- An empty profile of the binary. -/
def emptyMap (session : Session) : Except SessionFault ProfileMap :=
  session.requireBinary.map fun binary =>
    { ProfileMap.ofSymbols binary.symbols with
      threshold := session.options.threshold
      markers := session.options.markers }

/-- The total of the samples read last. -/
def total (session : Session) : UInt64 :=
  (session.held.map Samples.total).getD 0

variable {m : Type → Type} [Monad m] [Workspace m]

/-- Reads a file of one kind. -/
def samplesOf (session : Session) (input : String) :
    SourceKind → m (Except SessionFault Samples)
  | .prefetch => return .error (.unsupportedSource SourceKind.prefetch.token)
  | .text => do
      let samples ← Samples.readTextFile input
      return samples.mapError (.sampleRead input)
  | .perf => do
      match session.requireBinary with
      | .error fault => return .error fault
      | .ok binary =>
          let focus := Focus.resolve binary.path binary.buildId session.options.focus
          let samples ← Samples.readCapture input focus binary.segments
          return samples.mapError (.ofSampleFault input)

/-- Reads samples and holds them instead of those read before. -/
def read (input : String) (kind : SourceKind) : ExceptT SessionFault (StateT Session m) Unit := do
  let session : Session ← get
  match ← (session.samplesOf input kind : m _) with
  | .error fault => throw fault
  | .ok samples => set { session with held := some samples }

/-- The resolver of the binary. -/
def requireResolver (session : Session) (scope : Scope) :
    m (Except SessionFault (UInt64 → Stack)) := do
  match session.requireBinary with
  | .error fault => return .error fault
  | .ok binary =>
      let resolve ← binary.resolver scope
      return resolve.mapError (.resolverUnavailable binary.path)

/-- Attributes the samples held; stacks are only wanted in functions that were sampled. -/
def attributeSamples (session : Session) :
    ExceptT SessionFault (StateT ProfileMap m) Attribution.Outcome := do
  let map : ProfileMap ← get
  match session.held with
  | none => throw .noSamples
  | some samples =>
      let sampled := map.functions.sampledRanges samples.sampledAddresses
      match ← (session.requireResolver (.within sampled) : m _) with
      | .error fault => throw fault
      | .ok resolve =>
          let (attributed, outcome) := Attribution.addSamples samples resolve map
          set attributed
          return outcome

/-- Reads the hints of a file; a bad line ends the reading and is noted. -/
def readHints (input : String) : m (Except SessionFault (List Hint)) := do
  match ← Workspace.readText input with
  | .error fault => return .error (.hintRead input fault)
  | .ok text =>
      let (hints, bad) := Hint.readAll text
      match bad with
      | none => return .ok hints
      | some line =>
          Workspace.note (.badHint input line)
          return .ok hints

/-- Converts the hints of a file to call targets. -/
def attachHints (session : Session) (input : String) :
    ExceptT SessionFault (StateT ProfileMap m) Prefetch.Outcome := do
  let map : ProfileMap ← get
  match ← (session.requireResolver .everywhere : m _) with
  | .error fault => throw fault
  | .ok resolve =>
      match ← (readHints input : m _) with
      | .error fault => throw fault
      | .ok hints =>
          let (converted, outcome) := Prefetch.convert hints resolve map
          set converted
          return outcome

/-- The profile that a step leaves when it starts from a given one. -/
def filled {Answer : Type} (map : ProfileMap)
    (step : ExceptT SessionFault (StateT ProfileMap m) Answer) :
    m (Except SessionFault ProfileMap) := do
  let (answer, final) ← step.run.run map
  return answer.map fun _ => final

/-- Makes a profile from a file of the kind that a word names. -/
def build (input token : String) : ExceptT SessionFault (StateT Session m) ProfileMap := do
  let kind ← MonadExcept.ofExcept (SourceKind.parse token)
  let session : Session ← get
  let map ← MonadExcept.ofExcept session.emptyMap
  match kind with
  | .prefetch =>
      let hinted := filled { map with ignoreThreshold := true } (session.attachHints input)
      MonadExcept.ofExcept (← (hinted : m _))
  | kind =>
      read input kind
      let session : Session ← get
      MonadExcept.ofExcept (← (filled map session.attributeSamples : m _))

/-- The list of unprofiled symbols that goes with a profile, if one is wanted. -/
def symbolList (session : Session) (listSymbols : Bool) (map : ProfileMap) :
    Except SessionFault (Option (List SymbolList.Entry)) :=
  if listSymbols then
    let entries := SymbolList.exactEntries map.unprofiled session.options.coverage
    (entries.map some).mapError .overflow
  else
    .ok none

/-- Makes a profile and writes it, on demand with the list of unprofiled symbols. -/
def create (input token : String) (format : ReportFormat) (output : String)
    (listSymbols : Bool) : ExceptT SessionFault (StateT Session m) Unit := do
  let map ← build input token
  let session : Session ← get
  let symbols ← MonadExcept.ofExcept (session.symbolList listSymbols map)
  match ← (Workspace.replaceFile output (format.render map symbols).toUTF8 : m _) with
  | .ok () => return ()
  | .error fault => throw (.write output fault)

/-- The total of the samples in a text file, zero if they cannot be read. -/
def textTotal (input : String) : m UInt64 := do
  match ← Samples.readTextFile input with
  | .ok samples => return samples.total
  | .error _ => return 0

/-- Adds the samples of a file to those of a text file, which is made if it is missing. -/
def merge (session : Session) (input token output : String) : m (Except SessionFault Unit) := do
  match SourceKind.parse token with
  | .error fault => return .error fault
  | .ok kind =>
      let held ← if ← Workspace.isFile output then
        Samples.readTextFile output
      else
        pure (.ok {})
      match held with
      | .error fault => return .error (.sampleRead output fault)
      | .ok held =>
          match ← session.samplesOf input kind with
          | .error fault => return .error fault
          | .ok samples =>
              let merged : SampleFile := ⟨output, held.merge samples⟩
              return (← merged.write output).mapError (.write output)

end Session

end SampleProfile
