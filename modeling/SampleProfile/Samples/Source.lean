import SampleProfile.Capture.FileFormat
import SampleProfile.Samples.TextFormat
import SampleProfile.Workspace

/-!
# Files with samples

Samples are read from text files and from captures.  Text files are also written, so that sample
sets can be collected in them.
-/

namespace SampleProfile

/-- Kinds of input from which a profile is made. -/
inductive SourceKind where
  | perf
  | text
  | prefetch
deriving DecidableEq, Repr

namespace SourceKind

/-- The word for a kind. -/
def token : SourceKind → String
  | perf => "perf"
  | text => "text"
  | prefetch => "prefetch"

/-- The kind for a word. -/
def ofToken? (token : String) : Option SourceKind :=
  [perf, text, prefetch].find? fun kind => kind.token = token

end SourceKind

/-- Why samples could not be read from a file. -/
inductive SampleFault where
  | text (line : Nat) (fault : Samples.TextFault)
  | focusPattern (fault : Pattern.SyntaxFault)
  | capture (fault : Capture.FileFormatFault)
  | file (fault : FileFault)
  | overflow (fault : Overflow)
deriving DecidableEq, Repr

/-- The wording of a fault. -/
def SampleFault.message : SampleFault → String
  | text line fault => "line " ++ toString line ++ ": " ++ fault.message
  | focusPattern fault => "Invalid focus pattern: " ++ fault.message
  | capture fault => fault.message
  | file fault => fault.message
  | overflow fault => fault.message

/-- The wordings of the causes behind a fault. -/
def SampleFault.causes : SampleFault → List String
  | focusPattern fault => [fault.message]
  | _ => []

namespace Samples

variable {m : Type → Type} [Monad m] [Workspace m]

/-- Reads a text file. -/
def readTextFile (path : String) : m (Except SampleFault Samples) := do
  match ← Workspace.readText path with
  | .error fault => return .error (.file fault)
  | .ok text =>
      match parse text with
      | .error (line, fault) => return .error (.text line fault)
      | .ok samples => return .ok samples

/-- Reads the samples of a binary from a capture file.  A directory can be opened but holds no
capture. -/
def readCapture (path : String) (focus : Focus) (segments : List LoadSegment) :
    m (Except SampleFault Samples) := do
  match Pattern.parse focus.pattern with
  | .error fault => return .error (.focusPattern fault)
  | .ok pattern =>
      match ← Workspace.read path with
      | .error .isDirectory => return .error (.capture .unreadable)
      | .error fault => return .error (.file fault)
      | .ok bytes =>
          match Capture.recordsOf bytes with
          | .error fault => return .error (.capture fault)
          | .ok records =>
              let samples := Capture.count ⟨pattern, focus.buildId⟩ segments records
              return samples.mapError .overflow

end Samples

/-- A text file of samples, with the samples held for it. -/
structure SampleFile where
  path : String
  held : Samples := {}

namespace SampleFile

variable {m : Type → Type} [Monad m] [Workspace m]

/-- Reads the file; the samples held before are only given up for those read. -/
def reload : ExceptT SampleFault (StateT SampleFile m) Unit := do
  let file : SampleFile ← get
  match ← (Samples.readTextFile file.path : m _) with
  | .error fault => throw fault
  | .ok samples => set { file with held := samples }

/-- Writes the samples held to a file. -/
def write (file : SampleFile) (path : String) : m (Except WriteFault Unit) :=
  Workspace.replaceFile path file.held.render.toUTF8

end SampleFile

end SampleProfile
