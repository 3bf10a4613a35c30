import SampleProfile.Binary64.Decimal
import SampleProfile.Report
import SampleProfile.Text.Blank
import SampleProfile.Text.Integer

/-!
# Arguments

A command has options, each known by a long name.  Arguments are read from left to right; the value
of an option stands in the same argument after an equals sign, or in the next one.  A value is
checked as soon as the argument after it has been recognized, so of two faults the one further left
counts.
-/

namespace SampleProfile.CommandLine

/-- Why arguments are refused. -/
inductive UsageFault where
  /-- Help was asked for, which is no mistake. -/
  | helpRequested
  | nothingGiven
  | unknownArgument
  | unknownCommand
  /-- A value is missing, empty where it must not be, or none of those possible. -/
  | badValue
  /-- A value is no number of the kind wanted. -/
  | badNumber
  | valueNotWanted
  | repeated
  | requiredMissing
deriving DecidableEq, Repr

/-- The exit code when arguments are refused. -/
def UsageFault.exitCode : UsageFault → Nat
  | helpRequested => 0
  | _ => 2

/-- What values an option takes. -/
inductive ValueKind where
  /-- None: the option is there or not. -/
  | switch
  /-- A file name, which is not empty. -/
  | path
  | text
  | count
  | fraction
  | format
deriving DecidableEq, Repr

/-- An option of a command. -/
structure OptionSpec where
  name : String
  kind : ValueKind
  required : Bool := false
deriving DecidableEq, Repr

/-- Reads a number of samples. -/
def readCount? (value : String) : Option UInt64 :=
  (Text.readUInt64 10 value.toList).toOption

/-- Reads the name of a format. -/
def readFormat? (value : String) : Option ReportFormat :=
  if value = "text" then some .text
  else if value = "json" then some .json
  else none

/-- Whether an option of a kind takes a value; if not, why. -/
def ValueKind.check (kind : ValueKind) (value : String) : Except UsageFault Unit :=
  match kind with
  | switch => .ok ()
  | text => .ok ()
  | path => if value.isEmpty then .error .badValue else .ok ()
  | count => if (readCount? value).isSome then .ok () else .error .badNumber
  | fraction => if (Binary64.parse? value).isSome then .ok () else .error .badNumber
  | format => if (readFormat? value).isSome then .ok () else .error .badValue

/-- The values given, by option. -/
abbrev Values := List (String × String)

/-- The arguments read so far: values, and an option that may still get one. -/
structure Reading where
  values : Values := []
  pending : Option (OptionSpec × Option String) := none

namespace Reading

/-- Takes up the value of an option. -/
def commit (values : Values) (spec : OptionSpec) (value : Option String) :
    Except UsageFault Values :=
  match value with
  | none => .error .badValue
  | some value =>
      if (values.lookup spec.name).isSome then
        .error .repeated
      else
        (spec.kind.check value).map fun () => (spec.name, value) :: values

/-- Takes up the value of the pending option. -/
def settle (reading : Reading) : Except UsageFault Reading :=
  match reading.pending with
  | none => .ok reading
  | some (spec, value) => (commit reading.values spec value).map fun values => { values }

/-- Reads the name of an option, with the value after an equals sign if there is one. -/
def named (specs : List OptionSpec) (reading : Reading) (name : String)
    (attached : Option String) : Except UsageFault Reading := do
  match specs.find? fun spec => spec.name = name with
  | none =>
      if name ≠ "help" then
        throw .unknownArgument
      if attached.isSome then
        throw .valueNotWanted
      let _ ← reading.settle
      throw .helpRequested
  | some spec =>
      match spec.kind, attached with
      | .switch, some _ => throw .valueNotWanted
      | .switch, none =>
          let settled ← reading.settle
          return { values := ← commit settled.values spec (some "") }
      | _, some value =>
          let settled ← reading.settle
          return { values := ← commit settled.values spec (some value) }
      | _, none =>
          let settled ← reading.settle
          return { settled with pending := some (spec, none) }

end Reading

/-- An argument by its form. -/
inductive Form where
  /-- Two hyphens alone, after which no argument is an option. -/
  | separator
  | long (name : String) (attached : Option String)
  | short (letter : Char)
  | plain
deriving DecidableEq, Repr

/-- The form of an argument. -/
def Form.of (argument : String) : Form :=
  match argument.toList with
  | ['-', '-'] => separator
  | '-' :: '-' :: rest =>
      match Text.cutAt ['='] rest with
      | some (name, value) => long (String.ofList name) (some (String.ofList value))
      | none => long (String.ofList rest) none
  | '-' :: letter :: _ => short letter
  | _ => plain

/-- Reads the arguments of a command that takes nothing but options. -/
def readArguments (specs : List OptionSpec) (reading : Reading) :
    List String → Except UsageFault Values
  | [] => reading.settle.map Reading.values
  | argument :: rest =>
      match Form.of argument with
      | .separator =>
          if rest.isEmpty then
            reading.settle.map Reading.values
          else
            .error .unknownArgument
      | .long name attached =>
          match reading.named specs name attached with
          | .error fault => .error fault
          | .ok next => readArguments specs next rest
      | .short letter =>
          if letter = 'h' then
            match reading.settle with
            | .error fault => .error fault
            | .ok _ => .error .helpRequested
          else
            .error .unknownArgument
      | .plain =>
          match reading.pending with
          | some (spec, none) =>
              readArguments specs { reading with pending := some (spec, some argument) } rest
          | _ => .error .unknownArgument

/-- Reads the arguments of a command, among which its required options must be. -/
def readOptions (specs : List OptionSpec) (arguments : List String) :
    Except UsageFault Values := do
  let values ← readArguments specs {} arguments
  if specs.all fun spec => !spec.required || (values.lookup spec.name).isSome then
    return values
  else
    throw .requiredMissing

end SampleProfile.CommandLine
