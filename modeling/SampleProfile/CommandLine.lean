import SampleProfile.CommandLine.Arguments
import SampleProfile.Session

/-!
# Commands

What can be asked for on a command line: to make a profile, to collect samples in a file, to print a
total, and to print the call graph of a profile.
-/

namespace SampleProfile.CommandLine

/-- What is asked for. -/
inductive Command where
  | create (binary profile profiler output : String) (format : ReportFormat) (options : Options)
      (listSymbols : Bool)
  | merge (profile profiler : String) (binary : Option String) (output : String)
      (focus : Option String)
  | total (profile : String)
  | dump (binary profile profiler : String) (options : Options) (keepMangled : Bool)

/-- The options that decide how profiles are made. -/
def profileOptions : List OptionSpec :=
  [⟨"focus-binary-re", .text, false⟩, ⟨"count-threshold", .count, false⟩,
    ⟨"symbol-list-size-coverage-ratio", .fraction, false⟩]

/-- The options of the command that makes a profile. -/
def createOptions : List OptionSpec :=
  [⟨"binary", .path, true⟩, ⟨"profile", .path, true⟩, ⟨"profiler", .text, false⟩,
    ⟨"out", .path, true⟩, ⟨"format", .format, false⟩, ⟨"store-sym-list", .switch, false⟩] ++
    profileOptions

/-- The options of the command that collects samples. -/
def mergeOptions : List OptionSpec :=
  [⟨"profile", .path, true⟩, ⟨"profiler", .text, false⟩, ⟨"binary", .path, false⟩,
    ⟨"out", .path, true⟩, ⟨"focus-binary-re", .text, false⟩]

/-- The options of the command that prints a total. -/
def totalOptions : List OptionSpec :=
  [⟨"profile", .path, true⟩]

/-- The options of the command that prints a call graph. -/
def dumpOptions : List OptionSpec :=
  [⟨"binary", .path, true⟩, ⟨"profile", .path, true⟩, ⟨"profiler", .text, false⟩,
    ⟨"no-demangle", .switch, false⟩] ++ profileOptions

namespace Values

/-- The value of an option, or another if it was not given. -/
def getD (values : Values) (name otherwise : String) : String :=
  (values.lookup name).getD otherwise

/-- Whether an option was given. -/
def has (values : Values) (name : String) : Bool :=
  (values.lookup name).isSome

/-- How profiles are made, by the options given. -/
def toOptions (values : Values) : Options :=
  let standard : Options := {}
  { focus := values.lookup "focus-binary-re"
    threshold := ((values.lookup "count-threshold").bind readCount?).getD standard.threshold
    coverage := ((values.lookup "symbol-list-size-coverage-ratio").bind Binary64.parse?).getD
      standard.coverage }

/-- The command that makes a profile. -/
def toCreate (values : Values) : Command :=
  .create (getD values "binary" "") (getD values "profile" "")
    (getD values "profiler" SourceKind.perf.token) (getD values "out" "")
    (((values.lookup "format").bind readFormat?).getD .text) (toOptions values)
    (has values "store-sym-list")

/-- The command that collects samples. -/
def toMerge (values : Values) : Command :=
  .merge (getD values "profile" "") (getD values "profiler" SourceKind.text.token)
    (values.lookup "binary") (getD values "out" "") (values.lookup "focus-binary-re")

/-- The command that prints a total. -/
def toTotal (values : Values) : Command :=
  .total (getD values "profile" "")

/-- The command that prints a call graph. -/
def toDump (values : Values) : Command :=
  .dump (getD values "binary" "") (getD values "profile" "")
    (getD values "profiler" SourceKind.perf.token) (toOptions values) (has values "no-demangle")

end Values

/-- The commands by name, each with its options. -/
def commands : List (String × List OptionSpec × (Values → Command)) :=
  [("create", createOptions, Values.toCreate), ("merge", mergeOptions, Values.toMerge),
    ("total", totalOptions, Values.toTotal), ("dump", dumpOptions, Values.toDump)]

/-- The word that asks for help on the commands named after it. -/
def helpWord : String := "help"

/-- Whether a word names a command or asks for help. -/
def isCommandName (word : String) : Bool :=
  word = helpWord || (commands.lookup word).isSome

/-- Answers a request for help, on everything or on one command. -/
def readHelp : List String → UsageFault
  | [] => .helpRequested
  | [word] => if isCommandName word then .helpRequested else .unknownCommand
  | _ => .unknownCommand

/-- Reads a command line without the name of the program. -/
def parse (arguments : List String) : Except UsageFault Command :=
  match arguments with
  | [] => .error .nothingGiven
  | first :: rest =>
      match Form.of first with
      | .separator =>
          match rest with
          | [] => .error .nothingGiven
          | word :: _ => .error (if isCommandName word then .unknownArgument else .unknownCommand)
      | .long name attached =>
          if name ≠ helpWord then .error .unknownArgument
          else if attached.isSome then .error .valueNotWanted
          else .error .helpRequested
      | .short letter => .error (if letter = 'h' then .helpRequested else .unknownArgument)
      | .plain =>
          if first = helpWord then
            .error (readHelp rest)
          else
            match commands.lookup first with
            | none => .error .unknownCommand
            | some (specs, toCommand) => (readOptions specs rest).map toCommand

end SampleProfile.CommandLine
