import SampleProfile.CommandLine

/-!
# How the program is used

What is printed when arguments are refused or help is asked for.
-/

namespace SampleProfile.CommandLine

/-- The wording of a fault. -/
def UsageFault.message : UsageFault → String
  | helpRequested => ""
  | nothingGiven => "no command was given"
  | unknownArgument => "an argument is not known"
  | unknownCommand => "the command is not known"
  | badValue => "the value of an option is missing or not possible"
  | badNumber => "the value of an option is no number of the kind wanted"
  | valueNotWanted => "an option takes no value"
  | repeated => "an option was given twice"
  | requiredMissing => "a required option is missing"

/-- What stands for the value of an option. -/
def ValueKind.placeholder : ValueKind → String
  | switch => ""
  | path => " <file>"
  | text => " <text>"
  | count => " <number>"
  | fraction => " <ratio>"
  | format => " <text|json>"

/-- An option with its value, in brackets unless it is required. -/
def OptionSpec.usage (spec : OptionSpec) : String :=
  let plain := "--" ++ spec.name ++ spec.kind.placeholder
  if spec.required then plain else "[" ++ plain ++ "]"

/-- A line for each command with its options. -/
def usage : String :=
  let lines := commands.map fun entry =>
    "  " ++ String.intercalate " " (entry.1 :: entry.2.1.map OptionSpec.usage) ++ "\n"
  "Usage:\n" ++ String.join lines

end SampleProfile.CommandLine
