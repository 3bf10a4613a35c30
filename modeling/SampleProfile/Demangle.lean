import SampleProfile.Demangle.Grammar
import SampleProfile.Demangle.Hashed

/-!
# Readable symbol names

Linkage names of either mangling are shown as paths, without hashes and disambiguators.  Endings
that later stages of a compiler have added stay, other names are shown as they are.
-/

namespace SampleProfile.Demangle

/-- The ending that is added to symbols which are renamed when modules are optimised together. -/
def importMark : List Char := ".llvm.".toList

/-- A name without the ending of a renamed symbol. -/
def dropImportEnding (chars : List Char) : List Char :=
  match Text.cutAt importMark chars with
  | some (kept, ending) =>
      if ending.all fun char => char.isDigit || ('A' ≤ char && char ≤ 'F') || char = '@' then
        kept
      else
        chars
  | none => chars

/-- Whether a text behind a mangled symbol may stay there: nothing, or printable characters behind a
point. -/
def isEnding : List Char → Bool
  | [] => true
  | first :: rest => first = '.' && rest.all fun char => 0x21 ≤ char.toNat && char.toNat ≤ 0x7E

/-- The readable form of a name. -/
def display (name : String) : String :=
  let chars := dropImportEnding name.toList
  let demangled :=
    match Hashed.demangle? chars with
    | some answer => some answer
    | none => Grammar.demangle? chars
  match demangled with
  | some (shown, ending) => String.ofList (if isEnding ending then shown ++ ending else chars)
  | none => String.ofList chars

end SampleProfile.Demangle
