import SampleProfile.Elf
import SampleProfile.FunctionTable
import SampleProfile.Text.Lossy

/-!
# Function symbols

A file may have two tables of symbols, one for linking and one for loading.  `Elf.functionSymbols`
picks the entries of both that name code of the file, each name once per address, and sorts them so
that of the names of one address the one that describes it best comes first.
-/

namespace SampleProfile.Elf

/-- An entry of a table of symbols. -/
structure SymbolEntry where
  /-- The name, if it is readable text. -/
  name : Option String
  address : UInt64
  size : UInt64
  isFunction : Bool
  /-- Whether what it names is in this file. -/
  isDefined : Bool
  /-- Whether other files can refer to it. -/
  isGlobal : Bool
deriving DecidableEq, Repr

/-- The symbol of an entry that names code of the file. -/
def SymbolEntry.function? (entry : SymbolEntry) : Option Symbol := do
  let name ← entry.name
  if entry.isFunction && entry.isDefined && entry.address ≠ 0 && entry.size ≠ 0 && name ≠ "" then
    return ⟨name, entry.address, entry.size⟩
  else
    none

/-- Whether one symbol belongs before another: by address, then global ones, then shorter names,
then by name. -/
def isBefore (left right : Symbol × Bool) : Bool :=
  if left.1.start ≠ right.1.start then left.1.start < right.1.start
  else if left.2 ≠ right.2 then left.2
  else if left.1.name.utf8ByteSize ≠ right.1.name.utf8ByteSize then
    left.1.name.utf8ByteSize < right.1.name.utf8ByteSize
  else left.1.name ≤ right.1.name

/-- The names met at each address, and the symbols kept, latest first. -/
structure Selection where
  names : OrderedMap UInt64 (List String) := ∅
  kept : List (Symbol × Bool) := []

/-- Keeps a symbol unless its name was met at its address. -/
def Selection.add (selection : Selection) (entry : Symbol × Bool) : Selection :=
  let met := selection.names.getD entry.1.start []
  if met.contains entry.1.name then
    selection
  else
    { names := selection.names.insert entry.1.start (entry.1.name :: met)
      kept := entry :: selection.kept }

/-- Leaves out later symbols with the name and address of an earlier one. -/
def dropRepeated (symbols : List (Symbol × Bool)) : List (Symbol × Bool) :=
  (symbols.foldl Selection.add {}).kept.reverse

/-- The function symbols among entries, each name once per address, in order. -/
def functionsOf (entries : List SymbolEntry) : List Symbol :=
  let symbols := entries.filterMap fun entry =>
    entry.function?.map fun symbol => (symbol, entry.isGlobal)
  ((dropRepeated symbols).mergeSort isBefore).map Prod.fst

namespace Image

/-- Whether a number of a section stands for one of this file. -/
def isOwnSection (number : Nat) : Bool :=
  number ≠ 0 && (number < 0xFF00 || number = 0xFFFF)

/-- Puts together an entry of a table of symbols. -/
def toEntry (image : Image) (texts : Option Section)
    (name information container address size : Nat) :
    SymbolEntry where
  name := (image.text? texts name).bind Text.ofUtf8?
  address := UInt64.ofNat address
  size := UInt64.ofNat size
  isFunction := information % 16 = 2
  isDefined := isOwnSection container
  isGlobal := information / 16 ≠ 0

/-- Reads an entry of a table of symbols. -/
def readSymbol (image : Image) (texts : Option Section) : Reading SymbolEntry := do
  let name ← Reading.number 4
  if image.layout.wide then
    let information ← Reading.number 1
    Reading.skip 1
    let container ← Reading.number 2
    let address ← Reading.number 8
    let size ← Reading.number 8
    return image.toEntry texts name information container address size
  else
    let address ← Reading.number 4
    let size ← Reading.number 4
    let information ← Reading.number 1
    Reading.skip 1
    let container ← Reading.number 2
    return image.toEntry texts name information container address size

/-- The length of an entry of a table of symbols. -/
def symbolSize (image : Image) : Nat :=
  if image.layout.wide then 24 else 16

/-- The entries of the first table of symbols of a kind; an incomplete last entry is left out. -/
def symbolEntries (image : Image) (kind : Nat) : List SymbolEntry :=
  match image.sections.find? fun entry => entry.kind = kind with
  | none => []
  | some table =>
      match image.contents? table, image.linkedTexts table with
      | some cursor, .ok texts =>
          let count := cursor.remaining / image.symbolSize
          ((Reading.times count (image.readSymbol texts) cursor).map Prod.fst).getD []
      | _, _ => []

/-- The function symbols of a file. -/
def functions (image : Image) : List Symbol :=
  functionsOf (image.symbolEntries SectionKind.symbols ++
    image.symbolEntries SectionKind.dynamicSymbols)

end Image

end SampleProfile.Elf
