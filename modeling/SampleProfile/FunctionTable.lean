import SampleProfile.OrderedMap

/-!
# The functions of a binary

A `FunctionTable` lists the function symbols of a binary by start address.  Several names may share
a start; the first one given is canonical and is the one that look-ups by address return.
-/

namespace SampleProfile

/-- A function symbol: the name of the addresses from `start` on, `size` of them. -/
structure Symbol where
  name : String
  start : UInt64
  size : UInt64
deriving DecidableEq, Repr

/-- Whether an address belongs to the function; the range may reach the top of the address space. -/
def Symbol.contains (symbol : Symbol) (address : UInt64) : Bool :=
  symbol.start ≤ address && address - symbol.start < symbol.size

/-- The first symbol at each start address, of a list sorted by start address. -/
def leaders : List Symbol → List Symbol
  | [] => []
  | symbol :: rest =>
      symbol :: leaders (rest.dropWhile fun other => other.start = symbol.start)
termination_by symbols => symbols.length
decreasing_by
  have shorter := (List.dropWhile_sublist
    (fun other : Symbol => decide (other.start = symbol.start))
    (l := rest)).length_le
  simp only [List.length_cons]
  omega

/-- How many leading entries of a row, of which the first `high` are in question and the first `low`
are known to pass, pass a test that holds exactly on an initial part. -/
def partitionPoint {Entry : Type} (passes : Entry → Bool) (entries : Array Entry)
    (low high : Nat) : Nat :=
  if _bounded : low < high then
    let middle := (low + high) / 2
    match entries[middle]? with
    | some entry =>
        if passes entry then
          partitionPoint passes entries (middle + 1) high
        else
          partitionPoint passes entries low middle
    | none => partitionPoint passes entries low middle
  else
    low
termination_by high - low
decreasing_by all_goals omega

/-- All function symbols, by start address and in the given order within one address. -/
structure FunctionTable where
  symbols : List Symbol
  sorted : symbols.Pairwise fun left right => left.start ≤ right.start
  /-- The canonical symbol of each start address. -/
  canonical : Array Symbol
  canonical_eq : canonical = (leaders symbols).toArray := by rfl
deriving DecidableEq

namespace FunctionTable

theorem pairwise_mergeSort_start (symbols : List Symbol) :
    (symbols.mergeSort fun left right => left.start ≤ right.start).Pairwise
      fun left right => left.start ≤ right.start := by
  have ordered := @List.pairwise_mergeSort Symbol
    (fun left right => decide (left.start ≤ right.start))
    (fun first second third before after => by
      simp only [decide_eq_true_eq] at before after ⊢
      exact UInt64.le_trans before after)
    (fun left right => by
      simp only [Bool.or_eq_true, decide_eq_true_eq]
      exact UInt64.le_total left.start right.start)
    symbols
  simpa only [decide_eq_true_eq] using ordered

/-- Sorts the symbols by start address; symbols of one address keep their order. -/
def ofList (symbols : List Symbol) : FunctionTable where
  symbols := symbols.mergeSort fun left right => left.start ≤ right.start
  sorted := pairwise_mergeSort_start symbols
  canonical := (leaders (symbols.mergeSort fun left right => left.start ≤ right.start)).toArray

/-- The canonical symbol at the greatest start not above the address, if it contains the address. -/
def enclosing? (table : FunctionTable) (address : UInt64) : Option Symbol :=
  let above := partitionPoint (fun symbol : Symbol => symbol.start ≤ address)
    table.canonical 0 table.canonical.size
  if above = 0 then
    none
  else
    table.canonical[above - 1]?.filter fun symbol => symbol.contains address

/-- The lowest start address of a name. -/
def startOf? (table : FunctionTable) (name : String) : Option UInt64 :=
  (table.symbols.find? fun symbol => symbol.name = name).map Symbol.start

/-- Start and size of every function that contains one of the addresses. -/
def sampledRanges (table : FunctionTable) (addresses : List UInt64) :
    OrderedMap UInt64 UInt64 :=
  (addresses.filterMap table.enclosing?).foldl
    (fun ranges symbol => ranges.insert symbol.start symbol.size) ∅

end FunctionTable

end SampleProfile
