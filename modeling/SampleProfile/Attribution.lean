import SampleProfile.ProfileMap
import SampleProfile.Samples

/-!
# Attribution of samples

Every sampled address is attributed to the function that encloses it, at the place of its inline
stack.  Samples at the first instruction of a function also count as its entries, except for
variants, whose first instruction is no entry.
-/

namespace SampleProfile

/-- The addresses of which inline stacks are wanted: all, or those inside given functions. -/
inductive Scope where
  | everywhere
  /-- Sizes of the functions by start address. -/
  | within (ranges : OrderedMap UInt64 UInt64)

/-- Whether the range with the greatest start not above the address contains it. -/
def rangesContain (ranges : OrderedMap UInt64 UInt64) (address : UInt64) : Bool :=
  match (ranges.toList.takeWhile fun range => range.1 ≤ address).getLast? with
  | some range => address - range.1 < range.2
  | none => false

/-- Whether stacks are wanted for an address. -/
def Scope.includes : Scope → UInt64 → Bool
  | everywhere, _ => true
  | within ranges, address => rangesContain ranges address

/-- Leaves the stacks of all addresses outside the scope empty. -/
def Scope.restrict (scope : Scope) (resolve : UInt64 → Stack) (address : UInt64) : Stack :=
  if scope.includes address then resolve address else []

namespace Attribution

/-- What became of the samples. -/
structure Outcome where
  addresses : Nat := 0
  samples : UInt64 := 0
  /-- Addresses outside every function. -/
  unknownSymbol : Nat := 0
  /-- Addresses without a source position. -/
  emptyStack : Nat := 0
deriving DecidableEq, Repr

/-- An attribution under way. -/
structure Progress where
  map : ProfileMap
  outcome : Outcome := {}

/-- Attributes the samples of one address. -/
def Progress.addAddress (resolve : UInt64 → Stack) (progress : Progress)
    (address count : UInt64) : Progress :=
  let outcome := progress.outcome
  match progress.map.functions.enclosing? address with
  | none => { progress with outcome := { outcome with unknownSymbol := outcome.unknownSymbol + 1 } }
  | some symbol =>
      let atEntry := symbol.start = address &&
        !Suffix.isVariant progress.map.markers symbol.name
      match progress.map.record? symbol.name (resolve address) count atEntry with
      | none => { progress with outcome := { outcome with emptyStack := outcome.emptyStack + 1 } }
      | some map =>
          { map
            outcome := { outcome with
              addresses := outcome.addresses + 1
              samples := satAdd outcome.samples count } }

/-- Attributes the address counts in order of their addresses and folds variants of functions
afterwards. -/
def addSamples (samples : Samples) (resolve : UInt64 → Stack) (map : ProfileMap) :
    ProfileMap × Outcome :=
  let final := samples.addresses.toList.foldl
    (fun progress entry => Progress.addAddress resolve progress entry.1 entry.2)
    { map : Progress }
  (final.map.foldVariants, final.outcome)

end Attribution

end SampleProfile
