import SampleProfile.Prefetch.Hint
import SampleProfile.ProfileMap

/-!
# Hints as call targets

Each hint becomes a synthetic call target at its source position, with the delta in place of a
count.  Hints at one address are numbered, so that their targets stay distinct.
-/

namespace SampleProfile.Prefetch

/-- What became of the hints. -/
structure Outcome where
  converted : Nat := 0
  /-- Hints outside every function. -/
  unknownSymbol : Nat := 0
  /-- Hints without a source position. -/
  unplaced : Nat := 0
deriving DecidableEq, Repr

/-- A conversion under way: the profile, how many hints each address has had, and what became of
them. -/
structure Progress where
  map : ProfileMap
  seen : OrderedMap UInt64 UInt32 := ∅
  outcome : Outcome := {}

/-- Converts one hint. -/
def Progress.convert (resolve : UInt64 → Stack) (progress : Progress) (hint : Hint) : Progress :=
  match progress.map.functions.enclosing? hint.address with
  | none =>
      { progress with
        outcome := { progress.outcome with unknownSymbol := progress.outcome.unknownSymbol + 1 } }
  | some symbol =>
      let earlier := progress.seen.getD hint.address 0
      let counted := { progress with seen := progress.seen.insert hint.address (earlier + 1) }
      let unplaced := { progress.outcome with unplaced := progress.outcome.unplaced + 1 }
      match progress.map.ensure? symbol.name hint.address with
      | none => { counted with outcome := unplaced }
      | some ensured =>
          match ensured.setTarget? symbol.name (resolve hint.address)
              (Hint.targetName hint.kind earlier.toNat) (.prefetchDelta hint.delta) with
          | none => { counted with map := ensured, outcome := unplaced }
          | some placed =>
              { counted with
                map := placed
                outcome := { progress.outcome with converted := progress.outcome.converted + 1 } }

/-- Converts hints in order and folds variants of functions afterwards. -/
def convert (hints : List Hint) (resolve : UInt64 → Stack) (map : ProfileMap) :
    ProfileMap × Outcome :=
  let final := hints.foldl (Progress.convert resolve) { map }
  (final.map.foldVariants, final.outcome)

end SampleProfile.Prefetch
