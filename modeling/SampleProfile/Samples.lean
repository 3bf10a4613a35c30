import SampleProfile.Count
import SampleProfile.OrderedMap

/-!
# Sample sets

A sample set counts executed address ranges, single addresses and branches of one binary, all by
link-time address.  Merging two sets adds their counts key by key.
-/

namespace SampleProfile

/-- Two addresses in order: the ends of an executed range, or the two sides of a branch. -/
structure AddressPair where
  first : UInt64
  second : UInt64
deriving DecidableEq, Repr

namespace AddressPair

/-- First address before second address. -/
def order : AddressPair → AddressPair → Ordering :=
  compareLex (compareOn first) (compareOn second)

instance : Ord AddressPair := ⟨order⟩

instance : Std.TransOrd AddressPair :=
  inferInstanceAs (Std.TransCmp (compareLex (compareOn first) (compareOn second)))

instance : Std.LawfulEqOrd AddressPair where
  eq_of_compare {left right} equal := by
    have both : (compare left.first right.first).then
        (compare left.second right.second) = .eq := equal
    rw [Ordering.then_eq_eq] at both
    have sameFirst := Std.LawfulEqOrd.eq_of_compare both.1
    have sameSecond := Std.LawfulEqOrd.eq_of_compare both.2
    cases left
    cases right
    simp_all

end AddressPair

/-- Sample counts by address. -/
structure Samples where
  ranges : OrderedMap AddressPair UInt64 := ∅
  addresses : OrderedMap UInt64 UInt64 := ∅
  branches : OrderedMap AddressPair UInt64 := ∅
  /-- The total that was computed last. -/
  total : UInt64 := 0

namespace Samples

/-- The total of the ranges and addresses; branches count the same executions again and are left
out. -/
def computedTotal (samples : Samples) : UInt64 :=
  satSum (samples.ranges.values ++ samples.addresses.values)

/-- The samples with the total brought up to date. -/
def withTotal (samples : Samples) : Samples :=
  { samples with total := samples.computedTotal }

/-- All addresses that occur in the samples, in order. -/
def sampledAddresses (samples : Samples) : List UInt64 :=
  let ends := (samples.ranges.keys ++ samples.branches.keys).flatMap fun pair =>
    [pair.first, pair.second]
  ((samples.addresses.keys ++ ends).foldl
    (fun set address => set.insert address ()) (∅ : OrderedSet UInt64)).keys

/-- Both sets' counts, key by key, with a new total. -/
def merge (left right : Samples) : Samples :=
  withTotal {
    ranges := OrderedMap.unionWith satAdd left.ranges right.ranges
    addresses := OrderedMap.unionWith satAdd left.addresses right.addresses
    branches := OrderedMap.unionWith satAdd left.branches right.branches }

/-- Whether the set holds no counts at all. -/
def isEmpty (samples : Samples) : Bool :=
  samples.ranges.isEmpty && samples.addresses.isEmpty && samples.branches.isEmpty

end Samples

end SampleProfile
