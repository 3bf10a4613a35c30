import SampleProfile.Proofs.OrderedMap
import SampleProfile.Samples

/-!
# Merging sample sets

Merging is commutative and associative.  Every look-up in a merged set, and its total, adds up what
the parts answer.
-/

namespace SampleProfile.Samples

theorem merge_comm (left right : Samples) : left.merge right = right.merge left := by
  simp only [merge, OrderedMap.unionWith_comm satAdd_comm right.ranges,
    OrderedMap.unionWith_comm satAdd_comm right.addresses,
    OrderedMap.unionWith_comm satAdd_comm right.branches]

theorem merge_assoc (first second third : Samples) :
    (first.merge second).merge third = first.merge (second.merge third) := by
  simp only [merge, withTotal, OrderedMap.unionWith_assoc satAdd_assoc]

/-! ## Totals -/

theorem computedTotal_eq_tally (samples : Samples) :
    samples.computedTotal =
      satAdd (tally (fun _ => true) samples.ranges.toList)
        (tally (fun _ => true) samples.addresses.toList) := by
  rw [computedTotal, satSum_append, OrderedMap.values_eq_map_toList,
    OrderedMap.values_eq_map_toList, tally_true, tally_true]

theorem computedTotal_merge (left right : Samples) :
    (left.merge right).computedTotal = satAdd left.computedTotal right.computedTotal := by
  rw [merge]
  simp only [computedTotal_eq_tally, withTotal, OrderedMap.tally_unionWith]
  rw [satAdd_assoc, satAdd_assoc, satAdd_left_comm (tally _ right.ranges.toList)]

/-! ## Many sets -/

section Many

variable (start : Samples) (others : List Samples)

/-- A look-up in sets that were merged one after another adds up what the sets answer. -/
theorem lookup_foldl_merge (lookup : Samples → Option UInt64)
    (lookupMerge : ∀ left right : Samples,
      lookup (left.merge right) = Option.merge satAdd (lookup left) (lookup right)) :
    lookup (others.foldl merge start) = satSum? ((start :: others).filterMap lookup) := by
  have split : ∀ (first : Samples) (rest : List Samples),
      (first :: rest).filterMap lookup = (lookup first).toList ++ rest.filterMap lookup := by
    intro first rest
    cases found : lookup first <;> simp [found]
  induction others generalizing start with
  | nil =>
      rw [split, List.foldl_nil]
      cases lookup start <;> simp [satSum?]
  | cons first rest inductionHypothesis =>
      rw [List.foldl_cons, inductionHypothesis, split, split, split, lookupMerge, satSum?_merge]

theorem computedTotal_foldl_merge :
    (others.foldl merge start).computedTotal =
      satSum ((start :: others).map computedTotal) := by
  induction others generalizing start with
  | nil => simp
  | cons first rest inductionHypothesis =>
      rw [List.foldl_cons, inductionHypothesis]
      simp only [List.map_cons, satSum_cons, computedTotal_merge, satAdd_assoc]

theorem foldl_merge_perm {others reordered : List Samples} (same : others.Perm reordered) :
    others.foldl merge start = reordered.foldl merge start := by
  refine same.foldl_eq' ?_ start
  intro first _ second _ held
  rw [merge_assoc, merge_comm first second, ← merge_assoc]

end Many

/-! ## Sizes -/

/-- In each section the number of entries is a 64-bit number, as is the size of every collection in
memory. -/
structure WordSized (samples : Samples) : Prop where
  ranges : samples.ranges.size < UInt64.size
  addresses : samples.addresses.size < UInt64.size
  branches : samples.branches.size < UInt64.size

theorem WordSized.of_merge {left right : Samples} (sized : (left.merge right).WordSized) :
    left.WordSized where
  ranges := by
    have grows := OrderedMap.size_le_size_unionWith satAdd left.ranges right.ranges
    exact Nat.lt_of_le_of_lt grows sized.ranges
  addresses := by
    have grows := OrderedMap.size_le_size_unionWith satAdd left.addresses right.addresses
    exact Nat.lt_of_le_of_lt grows sized.addresses
  branches := by
    have grows := OrderedMap.size_le_size_unionWith satAdd left.branches right.branches
    exact Nat.lt_of_le_of_lt grows sized.branches

theorem WordSized.of_foldl_merge {start : Samples} {others : List Samples}
    (sized : (others.foldl merge start).WordSized) : start.WordSized := by
  induction others generalizing start with
  | nil => exact sized
  | cons first rest inductionHypothesis => exact (inductionHypothesis sized).of_merge

end SampleProfile.Samples
