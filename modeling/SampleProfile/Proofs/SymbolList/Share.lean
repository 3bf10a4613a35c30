import SampleProfile.Proofs.Binary64.Order
import SampleProfile.Proofs.SymbolList.Coverage

/-!
# The shortest list that covers a share

With a positive share, and sizes that do not overflow, the list is the shortest beginning of the
ranked entries whose size reaches the share of all ranked entries in double precision.  A larger
share only makes it longer.
-/

namespace SampleProfile.SymbolList

section Ranking

variable (entries : List Entry)

theorem collapse_eq_destutter : collapse entries = entries.destutter NameChanges := by
  cases entries with
  | nil => rfl
  | cons first rest => exact collapse_cons first rest

theorem weight_perm {entries reordered : List Entry} (same : entries.Perm reordered) :
    weight entries = weight reordered :=
  (same.map _).sum_eq

theorem weight_le_of_sublist {part entries : List Entry} (inside : part.Sublist entries) :
    weight part ≤ weight entries := by
  exact (inside.map _).sum_le_sum fun _ _ => Nat.zero_le _

theorem weight_ranked_le : weight (ranked entries) ≤ weight entries := by
  rw [ranked, collapse_eq_destutter]
  calc weight ((entries.mergeSort precedes).destutter NameChanges) ≤
        weight (entries.mergeSort precedes) := weight_le_of_sublist (List.destutter_sublist _ _)
    _ = weight entries := weight_perm (List.mergeSort_perm entries precedes)

end Ranking

/-! ## Targets -/

/-- The size to be reached: a share, of at most one, of all ranked entries. -/
def target (entries : List Entry) (share : Binary64) : Binary64 :=
  Binary64.mul (Binary64.ofNat (weight (ranked entries) % UInt64.size)) (Binary64.min share .one)

section Target

variable {share larger : Binary64}

theorem ofEntries_eq_takeBelow (positive : Binary64.Below .zero share) (entries : List Entry) :
    ofEntries entries share = takeBelow (target entries share) 0 (ranked entries) := by
  rw [ofEntries, if_neg positive.2, target, ← toNat_totalSize]

theorem takeBelow_prefix_of_le {low high : Binary64} (order : Binary64.le low high)
    (covered : UInt64) (entries : List Entry) :
    takeBelow low covered entries <+: takeBelow high covered entries := by
  induction entries generalizing covered with
  | nil => exact List.prefix_refl _
  | cons entry rest inductionHypothesis =>
      rw [takeBelow, takeBelow]
      split
      · exact List.nil_prefix
      · next short =>
        -- What falls short of the lower target falls short of the higher one.
        rw [if_neg fun reached => short (Binary64.le_trans order reached)]
        exact (List.prefix_cons_inj entry).mpr (inductionHypothesis _)

theorem weight_mod_le (entries : List Entry) : weight entries % UInt64.size ≤ 2 ^ 64 :=
  (Nat.mod_lt _ (by decide)).le

/-- A larger share never shortens the list. -/
theorem ofEntries_prefix_of_le (inFormat : share.InFormat) (inFormat' : larger.InFormat)
    (order : Binary64.le share larger) (entries : List Entry) :
    ofEntries entries share <+: ofEntries entries larger := by
  by_cases nonpositive : Binary64.le share .zero
  · rw [ofEntries, if_pos nonpositive]
    exact List.nil_prefix
  · have shareNe : share ≠ .nan := (Binary64.le_iff.mp order).1
    have positive := Binary64.below_of_not_le shareNe (by decide) nonpositive
    rw [ofEntries_eq_takeBelow positive, ofEntries_eq_takeBelow (positive.trans_le order)]
    have targets := Binary64.mul_min_one_le_mul_min_one inFormat inFormat' positive order
      (weight_mod_le (ranked entries))
    exact takeBelow_prefix_of_le targets _ _

/-- With a positive share every shorter beginning falls short of the target, and the list reaches
it. -/
theorem ofEntries_reaches {entries : List Entry} (bounded : weight (ranked entries) < UInt64.size)
    (inFormat : share.InFormat) (positive : Binary64.Below .zero share) :
    (∀ above rest, ofEntries entries share = above ++ rest → rest ≠ [] →
        Binary64.Below (Binary64.ofNat (weight above)) (target entries share)) ∧
      Binary64.le (target entries share) (Binary64.ofNat (weight (ofEntries entries share))) := by
  have atMost : Binary64.le (target entries share) (Binary64.ofNat (weight (ranked entries))) := by
    rw [target, Nat.mod_eq_of_lt bounded]
    exact Binary64.mul_min_one_le inFormat positive bounded.le
  have targetNe : target entries share ≠ .nan := (Binary64.le_iff.mp atMost).1
  have unwrapped {above : List Entry} (beginning : above <+: ranked entries) :
      ((0 : UInt64).toNat + weight above) % UInt64.size = weight above := by
    have aboveLe := weight_le_of_prefix beginning
    rw [UInt64.toNat_zero, Nat.zero_add]
    exact Nat.mod_eq_of_lt (aboveLe.trans_lt bounded)
  have listed := ofEntries_prefix_ranked entries share
  obtain ⟨short, reached⟩ := takeBelow_spec (target entries share) 0 (ranked entries)
  rw [← ofEntries_eq_takeBelow positive] at short reached
  constructor
  · intro above rest split nonempty
    have beginning : above <+: ranked entries :=
      (List.prefix_append above rest).trans (split ▸ listed)
    have aboveLe := weight_le_of_prefix beginning
    have aboveNe := Binary64.ofNat_ne_nan ((aboveLe.trans_lt bounded).trans (by decide))
    rw [← unwrapped beginning] at aboveNe ⊢
    exact Binary64.below_of_not_le targetNe aboveNe (short above rest split nonempty)
  · rcases reached with allListed | reached
    · rw [allListed]
      exact atMost
    · rwa [unwrapped listed] at reached

end Target

/-- A list is the shortest beginning of collapsed entries whose size reaches a share, of at most
one, of all their sizes in double precision. -/
structure Shortest (collapsed : List Entry) (share : Binary64) (listed : List Entry) : Prop where
  beginning : listed <+: collapsed
  short : ∀ above rest, listed = above ++ rest → rest ≠ [] →
    Binary64.Below (Binary64.ofNat (weight above))
      (Binary64.mul (Binary64.ofNat (weight collapsed)) (Binary64.min share .one))
  reaches : Binary64.le
    (Binary64.mul (Binary64.ofNat (weight collapsed)) (Binary64.min share .one))
    (Binary64.ofNat (weight listed))

/-- With a positive share and sizes that do not overflow, the entries are sorted, repeated names
that stand one below the other are collapsed to the first, and the list is the shortest beginning
that reaches the share.  A smaller share gives a beginning of the list. -/
theorem ofEntries_shortest {entries : List Entry} {share : Binary64}
    (bounded : weight entries < 2 ^ 64) (inFormat : share.InFormat)
    (positive : Binary64.Below .zero share) :
    (∃ sorted : List Entry, sorted.Perm entries ∧
      sorted.Pairwise (fun above below => above = below ∨ Outranks above below) ∧
      Shortest (sorted.destutter NameChanges) share (ofEntries entries share)) ∧
    (∀ smaller : Binary64, smaller.InFormat → Binary64.le smaller share →
      ofEntries entries smaller <+: ofEntries entries share) ∧
    exactEntries entries share = .ok (ofEntries entries share) := by
  have rankedEq : ranked entries = (entries.mergeSort precedes).destutter NameChanges :=
    collapse_eq_destutter _
  have rankedBounded : weight (ranked entries) < UInt64.size :=
    (weight_ranked_le entries).trans_lt bounded
  obtain ⟨short, reaches⟩ := ofEntries_reaches rankedBounded inFormat positive
  rw [target, Nat.mod_eq_of_lt rankedBounded] at short reaches
  have shortest : Shortest (ranked entries) share (ofEntries entries share) :=
    ⟨ofEntries_prefix_ranked entries share, short, reaches⟩
  refine ⟨?_, ?_, ?_⟩
  · rw [rankedEq] at shortest
    exact ⟨entries.mergeSort precedes, List.mergeSort_perm entries precedes,
      pairwise_mergeSort_outranks (fun _ _ => precedes_iff) entries, shortest⟩
  · intro smaller inFormat' order
    exact ofEntries_prefix_of_le inFormat' inFormat order entries
  · rw [exactEntries_eq_ite positive.2, if_pos rankedBounded]

/-- The largest size alone lands on the target for a share of six tenths, and half a share is
reached with it. -/
theorem ofEntries_shortest_exact :
    let entries : List Entry := [("large", 60), ("medium", 30), ("small", 10)]
    let share : Binary64 := .finite false 5404319552844595 (-53)
    let half : Binary64 := .finite false (2 ^ 52) (-53)
    weight entries < 2 ^ 64 ∧ share.InFormat ∧ Binary64.Below .zero share ∧
      half.InFormat ∧ Binary64.le half share ∧
      (∃ sorted : List Entry, sorted.Perm entries ∧
        sorted.Pairwise (fun above below => above = below ∨ Outranks above below) ∧
        Shortest (sorted.destutter NameChanges) share (ofEntries entries share)) ∧
      ofEntries entries half <+: ofEntries entries share ∧
      ofEntries entries share = [("large", 60)] := by
  intro entries share half
  have bounded : weight entries < 2 ^ 64 := by decide
  have inFormat : share.InFormat := by decide
  have positive : Binary64.Below .zero share := by decide +kernel
  have halfInFormat : half.InFormat := by decide
  have order : Binary64.le half share := by decide +kernel
  obtain ⟨shortest, shorter, _⟩ := ofEntries_shortest bounded inFormat positive
  refine ⟨bounded, inFormat, positive, halfInFormat, order, shortest,
    shorter half halfInFormat order, ?_⟩
  have sorted : entries.mergeSort precedes = entries := List.mergeSort_of_pairwise (by decide)
  rw [ofEntries, ranked, sorted]
  decide +kernel

end SampleProfile.SymbolList
