import SampleProfile.Proofs.Attribution.Fate
import SampleProfile.Proofs.FunctionTable

/-!
# Restricting stacks to sampled functions

Inline stacks are only wanted in functions that were sampled.  The sampled functions are fewer than
all functions, so that the range with the greatest start up to an address may be another one; but no
sampled address is lost by that, and the profiles come out the same as with the stacks of all
addresses.
-/

namespace SampleProfile

/-- Every address and every end of a range or branch counts as sampled. -/
theorem Samples.mem_sampledAddresses (samples : Samples) (address : UInt64) :
    address ∈ samples.sampledAddresses ↔
      address ∈ samples.addresses ∨
        ∃ pair, (pair ∈ samples.ranges ∨ pair ∈ samples.branches) ∧
          (address = pair.first ∨ address = pair.second) := by
  have run : ∀ (addresses : List UInt64) (set : OrderedSet UInt64),
      address ∈ addresses.foldl (fun set address => set.insert address ()) set ↔
        address ∈ addresses ∨ address ∈ set := by
    intro addresses
    induction addresses with
    | nil => simp
    | cons first rest inductionHypothesis =>
        intro set
        rw [List.foldl_cons, inductionHypothesis, Std.ExtTreeMap.mem_insert, List.mem_cons,
          Std.LawfulEqCmp.compare_eq_iff_eq]
        grind
  rw [sampledAddresses, Std.ExtTreeMap.mem_keys, run]
  simp only [List.mem_append, List.mem_flatMap, Std.ExtTreeMap.mem_keys, List.mem_cons,
    List.not_mem_nil, or_false, Std.ExtTreeMap.not_mem_empty]

/-- The range with the greatest start up to an address is the one that decides. -/
theorem rangesContain_of_greatest {ranges : OrderedMap UInt64 UInt64} {address start size : UInt64}
    (held : ranges[start]? = some size) (below : start ≤ address) (inside : address - start < size)
    (greatest : ∀ other ∈ ranges, other ≤ address → other ≤ start) :
    rangesContain ranges address := by
  have sorted : ranges.toList.Pairwise fun before after => before.1 < after.1 := by
    refine Std.ExtTreeMap.ordered_keys_toList.imp ?_
    intro before after less
    exact Std.compare_eq_lt.mp less
  have last : (ranges.toList.takeWhile fun range => range.1 ≤ address).getLast? =
      some (start, size) := by
    rw [takeWhile_eq_filter sorted, getLast?_filter_eq_some_iff sorted]
    refine ⟨Std.ExtTreeMap.mem_toList_iff_getElem?_eq_some.mpr held, below, ?_⟩
    rintro ⟨other, otherSize⟩ member
    rw [Std.ExtTreeMap.mem_toList_iff_getElem?_eq_some] at member
    exact greatest other (Std.ExtTreeMap.mem_iff_isSome_getElem?.mpr (by rw [member]; rfl))
  simp [rangesContain, last, inside]

/-- The scope of the sampled functions includes every sampled address that a function encloses. -/
theorem includes_sampledRanges (table : FunctionTable) {addresses : List UInt64} {address : UInt64}
    (sampled : address ∈ addresses) {symbol : Symbol}
    (found : table.enclosing? address = some symbol) :
    (Scope.within (table.sampledRanges addresses)).includes address := by
  obtain ⟨member, contained, greatest⟩ := table.enclosing?_eq_some_iff.mp found
  simp only [Symbol.contains, Bool.and_eq_true, decide_eq_true_eq] at contained
  have held : (table.sampledRanges addresses)[symbol.start]? = some symbol.size :=
    table.getElem?_sampledRanges.mpr ⟨address, sampled, symbol, found, rfl, rfl⟩
  refine rangesContain_of_greatest held contained.1 contained.2 ?_
  intro other otherMember below
  obtain ⟨size, otherHeld⟩ := Option.isSome_iff_exists.mp
    (Std.ExtTreeMap.mem_iff_isSome_getElem?.mp otherMember)
  obtain ⟨_, _, leader, leaderFound, rfl, _⟩ := table.getElem?_sampledRanges.mp otherHeld
  exact greatest leader (table.enclosing?_eq_some_iff.mp leaderFound).1 below

namespace Attribution

/-- The fate of an address in no function does not depend on its stack. -/
theorem ofAddress_congr {map : ProfileMap} {resolve other : UInt64 → Stack} {address : UInt64}
    (agree : (map.functions.enclosing? address).isSome → resolve address = other address) :
    Fate.ofAddress map resolve address = Fate.ofAddress map other address := by
  cases found : map.functions.enclosing? address with
  | none => simp [Fate.ofAddress, found]
  | some symbol => simp [Fate.ofAddress, agree (by simp [found])]

/-- Restricting the stacks to the sampled functions changes neither the profiles nor the outcome. -/
theorem addSamples_restrict_sampledRanges (samples : Samples) (resolve : UInt64 → Stack)
    (map : ProfileMap) :
    addSamples samples
        ((Scope.within (map.functions.sampledRanges samples.sampledAddresses)).restrict resolve)
        map =
      addSamples samples resolve map := by
  let scope := Scope.within (map.functions.sampledRanges samples.sampledAddresses)
  have sameFates : fates map (scope.restrict resolve) samples = fates map resolve samples := by
    refine List.map_congr_left fun entry member => ?_
    have sampled : entry.1 ∈ samples.sampledAddresses := by
      rw [Samples.mem_sampledAddresses, Std.ExtTreeMap.mem_iff_isSome_getElem?,
        Std.ExtTreeMap.mem_toList_iff_getElem?_eq_some.mp member]
      exact Or.inl rfl
    have sameFate : Fate.ofAddress map (scope.restrict resolve) entry.1 =
        Fate.ofAddress map resolve entry.1 := by
      refine ofAddress_congr fun enclosed => ?_
      obtain ⟨symbol, found⟩ := Option.isSome_iff_exists.mp enclosed
      exact if_pos (includes_sampledRanges map.functions sampled found)
    rw [sameFate]
  rw [addSamples_eq, addSamples_eq, sameFates]

end Attribution

end SampleProfile
