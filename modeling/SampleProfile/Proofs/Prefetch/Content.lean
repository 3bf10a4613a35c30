import SampleProfile.Proofs.Prefetch.Entries

/-!
# The profiles a conversion makes

If no name stands for functions at two addresses, a profile map made from hints can be read off the
hints: which functions it has, which targets they have, and which hint each target belongs to
(`convert_content`).
-/

namespace SampleProfile

/-- No samples are counted anywhere. -/
structure FunctionProfile.Unsampled (profile : FunctionProfile) : Prop where
  total_eq : ∀ (path : Path) (node : Node), profile.nodes[path]? = some node → node.total = 0
  head_eq : ∀ (path : Path) (node : Node), profile.nodes[path]? = some node → node.head = 0
  count_eq : ∀ (path : Path) (node : Node) (offset : LineOffset) (position : Position),
    profile.nodes[path]? = some node → node.positions[offset]? = some position →
      position.count = .execution 0

theorem FunctionProfile.Counts.unsampled {profile : FunctionProfile} (counts : profile.Counts []) :
    profile.Unsampled where
  total_eq path node held := by
    rw [← nodeAt_of_getElem? held, counts.total_eq, tally_nil]
  head_eq path node held := by
    rw [← nodeAt_of_getElem? held, counts.head_eq, tally_nil]
    exact ite_self 0
  count_eq path node offset position held found := by
    have counted := counts.countAt_eq ⟨path, offset⟩
    simpa only [countAt, nodeAt_of_getElem? held, found, Option.getD_some, tally_nil] using counted

namespace Prefetch

/-- What is stored for a hint behind others: its delta in the slot of its function and source
position, unless there is no such function or position. -/
def placement? (table : FunctionTable) (resolve : UInt64 → Stack) (earlier : List Hint)
    (hint : Hint) : Option Filing :=
  match table.enclosing? hint.address, (resolve hint.address).place? with
  | some symbol, some place =>
      some {
        slot := { function := symbol.name, place, target := Hint.nameAfter earlier hint }
        delta := hint.delta }
  | _, _ => none

def placements (table : FunctionTable) (resolve : UInt64 → Stack) (hints : List Hint) :
    List Filing :=
  (occasions hints).filterMap fun occasion => placement? table resolve occasion.1 occasion.2

theorem placement?_eq_some_iff {table : FunctionTable} {resolve : UInt64 → Stack}
    {earlier : List Hint} {hint : Hint} {filing : Filing} :
    placement? table resolve earlier hint = some filing ↔
      ∃ symbol place, table.enclosing? hint.address = some symbol ∧
        (resolve hint.address).place? = some place ∧
        filing = ⟨⟨symbol.name, place, Hint.nameAfter earlier hint⟩, hint.delta⟩ := by
  rw [placement?]
  cases table.enclosing? hint.address with
  | none => simp
  | some symbol =>
      cases (resolve hint.address).place? with
      | none => simp
      | some place => simp [eq_comm]

section Unique

variable {table : FunctionTable} (unique : table.UniqueNames) (resolve : UInt64 → Stack)

include unique

theorem function?_ofHint_eq (earlier : List Hint) (hint : Hint) :
    (Fate.ofHint table resolve earlier hint).function? =
      (table.enclosing? hint.address).map Symbol.name := by
  rw [Fate.ofHint]
  cases found : table.enclosing? hint.address with
  | none => rfl
  | some symbol =>
      have opened := any_opens found (unique.firstOfName symbol found) earlier
      simp only [opened, if_true]
      cases (resolve hint.address).place? <;> rfl

theorem filing?_ofHint_eq {hints earlier : List Hint} {hint : Hint}
    (few : hints.length < UInt32.size) (occasion : (earlier, hint) ∈ occasions hints) :
    (Fate.ofHint table resolve earlier hint).filing? = placement? table resolve earlier hint := by
  refine Option.ext fun filing => ?_
  rw [filing?_ofHint, placement?_eq_some_iff, Hint.countAt_mod_size few occasion]
  constructor
  · rintro ⟨symbol, place, found, placed, _, rfl⟩
    exact ⟨symbol, place, found, placed, rfl⟩
  · rintro ⟨symbol, place, found, placed, rfl⟩
    have opened := any_opens found (unique.firstOfName symbol found) earlier
    exact ⟨symbol, place, found, placed, opened, rfl⟩

theorem exists_function?_fates {hints : List Hint} {passes : String → Bool} :
    (∃ fate ∈ fates table resolve hints, fate.function?.any passes) ↔
      ∃ hint ∈ hints, ∃ symbol, table.enclosing? hint.address = some symbol ∧
        passes symbol.name := by
  have opened : ∀ (earlier : List Hint) (hint : Hint),
      (Fate.ofHint table resolve earlier hint).function?.any passes ↔
        ∃ symbol, table.enclosing? hint.address = some symbol ∧ passes symbol.name := by
    intro earlier hint
    rw [function?_ofHint_eq unique, Option.any_map, Option.any_eq_true]
  constructor
  · rintro ⟨fate, settled, passed⟩
    obtain ⟨⟨earlier, hint⟩, member, rfl⟩ := List.mem_map.mp settled
    have listed : hint ∈ (occasions hints).map Prod.snd := List.mem_map_of_mem member
    rw [map_snd_occasions] at listed
    exact ⟨hint, listed, (opened earlier hint).mp passed⟩
  · rintro ⟨hint, listed, enclosed⟩
    rw [← map_snd_occasions hints] at listed
    obtain ⟨⟨earlier, _⟩, member, rfl⟩ := List.mem_map.mp listed
    exact ⟨_, List.mem_map_of_mem member, (opened earlier _).mpr enclosed⟩

theorem filings_fates {hints : List Hint} (few : hints.length < UInt32.size) :
    filings (fates table resolve hints) = placements table resolve hints := by
  rw [filings, fates, List.filterMap_map]
  refine List.filterMap_congr fun occasion member => ?_
  exact filing?_ofHint_eq unique resolve few member

end Unique

theorem mem_placements {table : FunctionTable} {resolve : UInt64 → Stack} {hints : List Hint}
    {filing : Filing} :
    filing ∈ placements table resolve hints ↔
      ∃ earlier hint later symbol place, hints = earlier ++ hint :: later ∧
        table.enclosing? hint.address = some symbol ∧
        (resolve hint.address).place? = some place ∧
        filing = ⟨⟨symbol.name, place, Hint.nameAfter earlier hint⟩, hint.delta⟩ := by
  rw [placements, List.mem_filterMap]
  constructor
  · rintro ⟨⟨earlier, hint⟩, member, stored⟩
    obtain ⟨later, split⟩ := (mem_occasions_iff hints).mp member
    obtain ⟨symbol, place, stored⟩ := placement?_eq_some_iff.mp stored
    exact ⟨earlier, hint, later, symbol, place, split, stored⟩
  · rintro ⟨earlier, hint, later, symbol, place, split, stored⟩
    refine ⟨(earlier, hint), (mem_occasions_iff hints).mpr ⟨later, split⟩, ?_⟩
    exact placement?_eq_some_iff.mpr ⟨symbol, place, stored⟩

/-- With no name at two addresses and fewer hints than numbers, the names of the profiles are those
of the functions around hints, nothing is counted, and there is a target for a hint with a stack
under its type and the number of hints before it at its address.  Its delta is that of the last hint
in the first variant among the hints for it, and the hints at one address have different targets. -/
theorem convert_content (hints : List Hint) (resolve : UInt64 → Stack) (map : ProfileMap)
    (unique : map.functions.UniqueNames) (few : hints.length < UInt32.size) :
    let profiles := (convert hints resolve { map with profiles := ∅ }).1.profiles
    (∀ name, name ∈ profiles ↔
      ∃ hint ∈ hints, ∃ symbol, map.functions.enclosing? hint.address = some symbol ∧
        Suffix.elide map.markers symbol.name = name) ∧
    ProfileMap.Forall FunctionProfile.Unsampled profiles ∧
    (∀ slot, slot ∈ ProfileMap.slots profiles ↔
      ∃ earlier hint later symbol place, hints = earlier ++ hint :: later ∧
        map.functions.enclosing? hint.address = some symbol ∧
        (resolve hint.address).place? = some place ∧
        slot = ⟨Suffix.elide map.markers symbol.name, place, Hint.nameAfter earlier hint⟩) ∧
    (∀ slot, ProfileMap.targetAt? profiles slot =
      (prevailing? ((placements map.functions resolve hints).filter fun filing =>
        filing.slot.elide map.markers = slot)).map fun filing => .prefetchDelta filing.delta) ∧
    (occasions hints).Pairwise fun left right =>
      left.2.address = right.2.address →
        Hint.nameAfter left.1 left.2 ≠ Hint.nameAfter right.1 right.2 := by
  intro profiles
  have targets : ∀ slot, ProfileMap.targetAt? profiles slot = _ :=
    targetAt?_convert hints resolve map
  simp only [filings_fates unique resolve few] at targets
  refine ⟨fun name => ?_, ?_, fun slot => ?_, targets, Hint.pairwise_nameAfter hints⟩
  · rw [mem_convert, exists_function?_fates unique]
    simp only [decide_eq_true_eq]
  · intro name profile held
    exact (counts_convert hints resolve map name profile held).unsampled
  · rw [ProfileMap.mem_slots, targets, Option.isSome_map, prevailing?_isSome]
    simp only [List.mem_filter, mem_placements, decide_eq_true_eq]
    constructor
    · rintro ⟨_, ⟨earlier, hint, later, symbol, place, split, inside, placed, rfl⟩, rfl⟩
      exact ⟨earlier, hint, later, symbol, place, split, inside, placed, rfl⟩
    · rintro ⟨earlier, hint, later, symbol, place, split, inside, placed, rfl⟩
      exact ⟨_, ⟨earlier, hint, later, symbol, place, split, inside, placed, rfl⟩, rfl⟩

/-- Both parts of a function prefetch for a function inlined into it, and the first part for itself.
-/
theorem convert_content_splitFunction :
    let hints : List Hint :=
      [⟨0x1004, 64, "T0"⟩, ⟨0x1008, -32, "T0"⟩, ⟨0x2004, 8, "T0"⟩, ⟨0x1004, 1, "T0_0,7"⟩,
        ⟨0x100c, 5, "T0"⟩]
    let resolve : UInt64 → Stack := fun address =>
      if address = 0x100c then [⟨"foo", 10, 12, 0⟩]
      else [⟨"leaf", 1, 2, 0⟩, ⟨"helper", 100, 105, 0⟩, ⟨"foo", 10, 14, 0⟩]
    let profiles := (convert hints resolve { splitFunction with profiles := ∅ }).1.profiles
    let inlined := Slot.mk "foo" ⟨[⟨⟨4, 0⟩, "helper"⟩, ⟨⟨5, 0⟩, "leaf"⟩], ⟨1, 0⟩⟩
    let alone := Slot.mk "foo" ⟨[], ⟨2, 0⟩⟩
    splitFunction.functions.UniqueNames ∧ hints.length < UInt32.size ∧
      ProfileMap.targetAt? profiles (inlined "__prefetch_T0_0") = some (.prefetchDelta (-32)) ∧
      ProfileMap.targetAt? profiles (inlined "__prefetch_T0_0,7_1") = some (.prefetchDelta 1) ∧
      ProfileMap.targetAt? profiles (alone "__prefetch_T0_0") = some (.prefetchDelta 5) := by
  intro hints resolve profiles inlined alone
  have unique : splitFunction.functions.UniqueNames := by decide +kernel
  have few : hints.length < UInt32.size := by decide
  obtain ⟨_, _, _, value, _⟩ := convert_content hints resolve splitFunction unique few
  refine ⟨unique, few, (value _).trans ?_, (value _).trans ?_, (value _).trans ?_⟩
  all_goals decide +kernel

end Prefetch

end SampleProfile
