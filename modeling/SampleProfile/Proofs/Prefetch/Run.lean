import SampleProfile.Proofs.Prefetch.Fate
import SampleProfile.Proofs.ProfileMap.Consistency

/-!
# What a conversion leaves

A conversion files deltas in slots and folds variants at the end.  Until then the last delta filed
in a slot stands there; of the variants that hold a delta for one slot of the base name, the first
in the order of names prevails (`targetAt?_convert`).  No step of a conversion counts a sample.
-/

namespace SampleProfile

/-- The slot in the profile of the name without its variant ending. -/
def Slot.elide (markers : List String) (slot : Slot) : Slot :=
  { slot with function := Suffix.elide markers slot.function }

theorem Slot.elide_eq_iff {markers : List String} {slot folded : Slot} :
    slot.elide markers = folded ↔
      Suffix.elide markers slot.function = folded.function ∧
        slot = { folded with function := slot.function } := by
  obtain ⟨function, place, target⟩ := slot
  obtain ⟨foldedFunction, foldedPlace, foldedTarget⟩ := folded
  simp [elide]

namespace Prefetch

/-- What the fates of hints store, in order. -/
def filings (fates : List Fate) : List Filing :=
  fates.filterMap Fate.filing?

/-! ## Profiles before folding -/

section Enter

variable (fates : List Fate) (profiles : OrderedMap String FunctionProfile)

theorem mem_foldl_enter (name : String) :
    name ∈ fates.foldl (fun held fate => fate.enter held) profiles ↔
      (∃ fate ∈ fates, fate.function? = some name) ∨ name ∈ profiles := by
  induction fates generalizing profiles with
  | nil => simp
  | cons fate rest inductionHypothesis =>
      rw [List.foldl_cons, inductionHypothesis, mem_enter]
      simp only [List.mem_cons, exists_eq_or_imp]
      rw [or_left_comm, or_assoc]

theorem counts_foldl_enter (uncounted : ProfileMap.Forall (·.Counts []) profiles) :
    ProfileMap.Forall (·.Counts [])
      (fates.foldl (fun held fate => fate.enter held) profiles) := by
  induction fates generalizing profiles with
  | nil => exact uncounted
  | cons fate rest inductionHypothesis =>
      rw [List.foldl_cons]
      apply inductionHypothesis
      cases fate with
      | unknownSymbol => exact uncounted
      | nameTaken => exact uncounted
      | emptyStack function =>
          exact uncounted.update function FunctionProfile.counts_empty fun _ counts => counts
      | filed filing =>
          exact uncounted.update filing.slot.function FunctionProfile.counts_empty
            fun _ counts => counts.setTarget _ _ _

theorem targetAt?_enter (fate : Fate) (slot : Slot) :
    ProfileMap.targetAt? (fate.enter profiles) slot =
      (fate.filing?.bind fun filing =>
        if filing.slot = slot then some (.prefetchDelta filing.delta) else none).or
          (ProfileMap.targetAt? profiles slot) := by
  cases fate with
  | unknownSymbol => rfl
  | nameTaken => rfl
  | emptyStack function => exact ProfileMap.targetAt?_update_id profiles function slot
  | filed filing =>
      rw [Fate.enter, ProfileMap.targetAt?_store]
      by_cases here : filing.slot = slot <;> simp [Fate.filing?, here]

theorem filings_concat (fate : Fate) :
    filings (fates ++ [fate]) = filings fates ++ fate.filing?.toList := by
  rw [filings, List.filterMap_append]
  cases stored : fate.filing? <;> simp [filings, stored]

theorem targetAt?_foldl_enter (slot : Slot) :
    ProfileMap.targetAt? (fates.foldl (fun held fate => fate.enter held) ∅) slot =
      ((filings fates).filter fun filing => filing.slot = slot).getLast?.map fun filing =>
        .prefetchDelta filing.delta := by
  induction fates using List.reverseRecOn with
  | nil => simp [filings]
  | append_singleton earlier fate inductionHypothesis =>
      rw [List.foldl_append, List.foldl_cons, List.foldl_nil, targetAt?_enter,
        inductionHypothesis, filings_concat, List.filter_append]
      cases fate.filing? with
      | none => simp
      | some filing => by_cases here : filing.slot = slot <;> simp [here]

end Enter

/-! ## The filing that prevails -/

/-- Of several filings the ones under the first function name, and of these the last. -/
def prevailing? (filings : List Filing) : Option Filing :=
  (filings.filter fun filing =>
    filings.all fun other => filing.slot.function ≤ other.slot.function).getLast?

theorem exists_first_function {filings : List Filing} (nonempty : filings ≠ []) :
    ∃ first ∈ filings, ∀ other ∈ filings, first.slot.function ≤ other.slot.function := by
  induction filings with
  | nil => exact absurd rfl nonempty
  | cons filing rest inductionHypothesis =>
      by_cases alone : rest = []
      · subst alone
        exact ⟨filing, by simp, by simp⟩
      · obtain ⟨first, member, least⟩ := inductionHypothesis alone
        by_cases before : filing.slot.function ≤ first.slot.function
        · refine ⟨filing, List.mem_cons_self, ?_⟩
          intro other otherMember
          rcases List.mem_cons.mp otherMember with rfl | later
          · exact String.le_refl _
          · exact String.le_trans before (least other later)
        · refine ⟨first, List.mem_cons_of_mem _ member, ?_⟩
          intro other otherMember
          rcases List.mem_cons.mp otherMember with rfl | later
          · exact (String.le_total _ _).resolve_left before
          · exact least other later

theorem prevailing?_isSome {filings : List Filing} :
    (prevailing? filings).isSome ↔ ∃ filing, filing ∈ filings := by
  rw [prevailing?, List.getLast?_isSome]
  constructor
  · intro nonempty
    obtain ⟨filing, kept⟩ := List.exists_mem_of_ne_nil _ nonempty
    exact ⟨filing, (List.mem_filter.mp kept).1⟩
  · rintro ⟨filing, member⟩
    obtain ⟨first, firstMember, least⟩ := exists_first_function (List.ne_nil_of_mem member)
    refine List.ne_nil_of_mem (List.mem_filter.mpr ⟨firstMember, ?_⟩)
    simpa using least

theorem findSome?_of_first {Value : Type} {names : List String} {answer : String → Option Value}
    (sorted : names.Pairwise fun before after => before < after) {name : String}
    (member : name ∈ names) (answers : (answer name).isSome)
    (first : ∀ other ∈ names, other < name → answer other = none) :
    names.findSome? answer = answer name := by
  obtain ⟨value, found⟩ := Option.isSome_iff_exists.mp answers
  induction names with
  | nil => simp at member
  | cons other rest inductionHypothesis =>
      rw [List.pairwise_cons] at sorted
      rcases List.mem_cons.mp member with rfl | later
      · rw [List.findSome?_cons, found]
      · have before := sorted.1 name later
        rw [List.findSome?_cons, first other List.mem_cons_self before]
        exact inductionHypothesis sorted.2 later fun another anotherMember =>
          first another (List.mem_cons_of_mem _ anotherMember)

/-- The filings for one slot of a base name, of which one under the first name is known. -/
theorem prevailing?_eq_getLast? {markers : List String} {slot : Slot} {stored : List Filing}
    {first : Filing} (member : first ∈ stored) (elided : first.slot.elide markers = slot)
    (least : ∀ other ∈ stored, other.slot.elide markers = slot →
      first.slot.function ≤ other.slot.function) :
    prevailing? (stored.filter fun filing => filing.slot.elide markers = slot) =
      (stored.filter fun filing =>
        filing.slot = { slot with function := first.slot.function }).getLast? := by
  rw [prevailing?, List.filter_filter]
  congr 1
  refine List.filter_congr fun filing filed => ?_
  rw [Bool.eq_iff_iff, Bool.and_eq_true, List.all_eq_true]
  simp only [List.mem_filter, decide_eq_true_eq, and_imp]
  have elidedFunction : Suffix.elide markers first.slot.function = slot.function := by
    rw [← elided]
    rfl
  constructor
  · rintro ⟨lower, same⟩
    have function : filing.slot.function = first.slot.function :=
      String.le_antisymm (lower first member elided) (least filing filed same)
    rw [← function, ← same]
    rfl
  · intro same
    refine ⟨fun other otherMember otherElided => ?_, ?_⟩
    · rw [same]
      exact least other otherMember otherElided
    · rw [same, Slot.elide, elidedFunction]

/-- Going through the names of variants in order and taking the last filing of the first that has
any finds the filing that prevails. -/
theorem findSome?_variants {markers : List String} {slot : Slot} {stored : List Filing}
    {names : List String} (sorted : names.Pairwise fun before after => before < after)
    (complete : ∀ filing ∈ stored, filing.slot.function ∈ names) :
    ((names.filter fun name => Suffix.elide markers name = slot.function).findSome? fun name =>
        (stored.filter fun filing => filing.slot = { slot with function := name }).getLast?) =
      prevailing? (stored.filter fun filing => filing.slot.elide markers = slot) := by
  -- Either nothing was filed for the slot, or some variant comes first among those that hold
  -- something for it.
  by_cases noneFiled : (stored.filter fun filing => filing.slot.elide markers = slot) = []
  · rw [noneFiled]
    refine List.findSome?_eq_none_iff.mpr fun name listed => ?_
    have elided : Suffix.elide markers name = slot.function := by
      simpa using (List.mem_filter.mp listed).2
    rw [List.getLast?_eq_none_iff, List.filter_eq_nil_iff]
    rw [List.filter_eq_nil_iff] at noneFiled
    intro filing filed here
    refine noneFiled filing filed ?_
    simp only [decide_eq_true_eq] at here ⊢
    rw [here, Slot.elide, elided]
  · obtain ⟨first, candidate, least⟩ := exists_first_function noneFiled
    simp only [List.mem_filter, decide_eq_true_eq, and_imp] at candidate least
    obtain ⟨filed, elided⟩ := candidate
    obtain ⟨elidedName, here⟩ := Slot.elide_eq_iff.mp elided
    rw [prevailing?_eq_getLast? filed elided least]
    refine findSome?_of_first (sorted.filter _) ?_ ?_ ?_
    · exact List.mem_filter.mpr ⟨complete first filed, by simpa using elidedName⟩
    · have found : first ∈ stored.filter fun filing =>
          filing.slot = { slot with function := first.slot.function } :=
        List.mem_filter.mpr ⟨filed, decide_eq_true here⟩
      exact List.getLast?_isSome.mpr (List.ne_nil_of_mem found)
    · intro other listed beforeFirst
      have elidedOther : Suffix.elide markers other = slot.function := by
        simpa using (List.mem_filter.mp listed).2
      rw [List.getLast?_eq_none_iff, List.filter_eq_nil_iff]
      intro filing filedThere there
      simp only [decide_eq_true_eq] at there
      have lower := least filing filedThere (by rw [there, Slot.elide, elidedOther])
      rw [there] at lower
      exact lower beforeFirst

/-! ## Whole conversions -/

section Convert

variable (hints : List Hint) (resolve : UInt64 → Stack) (map : ProfileMap)

theorem fst_convert :
    (convert hints resolve { map with profiles := ∅ }).1 =
      ProfileMap.foldVariants { map with
        profiles := (fates map.functions resolve hints).foldl
          (fun held fate => fate.enter held) ∅ } := by
  obtain ⟨_, sameMap, _⟩ := foldl_convert hints resolve map
  rw [convert, sameMap]

theorem snd_convert :
    (convert hints resolve { map with profiles := ∅ }).2 =
      (fates map.functions resolve hints).foldl (fun outcome fate => fate.report outcome) {} := by
  obtain ⟨_, _, sameOutcome⟩ := foldl_convert hints resolve map
  rw [convert, sameOutcome]

theorem mem_convert (name : String) :
    name ∈ (convert hints resolve { map with profiles := ∅ }).1.profiles ↔
      ∃ fate ∈ fates map.functions resolve hints,
        fate.function?.any fun variant => Suffix.elide map.markers variant = name := by
  rw [fst_convert, ProfileMap.mem_foldVariants]
  simp only [mem_foldl_enter, Std.ExtTreeMap.not_mem_empty, or_false, Option.any_eq_true,
    decide_eq_true_eq]
  constructor
  · rintro ⟨variant, ⟨fate, member, found⟩, same⟩
    exact ⟨fate, member, variant, found, same⟩
  · rintro ⟨fate, member, variant, found, same⟩
    exact ⟨variant, ⟨fate, member, found⟩, same⟩

theorem counts_convert :
    ProfileMap.Forall (·.Counts [])
      (convert hints resolve { map with profiles := ∅ }).1.profiles := by
  rw [fst_convert]
  refine ProfileMap.Forall.foldVariants _ ?_ fun _ _ leftCounts rightCounts =>
    leftCounts.merge rightCounts
  apply counts_foldl_enter
  intro name profile held
  simp at held

/-- In each slot stands the delta of the filing that prevails among those for the slot. -/
theorem targetAt?_convert (slot : Slot) :
    ProfileMap.targetAt? (convert hints resolve { map with profiles := ∅ }).1.profiles slot =
      (prevailing? ((filings (fates map.functions resolve hints)).filter fun filing =>
        filing.slot.elide map.markers = slot)).map fun filing => .prefetchDelta filing.delta := by
  let settled := fates map.functions resolve hints
  let before : ProfileMap :=
    { map with profiles := settled.foldl (fun held fate => fate.enter held) ∅ }
  have standing : ∀ held : Slot, ProfileMap.targetAt? before.profiles held = _ :=
    targetAt?_foldl_enter settled
  have deltas : ∀ held count, ProfileMap.targetAt? before.profiles held = some count →
      ∃ delta, count = .prefetchDelta delta := by
    intro held count found
    rw [standing, Option.map_eq_some_iff] at found
    obtain ⟨filing, _, same⟩ := found
    exact ⟨filing.delta, same.symm⟩
  have ordered : before.profiles.keys.Pairwise fun left right => compare left right = .lt :=
    Std.ExtTreeMap.ordered_keys
  have sorted := ordered.imp fun less => compareOfLessAndEq_eq_lt.mp less
  have complete : ∀ filing ∈ filings settled, filing.slot.function ∈ before.profiles.keys := by
    intro filing filed
    obtain ⟨fate, settledFate, stored⟩ := List.mem_filterMap.mp filed
    refine Std.ExtTreeMap.mem_keys.mpr ((mem_foldl_enter ..).mpr (Or.inl ⟨fate, settledFate, ?_⟩))
    cases fate <;> simp_all [Fate.filing?, Fate.function?]
  -- Before folding every variant holds its last delta, and folding keeps that of the first variant.
  rw [fst_convert, ProfileMap.targetAt?_foldVariants before slot deltas]
  simp only [standing]
  rw [← findSome?_variants sorted complete, List.map_findSome?]
  rfl

end Convert

end Prefetch

end SampleProfile
