import SampleProfile.Suffix

/-!
# Cutting names

A name that has been cut contains no place to cut it again: an earlier occurrence of a marker would
have been chosen in the first place.  Names are cut exactly when they belong to variants.  A marker
that starts a name does not count, so a name that starts with one marker is still cut at another one
further on; `elide_at_earliest` says which names are cut where.
-/

namespace SampleProfile.Suffix

/-! ## Occurrences of a marker -/

/-- The first occurrence is an occurrence with none before it. -/
theorem firstOccurrence_eq_some_iff {marker text : List Char} {place : Nat} :
    firstOccurrence marker text = some place ↔
      marker <+: text.drop place ∧ ∀ earlier < place, ¬ marker <+: text.drop earlier := by
  induction text generalizing place with
  | nil =>
      cases marker with
      | nil =>
          simp only [firstOccurrence, List.isEmpty_nil, if_true, Option.some_inj, List.drop_nil,
            List.nil_prefix, not_true, true_and]
          constructor
          · rintro rfl earlier less
            omega
          · intro noneEarlier
            by_cases start : place = 0
            · exact start.symm
            · exact absurd (noneEarlier 0 (by omega)) id
      | cons first rest => simp [firstOccurrence]
  | cons char rest inductionHypothesis =>
      rw [firstOccurrence]
      by_cases here : marker <+: char :: rest
      · rw [if_pos (List.isPrefixOf_iff_prefix.mpr here), Option.some_inj]
        constructor
        · rintro rfl
          exact ⟨here, fun earlier less => absurd less (Nat.not_lt_zero _)⟩
        · rintro ⟨_, noneEarlier⟩
          by_cases start : place = 0
          · exact start.symm
          · exact absurd here (noneEarlier 0 (by omega))
      · rw [if_neg (fun claimed => here (List.isPrefixOf_iff_prefix.mp claimed))]
        cases place with
        | zero => simp [here]
        | succ place =>
            simp only [Option.map_eq_some_iff, Nat.add_right_cancel_iff, exists_eq_right,
              inductionHypothesis, List.drop_succ_cons]
            refine and_congr_right fun _ => ?_
            constructor
            · intro noneEarlier earlier less
              cases earlier with
              | zero => exact here
              | succ earlier => exact noneEarlier earlier (by omega)
            · intro noneEarlier earlier less
              exact noneEarlier (earlier + 1) (by omega)

/-- Where a marker occurs, it occurs first at some place up to there. -/
theorem exists_firstOccurrence {marker text : List Char} {place : Nat}
    (occurs : marker <+: text.drop place) :
    ∃ first ≤ place, firstOccurrence marker text = some first := by
  induction place using Nat.strongRecOn with
  | _ place inductionHypothesis =>
      by_cases earlier : ∃ other < place, marker <+: text.drop other
      · obtain ⟨other, less, occursThere⟩ := earlier
        obtain ⟨first, bound, found⟩ := inductionHypothesis other less occursThere
        exact ⟨first, by omega, found⟩
      · refine ⟨place, Nat.le_refl _, firstOccurrence_eq_some_iff.mpr ⟨occurs, ?_⟩⟩
        exact fun other less occursThere => earlier ⟨other, less, occursThere⟩

/-! ## Places to cut -/

/-- A name is cut at the least first occurrence of a marker behind its start. -/
theorem cut?_eq_some_iff {markers : List String} {name : String} {place : Nat} :
    cut? markers name = some place ↔
      0 < place ∧
      (∃ marker ∈ markers, firstOccurrence marker.toList name.toList = some place) ∧
      ∀ marker ∈ markers, ∀ other,
        firstOccurrence marker.toList name.toList = some other → 0 < other → place ≤ other := by
  rw [cut?, List.min?_eq_some_iff]
  simp only [List.mem_filter, List.mem_filterMap, decide_eq_true_eq]
  grind

/-- A marker at which a name is cut fits into the name behind the cut. -/
theorem cut?_lt_length {markers : List String} {name : String} {place : Nat}
    (cut : cut? markers name = some place) : place < name.toList.length := by
  obtain ⟨behind, ⟨marker, _, occurrence⟩, _⟩ := cut?_eq_some_iff.mp cut
  obtain ⟨occurs, noneEarlier⟩ := firstOccurrence_eq_some_iff.mp occurrence
  refine Nat.lt_of_not_le fun outside => ?_
  have nothing : name.toList.drop place = [] := List.drop_eq_nil_of_le outside
  rw [nothing, List.prefix_nil] at occurs
  exact noneEarlier 0 behind (occurs ▸ List.nil_prefix)

/-- What is left of a name that has been cut is not cut again. -/
theorem cut?_take {markers : List String} {name : String} {place : Nat}
    (cut : cut? markers name = some place) :
    cut? markers (String.ofList (name.toList.take place)) = none := by
  obtain ⟨behind, _, least⟩ := cut?_eq_some_iff.mp cut
  refine Option.eq_none_iff_forall_ne_some.mpr fun again cutAgain => ?_
  obtain ⟨againBehind, ⟨marker, member, occurrence⟩, _⟩ := cut?_eq_some_iff.mp cutAgain
  rw [String.toList_ofList] at occurrence
  obtain ⟨occurs, noneEarlier⟩ := firstOccurrence_eq_some_iff.mp occurrence
  have inside := cut?_lt_length cutAgain
  rw [String.toList_ofList, List.length_take] at inside
  have occursInName : marker.toList <+: name.toList.drop again := by
    rw [List.drop_take] at occurs
    exact occurs.trans (List.take_prefix _ _)
  obtain ⟨first, bound, found⟩ := exists_firstOccurrence occursInName
  rcases Nat.eq_zero_or_pos first with rfl | positive
  · -- A marker that starts the name also starts what is left of it, since it fits in there further
    -- on.
    have starts := (firstOccurrence_eq_some_iff.mp found).1
    have fits : marker.toList.length ≤ place := by
      have bounded := occurs.length_le
      rw [List.length_drop, List.length_take] at bounded
      omega
    refine noneEarlier 0 againBehind ?_
    rw [List.drop_zero] at starts ⊢
    exact List.prefix_take_iff.mpr ⟨starts, fits⟩
  · have bounded := least marker member first found positive
    omega

/-! ## Cut names -/

/-- Cutting a name a second time changes nothing. -/
@[simp]
theorem elide_elide (markers : List String) (name : String) :
    elide markers (elide markers name) = elide markers name := by
  cases cut : cut? markers name with
  | none => simp [elide, cut]
  | some place => simp [elide, cut, cut?_take cut]

/-- A name belongs to no variant exactly when it is not cut. -/
theorem isVariant_eq_false_iff {markers : List String} {name : String} :
    isVariant markers name = false ↔ elide markers name = name := by
  cases cut : cut? markers name with
  | none => simp [isVariant, elide, cut]
  | some place =>
      have shorter := cut?_lt_length cut
      simp only [isVariant, elide, cut, Option.isSome_some, Bool.true_eq_false, false_iff]
      intro unchanged
      have length := congrArg (fun text => text.toList.length) unchanged
      simp only [String.toList_ofList, List.length_take] at length
      omega

/-! ## The earliest marker -/

/-- A marker stands at a place of a name. -/
def Occurs (marker name : String) (place : Nat) : Prop :=
  marker.toList <+: name.toList.drop place

instance (marker name : String) (place : Nat) : Decidable (Occurs marker name place) :=
  inferInstanceAs (Decidable (_ <+: _))

/-- One of the markers stands at a place of a name, and none stands before it. -/
def Earliest (markers : List String) (name : String) (place : Nat) : Prop :=
  (∃ marker ∈ markers, Occurs marker name place) ∧
    ∀ marker ∈ markers, ∀ earlier < place, ¬ Occurs marker name earlier

instance (markers : List String) (name : String) (place : Nat) :
    Decidable (Earliest markers name place) :=
  inferInstanceAs (Decidable (_ ∧ _))

/-- The markers that do not start a name. -/
def inside (markers : List String) (name : String) : List String :=
  markers.filter fun marker => ¬ Occurs marker name 0

section Earliest

variable {markers : List String} {marker name : String} {place : Nat}

theorem mem_inside : marker ∈ inside markers name ↔ marker ∈ markers ∧ ¬ Occurs marker name 0 := by
  simp [inside]

theorem not_occurs_zero (behind : 0 < place)
    (found : firstOccurrence marker.toList name.toList = some place) : ¬ Occurs marker name 0 :=
  (firstOccurrence_eq_some_iff.mp found).2 0 behind

/-- Markers that start the name make no difference. -/
theorem cut?_inside (markers : List String) (name : String) :
    cut? (inside markers name) name = cut? markers name := by
  ext place
  simp only [cut?_eq_some_iff, mem_inside]
  refine and_congr_right fun behind => and_congr ?_ ?_
  · constructor
    · rintro ⟨marker, ⟨member, _⟩, found⟩
      exact ⟨marker, member, found⟩
    · rintro ⟨marker, member, found⟩
      exact ⟨marker, ⟨member, not_occurs_zero behind found⟩, found⟩
  · constructor
    · intro least marker member other found positive
      exact least marker ⟨member, not_occurs_zero positive found⟩ other found positive
    · intro least marker member
      exact least marker member.1

theorem cut?_eq_some_iff_earliest (noneStarts : ∀ marker ∈ markers, ¬ Occurs marker name 0) :
    cut? markers name = some place ↔ Earliest markers name place := by
  rw [cut?_eq_some_iff]
  constructor
  · rintro ⟨_, ⟨marker, member, found⟩, least⟩
    refine ⟨⟨marker, member, (firstOccurrence_eq_some_iff.mp found).1⟩, ?_⟩
    intro other otherMember earlier before occurs
    obtain ⟨first, bound, firstFound⟩ := exists_firstOccurrence occurs
    have positive : 0 < first := by
      refine Nat.pos_of_ne_zero fun start => noneStarts other otherMember ?_
      subst start
      exact (firstOccurrence_eq_some_iff.mp firstFound).1
    have bounded := least other otherMember first firstFound positive
    omega
  · rintro ⟨⟨marker, member, occurs⟩, noneBefore⟩
    refine ⟨?_, ⟨marker, member, firstOccurrence_eq_some_iff.mpr
      ⟨occurs, noneBefore marker member⟩⟩, ?_⟩
    · refine Nat.pos_of_ne_zero fun start => noneStarts marker member ?_
      exact start ▸ occurs
    · intro other otherMember first found _
      refine Nat.le_of_not_lt fun before => noneBefore other otherMember first before ?_
      exact (firstOccurrence_eq_some_iff.mp found).1

theorem cut?_eq_none_iff (noneStarts : ∀ marker ∈ markers, ¬ Occurs marker name 0) :
    cut? markers name = none ↔ ∀ marker ∈ markers, ∀ place, ¬ Occurs marker name place := by
  constructor
  · intro uncut marker member place occurs
    rw [cut?, List.min?_eq_none_iff, List.filter_eq_nil_iff] at uncut
    obtain ⟨first, _, found⟩ := exists_firstOccurrence occurs
    have listed : first ∈ markers.filterMap fun marker =>
        firstOccurrence marker.toList name.toList :=
      List.mem_filterMap.mpr ⟨marker, member, found⟩
    refine uncut first listed (decide_eq_true (Nat.pos_of_ne_zero fun start => ?_))
    subst start
    exact noneStarts marker member (firstOccurrence_eq_some_iff.mp found).1
  · intro nowhere
    rw [Option.eq_none_iff_forall_ne_some]
    intro place cut
    obtain ⟨⟨marker, member, occurs⟩, _⟩ := (cut?_eq_some_iff_earliest noneStarts).mp cut
    exact nowhere marker member place occurs

theorem elide_eq_self_iff : elide markers name = name ↔ cut? markers name = none := by
  rw [← isVariant_eq_false_iff, isVariant, Option.isSome_eq_false_iff, Option.isNone_iff_eq_none]

end Earliest

/-- A name that starts with no marker is cut where the first marker stands, and left alone if there
is none.  One that starts with a marker is left alone exactly if every marker in it starts it.  The
markers that start a name never count, so that what is cut is told by the other ones. -/
theorem elide_at_earliest (markers : List String) (name : String) :
    ((∀ marker ∈ markers, ¬ Occurs marker name 0) →
        (∀ place, Earliest markers name place →
          elide markers name = String.ofList (name.toList.take place)) ∧
        ((∀ marker ∈ markers, ∀ place, ¬ Occurs marker name place) → elide markers name = name)) ∧
      ((∃ marker ∈ markers, Occurs marker name 0) →
        (elide markers name = name ↔
          ∀ marker ∈ markers, ¬ Occurs marker name 0 → ∀ place, ¬ Occurs marker name place)) ∧
      elide markers name = elide (inside markers name) name := by
  have noneStarts : ∀ marker ∈ inside markers name, ¬ Occurs marker name 0 :=
    fun marker member => (mem_inside.mp member).2
  refine ⟨?_, ?_, ?_⟩
  · intro noneStarts
    constructor
    · intro place earliest
      rw [elide, (cut?_eq_some_iff_earliest noneStarts).mpr earliest]
    · intro nowhere
      rw [elide_eq_self_iff, cut?_eq_none_iff noneStarts]
      exact nowhere
  · intro _
    rw [elide_eq_self_iff, ← cut?_inside, cut?_eq_none_iff noneStarts]
    simp only [mem_inside, and_imp]
  · rw [elide, elide, cut?_inside]

/-- A name with two markers, one with none, and one that starts with its only marker. -/
theorem elide_at_earliest_variants :
    ((∀ marker ∈ standardMarkers, ¬ Occurs marker "sort.isra.0.cold" 0) ∧
      Earliest standardMarkers "sort.isra.0.cold" 4 ∧
      elide standardMarkers "sort.isra.0.cold" = "sort") ∧
    ((∀ marker ∈ standardMarkers, ∀ place, ¬ Occurs marker "main" place) ∧
      elide standardMarkers "main" = "main") ∧
    (∃ marker ∈ standardMarkers, Occurs marker ".part.0" 0) ∧
      ∀ place, ¬ Occurs ".cold" ".part.0" place := by
  have noneStarts : ∀ marker ∈ standardMarkers, ¬ Occurs marker "sort.isra.0.cold" 0 := by decide
  have earliest : Earliest standardMarkers "sort.isra.0.cold" 4 := by decide +kernel
  have absent : ∀ marker ∈ standardMarkers,
      firstOccurrence marker.toList "main".toList = none := by decide
  have nowhere : ∀ marker ∈ standardMarkers, ∀ place, ¬ Occurs marker "main" place := by
    intro marker member place occurs
    obtain ⟨first, _, found⟩ := exists_firstOccurrence occurs
    rw [absent marker member] at found
    cases found
  have starts : ∃ marker ∈ standardMarkers, Occurs marker ".part.0" 0 := by decide
  have kept : elide standardMarkers ".part.0" = ".part.0" := by decide +kernel
  refine ⟨⟨noneStarts, earliest, ?_⟩, ⟨nowhere, ?_⟩, starts, ?_⟩
  · rw [((elide_at_earliest standardMarkers "sort.isra.0.cold").1 noneStarts).1 4 earliest]
    rfl
  · have unmarked := fun marker member => nowhere marker member 0
    exact ((elide_at_earliest standardMarkers "main").1 unmarked).2 nowhere
  · have onlyStart := ((elide_at_earliest standardMarkers ".part.0").2.1 starts).mp kept
    exact onlyStart ".cold" (by decide) (by decide)

/-- A name that starts with one marker loses another one behind it. -/
theorem elide_part_cold :
    (∃ marker ∈ standardMarkers, Occurs marker ".part.0.cold" 0) ∧
      elide standardMarkers ".part.0.cold" = ".part.0" := by
  decide +kernel

end SampleProfile.Suffix
