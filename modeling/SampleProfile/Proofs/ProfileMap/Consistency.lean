import SampleProfile.ProfileMap
import SampleProfile.Proofs.FunctionProfile.Counts

/-!
# Consistent totals

The total of an instance is stored beside the counts that it adds up, and three operations keep it
up to date: samples are charged on the way down a path, positions are created on demand, and
profiles are merged.  Whatever operations a profile map has been through, every total is the
saturating sum of its parts (`consistent_foldl_perform`).

Every reachable profile has the counts of some list of visits, and in the counts of a list of visits
the sums come out.
-/

namespace SampleProfile

namespace FunctionProfile

/-- The instances inlined directly into the one at a path. -/
def inlinedAt (profile : FunctionProfile) (path : Path) : List (Path × Node) :=
  profile.nodes.toList.filter fun entry => entry.1 ≠ [] ∧ entry.1.dropLast = path

/-- Every total is the sum of its parts, counts at positions are executions, and entries are counted
at the function itself and within its total. -/
structure Consistent (profile : FunctionProfile) : Prop where
  total_eq : ∀ (path : Path) (node : Node), profile.nodes[path]? = some node →
    node.total = satSum ((node.positions.values.map fun position => position.count.raw) ++
      (profile.inlinedAt path).map fun entry => entry.2.total)
  execution : ∀ (path : Path) (node : Node) (offset : LineOffset) (position : Position),
    profile.nodes[path]? = some node → node.positions[offset]? = some position →
      ∃ samples, position.count = .execution samples
  head_nested : ∀ (path : Path) (node : Node), profile.nodes[path]? = some node →
    path ≠ [] → node.head = 0
  head_le : profile.root.head ≤ profile.root.total

/-! ## Sums over the parts of an instance -/

theorem mem_of_mem_positions {profile : FunctionProfile} {path : Path} {offset : LineOffset}
    (recorded : offset ∈ (profile.nodeAt path).positions) : path ∈ profile.nodes := by
  rw [Std.ExtTreeMap.mem_iff_isSome_getElem?]
  cases held : profile.nodes[path]? with
  | none => simp [nodeAt, node?, held, Node.default_eq] at recorded
  | some node => rfl

theorem mem_inlinedAt {profile : FunctionProfile} {path inner : Path} :
    inner ∈ (profile.inlinedAt path).map Prod.fst ↔
      inner ∈ profile.nodes ∧ ∃ call, inner = path ++ [call] := by
  have extendsIff : (inner ≠ [] ∧ inner.dropLast = path) ↔ ∃ call, inner = path ++ [call] := by
    constructor
    · rintro ⟨nonempty, rfl⟩
      exact ⟨inner.getLast nonempty, (List.dropLast_concat_getLast nonempty).symm⟩
    · rintro ⟨call, rfl⟩
      simp
  rw [← extendsIff, ← Std.ExtTreeMap.mem_keys, ← Std.ExtTreeMap.map_fst_toList_eq_keys, inlinedAt]
  simp only [List.mem_map, List.mem_filter, decide_eq_true_eq]
  constructor
  · rintro ⟨entry, ⟨member, below⟩, rfl⟩
    exact ⟨⟨entry, member, rfl⟩, below⟩
  · rintro ⟨⟨entry, member, rfl⟩, below⟩
    exact ⟨entry, ⟨member, below⟩, rfl⟩

/-- The way to an instance leads through one of those inlined directly into an instance that it
passes. -/
theorem take_mem_inlinedAt {profile : FunctionProfile} {path inner : Path}
    (recorded : inner ∈ profile.nodes) :
    inner.take (path.length + 1) ∈ (profile.inlinedAt path).map Prod.fst ↔
      path <+: inner ∧ inner ≠ path := by
  rw [mem_inlinedAt]
  constructor
  · rintro ⟨_, call, extended⟩
    have passed : path ++ [call] <+: inner := extended ▸ List.take_prefix _ _
    refine ⟨(List.prefix_append path [call]).trans passed, ?_⟩
    intro same
    have longer := passed.length_le
    rw [same, List.length_append, List.length_singleton] at longer
    omega
  · rintro ⟨⟨rest, rfl⟩, different⟩
    cases rest with
    | nil => exact absurd (List.append_nil path) different
    | cons call rest =>
        have next : (path ++ call :: rest).take (path.length + 1) = path ++ [call] := by
          simp only [List.take_length_add_append, List.take_succ_cons, List.take_zero]
        have inside := profile.closed _ _ (List.take_prefix (path.length + 1) _) recorded
        exact ⟨inside, call, next⟩

theorem nodup_inlinedAt (profile : FunctionProfile) (path : Path) :
    ((profile.inlinedAt path).map Prod.fst).Nodup := by
  have distinct : (profile.nodes.toList.map Prod.fst).Nodup := by
    rw [Std.ExtTreeMap.map_fst_toList_eq_keys]
    exact Std.ExtTreeMap.nodup_keys
  exact distinct.sublist (List.filter_sublist.map _)

variable {profile : FunctionProfile} {visits : Visits}

/-- The positions of an instance add up to the visits that end in it. -/
theorem Counts.satSum_positions (counts : profile.Counts visits) (path : Path) :
    satSum ((profile.nodeAt path).positions.values.map fun position => position.count.raw) =
      tally (fun landing => landing.place.path = path) visits := by
  let places := (profile.nodeAt path).positions.keys.map (Place.mk path)
  have distinct : places.Nodup :=
    List.Pairwise.map _ (fun _ _ different same => different (Place.mk.inj same).2)
      Std.ExtTreeMap.nodup_keys
  have counted : ((profile.nodeAt path).positions.values.map fun position => position.count.raw) =
      places.map fun place => tally (fun landing => landing.place = place) visits := by
    rw [OrderedMap.values_eq_map_toList, List.map_map, List.map_map,
      ← Std.ExtTreeMap.map_fst_toList_eq_keys, List.map_map]
    refine List.map_congr_left ?_
    rintro ⟨offset, position⟩ member
    rw [Std.ExtTreeMap.mem_toList_iff_getElem?_eq_some] at member
    have here := counts.countAt_eq ⟨path, offset⟩
    simp only [countAt, member, Option.getD_some] at here
    simp only [Function.comp_apply, here, Count.raw]
  rw [counted, satSum_map_tally Landing.place _ distinct]
  refine tally_congr fun visit member => ?_
  rw [Bool.eq_iff_iff, decide_eq_true_eq, decide_eq_true_eq, List.mem_map]
  constructor
  · rintro ⟨offset, _, same⟩
    rw [← same]
  · rintro rfl
    exact ⟨visit.1.place.offset, Std.ExtTreeMap.mem_keys.mpr (counts.recorded visit member), rfl⟩

/-- The instances inlined into another add up to the visits that pass through it without ending
there. -/
theorem Counts.satSum_inlinedAt (counts : profile.Counts visits) (path : Path) :
    satSum ((profile.inlinedAt path).map fun entry => entry.2.total) =
      tally (fun landing => path.isPrefixOf landing.place.path ∧ landing.place.path ≠ path)
        visits := by
  let inners := (profile.inlinedAt path).map Prod.fst
  -- A visit passes through at most one of the instances, the one a call further down its path.
  let below := fun landing : Landing => landing.place.path.take (path.length + 1)
  have counted : ((profile.inlinedAt path).map fun entry => entry.2.total) =
      inners.map fun inner => tally (fun landing => below landing = inner) visits := by
    rw [List.map_map]
    refine List.map_congr_left ?_
    rintro ⟨inner, node⟩ member
    have listed : inner ∈ inners := List.mem_map_of_mem member
    obtain ⟨_, call, rfl⟩ := mem_inlinedAt.mp listed
    have held := Std.ExtTreeMap.mem_toList_iff_getElem?_eq_some.mp (List.mem_filter.mp member).1
    have total := counts.total_eq (path ++ [call])
    rw [nodeAt_of_getElem? held] at total
    simp only [Function.comp_apply, total]
    refine tally_congr fun visit _ => ?_
    rw [Bool.eq_iff_iff, List.isPrefixOf_iff_prefix, List.prefix_iff_eq_take, decide_eq_true_eq,
      List.length_append]
    exact eq_comm
  rw [counted, satSum_map_tally below _ (nodup_inlinedAt profile path)]
  refine tally_congr fun visit member => ?_
  have recorded := mem_of_mem_positions (counts.recorded visit member)
  rw [Bool.eq_iff_iff]
  simp only [decide_eq_true_eq, List.isPrefixOf_iff_prefix]
  exact take_mem_inlinedAt recorded

/-! ## Consistency -/

/-- In the counts of a list of visits all totals come out. -/
theorem Counts.consistent (counts : profile.Counts visits) : profile.Consistent where
  total_eq path node held := by
    have same := nodeAt_of_getElem? held
    have positions := counts.satSum_positions path
    rw [same] at positions
    have divided : tally (fun landing => landing.place.path = path ∨
          (path.isPrefixOf landing.place.path ∧ landing.place.path ≠ path)) visits =
        satAdd (tally (fun landing => landing.place.path = path) visits)
          (tally (fun landing => path.isPrefixOf landing.place.path ∧ landing.place.path ≠ path)
            visits) := by
      rw [← tally_or]
      · exact tally_congr fun visit _ => by simp
      · intro visit _ ends
        simp [of_decide_eq_true ends]
    rw [satSum_append, positions, counts.satSum_inlinedAt, ← divided, ← same, counts.total_eq]
    refine tally_congr fun visit _ => ?_
    rw [Bool.eq_iff_iff, decide_eq_true_eq, List.isPrefixOf_iff_prefix]
    constructor
    · intro passed
      exact (Classical.em (visit.1.place.path = path)).imp_right (⟨passed, ·⟩)
    · rintro (ends | ⟨passed, _⟩)
      · exact ends ▸ List.prefix_refl _
      · exact passed
  execution path node offset position held found := by
    have counted := counts.countAt_eq ⟨path, offset⟩
    simp only [countAt, nodeAt_of_getElem? held, found, Option.getD_some] at counted
    exact ⟨_, counted⟩
  head_nested path node held nested := by
    rw [← nodeAt_of_getElem? held, counts.head_eq, if_neg nested]
  head_le := by
    have held : profile.nodes[([] : Path)]? = some profile.root :=
      Std.ExtTreeMap.getElem?_eq_some_getElem profile.root_mem
    have everywhere : tally (fun landing : Landing => List.isPrefixOf [] landing.place.path)
        visits = tally (fun _ => true) visits := tally_congr fun visit _ => by simp
    rw [← nodeAt_of_getElem? held, counts.head_eq, if_pos rfl, counts.total_eq, everywhere]
    exact tally_le_tally_true visits

end FunctionProfile

namespace ProfileMap

/-! ## All profiles of a map -/

/-- Something holds of every profile of a map. -/
def Forall (holds : FunctionProfile → Prop) (profiles : OrderedMap String FunctionProfile) : Prop :=
  ∀ (name : String) (profile : FunctionProfile), profiles[name]? = some profile → holds profile

section Forall

variable {holds : FunctionProfile → Prop} {profiles : OrderedMap String FunctionProfile}

theorem Forall.insert (all : Forall holds profiles) (name : String) {profile : FunctionProfile}
    (here : holds profile) : Forall holds (profiles.insert name profile) := by
  intro tested other held
  rw [Std.ExtTreeMap.getElem?_insert] at held
  by_cases same : compare name tested = .eq
  · rw [if_pos same, Option.some_inj] at held
    exact held ▸ here
  · rw [if_neg same] at held
    exact all tested other held

theorem Forall.update (all : Forall holds profiles) (name : String)
    {change : FunctionProfile → FunctionProfile} (fresh : holds .empty)
    (changed : ∀ profile, holds profile → holds (change profile)) :
    Forall holds (OrderedMap.update profiles name change) := by
  intro tested other held
  rw [OrderedMap.getElem?_update] at held
  by_cases same : name = tested
  · rw [if_pos same, Option.some_inj] at held
    rw [← held]
    apply changed
    cases found : profiles[name]? with
    | none => exact fresh
    | some profile => exact all name profile found
  · rw [if_neg same] at held
    exact all tested other held

theorem Forall.combine (all : Forall holds profiles) (name : String) {profile : FunctionProfile}
    (here : holds profile)
    (merged : ∀ left right, holds left → holds right → holds (left.merge right)) :
    Forall holds (OrderedMap.combine FunctionProfile.merge profiles name profile) := by
  intro tested other held
  rw [OrderedMap.getElem?_combine] at held
  by_cases same : name = tested
  · rw [if_pos same, Option.some_inj] at held
    cases found : profiles[name]? with
    | none =>
        rw [found] at held
        exact held ▸ here
    | some holding =>
        rw [found] at held
        exact held ▸ merged holding profile (all name holding found) here
  · rw [if_neg same] at held
    exact all tested other held

theorem Forall.foldVariants (map : ProfileMap) (all : Forall holds map.profiles)
    (merged : ∀ left right, holds left → holds right → holds (left.merge right)) :
    Forall holds map.foldVariants.profiles := by
  have run : ∀ (entries : List (String × FunctionProfile))
      (folded : OrderedMap String FunctionProfile), (∀ entry ∈ entries, holds entry.2) →
      Forall holds folded →
      Forall holds (entries.foldl (fun folded entry => OrderedMap.combine FunctionProfile.merge
        folded (Suffix.elide map.markers entry.1) entry.2) folded) := by
    intro entries
    induction entries with
    | nil => exact fun folded _ held => held
    | cons entry rest inductionHypothesis =>
        intro folded listed held
        rw [List.foldl_cons]
        apply inductionHypothesis
        · exact fun other member => listed other (List.mem_cons_of_mem _ member)
        · exact held.combine _ (listed entry List.mem_cons_self) merged
  apply run
  · rintro ⟨name, profile⟩ member
    exact all name profile (Std.ExtTreeMap.mem_toList_iff_getElem?_eq_some.mp member)
  · intro name profile held
    simp at held

end Forall

/-! ## Operations -/

/-- What callers can do to a profile map. -/
inductive Operation where
  | ensure (name : String) (address : UInt64)
  | record (name : String) (stack : Stack) (samples : UInt64) (atEntry : Bool)
  | setTarget (name : String) (stack : Stack) (target : String) (count : Count)
  | foldVariants
  | setIgnoreThreshold (ignore : Bool)
  | setThreshold (threshold : UInt64)
  | setMarkers (markers : List String)

/-- The map after an operation; one that answers `none` leaves the map as it was. -/
def perform (map : ProfileMap) : Operation → ProfileMap
  | .ensure name address => (map.ensure? name address).getD map
  | .record name stack samples atEntry => (map.record? name stack samples atEntry).getD map
  | .setTarget name stack target count => (map.setTarget? name stack target count).getD map
  | .foldVariants => map.foldVariants
  | .setIgnoreThreshold ignore => { map with ignoreThreshold := ignore }
  | .setThreshold threshold => { map with threshold }
  | .setMarkers markers => { map with markers }

/-- The profile has the counts of some list of visits. -/
def Counted (profile : FunctionProfile) : Prop :=
  ∃ visits : Visits, profile.Counts visits

theorem counted_ensure {map : ProfileMap} (counted : Forall Counted map.profiles) (name : String)
    (address : UInt64) : Forall Counted (map.perform (.ensure name address)).profiles := by
  rw [perform, ensure?]
  by_cases known : name ∈ map.profiles
  · simpa [known] using counted
  · rw [if_neg known]
    cases map.functions.enclosing? address with
    | none => exact counted
    | some symbol =>
        by_cases tied : map.functions.startOf? name = some symbol.start
        · simp only [tied, if_true, Option.getD_some]
          exact counted.insert name ⟨[], FunctionProfile.counts_empty⟩
        · simpa [tied] using counted

theorem counted_record {map : ProfileMap} (counted : Forall Counted map.profiles) (name : String)
    (stack : Stack) (samples : UInt64) (atEntry : Bool) :
    Forall Counted (map.perform (.record name stack samples atEntry)).profiles := by
  rw [perform, record?]
  cases stack.place? with
  | none => exact counted
  | some place =>
      refine counted.update name ⟨[], FunctionProfile.counts_empty⟩ ?_
      rintro profile ⟨visits, counts⟩
      exact ⟨_, counts.count { function := name, place, atEntry } samples⟩

theorem counted_setTarget {map : ProfileMap} (counted : Forall Counted map.profiles)
    (name : String) (stack : Stack) (target : String) (count : Count) :
    Forall Counted (map.perform (.setTarget name stack target count)).profiles := by
  rw [perform, setTarget?]
  cases held : map.profile? name with
  | none => exact counted
  | some profile =>
      cases stack.place? with
      | none => exact counted
      | some place =>
          obtain ⟨visits, counts⟩ := counted name profile held
          exact counted.insert name ⟨visits, counts.setTarget place target count⟩

theorem counted_foldVariants {map : ProfileMap} (counted : Forall Counted map.profiles) :
    Forall Counted (map.perform .foldVariants).profiles := by
  refine Forall.foldVariants map counted ?_
  rintro left right ⟨visits, leftCounts⟩ ⟨more, rightCounts⟩
  exact ⟨visits ++ more, leftCounts.merge rightCounts⟩

theorem counted_perform {map : ProfileMap} (counted : Forall Counted map.profiles)
    (operation : Operation) : Forall Counted (map.perform operation).profiles := by
  cases operation with
  | ensure name address => exact counted_ensure counted name address
  | record name stack samples atEntry => exact counted_record counted name stack samples atEntry
  | setTarget name stack target count => exact counted_setTarget counted name stack target count
  | foldVariants => exact counted_foldVariants counted
  | setIgnoreThreshold ignore => exact counted
  | setThreshold threshold => exact counted
  | setMarkers markers => exact counted

/-- After any operations on the map of any function table all profiles are consistent. -/
theorem consistent_foldl_perform (symbols : List Symbol) (operations : List Operation) :
    Forall FunctionProfile.Consistent
      (operations.foldl perform (ofSymbols symbols)).profiles := by
  have run : ∀ map : ProfileMap, Forall Counted map.profiles →
      Forall Counted (operations.foldl perform map).profiles := by
    induction operations with
    | nil => exact fun map counted => counted
    | cons operation rest inductionHypothesis =>
        intro map counted
        exact inductionHypothesis _ (counted_perform counted operation)
  have fresh : Forall Counted (ofSymbols symbols).profiles := by
    intro name profile held
    simp [ofSymbols] at held
  intro name profile held
  obtain ⟨visits, counts⟩ := run _ fresh name profile held
  exact counts.consistent

end ProfileMap

end SampleProfile
