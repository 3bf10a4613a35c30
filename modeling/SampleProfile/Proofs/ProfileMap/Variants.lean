import Mathlib.Data.List.Induction
import SampleProfile.Proofs.ProfileMap.Consistency
import SampleProfile.Proofs.ProfileMap.Targets
import SampleProfile.Proofs.Suffix

/-!
# Folding variants

Under the name to which its variants are cut a function has one profile, the merger of the profiles
of the variants (`getElem?_foldVariants`).  A merger holds every instance, position and target of
its parts, and its counts are their sums.  Names that have been cut are not cut again, so that
folding a second time finds one variant for each name and changes nothing.
-/

namespace SampleProfile

/-! ## Names -/

namespace Suffix

variable {markers others : List String}

theorem cut?_congr (same : ∀ marker, marker ∈ markers ↔ marker ∈ others) (name : String) :
    cut? markers name = cut? others name := by
  apply Option.ext
  intro place
  simp only [cut?_eq_some_iff, same]

/-- A name is cut by a set of markers, whatever their order. -/
theorem elide_congr (same : ∀ marker, marker ∈ markers ↔ marker ∈ others) (name : String) :
    elide markers name = elide others name := by
  rw [elide, elide, cut?_congr same]

end Suffix

/-! ## Entries combined under keys -/

namespace OrderedMap

variable {Key Value : Type} [Ord Key] [Std.TransOrd Key] [Std.LawfulEqOrd Key] [DecidableEq Key]

/-- Entries combined one after the other under new keys meet at a key in their order. -/
theorem getElem?_foldl_combine (join : Value → Value → Value) (rename : Key → Key)
    (entries : List (Key × Value)) (start : OrderedMap Key Value) (tested : Key) :
    (entries.foldl (fun map entry => combine join map (rename entry.1) entry.2) start)[tested]? =
      ((entries.filter fun entry => rename entry.1 = tested).map Prod.snd).foldl
        (fun held value => some ((held.map (join · value)).getD value)) start[tested]? := by
  induction entries generalizing start with
  | nil => rfl
  | cons entry rest inductionHypothesis =>
      rw [List.foldl_cons, inductionHypothesis, getElem?_combine]
      by_cases same : rename entry.1 = tested
      · subst same
        rw [List.filter_cons_of_pos (by simp), List.map_cons, List.foldl_cons, if_pos rfl]
        cases start[rename entry.1]? <;> rfl
      · rw [List.filter_cons_of_neg (by simpa using same), if_neg same]

theorem filter_toList_eq (entries : OrderedMap Key Value) (key : Key) :
    (entries.toList.filter fun entry => entry.1 = key) =
      (entries[key]?.map fun value => (key, value)).toList := by
  have members : ∀ entry, (entry ∈ entries.toList.filter fun entry => entry.1 = key) ↔
      entries[key]? = some entry.2 ∧ entry.1 = key := by
    intro entry
    rw [List.mem_filter, Std.ExtTreeMap.mem_toList_iff_getElem?_eq_some, decide_eq_true_eq]
    constructor
    · intro ⟨held, same⟩
      exact ⟨same ▸ held, same⟩
    · intro ⟨held, same⟩
      exact ⟨same ▸ held, same⟩
  cases held : entries[key]? with
  | none =>
      apply List.eq_nil_iff_forall_not_mem.mpr
      intro entry member
      have found := ((members entry).mp member).1
      rw [held] at found
      cases found
  | some value =>
      apply List.perm_singleton.mp
      apply (List.perm_ext_iff_of_nodup ((nodup_toList entries).filter _)
        (by simp)).mpr
      intro entry
      rw [members, held, List.mem_singleton, Option.some_inj]
      constructor
      · intro ⟨same, here⟩
        exact Prod.ext here same.symm
      · intro same
        subst same
        exact ⟨rfl, rfl⟩

end OrderedMap

/-! ## Mergers -/

namespace FunctionProfile

/-- What is recorded at a place itself. -/
def position? (profile : FunctionProfile) (place : Place) : Option Position :=
  (profile.nodeAt place.path).positions[place.offset]?

/-- What is counted at positions are executions. -/
def Executed (profile : FunctionProfile) : Prop :=
  ∀ place position, profile.position? place = some position →
    ∃ samples, position.count = .execution samples

/-- A profile holds the instances, positions and targets of its parts and no others, and its counts
are the sums of theirs.  Where a part records nothing it counts nothing. -/
structure SumOf (profile : FunctionProfile) (parts : List FunctionProfile) : Prop where
  mem_iff : ∀ path, path ∈ profile.nodes ↔ ∃ part ∈ parts, path ∈ part.nodes
  total_eq : ∀ path, (profile.nodeAt path).total =
    satSum (parts.map fun part => (part.nodeAt path).total)
  head_eq : ∀ path, (profile.nodeAt path).head =
    satSum (parts.map fun part => (part.nodeAt path).head)
  position_iff : ∀ place, (profile.position? place).isSome ↔
    ∃ part ∈ parts, (part.position? place).isSome
  count_eq : ∀ place, profile.countAt place =
    .execution (satSum (parts.map fun part => (part.countAt place).raw))
  target_iff : ∀ place target, (profile.target? place target).isSome ↔
    ∃ part ∈ parts, (part.target? place target).isSome

variable {profile other : FunctionProfile} {parts : List FunctionProfile}

theorem Executed.countAt_eq (executed : profile.Executed) (place : Place) :
    profile.countAt place = .execution (profile.countAt place).raw := by
  cases held : profile.position? place with
  | none =>
      rw [position?] at held
      rw [countAt, held]
      rfl
  | some position =>
      obtain ⟨samples, counted⟩ := executed place position held
      rw [position?] at held
      rw [countAt, held, Option.getD_some, counted]
      rfl

theorem Counts.executed {visits : Visits} (counts : profile.Counts visits) : profile.Executed := by
  intro place position held
  have counted := counts.countAt_eq place
  rw [position?] at held
  rw [countAt, held] at counted
  exact ⟨_, counted⟩

theorem position?_merge (left right : FunctionProfile) (place : Place) :
    (left.merge right).position? place =
      Option.merge Position.merge (left.position? place) (right.position? place) := by
  rw [position?, nodeAt_merge, Node.merge, OrderedMap.getElem?_unionWith_eq_merge]
  rfl

theorem Executed.sumOf (executed : profile.Executed) : profile.SumOf [profile] where
  mem_iff path := by simp
  total_eq path := by simp
  head_eq path := by simp
  position_iff place := by simp
  count_eq place := by
    rw [List.map_singleton, satSum_cons, satSum_nil, satAdd_zero]
    exact executed.countAt_eq place
  target_iff place target := by simp

theorem SumOf.merge (sum : profile.SumOf parts) (executed : other.Executed) :
    (profile.merge other).SumOf (parts ++ [other]) where
  mem_iff path := by
    rw [mem_merge, sum.mem_iff]
    simp [or_and_right, exists_or]
  total_eq path := by
    rw [nodeAt_merge, Node.merge, sum.total_eq, List.map_append, satSum_append]
    simp
  head_eq path := by
    rw [nodeAt_merge, Node.merge, sum.head_eq, List.map_append, satSum_append]
    simp
  position_iff place := by
    rw [position?_merge, Option.isSome_merge, Bool.or_eq_true, sum.position_iff]
    simp [or_and_right, exists_or]
  count_eq place := by
    rw [countAt_merge, sum.count_eq, executed.countAt_eq, List.map_append, satSum_append]
    simp [Count.accumulate]
  target_iff place target := by
    rw [target?_merge, Option.isSome_merge, Bool.or_eq_true, sum.target_iff]
    simp [or_and_right, exists_or]

theorem SumOf.foldl_merge {others : List FunctionProfile} (sum : profile.SumOf parts)
    (executed : ∀ other ∈ others, other.Executed) :
    (others.foldl FunctionProfile.merge profile).SumOf (parts ++ others) := by
  induction others generalizing profile parts with
  | nil =>
      rw [List.append_nil]
      exact sum
  | cons other rest inductionHypothesis =>
      have here : other.Executed := executed other List.mem_cons_self
      have later : ∀ next ∈ rest, next.Executed := by
        intro next member
        exact executed next (List.mem_cons_of_mem other member)
      have merged := inductionHypothesis (sum.merge here) later
      rw [List.append_assoc] at merged
      exact merged

/-- The merger of some profiles, if there are any. -/
def merged? : List FunctionProfile → Option FunctionProfile
  | [] => none
  | first :: rest => some (rest.foldl merge first)

theorem foldl_some_merge (first : FunctionProfile) (rest : List FunctionProfile) :
    rest.foldl (fun held profile => some ((held.map (merge · profile)).getD profile))
      (some first) = some (rest.foldl merge first) := by
  induction rest generalizing first with
  | nil => rfl
  | cons second others inductionHypothesis => exact inductionHypothesis (first.merge second)

theorem sumOf_of_merged? (executed : ∀ part ∈ parts, part.Executed)
    (merged : merged? parts = some profile) : profile.SumOf parts := by
  cases parts with
  | nil => cases merged
  | cons first rest =>
      cases merged
      have alone : first.SumOf [first] := (executed first List.mem_cons_self).sumOf
      apply alone.foldl_merge
      intro part member
      exact executed part (List.mem_cons_of_mem first member)

end FunctionProfile

/-! ## Folding -/

namespace ProfileMap

variable {map : ProfileMap}

/-- The profiles of the variants of a function, in order of their names. -/
def variantsOf (map : ProfileMap) (base : String) : List FunctionProfile :=
  (map.profiles.toList.filter fun entry => Suffix.elide map.markers entry.1 = base).map Prod.snd

/-- The profile of a function is the merger of those of its variants. -/
theorem getElem?_foldVariants (map : ProfileMap) (base : String) :
    map.foldVariants.profiles[base]? = FunctionProfile.merged? (map.variantsOf base) := by
  have folded := OrderedMap.getElem?_foldl_combine FunctionProfile.merge
    (Suffix.elide map.markers) map.profiles.toList ∅ base
  rw [foldVariants, folded, Std.ExtTreeMap.getElem?_empty]
  change (map.variantsOf base).foldl _ none = _
  cases map.variantsOf base with
  | nil => rfl
  | cons first rest => exact FunctionProfile.foldl_some_merge first rest

/-- If no name is cut, folding changes nothing. -/
theorem foldVariants_eq_self
    (fixed : ∀ name ∈ map.profiles, Suffix.elide map.markers name = name) :
    map.foldVariants = map := by
  have sameProfiles : map.foldVariants.profiles = map.profiles := by
    apply Std.ExtTreeMap.ext_getElem?
    intro base
    have alone : (map.profiles.toList.filter fun entry =>
        Suffix.elide map.markers entry.1 = base) =
          map.profiles.toList.filter fun entry => entry.1 = base := by
      apply List.filter_congr
      intro entry member
      have recorded : entry.1 ∈ map.profiles := by
        rw [← Std.ExtTreeMap.mem_keys, ← Std.ExtTreeMap.map_fst_toList_eq_keys]
        exact List.mem_map_of_mem member
      rw [fixed entry.1 recorded]
    rw [getElem?_foldVariants, variantsOf, alone, OrderedMap.filter_toList_eq]
    cases map.profiles[base]? <;> rfl
  calc map.foldVariants
      = { map with profiles := map.foldVariants.profiles } := rfl
    _ = map := by rw [sameProfiles]

/-- Which markers there are decides how variants are folded, not their order. -/
theorem foldVariants_congr {markers : List String}
    (same : ∀ marker, marker ∈ markers ↔ marker ∈ map.markers) :
    { map with markers }.foldVariants.profiles = map.foldVariants.profiles := by
  have sameNames : Suffix.elide markers = Suffix.elide map.markers :=
    funext (Suffix.elide_congr same)
  simp only [foldVariants, sameNames]

/-- The counts of positions are executions in every map to which operations lead. -/
theorem executed_foldl_perform (symbols : List Symbol) (operations : List Operation) :
    Forall FunctionProfile.Executed (operations.foldl perform (ofSymbols symbols)).profiles := by
  have counted : Forall Counted (operations.foldl perform (ofSymbols symbols)).profiles := by
    induction operations using List.reverseRecOn with
    | nil =>
        intro name profile held
        simp [ofSymbols] at held
    | append_singleton earlier operation inductionHypothesis =>
        rw [List.foldl_append]
        exact counted_perform inductionHypothesis operation
  intro name profile held
  obtain ⟨visits, counts⟩ := counted name profile held
  exact counts.executed

/-- Folding leaves the names to which names were cut, none of which is cut again.  Under each of
them stands the sum of its variants.  Folding a second time changes nothing, and the order of the
markers does not matter. -/
theorem foldVariants_adds_up (map : ProfileMap)
    (executed : Forall FunctionProfile.Executed map.profiles) :
    let folded := map.foldVariants
    (∀ base, base ∈ folded.profiles ↔
      ∃ name ∈ map.profiles, Suffix.elide map.markers name = base) ∧
    (∀ base ∈ folded.profiles, Suffix.elide map.markers base = base) ∧
    (∀ (base : String) (profile : FunctionProfile), folded.profiles[base]? = some profile →
      profile.SumOf (map.variantsOf base)) ∧
    folded.foldVariants = folded ∧
    ∀ markers : List String, markers.Perm map.markers →
      { map with markers }.foldVariants.profiles = folded.profiles := by
  intro folded
  have fixed : ∀ base ∈ folded.profiles, Suffix.elide map.markers base = base := by
    intro base recorded
    obtain ⟨name, _, cut⟩ := (mem_foldVariants map base).mp recorded
    rw [← cut, Suffix.elide_elide]
  refine ⟨mem_foldVariants map, fixed, ?_, foldVariants_eq_self fixed, ?_⟩
  · intro base profile held
    rw [getElem?_foldVariants] at held
    apply FunctionProfile.sumOf_of_merged? _ held
    intro part member
    obtain ⟨entry, listed, same⟩ := List.mem_map.mp member
    have found := Std.ExtTreeMap.mem_toList_iff_getElem?_eq_some.mp (List.mem_filter.mp listed).1
    rw [← same]
    exact executed entry.1 entry.2 found
  · intro markers same
    apply foldVariants_congr
    intro marker
    exact same.mem_iff

/-- A function and two of its variants, and a name that starts with a marker. -/
def splitApart : ProfileMap :=
  let operations : List Operation := [
    .record "foo" [⟨"foo", 10, 12, 0⟩] 5 true,
    .record "foo.cold" [⟨"bar", 1, 3, 0⟩, ⟨"foo", 10, 12, 0⟩] countLimit false,
    .record "foo.isra.0.cold" [⟨"foo", 10, 12, 0⟩] 7 false,
    .setTarget "foo.cold" [⟨"foo", 10, 12, 0⟩] "callee" (.execution 3),
    .record ".cold" [⟨".cold", 1, 1, 0⟩] 2 false]
  operations.foldl perform (ofSymbols [])

theorem foldVariants_adds_up_splitApart :
    Forall FunctionProfile.Executed splitApart.profiles ∧
      splitApart.foldVariants.profiles.keys = [".cold", "foo"] ∧
      ∃ profile, splitApart.foldVariants.profiles["foo"]? = some profile ∧
        (profile.nodeAt []).total = countLimit ∧ (profile.nodeAt []).head = 5 ∧
        profile.countAt ⟨[], ⟨2, 0⟩⟩ = .execution 12 ∧
        profile.countAt ⟨[⟨⟨2, 0⟩, "bar"⟩], ⟨2, 0⟩⟩ = .execution countLimit ∧
        (profile.target? ⟨[], ⟨2, 0⟩⟩ "callee").isSome := by
  have executed : Forall FunctionProfile.Executed splitApart.profiles :=
    executed_foldl_perform [] _
  obtain ⟨_, _, sums, _, _⟩ := foldVariants_adds_up splitApart executed
  have found : (splitApart.foldVariants.profiles["foo"]?).isSome := by decide +kernel
  obtain ⟨profile, held⟩ := Option.isSome_iff_exists.mp found
  have sum := sums "foo" profile held
  refine ⟨executed, by decide +kernel, profile, held, ?_, ?_, ?_, ?_, ?_⟩
  · rw [sum.total_eq]
    decide +kernel
  · rw [sum.head_eq]
    decide +kernel
  · rw [sum.count_eq]
    decide +kernel
  · rw [sum.count_eq]
    decide +kernel
  · rw [sum.target_iff]
    decide +kernel

end ProfileMap

end SampleProfile
