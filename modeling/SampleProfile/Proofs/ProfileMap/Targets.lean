import Mathlib.Data.List.Basic
import SampleProfile.ProfileMap
import SampleProfile.Proofs.FunctionProfile.Counts

/-!
# Looking up call targets

A call target stands in a slot: under its name, at a place, in the profile of a function.
`targetAt?` answers what is stored in a slot; a map without a count in a slot has no such target.
`slots` lists the slots in which targets stand, each once.
-/

namespace SampleProfile

/-- Where a call target is stored. -/
structure Slot where
  /-- The name of the profile. -/
  function : String
  place : Place
  /-- The name of the target. -/
  target : String
deriving DecidableEq

namespace FunctionProfile

/-! ## Targets of one function -/

/-- The count of a target at a place. -/
def target? (profile : FunctionProfile) (place : Place) (target : String) : Option Count :=
  (profile.nodeAt place.path).positions[place.offset]?.bind fun position =>
    position.targets[target]?

@[simp]
theorem target?_empty (place : Place) (target : String) : empty.target? place target = none := by
  simp [target?, Node.default_eq]

theorem target?_setTarget (place tested : Place) (target name : String) (count : Count)
    (profile : FunctionProfile) :
    (profile.setTarget place target count).target? tested name =
      if place = tested ∧ target = name then some count else profile.target? tested name := by
  rw [target?, getElem?_positions_setTarget]
  by_cases here : place = tested
  · subst here
    simp only [if_true, Option.bind_some, true_and, Std.ExtTreeMap.getElem?_insert,
      Std.LawfulEqCmp.compare_eq_iff_eq]
    by_cases same : target = name
    · simp [same]
    · rw [if_neg same, if_neg same, target?]
      cases (profile.nodeAt place.path).positions[place.offset]? <;>
        simp [Position.default_eq]
  · rw [if_neg here, if_neg (fun both => here both.1)]
    rfl

theorem target?_merge (left right : FunctionProfile) (place : Place) (target : String) :
    (left.merge right).target? place target =
      Option.merge Count.accumulate (left.target? place target) (right.target? place target) := by
  simp only [target?, nodeAt_merge, Node.merge, OrderedMap.getElem?_unionWith_eq_merge]
  cases (left.nodeAt place.path).positions[place.offset]? with
  | none => simp
  | some leftPosition =>
      cases (right.nodeAt place.path).positions[place.offset]? with
      | none => simp
      | some rightPosition => simp [Position.merge, OrderedMap.getElem?_unionWith_eq_merge]

end FunctionProfile

namespace ProfileMap

/-! ## Targets of all functions -/

variable (profiles : OrderedMap String FunctionProfile)

/-- The count in a slot. -/
def targetAt? (slot : Slot) : Option Count :=
  profiles[slot.function]?.bind fun profile => profile.target? slot.place slot.target

@[simp]
theorem targetAt?_empty (slot : Slot) : targetAt? ∅ slot = none := by
  simp [targetAt?]

theorem targetAt?_update_id (name : String) (slot : Slot) :
    targetAt? (OrderedMap.update profiles name id) slot = targetAt? profiles slot := by
  rw [targetAt?, OrderedMap.getElem?_update, targetAt?]
  by_cases here : name = slot.function
  · subst here
    rw [if_pos rfl]
    cases profiles[slot.function]? with
    | none => exact FunctionProfile.target?_empty _ _
    | some profile => rfl
  · rw [if_neg here]

theorem targetAt?_store (stored slot : Slot) (count : Count) :
    targetAt? (OrderedMap.update profiles stored.function
        (·.setTarget stored.place stored.target count)) slot =
      if stored = slot then some count else targetAt? profiles slot := by
  obtain ⟨function, place, target⟩ := slot
  obtain ⟨storedFunction, storedPlace, storedTarget⟩ := stored
  have held : (profiles[storedFunction]?.getD default).target? place target =
      profiles[storedFunction]?.bind fun profile => profile.target? place target := by
    cases profiles[storedFunction]? with
    | none => exact FunctionProfile.target?_empty _ _
    | some profile => rfl
  simp only [targetAt?, OrderedMap.getElem?_update, Slot.mk.injEq]
  by_cases here : storedFunction = function
  · subst here
    simp only [if_true, Option.bind_some, FunctionProfile.target?_setTarget, true_and, held]
  · simp [here]

theorem targetAt?_combine (name : String) (profile : FunctionProfile) (slot : Slot) :
    targetAt? (OrderedMap.combine FunctionProfile.merge profiles name profile) slot =
      if name = slot.function then
        Option.merge Count.accumulate (targetAt? profiles slot)
          (profile.target? slot.place slot.target)
      else
        targetAt? profiles slot := by
  rw [targetAt?, OrderedMap.getElem?_combine, targetAt?]
  by_cases here : name = slot.function
  · subst here
    rw [if_pos rfl, if_pos rfl]
    cases profiles[slot.function]? with
    | none => simp
    | some held => simp [FunctionProfile.target?_merge]
  · rw [if_neg here, if_neg here]

/-! ## Folding variants -/

section Fold

variable (markers : List String)

theorem mem_foldVariants (map : ProfileMap) (name : String) :
    name ∈ map.foldVariants.profiles ↔
      ∃ variant ∈ map.profiles, Suffix.elide map.markers variant = name := by
  have run : ∀ (entries : List (String × FunctionProfile))
      (folded : OrderedMap String FunctionProfile),
      name ∈ entries.foldl (fun folded entry => OrderedMap.combine FunctionProfile.merge folded
          (Suffix.elide map.markers entry.1) entry.2) folded ↔
        name ∈ folded ∨
          ∃ variant ∈ entries.map Prod.fst, Suffix.elide map.markers variant = name := by
    intro entries
    induction entries with
    | nil => simp
    | cons entry rest inductionHypothesis =>
        intro folded
        have combined : name ∈ OrderedMap.combine FunctionProfile.merge folded
            (Suffix.elide map.markers entry.1) entry.2 ↔
              Suffix.elide map.markers entry.1 = name ∨ name ∈ folded := by
          rw [Std.ExtTreeMap.mem_iff_isSome_getElem?, OrderedMap.getElem?_combine,
            Std.ExtTreeMap.mem_iff_isSome_getElem?]
          by_cases same : Suffix.elide map.markers entry.1 = name <;> simp [same]
        rw [List.foldl_cons, inductionHypothesis, combined, List.map_cons]
        simp only [List.mem_cons, exists_eq_or_imp]
        rw [or_comm (a := Suffix.elide _ _ = _), or_assoc]
  rw [foldVariants, run, Std.ExtTreeMap.map_fst_toList_eq_keys]
  simp only [Std.ExtTreeMap.mem_keys, Std.ExtTreeMap.not_mem_empty, false_or]

/-- Counts that are all deltas are not accumulated: the first one stays. -/
theorem targetAt?_foldl_combine {entries : List (String × FunctionProfile)}
    (folded : OrderedMap String FunctionProfile) (slot : Slot)
    (deltas : ∀ entry ∈ entries, ∀ count,
      entry.2.target? slot.place slot.target = some count → ∃ delta, count = .prefetchDelta delta)
    (heldDelta : ∀ count, targetAt? folded slot = some count →
      ∃ delta, count = .prefetchDelta delta) :
    targetAt? (entries.foldl (fun folded entry => OrderedMap.combine FunctionProfile.merge folded
        (Suffix.elide markers entry.1) entry.2) folded) slot =
      (targetAt? folded slot).or ((entries.filter fun entry =>
        Suffix.elide markers entry.1 = slot.function).findSome? fun entry =>
          entry.2.target? slot.place slot.target) := by
  induction entries generalizing folded with
  | nil => simp
  | cons entry rest inductionHypothesis =>
      have later := fun other member => deltas other (List.mem_cons_of_mem entry member)
      have here := deltas entry List.mem_cons_self
      have combined : targetAt? (OrderedMap.combine FunctionProfile.merge folded
          (Suffix.elide markers entry.1) entry.2) slot =
            if Suffix.elide markers entry.1 = slot.function then
              (targetAt? folded slot).or (entry.2.target? slot.place slot.target)
            else
              targetAt? folded slot := by
        rw [targetAt?_combine]
        cases held : targetAt? folded slot with
        | none => simp
        | some count =>
            obtain ⟨delta, rfl⟩ := heldDelta count held
            cases entry.2.target? slot.place slot.target <;> rfl
      rw [List.foldl_cons, inductionHypothesis _ later]
      · rw [combined]
        by_cases same : Suffix.elide markers entry.1 = slot.function
        · rw [if_pos same, List.filter_cons_of_pos (by simpa using same), List.findSome?_cons,
            Option.or_assoc]
          cases entry.2.target? slot.place slot.target <;> rfl
        · rw [if_neg same, List.filter_cons_of_neg (by simpa using same)]
      · rw [combined]
        intro count found
        by_cases same : Suffix.elide markers entry.1 = slot.function
        · rw [if_pos same, Option.or_eq_some_iff] at found
          rcases found with held | ⟨_, added⟩
          · exact heldDelta count held
          · exact here count added
        · rw [if_neg same] at found
          exact heldDelta count found

/-- Of the deltas that variants of a function hold in a slot, the one under the first name is kept.
-/
theorem targetAt?_foldVariants (map : ProfileMap) (slot : Slot)
    (deltas : ∀ held count, targetAt? map.profiles held = some count →
      ∃ delta, count = .prefetchDelta delta) :
    targetAt? map.foldVariants.profiles slot =
      (map.profiles.keys.filter fun name =>
        Suffix.elide map.markers name = slot.function).findSome? fun name =>
          targetAt? map.profiles { slot with function := name } := by
  have answered : ∀ entry ∈ map.profiles.toList,
      entry.2.target? slot.place slot.target =
        targetAt? map.profiles { slot with function := entry.1 } := by
    rintro ⟨name, profile⟩ member
    rw [Std.ExtTreeMap.mem_toList_iff_getElem?_eq_some] at member
    simp [targetAt?, member]
  rw [foldVariants, targetAt?_foldl_combine map.markers ∅ slot, targetAt?_empty, Option.none_or,
    ← Std.ExtTreeMap.map_fst_toList_eq_keys, List.filter_map, List.findSome?_map,
    ← List.head?_filterMap, ← List.head?_filterMap]
  · congr 1
    exact List.filterMap_congr fun entry member => answered entry (List.mem_filter.mp member).1
  · intro entry member count found
    rw [answered entry member] at found
    exact deltas _ count found
  · intro count found
    simp at found

end Fold

end ProfileMap

/-! ## Listing slots -/

/-- The offsets and names of the targets of one instance. -/
def Node.targets (node : Node) : List (LineOffset × String) :=
  node.positions.toList.flatMap fun entry =>
    entry.2.targets.keys.map fun target => (entry.1, target)

def FunctionProfile.targets (profile : FunctionProfile) : List (Place × String) :=
  profile.nodes.toList.flatMap fun entry =>
    entry.2.targets.map fun held => (⟨entry.1, held.1⟩, held.2)

/-- The slots of all targets. -/
def ProfileMap.slots (profiles : OrderedMap String FunctionProfile) : List Slot :=
  profiles.toList.flatMap fun entry =>
    entry.2.targets.map fun held => ⟨entry.1, held.1, held.2⟩

theorem Node.mem_targets {node : Node} {offset : LineOffset} {target : String} :
    (offset, target) ∈ node.targets ↔
      (node.positions[offset]?.bind fun position => position.targets[target]?).isSome := by
  rw [targets, OrderedMap.mem_flatMap_toList]
  simp only [List.mem_map, Std.ExtTreeMap.mem_keys, Std.ExtTreeMap.mem_iff_isSome_getElem?]
  constructor
  · rintro ⟨_, position, held, _, stored, same⟩
    obtain ⟨rfl, rfl⟩ := Prod.mk.inj same
    simpa [held] using stored
  · intro stored
    obtain ⟨position, held⟩ := Option.isSome_iff_exists.mp (Option.isSome_of_isSome_bind stored)
    exact ⟨offset, position, held, target, by simpa [held] using stored, rfl⟩

theorem Node.nodup_targets (node : Node) : node.targets.Nodup := by
  refine OrderedMap.nodup_flatMap_toList node.positions Prod.fst ?_ fun entry => ?_
  · intro entry held listed
    obtain ⟨_, _, rfl⟩ := List.mem_map.mp listed
    rfl
  · exact List.Pairwise.map _ (fun _ _ different same => different (Prod.mk.inj same).2)
      Std.ExtTreeMap.nodup_keys

theorem FunctionProfile.mem_targets {profile : FunctionProfile} {place : Place} {target : String} :
    (place, target) ∈ profile.targets ↔ (profile.target? place target).isSome := by
  rw [targets, OrderedMap.mem_flatMap_toList, target?, ← Node.mem_targets, nodeAt, node?]
  simp only [List.mem_map]
  constructor
  · rintro ⟨path, node, held, _, listed, same⟩
    obtain ⟨rfl, rfl⟩ := Prod.mk.inj same
    simpa [held] using listed
  · intro listed
    cases held : profile.nodes[place.path]? with
    | none => simp [held, Node.targets, Node.default_eq] at listed
    | some node => exact ⟨place.path, node, held, _, by simpa [held] using listed, rfl⟩

theorem FunctionProfile.nodup_targets (profile : FunctionProfile) : profile.targets.Nodup := by
  refine OrderedMap.nodup_flatMap_toList profile.nodes (fun held => held.1.path) ?_ fun entry => ?_
  · intro entry held listed
    obtain ⟨_, _, rfl⟩ := List.mem_map.mp listed
    rfl
  · refine List.Pairwise.map _ ?_ entry.2.nodup_targets
    rintro before after different same
    simp only [Prod.mk.injEq, Place.mk.injEq, true_and] at same
    exact different (Prod.ext same.1 same.2)

namespace ProfileMap

variable {profiles : OrderedMap String FunctionProfile}

theorem mem_slots {slot : Slot} : slot ∈ slots profiles ↔ (targetAt? profiles slot).isSome := by
  rw [slots, OrderedMap.mem_flatMap_toList, targetAt?]
  simp only [List.mem_map]
  constructor
  · rintro ⟨name, profile, held, ⟨place, target⟩, listed, rfl⟩
    simpa [held] using FunctionProfile.mem_targets.mp listed
  · intro stored
    obtain ⟨profile, held⟩ := Option.isSome_iff_exists.mp (Option.isSome_of_isSome_bind stored)
    rw [held, Option.bind_some] at stored
    exact ⟨slot.function, profile, held, _, FunctionProfile.mem_targets.mpr stored, rfl⟩

theorem nodup_slots (profiles : OrderedMap String FunctionProfile) : (slots profiles).Nodup := by
  refine OrderedMap.nodup_flatMap_toList profiles Slot.function ?_ fun entry => ?_
  · intro entry slot listed
    obtain ⟨_, _, rfl⟩ := List.mem_map.mp listed
    rfl
  · refine List.Pairwise.map _ ?_ entry.2.nodup_targets
    rintro before after different same
    simp only [Slot.mk.injEq, true_and] at same
    exact different (Prod.ext same.1 same.2)

end ProfileMap

end SampleProfile
