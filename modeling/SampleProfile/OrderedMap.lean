import Std.Data.ExtTreeMap

/-!
# Ordered maps

Maps that are listed in the order of their keys and are equal as soon as all look-ups agree.  The
one operation added here is the union that combines the values of shared keys; `getElem?_unionWith`
says what it answers.
-/

namespace SampleProfile

/-- A finite map, listed in the order of its keys. -/
abbrev OrderedMap (Key Value : Type) [Ord Key] :=
  Std.ExtTreeMap Key Value compare

/-- A finite set, listed in order. -/
abbrev OrderedSet (Key : Type) [Ord Key] :=
  Std.ExtTreeMap Key Unit compare

namespace OrderedMap

variable {Key Value : Type} [Ord Key] [Std.TransOrd Key]

/-- Combines a value with what the map holds at a key. -/
def combine
    (join : Value → Value → Value)
    (entries : OrderedMap Key Value) (key : Key) (value : Value) :
    OrderedMap Key Value :=
  entries.alter key fun
    | some held => some (join held value)
    | none => some value

/-- All keys of both maps; a key of both holds the two values joined, the left map's value first. -/
def unionWith
    (join : Value → Value → Value) (left right : OrderedMap Key Value) :
    OrderedMap Key Value :=
  right.toList.foldl (fun entries entry => combine join entries entry.1 entry.2) left

/-- Changes the value at a key, starting from the default value when there is none. -/
def update [Inhabited Value]
    (entries : OrderedMap Key Value) (key : Key) (change : Value → Value) :
    OrderedMap Key Value :=
  entries.alter key fun held => some (change (held.getD default))

theorem getElem?_combine [DecidableEq Key] [Std.LawfulEqOrd Key]
    (join : Value → Value → Value)
    (entries : OrderedMap Key Value) (key tested : Key) (value : Value) :
    (combine join entries key value)[tested]? =
      if key = tested then
        some (match entries[key]? with
          | some held => join held value
          | none => value)
      else
        entries[tested]? := by
  rw [combine, Std.ExtTreeMap.getElem?_alter]
  by_cases same : key = tested
  · subst same
    simp only [Std.ReflCmp.compare_self, ↓reduceIte]
    cases entries[key]? <;> rfl
  · have different : compare key tested ≠ .eq := fun equal =>
      same (Std.LawfulEqOrd.eq_of_compare equal)
    simp [same, different]

/-- A look-up in a union joins what the two maps answer. -/
theorem getElem?_unionWith [DecidableEq Key] [Std.LawfulEqOrd Key]
    (join : Value → Value → Value)
    (left right : OrderedMap Key Value) (key : Key) :
    (unionWith join left right)[key]? =
      match left[key]?, right[key]? with
      | some held, some value => some (join held value)
      | some held, none => some held
      | none, answer => answer := by
  have run : ∀ (entries : List (Key × Value)) (start : OrderedMap Key Value),
      entries.Pairwise (fun before after => before.1 ≠ after.1) →
      (entries.foldl (fun map entry => combine join map entry.1 entry.2) start)[key]? =
        match start[key]?, (entries.find? (fun entry => entry.1 = key)).map Prod.snd with
        | some held, some value => some (join held value)
        | some held, none => some held
        | none, answer => answer := by
    intro entries
    induction entries with
    | nil =>
        intro start _
        rw [List.foldl_nil]
        cases start[key]? <;> rfl
    | cons entry rest inductionHypothesis =>
        intro start distinct
        rw [List.pairwise_cons] at distinct
        rw [List.foldl_cons, inductionHypothesis _ distinct.2,
          getElem?_combine]
        by_cases same : entry.1 = key
        · have absent : rest.find? (fun other => other.1 = key) = none := by
            rw [List.find?_eq_none]
            intro other member
            simp only [decide_eq_true_eq]
            intro equal
            exact distinct.1 other member (same.trans equal.symm)
          simp only [same, ↓reduceIte, absent, decide_true, List.find?_cons_of_pos,
            Option.map_none, Option.map_some]
          cases start[key]? <;> rfl
        · simp [same]
  rw [unionWith, run right.toList left]
  · congr 1
    cases found : right.toList.find? (fun entry => entry.1 = key) with
    | none =>
        cases answer : right[key]? with
        | none => rfl
        | some value =>
            have member := Std.ExtTreeMap.mem_toList_iff_getElem?_eq_some.mpr answer
            rw [List.find?_eq_none] at found
            simpa using found _ member
    | some entry =>
        have member := List.mem_of_find?_eq_some found
        have same : entry.1 = key := by simpa using List.find?_some found
        have answer := Std.ExtTreeMap.mem_toList_iff_getElem?_eq_some.mp
          (show (entry.1, entry.2) ∈ right.toList from member)
        rw [← same, answer]
        rfl
  · refine List.Pairwise.imp ?_ (Std.ExtTreeMap.distinct_keys_toList)
    intro before after distinct equal
    simp [equal, Std.ReflCmp.compare_self] at distinct

theorem getElem?_update [Inhabited Value] [DecidableEq Key] [Std.LawfulEqOrd Key]
    (entries : OrderedMap Key Value) (key tested : Key) (change : Value → Value) :
    (update entries key change)[tested]? =
      if key = tested then
        some (change (entries[key]?.getD default))
      else
        entries[tested]? := by
  rw [update, Std.ExtTreeMap.getElem?_alter]
  by_cases same : key = tested
  · simp [same, Std.ReflCmp.compare_self]
  · have different : compare key tested ≠ .eq := fun equal =>
      same (Std.LawfulEqOrd.eq_of_compare equal)
    simp [same, different]

theorem mem_update [Inhabited Value] [DecidableEq Key] [Std.LawfulEqOrd Key]
    (entries : OrderedMap Key Value) (key tested : Key) (change : Value → Value) :
    tested ∈ update entries key change ↔ key = tested ∨ tested ∈ entries := by
  rw [Std.ExtTreeMap.mem_iff_isSome_getElem?, getElem?_update,
    Std.ExtTreeMap.mem_iff_isSome_getElem?]
  by_cases same : key = tested <;> simp [same]

theorem mem_unionWith [DecidableEq Key] [Std.LawfulEqOrd Key]
    (join : Value → Value → Value)
    (left right : OrderedMap Key Value) (key : Key) :
    key ∈ unionWith join left right ↔ key ∈ left ∨ key ∈ right := by
  rw [Std.ExtTreeMap.mem_iff_isSome_getElem?, getElem?_unionWith,
    Std.ExtTreeMap.mem_iff_isSome_getElem?, Std.ExtTreeMap.mem_iff_isSome_getElem?]
  cases left[key]? <;> cases right[key]? <;> simp

end OrderedMap

end SampleProfile
