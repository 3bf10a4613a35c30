import SampleProfile.OrderedMap
import SampleProfile.Proofs.Saturation
import Std.Data.DTreeMap.Internal.WF.Lemmas

/-!
# Unions of ordered maps

A union inherits commutativity and associativity from the function that joins shared values.  With
`satAdd` as that function, a tally over the union of two maps is the sum of the tallies over the
maps.
-/

namespace SampleProfile.OrderedMap

variable {Key Value : Type} [Ord Key] [Std.TransOrd Key]

/-- The values are listed in the order of their keys. -/
theorem values_eq_map_toList (entries : OrderedMap Key Value) :
    entries.values = entries.toList.map Prod.snd := by
  obtain ⟨⟨inner⟩⟩ := entries
  induction inner using Quotient.ind with
  | _ tree =>
      change Std.DTreeMap.Internal.Impl.values tree.inner =
        (Std.DTreeMap.Internal.Impl.Const.toList tree.inner).map Prod.snd
      rw [Std.DTreeMap.Internal.Impl.values_eq_map_snd,
        Std.DTreeMap.Internal.Impl.Const.toList_eq_toListModel_map, List.map_map]
      rfl

/-! ## Listings -/

section Listings

variable [Std.LawfulEqOrd Key]

theorem nodup_toList (entries : OrderedMap Key Value) : entries.toList.Nodup := by
  have distinct := Std.ExtTreeMap.distinct_keys_toList (t := entries)
  refine distinct.imp ?_
  intro before after different equal
  exact different (equal ▸ Std.ReflCmp.compare_self)

/-! Lists that go through a map entry by entry, with some items for each. -/

theorem mem_flatMap_toList {Item : Type} {entries : OrderedMap Key Value}
    {items : Key × Value → List Item} {item : Item} :
    item ∈ entries.toList.flatMap items ↔
      ∃ key value, entries[key]? = some value ∧ item ∈ items (key, value) := by
  simp only [List.mem_flatMap, Prod.exists, Std.ExtTreeMap.mem_toList_iff_getElem?_eq_some]

/-- No item is listed twice if it tells for which key it is listed. -/
theorem nodup_flatMap_toList {Item : Type} (entries : OrderedMap Key Value)
    {items : Key × Value → List Item} (key : Item → Key)
    (keyed : ∀ entry, ∀ item ∈ items entry, key item = entry.1)
    (distinct : ∀ entry, (items entry).Nodup) : (entries.toList.flatMap items).Nodup := by
  refine List.pairwise_flatMap.mpr ⟨fun entry _ => distinct entry, ?_⟩
  refine Std.ExtTreeMap.distinct_keys_toList.imp ?_
  intro before after different item listed other otherListed same
  rw [← keyed before item listed, ← keyed after other otherListed, same] at different
  exact different Std.ReflCmp.compare_self

/-- A map that has all keys of another one is at least as large. -/
theorem size_le_of_subset {smaller larger : OrderedMap Key Value}
    (subset : ∀ key, key ∈ smaller → key ∈ larger) : smaller.size ≤ larger.size := by
  rw [← Std.ExtTreeMap.length_keys, ← Std.ExtTreeMap.length_keys]
  refine Std.ExtTreeMap.nodup_keys.length_le_of_subset ?_
  intro key member
  rw [Std.ExtTreeMap.mem_keys] at member ⊢
  exact subset key member

/-- Listings are equal up to order as soon as the same values stand at the same keys. -/
theorem toList_perm_iff {entries : OrderedMap Key Value} {listing : List (Key × Value)}
    (distinct : listing.Nodup) :
    entries.toList.Perm listing ↔
      ∀ key value, entries[key]? = some value ↔ (key, value) ∈ listing := by
  rw [List.perm_ext_iff_of_nodup (nodup_toList entries) distinct]
  constructor
  · intro same key value
    rw [← Std.ExtTreeMap.mem_toList_iff_getElem?_eq_some, same]
  · rintro same ⟨key, value⟩
    rw [Std.ExtTreeMap.mem_toList_iff_getElem?_eq_some, same]

theorem any_toList_iff (passes : Key → Bool) (entries : OrderedMap Key Value) :
    (entries.toList.any fun entry => passes entry.1) ↔ ∃ key ∈ entries, passes key := by
  rw [List.any_eq_true]
  constructor
  · rintro ⟨⟨key, value⟩, member, passed⟩
    rw [Std.ExtTreeMap.mem_toList_iff_getElem?_eq_some] at member
    exact ⟨key, Std.ExtTreeMap.mem_iff_isSome_getElem?.mpr (by rw [member]; rfl), passed⟩
  · rintro ⟨key, member, passed⟩
    obtain ⟨value, held⟩ := Option.isSome_iff_exists.mp
      (Std.ExtTreeMap.mem_iff_isSome_getElem?.mp member)
    exact ⟨(key, value), Std.ExtTreeMap.mem_toList_iff_getElem?_eq_some.mpr held, passed⟩

/-- Insertions one after another leave at a key what any of them put there, if they never disagree.
-/
theorem getElem?_foldl_insert {Item : Type} (key : Item → Key) (value : Item → Value)
    {items : List Item} (entries : OrderedMap Key Value) (tested : Key) (result : Value)
    (agree : ∀ left ∈ items, ∀ right ∈ items, key left = key right → value left = value right) :
    (items.foldl (fun map item => map.insert (key item) (value item)) entries)[tested]? =
        some result ↔
      (∃ item ∈ items, key item = tested ∧ value item = result) ∨
        (entries[tested]? = some result ∧ ∀ item ∈ items, key item ≠ tested) := by
  induction items generalizing entries with
  | nil => simp
  | cons item rest inductionHypothesis =>
      have agreeRest : ∀ left ∈ rest, ∀ right ∈ rest,
          key left = key right → value left = value right := by
        intro left leftMember right rightMember
        exact agree left (List.mem_cons_of_mem _ leftMember) right
          (List.mem_cons_of_mem _ rightMember)
      rw [List.foldl_cons, inductionHypothesis _ agreeRest, Std.ExtTreeMap.getElem?_insert]
      by_cases same : key item = tested
      · subst same
        simp only [Std.ReflCmp.compare_self, if_true, Option.some_inj, List.mem_cons]
        constructor
        · rintro (⟨other, member, equal, found⟩ | ⟨found, _⟩)
          · exact Or.inl ⟨other, Or.inr member, equal, found⟩
          · exact Or.inl ⟨item, Or.inl rfl, rfl, found⟩
        · rintro (⟨other, member, equal, found⟩ | ⟨_, none⟩)
          · have first : value item = result := by
              rw [← found]
              exact agree item List.mem_cons_self other (List.mem_cons.mpr member) equal.symm
            by_cases later : ∃ other ∈ rest, key other = key item
            · obtain ⟨other, member, equal⟩ := later
              refine Or.inl ⟨other, member, equal, ?_⟩
              rw [← first]
              exact agree other (List.mem_cons_of_mem _ member) item List.mem_cons_self equal
            · exact Or.inr ⟨first, fun other member equal => later ⟨other, member, equal⟩⟩
          · exact absurd rfl (none item (Or.inl rfl))
      · have different : compare (key item) tested ≠ .eq := fun equal =>
          same (Std.LawfulEqOrd.eq_of_compare equal)
        simp [same, different]

/-- Inserting all entries of a map into an empty one builds the map. -/
theorem foldl_insert_toList (entries : OrderedMap Key Value) :
    entries.toList.foldl (fun map entry => map.insert entry.1 entry.2) ∅ = entries := by
  have agree : ∀ left ∈ entries.toList, ∀ right ∈ entries.toList,
      left.1 = right.1 → left.2 = right.2 := by
    rintro ⟨key, leftValue⟩ leftMember ⟨_, rightValue⟩ rightMember rfl
    rw [Std.ExtTreeMap.mem_toList_iff_getElem?_eq_some] at leftMember rightMember
    exact Option.some_inj.mp (leftMember.symm.trans rightMember)
  refine Std.ExtTreeMap.ext_getElem? fun key => Option.ext fun value => ?_
  rw [getElem?_foldl_insert Prod.fst Prod.snd ∅ key value agree]
  constructor
  · rintro (⟨⟨_, _⟩, member, rfl, rfl⟩ | ⟨found, _⟩)
    · exact Std.ExtTreeMap.mem_toList_iff_getElem?_eq_some.mp member
    · simp at found
  · intro found
    exact Or.inl ⟨(key, value), Std.ExtTreeMap.mem_toList_iff_getElem?_eq_some.mpr found, rfl, rfl⟩

end Listings

/-! ## Values made on demand -/

section Update

variable [DecidableEq Key] [Std.LawfulEqOrd Key] [Inhabited Value]

theorem update_eq_insert (entries : OrderedMap Key Value) (key : Key) (change : Value → Value) :
    update entries key change = entries.insert key (change (entries[key]?.getD default)) := by
  refine Std.ExtTreeMap.ext_getElem? fun tested => ?_
  rw [getElem?_update, Std.ExtTreeMap.getElem?_insert]
  simp only [Std.LawfulEqCmp.compare_eq_iff_eq]

theorem update_id_of_mem {entries : OrderedMap Key Value} {key : Key} (member : key ∈ entries) :
    update entries key id = entries := by
  refine Std.ExtTreeMap.ext_getElem? fun tested => ?_
  rw [getElem?_update]
  by_cases same : key = tested
  · subst same
    rw [Std.ExtTreeMap.mem_iff_isSome_getElem?] at member
    obtain ⟨value, held⟩ := Option.isSome_iff_exists.mp member
    simp [held]
  · rw [if_neg same]

theorem update_update_id (entries : OrderedMap Key Value) (key : Key) (change : Value → Value) :
    update (update entries key id) key change = update entries key change := by
  refine Std.ExtTreeMap.ext_getElem? fun tested => ?_
  rw [getElem?_update, getElem?_update, getElem?_update, getElem?_update]
  by_cases same : key = tested <;> simp [same]

end Update

/-! ## Unions -/

section Unions

variable [DecidableEq Key] [Std.LawfulEqOrd Key]

/-- Combining a value with what a key holds puts one entry in the place of at most one. -/
theorem toList_combine_perm (join : Value → Value → Value)
    (entries : OrderedMap Key Value) (key : Key) (value : Value) :
    ∃ others : List (Key × Value),
      entries.toList.Perm ((entries[key]?.map fun held => (key, held)).toList ++ others) ∧
      (combine join entries key value).toList.Perm
        ((key, (entries[key]?.map (join · value)).getD value) :: others) := by
  let others := entries.toList.filter fun entry => entry.1 ≠ key
  have distinct : others.Nodup := (nodup_toList entries).filter _
  have member : ∀ other held, (other, held) ∈ others ↔
      entries[other]? = some held ∧ other ≠ key := by
    intro other held
    simp [others]
  refine ⟨others, ?_, ?_⟩
  · cases held : entries[key]? with
    | none =>
        rw [Option.map_none, Option.toList_none, List.nil_append, toList_perm_iff distinct]
        intro other value
        rw [member]
        refine ⟨fun found => ⟨found, ?_⟩, And.left⟩
        rintro rfl
        simp [held] at found
    | some holding =>
        have added : ((key, holding) :: others).Nodup := by
          rw [List.nodup_cons, member]
          exact ⟨fun claimed => claimed.2 rfl, distinct⟩
        rw [Option.map_some, Option.toList_some, List.singleton_append, toList_perm_iff added]
        intro other value
        rw [List.mem_cons, member]
        by_cases same : other = key
        · subst same
          simp [held, eq_comm]
        · simp [same]
  · have added : ((key, (entries[key]?.map (join · value)).getD value) :: others).Nodup := by
      rw [List.nodup_cons, member]
      exact ⟨fun claimed => claimed.2 rfl, distinct⟩
    rw [toList_perm_iff added]
    intro other result
    rw [getElem?_combine, List.mem_cons, member]
    by_cases same : key = other
    · subst same
      cases entries[key]? <;> simp [eq_comm]
    · simp [same, Ne.symm same]

/-- A look-up in a union merges what the two maps answer. -/
theorem getElem?_unionWith_eq_merge (join : Value → Value → Value)
    (left right : OrderedMap Key Value) (key : Key) :
    (unionWith join left right)[key]? = Option.merge join left[key]? right[key]? := by
  rw [getElem?_unionWith]
  cases left[key]? <;> cases right[key]? <;> rfl

@[simp]
theorem empty_unionWith (join : Value → Value → Value) (entries : OrderedMap Key Value) :
    unionWith join ∅ entries = entries := by
  refine Std.ExtTreeMap.ext_getElem? fun key => ?_
  rw [getElem?_unionWith]
  cases entries[key]? <;> simp

@[simp]
theorem unionWith_empty (join : Value → Value → Value) (entries : OrderedMap Key Value) :
    unionWith join entries ∅ = entries := by
  refine Std.ExtTreeMap.ext_getElem? fun key => ?_
  rw [getElem?_unionWith]
  cases entries[key]? <;> simp

theorem unionWith_comm {join : Value → Value → Value}
    (joinComm : ∀ left right, join left right = join right left)
    (left right : OrderedMap Key Value) :
    unionWith join left right = unionWith join right left := by
  refine Std.ExtTreeMap.ext_getElem? fun key => ?_
  rw [getElem?_unionWith, getElem?_unionWith]
  cases left[key]? <;> cases right[key]? <;> simp [joinComm]

theorem unionWith_assoc {join : Value → Value → Value}
    (joinAssoc : ∀ first second third,
      join (join first second) third = join first (join second third))
    (first second third : OrderedMap Key Value) :
    unionWith join (unionWith join first second) third =
      unionWith join first (unionWith join second third) := by
  refine Std.ExtTreeMap.ext_getElem? fun key => ?_
  simp only [getElem?_unionWith]
  cases first[key]? <;> cases second[key]? <;> cases third[key]? <;> simp [joinAssoc]

theorem size_le_size_unionWith (join : Value → Value → Value)
    (left right : OrderedMap Key Value) : left.size ≤ (unionWith join left right).size :=
  size_le_of_subset fun key member => (mem_unionWith join left right key).mpr (Or.inl member)

end Unions

/-! ## Tallies over unions -/

section Tallies

variable [DecidableEq Key] [Std.LawfulEqOrd Key] (passes : Key → Bool)

theorem tally_combine (entries : OrderedMap Key UInt64) (key : Key) (count : UInt64) :
    tally passes (combine satAdd entries key count).toList =
      satAdd (tally passes entries.toList) (if passes key then count else 0) := by
  obtain ⟨others, before, after⟩ := toList_combine_perm satAdd entries key count
  rw [tally_perm passes before, tally_perm passes after, tally_cons, tally_append]
  cases entries[key]? with
  | none => simp [satAdd_comm]
  | some held =>
      by_cases passed : passes key
      · simp only [passed, Option.map_some, Option.getD_some, Option.toList_some, tally_cons,
          tally_nil, satAdd_zero, if_true]
        rw [satAdd_assoc, satAdd_assoc, satAdd_comm count]
      · simp [passed, tally_cons]

/-- Every count of the two maps enters the tally of the union exactly once. -/
theorem tally_unionWith (left right : OrderedMap Key UInt64) :
    tally passes (unionWith satAdd left right).toList =
      satAdd (tally passes left.toList) (tally passes right.toList) := by
  have run : ∀ (entries : List (Key × UInt64)) (start : OrderedMap Key UInt64),
      tally passes
          (entries.foldl (fun map entry => combine satAdd map entry.1 entry.2) start).toList =
        satAdd (tally passes start.toList) (tally passes entries) := by
    intro entries
    induction entries with
    | nil => simp
    | cons entry rest inductionHypothesis =>
        intro start
        rw [List.foldl_cons, inductionHypothesis, tally_combine, satAdd_assoc, tally_cons]
  exact run right.toList left

/-- The union of two maps and their entries one after another agree in all tallies. -/
theorem sameTallies_unionWith (left right : OrderedMap Key UInt64) :
    SameTallies (unionWith satAdd left right).toList (left.toList ++ right.toList) where
  any_eq passes := by
    rw [List.any_append, Bool.eq_iff_iff, Bool.or_eq_true, any_toList_iff, any_toList_iff,
      any_toList_iff]
    simp only [mem_unionWith, or_and_right, exists_or]
  tally_eq passes := by rw [tally_unionWith, tally_append]

end Tallies

end SampleProfile.OrderedMap
