/-!
# Items and what stands before them

Where a fold treats an item by what came before it, the occasions of a list say what it treats.
-/

namespace SampleProfile

/-- The items of a list in order, each with all items that stand before it. -/
def occasions {Item : Type} (items : List Item) : List (List Item × Item) :=
  items.mapIdx fun place item => (items.take place, item)

section Occasions

variable {Item : Type} (items : List Item)

@[simp]
theorem occasions_nil : occasions ([] : List Item) = [] := rfl

theorem occasions_concat (item : Item) :
    occasions (items ++ [item]) = occasions items ++ [(items, item)] := by
  rw [occasions, List.mapIdx_concat, List.take_left]
  congr 1
  refine List.ext_getElem? fun place => ?_
  rw [occasions, List.getElem?_mapIdx, List.getElem?_mapIdx]
  cases found : items[place]? with
  | none => rfl
  | some held =>
      obtain ⟨inside, _⟩ := List.getElem?_eq_some_iff.mp found
      rw [Option.map_some, Option.map_some, List.take_append_of_le_length (Nat.le_of_lt inside)]

theorem occasions_cons (item : Item) :
    occasions (item :: items) =
      ([], item) :: (occasions items).map fun occasion => (item :: occasion.1, occasion.2) := by
  rw [occasions, List.mapIdx_cons, List.take_zero]
  congr 1
  refine List.ext_getElem? fun place => ?_
  rw [List.getElem?_mapIdx, List.getElem?_map, occasions, List.getElem?_mapIdx, Option.map_map]
  rfl

theorem map_snd_occasions : (occasions items).map Prod.snd = items := by
  refine List.ext_getElem? fun place => ?_
  rw [occasions, List.getElem?_map, List.getElem?_mapIdx, Option.map_map]
  exact Option.map_id_apply

theorem mem_occasions_iff {earlier : List Item} {item : Item} :
    (earlier, item) ∈ occasions items ↔ ∃ later, items = earlier ++ item :: later := by
  rw [occasions, List.mem_mapIdx]
  constructor
  · rintro ⟨place, inside, same⟩
    obtain ⟨rfl, rfl⟩ := Prod.mk.inj same
    exact ⟨items.drop (place + 1), by simp⟩
  · rintro ⟨later, rfl⟩
    exact ⟨earlier.length, by simp, by simp⟩

end Occasions

end SampleProfile
