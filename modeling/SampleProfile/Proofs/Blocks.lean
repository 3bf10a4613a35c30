/-!
# Sequences that come apart

A sequence of blocks tells its blocks if each of them opens with an item of a kind that does not
occur later in it.
-/

namespace SampleProfile

variable {Block Item First Second : Type}

/-- Lists that agree in one respect agree in every other one that it determines. -/
theorem map_eq_of_map_eq {first : Block → First} {second : Block → Second}
    {left right : List Block}
    (determined : ∀ block ∈ left, ∀ other ∈ right,
      first block = first other → second block = second other)
    (same : left.map first = right.map first) : left.map second = right.map second := by
  induction left generalizing right with
  | nil => rw [List.map_eq_nil_iff.mp same.symm]
  | cons block rest inductionHypothesis =>
      cases right with
      | nil => cases same
      | cons other others =>
          obtain ⟨sameBlock, sameRest⟩ := List.cons.inj same
          have later : ∀ block ∈ rest, ∀ other ∈ others,
              first block = first other → second block = second other :=
            fun block member other otherMember => determined block
              (List.mem_cons_of_mem _ member) other (List.mem_cons_of_mem _ otherMember)
          rw [List.map_cons, List.map_cons, inductionHypothesis later sameRest,
            determined block List.mem_cons_self other List.mem_cons_self sameBlock]

/-- Of a block only the first item opens one. -/
def Opened (opens : Item → Bool) (block : List Item) : Prop :=
  ∃ first rest, block = first :: rest ∧ opens first ∧ ∀ item ∈ rest, opens item = false

theorem takeWhile_append_flatMap {opens : Item → Bool} {items : Block → List Item}
    {blocks : List Block} (opened : ∀ block ∈ blocks, Opened opens (items block))
    {rest : List Item} (closed : ∀ item ∈ rest, opens item = false) :
    (rest ++ blocks.flatMap items).takeWhile (fun item => !opens item) = rest := by
  rw [List.takeWhile_append_of_pos (by simpa using closed)]
  cases blocks with
  | nil => simp
  | cons block others =>
      obtain ⟨first, later, shape, opening, _⟩ := opened block List.mem_cons_self
      simp [shape, opening]

theorem map_eq_of_flatMap_eq {opens : Item → Bool} {items : Block → List Item}
    {left right : List Block} (leftOpened : ∀ block ∈ left, Opened opens (items block))
    (rightOpened : ∀ block ∈ right, Opened opens (items block))
    (same : left.flatMap items = right.flatMap items) : left.map items = right.map items := by
  induction left generalizing right with
  | nil =>
      cases right with
      | nil => rfl
      | cons other others =>
          obtain ⟨first, rest, shape, _⟩ := rightOpened other List.mem_cons_self
          rw [List.flatMap_cons, shape] at same
          cases same
  | cons block blocks inductionHypothesis =>
      obtain ⟨first, rest, shape, opening, closed⟩ := leftOpened block List.mem_cons_self
      cases right with
      | nil =>
          rw [List.flatMap_cons, shape] at same
          cases same
      | cons other others =>
          obtain ⟨otherFirst, otherRest, otherShape, _, otherClosed⟩ :=
            rightOpened other List.mem_cons_self
          rw [List.forall_mem_cons] at leftOpened rightOpened
          rw [List.flatMap_cons, List.flatMap_cons, shape, otherShape, List.cons_append,
            List.cons_append, List.cons.injEq] at same
          obtain ⟨rfl, sameItems⟩ := same
          have sameRest : rest = otherRest := by
            rw [← takeWhile_append_flatMap leftOpened.2 closed, sameItems,
              takeWhile_append_flatMap rightOpened.2 otherClosed]
          subst sameRest
          rw [List.map_cons, List.map_cons, shape, otherShape,
            inductionHypothesis leftOpened.2 rightOpened.2 (List.append_cancel_left sameItems)]

end SampleProfile
