import SampleProfile.CallGraph
import SampleProfile.SymbolList

/-!
# Rankings of functions

The roots of a call graph and the list of unprofiled symbols rank functions alike: a larger number
stands above a smaller one, and within one number the names decide.  `Outranks` is the strict order
behind both, and sorting by either comparison puts no entry below one that it outranks.
-/

namespace SampleProfile

/-- One entry stands above another, by a larger number or by its name. -/
def Outranks (above below : String × UInt64) : Prop :=
  below.2 < above.2 ∨ above.2 = below.2 ∧ compare above.1 below.1 = .lt

namespace Outranks

variable {first second third : String × UInt64}

theorem irrefl (entry : String × UInt64) : ¬ Outranks entry entry := by
  intro outranked
  rcases outranked with larger | ⟨_, earlier⟩
  · exact UInt64.lt_irrefl _ larger
  · have itself : compare entry.1 entry.1 = .eq := Std.ReflCmp.compare_self
    rw [itself] at earlier
    cases earlier

theorem trans (left : Outranks first second) (right : Outranks second third) :
    Outranks first third := by
  rcases left with larger | ⟨equal, earlier⟩
  · rcases right with largerAgain | ⟨equal, _⟩
    · exact Or.inl (UInt64.lt_trans largerAgain larger)
    · exact Or.inl (equal ▸ larger)
  · rcases right with larger | ⟨equalAgain, earlierAgain⟩
    · exact Or.inl (equal ▸ larger)
    · exact Or.inr ⟨equal.trans equalAgain, Std.TransCmp.lt_trans earlier earlierAgain⟩

theorem asymm (outranks : Outranks first second) : ¬ Outranks second first := by
  intro back
  exact irrefl first (outranks.trans back)

theorem ne (outranks : Outranks first second) : first ≠ second := by
  rintro rfl
  exact irrefl first outranks

/-- Within one name the larger number decides. -/
theorem iff_lt_of_name_eq (same : first.1 = second.1) :
    Outranks first second ↔ second.2 < first.2 := by
  have equal : compare first.1 second.1 = .eq := Std.LawfulEqCmp.compare_eq_iff_eq.mpr same
  have noEarlier : compare first.1 second.1 ≠ .lt := by
    rw [equal]
    exact Ordering.noConfusion
  constructor
  · intro outranks
    exact outranks.resolve_right fun both => noEarlier both.2
  · exact Or.inl

theorem trichotomy (first second : String × UInt64) :
    Outranks first second ∨ first = second ∨ Outranks second first := by
  by_cases larger : second.2 < first.2
  · exact Or.inl (Or.inl larger)
  · by_cases smaller : first.2 < second.2
    · exact Or.inr (Or.inr (Or.inl smaller))
    · have equal : first.2 = second.2 :=
        UInt64.le_antisymm (UInt64.not_lt.mp larger) (UInt64.not_lt.mp smaller)
      cases compared : compare first.1 second.1 with
      | lt => exact Or.inl (Or.inr ⟨equal, compared⟩)
      | eq =>
          have sameName := Std.LawfulEqCmp.compare_eq_iff_eq.mp compared
          exact Or.inr (Or.inl (Prod.ext sameName equal))
      | gt =>
          have earlier := Std.OrientedCmp.gt_iff_lt.mp compared
          exact Or.inr (Or.inr (Or.inr ⟨equal.symm, earlier⟩))

end Outranks

/-! ## Sorting -/

/-- Both comparisons put an entry before those that it outranks. -/
theorem SymbolList.precedes_iff {left right : SymbolList.Entry} :
    SymbolList.precedes left right ↔ left = right ∨ Outranks left right := by
  simp only [precedes, Outranks, Bool.or_eq_true, Bool.and_eq_true, decide_eq_true_eq, bne_iff_ne]
  constructor
  · rintro (larger | ⟨equal, notLater⟩)
    · exact Or.inr (Or.inl larger)
    · cases compared : compare left.1 right.1 with
      | lt => exact Or.inr (Or.inr ⟨equal, rfl⟩)
      | eq => exact Or.inl (Prod.ext (Std.LawfulEqCmp.compare_eq_iff_eq.mp compared) equal)
      | gt => exact absurd compared notLater
  · rintro (rfl | larger | ⟨equal, earlier⟩)
    · exact Or.inr ⟨rfl, by simp⟩
    · exact Or.inl larger
    · exact Or.inr ⟨equal, by simp [earlier]⟩

theorem CallGraph.hotter_iff {left right : String × UInt64} :
    CallGraph.hotter left right ↔ left = right ∨ Outranks left right :=
  SymbolList.precedes_iff

/-- Sorted entries stand below none that they outrank. -/
theorem pairwise_mergeSort_outranks {before : String × UInt64 → String × UInt64 → Bool}
    (beforeIff : ∀ left right, before left right ↔ left = right ∨ Outranks left right)
    (entries : List (String × UInt64)) :
    (entries.mergeSort before).Pairwise fun above below =>
      above = below ∨ Outranks above below := by
  have transitive : ∀ first second third, before first second = true → before second third = true →
      before first third = true := by
    intro first second third left right
    rw [beforeIff] at left right ⊢
    rcases left with rfl | left
    · exact right
    · rcases right with rfl | right
      · exact Or.inr left
      · exact Or.inr (left.trans right)
  have total : ∀ left right, (before left right || before right left) = true := by
    intro left right
    rw [Bool.or_eq_true, beforeIff, beforeIff]
    rcases Outranks.trichotomy left right with above | same | below
    · exact Or.inl (Or.inr above)
    · exact Or.inl (Or.inl same)
    · exact Or.inr (Or.inr below)
  exact (List.pairwise_mergeSort transitive total entries).imp fun ordered =>
    (beforeIff _ _).mp ordered

end SampleProfile
