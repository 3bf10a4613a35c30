import SampleProfile.FunctionTable

/-!
# Searching sorted rows

Entries of a row stand in strict order of a key.  The last entry of a beginning of the row is then
the greatest, and halving finds where the entries up to a bound end.
-/

namespace SampleProfile

section Greatest

variable {Entry : Type} {key : Entry → UInt64} {entries : List Entry}

/-- No two entries of a sorted row share a key. -/
theorem eq_of_key_eq (sorted : entries.Pairwise fun before after => key before < key after)
    {left right : Entry} (leftMember : left ∈ entries) (rightMember : right ∈ entries)
    (same : key left = key right) : left = right := by
  induction entries with
  | nil => simp at leftMember
  | cons entry rest inductionHypothesis =>
      rw [List.pairwise_cons] at sorted
      rcases List.mem_cons.mp leftMember with rfl | leftLater
      · rcases List.mem_cons.mp rightMember with rfl | rightLater
        · rfl
        · exact absurd (same ▸ sorted.1 right rightLater) (UInt64.lt_irrefl _)
      · rcases List.mem_cons.mp rightMember with rfl | rightLater
        · exact absurd (same ▸ sorted.1 left leftLater) (UInt64.lt_irrefl _)
        · exact inductionHypothesis sorted.2 leftLater rightLater

/-- A sorted row is made of the entries up to a bound and the entries beyond it. -/
theorem filter_append_filter (sorted : entries.Pairwise fun before after => key before < key after)
    (bound : UInt64) :
    (entries.filter fun entry => key entry ≤ bound) ++
      (entries.filter fun entry => bound < key entry) = entries := by
  induction entries with
  | nil => rfl
  | cons entry rest inductionHypothesis =>
      rw [List.pairwise_cons] at sorted
      by_cases within : key entry ≤ bound
      · have notBeyond : ¬ bound < key entry := UInt64.not_lt.mpr within
        simp [within, notBeyond, inductionHypothesis sorted.2]
      · have beyond : bound < key entry := UInt64.not_le.mp within
        have allBeyond : ∀ other ∈ rest, bound < key other := fun other member =>
          UInt64.lt_trans beyond (sorted.1 other member)
        have noneWithin : (rest.filter fun other => key other ≤ bound) = [] := by
          rw [List.filter_eq_nil_iff]
          intro other member
          simpa using allBeyond other member
        have kept : (rest.filter fun other => bound < key other) = rest := by
          rw [List.filter_eq_self]
          intro other member
          simpa using allBeyond other member
        simp [within, beyond, noneWithin, kept]

/-- In a sorted row the entries up to a bound are a beginning of the row. -/
theorem takeWhile_eq_filter (sorted : entries.Pairwise fun before after => key before < key after)
    (bound : UInt64) :
    (entries.takeWhile fun entry => key entry ≤ bound) =
      entries.filter fun entry => key entry ≤ bound := by
  have noneLater : ((entries.filter fun entry => bound < key entry).takeWhile
      fun entry => key entry ≤ bound) = [] := by
    cases later : entries.filter fun entry => bound < key entry with
    | nil => rfl
    | cons entry rest =>
        have member : entry ∈ entries.filter fun entry => bound < key entry :=
          later ▸ List.mem_cons_self
        have beyond : bound < key entry := by simpa using (List.mem_filter.mp member).2
        simp [UInt64.not_le.mpr beyond]
  calc (entries.takeWhile fun entry => key entry ≤ bound)
      = ((entries.filter fun entry => key entry ≤ bound) ++
          (entries.filter fun entry => bound < key entry)).takeWhile
            fun entry => key entry ≤ bound := by rw [filter_append_filter sorted]
    _ = entries.filter fun entry => key entry ≤ bound := by
        rw [List.takeWhile_append_of_pos (fun entry member => (List.mem_filter.mp member).2),
          noneLater, List.append_nil]

/-- The last entry of a sorted row is the one with the greatest key. -/
theorem getLast?_eq_some_iff_greatest
    (sorted : entries.Pairwise fun before after => key before < key after) {entry : Entry} :
    entries.getLast? = some entry ↔
      entry ∈ entries ∧ ∀ other ∈ entries, key other ≤ key entry := by
  rcases List.eq_nil_or_concat entries with rfl | ⟨initial, last, rfl⟩
  · simp
  · rw [List.concat_eq_append] at sorted ⊢
    rw [List.pairwise_append] at sorted
    have before : ∀ other ∈ initial, key other < key last := fun other member =>
      sorted.2.2 other member last (List.mem_singleton_self last)
    rw [List.getLast?_concat, Option.some_inj]
    constructor
    · rintro rfl
      refine ⟨by simp, ?_⟩
      intro other member
      rcases List.mem_append.mp member with earlier | same
      · exact UInt64.le_of_lt (before other earlier)
      · rw [List.mem_singleton.mp same]
        exact UInt64.le_refl _
    · rintro ⟨member, greatest⟩
      rcases List.mem_append.mp member with earlier | same
      · have bounded := greatest last (by simp)
        exact absurd (before entry earlier) (UInt64.not_lt.mpr bounded)
      · exact (List.mem_singleton.mp same).symm

/-- The last entry up to a bound is the greatest of the entries up to the bound. -/
theorem getLast?_filter_eq_some_iff
    (sorted : entries.Pairwise fun before after => key before < key after)
    {bound : UInt64} {entry : Entry} :
    (entries.filter fun entry => key entry ≤ bound).getLast? = some entry ↔
      entry ∈ entries ∧ key entry ≤ bound ∧
        ∀ other ∈ entries, key other ≤ bound → key other ≤ key entry := by
  rw [getLast?_eq_some_iff_greatest (sorted.filter _)]
  simp [and_assoc]

end Greatest

/-- Halving finds the length of a beginning of a row whose entries pass, if the entries after it do
not. -/
theorem partitionPoint_eq_length {Entry : Type} (passes : Entry → Bool)
    {passing failing : List Entry} {entries : Array Entry}
    (split : entries.toList = passing ++ failing)
    (pass : ∀ entry ∈ passing, passes entry) (fail : ∀ entry ∈ failing, ¬ passes entry)
    (low high : Nat) (lower : low ≤ passing.length) (upper : passing.length ≤ high)
    (inside : high ≤ entries.size) :
    partitionPoint passes entries low high = passing.length := by
  have size : entries.size = passing.length + failing.length := by
    rw [← Array.length_toList, split, List.length_append]
  have listed : ∀ place : Nat, entries[place]? = (passing ++ failing)[place]? := fun place => by
    rw [← split, Array.getElem?_toList]
  fun_induction partitionPoint passes entries low high with
  | case1 low high bounded middle entry found passed inductionHypothesis =>
      refine inductionHypothesis ?_ upper inside
      by_cases before : middle < passing.length
      · exact before
      · rw [listed, List.getElem?_append_right (by omega)] at found
        exact absurd passed (fail entry (List.mem_of_getElem? found))
  | case2 low high bounded middle entry found failed inductionHypothesis =>
      refine inductionHypothesis lower ?_ (by omega)
      by_cases before : middle < passing.length
      · rw [listed, List.getElem?_append_left before] at found
        exact absurd (pass entry (List.mem_of_getElem? found)) failed
      · omega
  | case3 low high bounded middle missing inductionHypothesis =>
      rw [Array.getElem?_eq_none_iff] at missing
      omega
  | case4 low high finished => omega

end SampleProfile
