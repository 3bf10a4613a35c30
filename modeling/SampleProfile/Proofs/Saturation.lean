import SampleProfile.Count

/-!
# Saturating sums

Sums of counts that stop at the limit form a commutative monoid: it does not matter in which order
counts are added, nor which of them are added up first.  `tally` adds up the counts of those entries
whose keys pass a test; two lists of entries with the same tallies cannot be told apart by anything
that only adds counts.
-/

namespace SampleProfile

/-! ## Two counts -/

theorem toNat_countLimit : countLimit.toNat = 18446744073709551615 := rfl

theorem toNat_le_countLimit (count : UInt64) : count.toNat ≤ countLimit.toNat := by
  have bound := count.toNat_lt
  rw [toNat_countLimit]
  omega

theorem satAdd_comm (left right : UInt64) : satAdd left right = satAdd right left := by
  apply UInt64.toNat_inj.mp
  rw [toNat_satAdd, toNat_satAdd, Nat.add_comm]

theorem satAdd_assoc (first second third : UInt64) :
    satAdd (satAdd first second) third = satAdd first (satAdd second third) := by
  apply UInt64.toNat_inj.mp
  simp only [toNat_satAdd]
  omega

@[simp]
theorem zero_satAdd (count : UInt64) : satAdd 0 count = count := by
  apply UInt64.toNat_inj.mp
  have bound := toNat_le_countLimit count
  rw [toNat_satAdd, UInt64.toNat_zero]
  omega

@[simp]
theorem satAdd_zero (count : UInt64) : satAdd count 0 = count := by
  rw [satAdd_comm, zero_satAdd]

theorem satAdd_left_comm (first second third : UInt64) :
    satAdd first (satAdd second third) = satAdd second (satAdd first third) := by
  rw [← satAdd_assoc, satAdd_comm first second, satAdd_assoc]

/-! ## Lists of counts -/

@[simp]
theorem satSum_nil : satSum [] = 0 := rfl

/-- A sum that starts from some count is that count and the sum from zero. -/
theorem foldl_satAdd (start : UInt64) (counts : List UInt64) :
    counts.foldl satAdd start = satAdd start (satSum counts) := by
  induction counts generalizing start with
  | nil => simp
  | cons count rest inductionHypothesis =>
      have tail : satSum (count :: rest) = satAdd count (satSum rest) := by
        rw [satSum, List.foldl_cons, inductionHypothesis, zero_satAdd]
      rw [List.foldl_cons, inductionHypothesis, tail, satAdd_assoc]

@[simp]
theorem satSum_cons (count : UInt64) (rest : List UInt64) :
    satSum (count :: rest) = satAdd count (satSum rest) := by
  rw [satSum, List.foldl_cons, foldl_satAdd, zero_satAdd]

theorem satSum_append (left right : List UInt64) :
    satSum (left ++ right) = satAdd (satSum left) (satSum right) := by
  rw [satSum, List.foldl_append, foldl_satAdd]
  rfl

theorem satSum_perm {left right : List UInt64} (same : left.Perm right) :
    satSum left = satSum right := by
  refine same.foldl_eq' ?_ 0
  intro first _ second _ start
  rw [satAdd_assoc, satAdd_comm first second, ← satAdd_assoc]

/-- The saturating sum of counts, if there are any. -/
def satSum? : List UInt64 → Option UInt64
  | [] => none
  | first :: rest => some (satSum (first :: rest))

theorem satSum?_merge (left right : Option UInt64) (counts : List UInt64) :
    satSum? ((Option.merge satAdd left right).toList ++ counts) =
      satSum? (left.toList ++ (right.toList ++ counts)) := by
  cases left with
  | none => cases right <;> rfl
  | some first =>
      cases right with
      | none => rfl
      | some second => simp [satSum?, Option.merge, satAdd_assoc]

/-! ## Entries whose keys pass a test -/

/-- The saturating sum of the counts whose keys pass a test. -/
def tally {Key : Type} (passes : Key → Bool) (entries : List (Key × UInt64)) : UInt64 :=
  satSum ((entries.filter fun entry => passes entry.1).map Prod.snd)

section Tally

variable {Key : Type} (passes : Key → Bool)

@[simp]
theorem tally_nil : tally passes [] = 0 := rfl

theorem tally_cons (entry : Key × UInt64) (rest : List (Key × UInt64)) :
    tally passes (entry :: rest) =
      satAdd (if passes entry.1 then entry.2 else 0) (tally passes rest) := by
  by_cases passed : passes entry.1 <;> simp [tally, passed]

@[simp]
theorem tally_true (entries : List (Key × UInt64)) :
    tally (fun _ => true) entries = satSum (entries.map Prod.snd) := by
  rw [tally, List.filter_eq_self.mpr fun _ _ => rfl]

theorem tally_append (left right : List (Key × UInt64)) :
    tally passes (left ++ right) = satAdd (tally passes left) (tally passes right) := by
  rw [tally, List.filter_append, List.map_append, satSum_append]
  rfl

theorem tally_perm {left right : List (Key × UInt64)} (same : left.Perm right) :
    tally passes left = tally passes right :=
  satSum_perm ((same.filter _).map _)

/-- Without a key that passes there is nothing to add up. -/
theorem tally_eq_zero {entries : List (Key × UInt64)}
    (nonePasses : ∀ entry ∈ entries, passes entry.1 = false) : tally passes entries = 0 := by
  have nothing : (entries.filter fun entry => passes entry.1) = [] := by
    rw [List.filter_eq_nil_iff]
    intro entry member
    simp [nonePasses entry member]
  rw [tally, nothing]
  rfl

/-- Keys can be renamed before they are tested or by the test. -/
theorem tally_map {Other : Type} (rename : Other → Key) (entries : List (Other × UInt64)) :
    tally passes (entries.map fun entry => (rename entry.1, entry.2)) =
      tally (fun key => passes (rename key)) entries := by
  rw [tally, tally, List.filter_map, List.map_map]
  rfl

/-- Entries without a new key drop out before they are tested or by the test. -/
theorem tally_filterMap {Other : Type} (rename : Other → Option Key)
    (entries : List (Other × UInt64)) :
    tally passes (entries.filterMap fun entry => (rename entry.1).map (·, entry.2)) =
      tally (fun key => (rename key).any passes) entries := by
  induction entries with
  | nil => rfl
  | cons entry rest inductionHypothesis =>
      cases renamed : rename entry.1 with
      | none => simp [tally_cons, renamed, inductionHypothesis]
      | some key => simp [tally_cons, renamed, inductionHypothesis]

theorem tally_filter (kept : Key → Bool) (entries : List (Key × UInt64)) :
    tally passes (entries.filter fun entry => kept entry.1) =
      tally (fun key => kept key && passes key) entries := by
  rw [tally, tally, List.filter_filter]
  simp only [Bool.and_comm]

/-! ### Dividing a sum -/

variable {passes}

theorem tally_congr {other : Key → Bool} {entries : List (Key × UInt64)}
    (agree : ∀ entry ∈ entries, passes entry.1 = other entry.1) :
    tally passes entries = tally other entries := by
  rw [tally, tally, List.filter_congr agree]

/-- Two tests that no key passes at once divide the sum between them. -/
theorem tally_or {other : Key → Bool} {entries : List (Key × UInt64)}
    (disjoint : ∀ entry ∈ entries, passes entry.1 → other entry.1 = false) :
    tally (fun key => passes key || other key) entries =
      satAdd (tally passes entries) (tally other entries) := by
  induction entries with
  | nil => simp
  | cons entry rest inductionHypothesis =>
      have here := disjoint entry List.mem_cons_self
      have divided := inductionHypothesis fun later member =>
        disjoint later (List.mem_cons_of_mem _ member)
      rw [tally_cons, tally_cons, tally_cons, divided]
      by_cases passed : passes entry.1
      · simp [passed, here passed, satAdd_assoc]
      · simp [passed, satAdd_left_comm]

theorem tally_le_tally_true (entries : List (Key × UInt64)) :
    tally passes entries ≤ tally (fun _ => true) entries := by
  have divided : tally (fun key => passes key || !passes key) entries =
      satAdd (tally passes entries) (tally (fun key => !passes key) entries) :=
    tally_or fun entry _ passed => by simp [passed]
  have everything : tally (fun key => passes key || !passes key) entries =
      tally (fun _ => true) entries := tally_congr fun entry _ => by simp
  have bound := toNat_le_countLimit (tally passes entries)
  rw [← everything, divided, UInt64.le_iff_toNat_le, toNat_satAdd]
  omega

/-- Sorting the entries under names divides the sum between the names. -/
theorem satSum_map_tally {Name : Type} [DecidableEq Name] (sort : Key → Name)
    (entries : List (Key × UInt64)) {names : List Name} (distinct : names.Nodup) :
    satSum (names.map fun name => tally (fun key => sort key = name) entries) =
      tally (fun key => sort key ∈ names) entries := by
  induction names with
  | nil =>
      symm
      refine tally_eq_zero _ fun entry _ => ?_
      simp
  | cons name rest inductionHypothesis =>
      rw [List.nodup_cons] at distinct
      have disjoint : ∀ entry ∈ entries, decide (sort entry.1 = name) →
          decide (sort entry.1 ∈ rest) = false := by
        intro entry _ same
        simpa [of_decide_eq_true same] using distinct.1
      rw [List.map_cons, satSum_cons, inductionHypothesis distinct.2, ← tally_or disjoint]
      refine tally_congr fun entry _ => ?_
      simp

end Tally

/-! ## Lists that agree in all tallies -/

/-- Two lists of entries have the same keys, and the same sums for every test of keys. -/
structure SameTallies {Key : Type} (left right : List (Key × UInt64)) : Prop where
  any_eq : ∀ passes : Key → Bool,
    (left.any fun entry => passes entry.1) = right.any fun entry => passes entry.1
  tally_eq : ∀ passes : Key → Bool, tally passes left = tally passes right

namespace SameTallies

variable {Key Other : Type} {left right : List (Key × UInt64)}

theorem of_perm (same : left.Perm right) : SameTallies left right where
  any_eq _ := same.any_eq
  tally_eq passes := tally_perm passes same

theorem symm (same : SameTallies left right) : SameTallies right left where
  any_eq passes := (same.any_eq passes).symm
  tally_eq passes := (same.tally_eq passes).symm

theorem exists_iff (same : SameTallies left right) (passes : Key → Prop) [DecidablePred passes] :
    (∃ entry ∈ left, passes entry.1) ↔ ∃ entry ∈ right, passes entry.1 := by
  have anyIff := Bool.eq_iff_iff.mp (same.any_eq fun key => decide (passes key))
  simpa only [List.any_eq_true, decide_eq_true_eq] using anyIff

theorem filterMap (same : SameTallies left right) (rename : Key → Option Other) :
    SameTallies (left.filterMap fun entry => (rename entry.1).map (·, entry.2))
      (right.filterMap fun entry => (rename entry.1).map (·, entry.2)) where
  any_eq passes := by
    have renamed : ∀ entries : List (Key × UInt64),
        ((entries.filterMap fun entry => (rename entry.1).map (·, entry.2)).any
            fun entry => passes entry.1) =
          entries.any fun entry => (rename entry.1).any passes := by
      intro entries
      induction entries with
      | nil => rfl
      | cons entry rest inductionHypothesis =>
          cases found : rename entry.1 <;> simp [found, inductionHypothesis]
    rw [renamed, renamed]
    exact same.any_eq fun key => (rename key).any passes
  tally_eq passes := by
    rw [tally_filterMap, tally_filterMap, same.tally_eq]

theorem map (same : SameTallies left right) (rename : Key → Other) :
    SameTallies (left.map fun entry => (rename entry.1, entry.2))
      (right.map fun entry => (rename entry.1, entry.2)) where
  any_eq passes := by
    simpa [List.any_map, Function.comp_def] using same.any_eq fun key => passes (rename key)
  tally_eq passes := by
    rw [tally_map, tally_map, same.tally_eq]

theorem filter (same : SameTallies left right) (kept : Key → Bool) :
    SameTallies (left.filter fun entry => kept entry.1)
      (right.filter fun entry => kept entry.1) where
  any_eq passes := by
    simpa [List.any_filter] using same.any_eq fun key => kept key && passes key
  tally_eq passes := by
    rw [tally_filter, tally_filter, same.tally_eq]

end SameTallies

end SampleProfile
