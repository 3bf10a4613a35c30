import SampleProfile.Proofs.Binary64
import SampleProfile.Proofs.SymbolList

/-!
# The share of the size that the list covers

Entries are listed as long as the sizes above them fall short of the target.  Sizes are compared in
double precision, so a share of one or more need not list all names: the last sizes may be lost in
rounding.  Sizes that do not have a word together stop the program, or wrap around if it leaves that
unnoticed.  `ofEntries_full_share` says when names are missing, how little is missing without
wrapping, and when the program stops.
-/

namespace SampleProfile.SymbolList

/-! ## Sizes of beginnings -/

/-- The sizes of entries together. -/
def weight (entries : List Entry) : Nat :=
  (entries.map fun entry => entry.2.toNat).sum

section Weight

variable {entries above rest : List Entry}

@[simp]
theorem weight_nil : weight [] = 0 :=
  rfl

@[simp]
theorem weight_cons (entry : Entry) (entries : List Entry) :
    weight (entry :: entries) = entry.2.toNat + weight entries :=
  rfl

@[simp]
theorem weight_append (above rest : List Entry) :
    weight (above ++ rest) = weight above + weight rest := by
  simp [weight]

theorem weight_le_of_prefix (beginning : above <+: entries) : weight above ≤ weight entries := by
  obtain ⟨rest, rfl⟩ := beginning
  rw [weight_append]
  exact Nat.le_add_right _ _

theorem toNat_add_weight (covered : UInt64) (entry : Entry) (entries : List Entry) :
    ((covered + entry.2).toNat + weight entries) % UInt64.size =
      (covered.toNat + weight (entry :: entries)) % UInt64.size := by
  rw [UInt64.toNat_add, weight_cons, ← Nat.add_assoc]
  exact Nat.mod_add_mod _ _ _

theorem toNat_totalSize (entries : List Entry) :
    (totalSize entries).toNat = weight entries % UInt64.size := by
  have running (covered : UInt64) :
      (entries.foldl (fun sum entry => sum + entry.2) covered).toNat =
        (covered.toNat + weight entries) % UInt64.size := by
    induction entries generalizing covered with
    | nil => exact (Nat.mod_eq_of_lt covered.toNat_lt).symm
    | cons entry rest inductionHypothesis =>
        rw [List.foldl_cons, inductionHypothesis, toNat_add_weight]
  rw [totalSize, running, UInt64.toNat_zero, Nat.zero_add]

/-- Adding sizes one by one overflows exactly if all of them together do. -/
theorem exactSize_eq (entries : List Entry) : exactSize entries = exactWord (weight entries) := by
  have running (covered : UInt64) :
      entries.foldlM (fun sum entry => exactSum sum entry.2) covered =
        exactWord (covered.toNat + weight entries) := by
    induction entries generalizing covered with
    | nil => exact (exactWord_toNat covered).symm
    | cons entry rest inductionHypothesis =>
        rw [List.foldlM_cons, weight_cons, ← Nat.add_assoc, exactSum]
        cases summed : exactWord (covered.toNat + entry.2.toNat) with
        | error fault =>
            obtain rfl : fault = .addition := rfl
            have tooLarge := exactWord_eq_error_iff.mp summed
            exact (exactWord_eq_error_iff.mpr (Nat.le_add_right_of_le tooLarge)).symm
        | ok sum =>
            have sumEq : sum.toNat = covered.toNat + entry.2.toNat := exactWord_eq_ok_iff.mp summed
            rw [← sumEq]
            exact inductionHypothesis sum
  rw [exactSize, running, UInt64.toNat_zero, Nat.zero_add]

theorem exactEntries_eq_ite {share : Binary64} (positive : ¬ Binary64.le share .zero)
    (entries : List Entry) :
    exactEntries entries share =
      if weight (ranked entries) < UInt64.size then
        .ok (ofEntries entries share)
      else
        .error .addition := by
  rw [exactEntries_eq, if_neg positive, exactSize_eq, exactWord]
  split <;> rfl

/-- What is taken falls short of the target before its last entry, and reaches the target unless
all is taken. -/
theorem takeBelow_spec (target : Binary64) (covered : UInt64) (entries : List Entry) :
    (∀ above rest, takeBelow target covered entries = above ++ rest → rest ≠ [] →
        ¬ Binary64.le target (Binary64.ofNat ((covered.toNat + weight above) % UInt64.size))) ∧
      (takeBelow target covered entries = entries ∨
        Binary64.le target (Binary64.ofNat
          ((covered.toNat + weight (takeBelow target covered entries)) % UInt64.size))) := by
  induction entries generalizing covered with
  | nil => simp [takeBelow]
  | cons entry entries inductionHypothesis =>
      have here : (covered.toNat + weight []) % UInt64.size = covered.toNat :=
        Nat.mod_eq_of_lt covered.toNat_lt
      rw [takeBelow]
      split
      · next reached =>
        constructor
        · intro above rest split nonempty
          exact absurd (List.append_eq_nil_iff.mp split.symm).2 nonempty
        · rw [here]
          exact Or.inr reached
      · next short =>
        obtain ⟨below, reached⟩ := inductionHypothesis (covered + entry.2)
        constructor
        · intro above rest split nonempty
          cases above with
          | nil =>
              rw [here]
              exact short
          | cons first others =>
              obtain ⟨rfl, splitOthers⟩ := List.cons.inj split
              rw [← toNat_add_weight]
              exact below others rest splitOthers nonempty
        · rw [← toNat_add_weight]
          exact reached.imp_left (congrArg (entry :: ·))

end Weight

/-! ## Full coverage -/

/-- In double precision a beginning of the ranked entries counts as large as all of them. -/
def Reaches (entries above : List Entry) : Prop :=
  Binary64.le (Binary64.ofNat (weight (ranked entries) % UInt64.size))
    (Binary64.ofNat (weight above % UInt64.size))

section Full

variable {share : Binary64} {entries : List Entry}

/-- With a share of one or more entries are listed up to the first beginning that counts as large as
all. -/
theorem ofEntries_spec (inFormat : share.InFormat) (full : Binary64.le .one share)
    (entries : List Entry) :
    (∀ above rest, ofEntries entries share = above ++ rest → rest ≠ [] → ¬ Reaches entries above) ∧
      (ofEntries entries share = ranked entries ∨ Reaches entries (ofEntries entries share)) := by
  have reachesIff (above : List Entry) :
      Binary64.le (Binary64.mul (Binary64.ofNat (totalSize (ranked entries)).toNat)
          (Binary64.min share .one))
        (Binary64.ofNat (((0 : UInt64).toNat + weight above) % UInt64.size)) ↔
      Reaches entries above := by
    have totalLt := Nat.mod_lt (weight (ranked entries)) (by decide : 0 < UInt64.size)
    have aboveLt := Nat.mod_lt (weight above) (by decide : 0 < UInt64.size)
    rw [toNat_totalSize, UInt64.toNat_zero, Nat.zero_add, Reaches]
    exact Binary64.le_mul_min_one_iff inFormat full totalLt.le aboveLt.le
  obtain ⟨short, reached⟩ := takeBelow_spec
    (Binary64.mul (Binary64.ofNat (totalSize (ranked entries)).toNat) (Binary64.min share .one)) 0
    (ranked entries)
  rw [ofEntries, if_neg (Binary64.not_le_zero full)]
  simp only [reachesIff] at short reached
  exact ⟨short, reached⟩

theorem names_subset_names_ranked (entries : List Entry) :
    entries.map Prod.fst ⊆ (ranked entries).map Prod.fst := by
  intro name named
  obtain ⟨entry, member, rfl⟩ := List.mem_map.mp named
  obtain ⟨largest, rankedMember, same, _⟩ := exists_largest entries member
  exact List.mem_map.mpr ⟨largest, rankedMember, same⟩

theorem names_ranked_subset_names (entries : List Entry) :
    (ranked entries).map Prod.fst ⊆ entries.map Prod.fst :=
  List.map_subset _ fun _ member => ((mem_ranked_iff entries).mp member).1

theorem ofEntries_prefix_of_reaches (inFormat : share.InFormat) (full : Binary64.le .one share)
    {above : List Entry} (beginning : above <+: ranked entries) (reaches : Reaches entries above) :
    ofEntries entries share <+: above := by
  rcases List.prefix_or_prefix_of_prefix (ofEntries_prefix_ranked entries share) beginning with
    inside | ⟨rest, split⟩
  · exact inside
  · cases rest with
    | nil =>
        rw [List.append_nil] at split
        exact split ▸ List.prefix_refl _
    | cons entry others =>
        have short := (ofEntries_spec inFormat full entries).1 above _ split.symm
          (List.cons_ne_nil _ _)
        exact absurd reaches short

theorem names_subset_iff (inFormat : share.InFormat) (full : Binary64.le .one share)
    (entries : List Entry) :
    entries.map Prod.fst ⊆ (ofEntries entries share).map Prod.fst ↔
      ∀ above rest, ranked entries = above ++ rest → Reaches entries above →
        rest.map Prod.fst ⊆ above.map Prod.fst := by
  constructor
  · intro complete above rest split reaches
    have beginning := ofEntries_prefix_of_reaches inFormat full ⟨rest, split.symm⟩ reaches
    have restRanked : rest ⊆ ranked entries := by
      rw [split]
      exact List.subset_append_right above rest
    calc rest.map Prod.fst ⊆ (ranked entries).map Prod.fst := List.map_subset _ restRanked
      _ ⊆ entries.map Prod.fst := names_ranked_subset_names entries
      _ ⊆ (ofEntries entries share).map Prod.fst := complete
      _ ⊆ above.map Prod.fst := List.map_subset _ beginning.subset
  · intro named
    refine List.Subset.trans (names_subset_names_ranked entries) ?_
    rcases (ofEntries_spec inFormat full entries).2 with allListed | reaches
    · rw [allListed]
      exact List.Subset.refl _
    · obtain ⟨rest, split⟩ := ofEntries_prefix_ranked entries share
      have restNamed := named _ rest split.symm reaches
      rw [← split, List.map_append]
      exact List.append_subset.mpr ⟨List.Subset.refl _, restNamed⟩

theorem ofEntries_eq_ranked_or_reaches (inFormat : share.InFormat) (full : Binary64.le .one share)
    (bounded : weight (ranked entries) < UInt64.size) :
    ofEntries entries share = ranked entries ∨
      Binary64.le (Binary64.ofNat (weight (ranked entries)))
        (Binary64.ofNat (weight (ofEntries entries share))) := by
  have listedLe := weight_le_of_prefix (ofEntries_prefix_ranked entries share)
  refine (ofEntries_spec inFormat full entries).2.imp_right fun reaches => ?_
  rwa [Reaches, Nat.mod_eq_of_lt bounded, Nat.mod_eq_of_lt (listedLe.trans_lt bounded)] at reaches

theorem weight_eq_zero_iff (positive : ∀ entry ∈ entries, 0 < entry.2) :
    weight entries = 0 ↔ entries = [] := by
  cases entries with
  | nil => simp
  | cons entry rest =>
      have entryPositive := UInt64.lt_iff_toNat_lt.mp (positive entry List.mem_cons_self)
      rw [UInt64.toNat_zero] at entryPositive
      rw [weight_cons]
      simp only [List.cons_ne_nil, iff_false]
      omega

/-- Sizes that double precision tells apart are all listed. -/
theorem ofEntries_eq_ranked (inFormat : share.InFormat) (full : Binary64.le .one share)
    (bounded : weight (ranked entries) ≤ 2 ^ 53) (positive : ∀ entry ∈ entries, 0 < entry.2) :
    ofEntries entries share = ranked entries := by
  rcases ofEntries_eq_ranked_or_reaches inFormat full (bounded.trans_lt (by decide)) with
    allListed | reaches
  · exact allListed
  · have listedLe := weight_le_of_prefix (ofEntries_prefix_ranked entries share)
    rw [Binary64.le_ofNat_iff bounded (listedLe.trans bounded)] at reaches
    obtain ⟨rest, split⟩ := ofEntries_prefix_ranked entries share
    have parts := congrArg weight split
    rw [weight_append] at parts
    have restPositive : ∀ entry ∈ rest, 0 < entry.2 := by
      intro entry member
      have rankedMember : entry ∈ ranked entries := split ▸ List.mem_append_right _ member
      exact positive entry ((mem_ranked_iff entries).mp rankedMember).1
    have nothing := (weight_eq_zero_iff restPositive).mp (by omega)
    rw [← split, nothing, List.append_nil]

/-- Without wrapping, what is left out is lost in rounding. -/
theorem weight_left_out_le (inFormat : share.InFormat) (full : Binary64.le .one share)
    (bounded : weight (ranked entries) < 2 ^ 64) :
    (weight (ranked entries) - weight (ofEntries entries share)) * 2 ^ 52 ≤
      weight (ranked entries) := by
  rcases ofEntries_eq_ranked_or_reaches inFormat full bounded with allListed | reaches
  · rw [allListed, Nat.sub_self, Nat.zero_mul]
    exact Nat.zero_le _
  · have listedLe := weight_le_of_prefix (ofEntries_prefix_ranked entries share)
    exact Binary64.sub_mul_le_of_le_ofNat listedLe (bounded.trans (by decide)) reaches

end Full

/-- With a share of one or more all names are listed exactly if no beginning of the ranked entries
that lacks a name counts as large as all of them.  So it is for positive sizes of at most `2 ^ 53`
together.  As long as the sizes do not wrap around, the sizes left out are at most a `2 ^ 52`-th of
all; where they would wrap around a program that notices it stops. -/
theorem ofEntries_full_share {share : Binary64} (inFormat : share.InFormat)
    (full : Binary64.le .one share) (entries : List Entry) :
    (entries.map Prod.fst ⊆ (ofEntries entries share).map Prod.fst ↔
        ∀ above rest, ranked entries = above ++ rest →
          Binary64.le (Binary64.ofNat (weight (ranked entries) % UInt64.size))
            (Binary64.ofNat (weight above % UInt64.size)) →
          rest.map Prod.fst ⊆ above.map Prod.fst) ∧
      (weight (ranked entries) ≤ 2 ^ 53 → (∀ entry ∈ entries, 0 < entry.2) →
        entries.map Prod.fst ⊆ (ofEntries entries share).map Prod.fst) ∧
      (weight (ranked entries) < 2 ^ 64 →
        (weight (ranked entries) - weight (ofEntries entries share)) * 2 ^ 52 ≤
          weight (ranked entries)) ∧
      exactEntries entries share =
        if weight (ranked entries) < 2 ^ 64 then
          .ok (ofEntries entries share)
        else
          .error .addition := by
  refine ⟨names_subset_iff inFormat full entries, ?_, weight_left_out_le inFormat full,
    exactEntries_eq_ite (Binary64.not_le_zero full) entries⟩
  intro bounded positive
  rw [ofEntries_eq_ranked inFormat full bounded positive]
  exact names_subset_names_ranked entries

/-- Sizes that just fit into double precision together, with a share above one. -/
theorem ofEntries_full_share_tight :
    let entries : List Entry := [("large", 0x1fffffffffffff), ("tiny", 1)]
    let share : Binary64 := .finite false (3 * 2 ^ 51) (-52)
    share.InFormat ∧ Binary64.le .one share ∧ weight (ranked entries) ≤ 2 ^ 53 ∧
      (∀ entry ∈ entries, 0 < entry.2) ∧
      ["large", "tiny"] ⊆ (ofEntries entries share).map Prod.fst ∧
      (weight (ranked entries) - weight (ofEntries entries share)) * 2 ^ 52 ≤
        weight (ranked entries) := by
  intro entries share
  have sorted : entries.mergeSort precedes = entries := List.mergeSort_of_pairwise (by decide)
  have rankedEq : ranked entries = entries := by
    rw [ranked, sorted]
    rfl
  have inFormat : share.InFormat := by decide
  have full : Binary64.le .one share := by decide +kernel
  have bounded : weight (ranked entries) ≤ 2 ^ 53 := by
    rw [rankedEq]
    decide
  have positive : ∀ entry ∈ entries, 0 < entry.2 := by decide
  obtain ⟨_, exactSizes, lost, _⟩ := ofEntries_full_share inFormat full entries
  exact ⟨inFormat, full, bounded, positive, exactSizes bounded positive,
    lost (bounded.trans_lt (by decide))⟩

/-- A size is lost in rounding. -/
theorem ofEntries_drops_names :
    let entries : List Entry := [("large", 0x20000000000000), ("tiny", 1)]
    (∀ entry ∈ entries, 0 < entry.2) ∧
      exactEntries entries .one = .ok [("large", 0x20000000000000)] := by
  intro entries
  have sorted : entries.mergeSort precedes = entries := List.mergeSort_of_pairwise (by decide)
  have rankedEq : ranked entries = entries := by
    rw [ranked, sorted]
    rfl
  have listed : ofEntries entries .one = [("large", 0x20000000000000)] := by
    rw [ofEntries, rankedEq]
    decide +kernel
  rw [exactEntries_eq_ite (by decide +kernel), rankedEq, if_pos (by decide), listed]
  exact ⟨by decide, rfl⟩

/-- Two sizes that overflow together, and leave nothing where that goes unnoticed. -/
theorem exactEntries_overflows :
    let entries : List Entry := [("left", 0x8000000000000000), ("right", 0x8000000000000000)]
    exactEntries entries .one = .error .addition ∧ ofEntries entries .one = [] := by
  intro entries
  have sorted : entries.mergeSort precedes = entries := List.mergeSort_of_pairwise (by decide)
  have rankedEq : ranked entries = entries := by
    rw [ranked, sorted]
    rfl
  constructor
  · rw [exactEntries_eq_ite (by decide +kernel), rankedEq, if_neg (by decide)]
  · rw [ofEntries, rankedEq]
    decide +kernel

end SampleProfile.SymbolList
