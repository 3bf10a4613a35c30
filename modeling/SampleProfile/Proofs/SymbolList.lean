import Mathlib.Data.List.Destutter
import SampleProfile.Proofs.Ranking

/-!
# Names in the list of unprofiled symbols

The list is a beginning of the ranked symbols, in which repetitions of a name are left out only
where they stand one below the other.  Ranking goes by size first, so symbols of one name and
different sizes stay apart whenever a symbol of another name ranks between them, and then the name
is listed for each of them.
-/

namespace SampleProfile.SymbolList

/-! ## Leaving out repetitions -/

def NameChanges (above below : Entry) : Prop :=
  above.1 ≠ below.1

instance : DecidableRel NameChanges := fun _ _ => inferInstanceAs (Decidable (_ ≠ _))

/-- Entries of one name stand for each other when repetitions are left out. -/
theorem exists_destutter'_eq {first second : Entry} (same : first.1 = second.1)
    (entries : List Entry) :
    ∃ later, entries.destutter' NameChanges first = first :: later ∧
      entries.destutter' NameChanges second = second :: later := by
  induction entries with
  | nil => exact ⟨[], rfl, rfl⟩
  | cons entry rest inductionHypothesis =>
      by_cases changes : NameChanges first entry
      · have changesAgain : NameChanges second entry :=
          fun repeated => changes (same.trans repeated)
        refine ⟨rest.destutter' NameChanges entry, ?_, ?_⟩
        · exact List.destutter'_cons_pos _ changes
        · exact List.destutter'_cons_pos _ changesAgain
      · have repeated := not_not.mp changes
        have repeatedAgain : ¬ NameChanges second entry := not_not_intro (same.symm.trans repeated)
        rw [List.destutter'_cons_neg _ changes, List.destutter'_cons_neg _ repeatedAgain]
        exact inductionHypothesis

theorem collapse_cons (first : Entry) (rest : List Entry) :
    collapse (first :: rest) = rest.destutter' NameChanges first := by
  induction rest generalizing first with
  | nil => rfl
  | cons second others inductionHypothesis =>
      rw [collapse, inductionHypothesis]
      by_cases repeated : second.1 = first.1
      · obtain ⟨later, firstRest, secondRest⟩ := exists_destutter'_eq repeated.symm others
        have unchanged : ¬ NameChanges first second := not_not_intro repeated.symm
        rw [secondRest, List.destutter'_cons_neg _ unchanged, firstRest]
        exact if_pos repeated
      · obtain ⟨later, secondRest, _⟩ := exists_destutter'_eq (rfl : second.1 = second.1) others
        have changes : NameChanges first second := Ne.symm repeated
        rw [List.destutter'_cons_pos _ changes, secondRest]
        exact if_neg repeated

/-! ## Entries kept apart -/

/-- Entries that stand below none that they outrank. -/
def Sorted (entries : List Entry) : Prop :=
  entries.Pairwise fun above below => above = below ∨ Outranks above below

/-- Whatever outranks an entry under the entry's own name is kept apart from it by an entry of
another name. -/
def Separated (entries : List Entry) (entry : Entry) : Prop :=
  ∀ larger ∈ entries, larger.1 = entry.1 → Outranks larger entry →
    ∃ between ∈ entries, between.1 ≠ entry.1 ∧ Outranks larger between ∧ Outranks between entry

section Separation

variable {entries : List Entry} {first second other entry : Entry}

theorem Sorted.head (sorted : Sorted (first :: entries)) (member : other ∈ entries) :
    first = other ∨ Outranks first other :=
  (List.pairwise_cons.mp sorted).1 other member

theorem Sorted.tail (sorted : Sorted (first :: entries)) : Sorted entries :=
  (List.pairwise_cons.mp sorted).2

theorem mem_cons_cons_of_mem_cons (member : other ∈ first :: entries) :
    other ∈ first :: second :: entries :=
  ((List.sublist_cons_self second entries).cons_cons first).subset member

theorem not_outranks_head (sorted : Sorted (first :: entries))
    (member : other ∈ first :: entries) : ¬ Outranks other first := by
  rcases List.mem_cons.mp member with rfl | later
  · exact Outranks.irrefl other
  · rcases sorted.head later with rfl | outranks
    · exact Outranks.irrefl first
    · exact outranks.asymm

theorem separated_head (sorted : Sorted (first :: entries)) :
    Separated (first :: entries) first := by
  intro larger member _ outranks
  exact absurd outranks (not_outranks_head sorted member)

theorem outranks_of_name_ne (sorted : Sorted (first :: entries))
    (member : other ∈ entries) (different : other.1 ≠ first.1) : Outranks first other := by
  rcases sorted.head member with rfl | outranks
  · exact absurd rfl different
  · exact outranks

/-- An entry of another name on top separates nothing that has not been separated below it. -/
theorem separated_cons_iff (sorted : Sorted (first :: second :: entries))
    (changes : NameChanges first second) (member : entry ∈ second :: entries) :
    Separated (first :: second :: entries) entry ↔ Separated (second :: entries) entry := by
  have sortedBelow : Sorted (second :: entries) := sorted.tail
  constructor
  · intro separated larger largerMember same outranks
    obtain ⟨between, betweenMember, different, above, below⟩ :=
      separated larger (List.mem_cons_of_mem _ largerMember) same outranks
    rcases List.mem_cons.mp betweenMember with rfl | betweenBelow
    · exact absurd above (not_outranks_head sorted (List.mem_cons_of_mem _ largerMember))
    · exact ⟨between, betweenBelow, different, above, below⟩
  · intro separated larger largerMember same outranks
    rcases List.mem_cons.mp largerMember with rfl | largerBelow
    · -- The entry right below the top has another name, so it stands between.
      have secondChanges : second.1 ≠ entry.1 := same ▸ Ne.symm changes
      have above : Outranks larger second :=
        outranks_of_name_ne sorted List.mem_cons_self (Ne.symm changes)
      have entryBelow : entry ∈ entries :=
        (List.mem_cons.mp member).resolve_left fun equal => secondChanges (equal ▸ rfl)
      have below : Outranks second entry :=
        outranks_of_name_ne sortedBelow entryBelow (Ne.symm secondChanges)
      exact ⟨second, by simp, secondChanges, above, below⟩
    · obtain ⟨between, betweenMember, apart⟩ := separated larger largerBelow same outranks
      exact ⟨between, List.mem_cons_of_mem _ betweenMember, apart⟩

/-- A repetition of the name on top is not separated from it, and separates nothing else. -/
theorem separated_of_cons_repeated (sorted : Sorted (first :: second :: entries))
    (repeated : first.1 = second.1) (member : entry ∈ first :: second :: entries)
    (separated : Separated (first :: second :: entries) entry) :
    entry ∈ first :: entries ∧ Separated (first :: entries) entry := by
  have sortedBelow : Sorted (second :: entries) := sorted.tail
  have firstSecond := sorted.head List.mem_cons_self
  constructor
  · rcases List.mem_cons.mp member with rfl | below
    · exact List.mem_cons_self
    · rcases List.mem_cons.mp below with rfl | later
      · rcases firstSecond with rfl | outranks
        · exact List.mem_cons_self
        · obtain ⟨between, betweenMember, different, _, above⟩ :=
            separated first List.mem_cons_self repeated outranks
          have notFirst : between ≠ first := fun equal => different (equal ▸ repeated)
          have betweenBelow := (List.mem_cons.mp betweenMember).resolve_left notFirst
          exact absurd above (not_outranks_head sortedBelow betweenBelow)
      · exact List.mem_cons_of_mem _ later
  · intro larger largerMember same outranks
    have largerAbove : larger ∈ first :: second :: entries :=
      mem_cons_cons_of_mem_cons largerMember
    obtain ⟨between, betweenMember, different, above, below⟩ :=
      separated larger largerAbove same outranks
    rcases List.mem_cons.mp betweenMember with rfl | betweenBelow
    · exact absurd above (not_outranks_head sorted largerAbove)
    · rcases List.mem_cons.mp betweenBelow with rfl | later
      · rcases List.mem_cons.mp largerMember with rfl | largerLater
        · exact absurd (repeated.symm.trans same) different
        · have largerBelow := List.mem_cons_of_mem between largerLater
          exact absurd above (not_outranks_head sortedBelow largerBelow)
      · exact ⟨between, List.mem_cons_of_mem _ later, different, above, below⟩

theorem separated_cons_repeated (sorted : Sorted (first :: second :: entries))
    (repeated : first.1 = second.1) (separated : Separated (first :: entries) entry) :
    Separated (first :: second :: entries) entry := by
  have sortedBelow : Sorted (second :: entries) := sorted.tail
  have firstSecond := sorted.head List.mem_cons_self
  have withoutSecond : ∀ larger ∈ first :: entries, larger.1 = entry.1 → Outranks larger entry →
      ∃ between ∈ first :: second :: entries,
        between.1 ≠ entry.1 ∧ Outranks larger between ∧ Outranks between entry := by
    intro larger largerMember same outranks
    obtain ⟨between, betweenMember, apart⟩ := separated larger largerMember same outranks
    exact ⟨between, mem_cons_cons_of_mem_cons betweenMember, apart⟩
  intro larger largerMember same outranks
  rcases List.mem_cons.mp largerMember with rfl | largerBelow
  · exact withoutSecond larger List.mem_cons_self same outranks
  · rcases List.mem_cons.mp largerBelow with rfl | later
    · have firstOutranks : Outranks first entry := by
        rcases firstSecond with rfl | above
        · exact outranks
        · exact above.trans outranks
      obtain ⟨between, betweenMember, different, _, below⟩ :=
        separated first List.mem_cons_self (repeated.trans same) firstOutranks
      have notFirst : between ≠ first :=
        fun equal => different (equal ▸ repeated.trans same)
      have betweenLater := (List.mem_cons.mp betweenMember).resolve_left notFirst
      have above : Outranks larger between :=
        outranks_of_name_ne sortedBelow betweenLater fun equal => different (equal.trans same)
      have listed := List.mem_cons_of_mem first (List.mem_cons_of_mem larger betweenLater)
      exact ⟨between, listed, different, above, below⟩
    · exact withoutSecond larger (List.mem_cons_of_mem _ later) same outranks

/-- Of sorted entries those are kept that are separated from the larger ones of their names. -/
theorem mem_destutter'_iff (sorted : Sorted (first :: entries)) :
    entry ∈ entries.destutter' NameChanges first ↔
      entry ∈ first :: entries ∧ Separated (first :: entries) entry := by
  induction entries generalizing first with
  | nil =>
      rw [List.destutter'_nil, List.mem_singleton]
      refine ⟨?_, And.left⟩
      rintro rfl
      exact ⟨rfl, separated_head sorted⟩
  | cons second rest inductionHypothesis =>
      have sortedBelow : Sorted (second :: rest) := sorted.tail
      by_cases changes : NameChanges first second
      · rw [List.destutter'_cons_pos _ changes, List.mem_cons, inductionHypothesis sortedBelow,
          List.mem_cons (l := second :: rest)]
        constructor
        · rintro (rfl | ⟨below, separated⟩)
          · exact ⟨Or.inl rfl, separated_head sorted⟩
          · exact ⟨Or.inr below, (separated_cons_iff sorted changes below).mpr separated⟩
        · rintro ⟨rfl | below, separated⟩
          · exact Or.inl rfl
          · exact Or.inr ⟨below, (separated_cons_iff sorted changes below).mp separated⟩
      · have sortedWithout : Sorted (first :: rest) :=
          List.Pairwise.sublist ((List.sublist_cons_self second rest).cons_cons first) sorted
        have repeated := not_not.mp changes
        rw [List.destutter'_cons_neg _ changes, inductionHypothesis sortedWithout]
        constructor
        · rintro ⟨member, separated⟩
          exact ⟨mem_cons_cons_of_mem_cons member,
            separated_cons_repeated sorted repeated separated⟩
        · rintro ⟨member, separated⟩
          exact separated_of_cons_repeated sorted repeated member separated

end Separation

theorem pairwise_outranks_of_isChain {entries : List Entry} (sorted : Sorted entries)
    (changing : entries.IsChain NameChanges) : entries.Pairwise Outranks := by
  induction entries with
  | nil => exact List.Pairwise.nil
  | cons first rest inductionHypothesis =>
      have sortedRest : Sorted rest := sorted.tail
      have rankedRest := inductionHypothesis sortedRest changing.of_cons
      refine List.pairwise_cons.mpr ⟨?_, rankedRest⟩
      intro other member
      rcases sorted.head member with rfl | outranks
      · -- The entry would stand below the next one, and not right below itself.
        cases rest with
        | nil => cases member
        | cons second others =>
            have changes : first.1 ≠ second.1 := (List.isChain_cons_cons.mp changing).1
            have above : Outranks first second :=
              outranks_of_name_ne sorted List.mem_cons_self (Ne.symm changes)
            have below : first ∈ others :=
              (List.mem_cons.mp member).resolve_left fun equal => changes (congrArg Prod.fst equal)
            exact absurd ((List.pairwise_cons.mp rankedRest).1 first below) above.asymm
      · exact outranks

/-! ## Ranked entries -/

section Ranked

variable (entries : List Entry)

theorem mem_ranked_iff {entry : Entry} :
    entry ∈ ranked entries ↔ entry ∈ entries ∧ Separated entries entry := by
  have sorted : Sorted (entries.mergeSort precedes) :=
    pairwise_mergeSort_outranks (fun _ _ => precedes_iff) entries
  have kept : entry ∈ collapse (entries.mergeSort precedes) ↔
      entry ∈ entries.mergeSort precedes ∧ Separated (entries.mergeSort precedes) entry := by
    cases listed : entries.mergeSort precedes with
    | nil => simp [collapse]
    | cons first rest =>
        rw [collapse_cons]
        exact mem_destutter'_iff (listed ▸ sorted)
  rw [ranked, kept]
  simp only [Separated, List.mem_mergeSort]

theorem pairwise_ranked : (ranked entries).Pairwise Outranks := by
  have sorted : Sorted (entries.mergeSort precedes) :=
    pairwise_mergeSort_outranks (fun _ _ => precedes_iff) entries
  rw [ranked]
  cases listed : entries.mergeSort precedes with
  | nil => exact List.Pairwise.nil
  | cons first rest =>
      rw [listed] at sorted
      rw [collapse_cons]
      have keptSorted : Sorted (rest.destutter' NameChanges first) :=
        List.Pairwise.sublist (List.destutter'_sublist ..) sorted
      exact pairwise_outranks_of_isChain keptSorted (List.isChain_destutter' ..)

theorem takeBelow_prefix_self (target : Binary64) (covered : UInt64) :
    takeBelow target covered entries <+: entries := by
  induction entries generalizing covered with
  | nil => exact List.prefix_refl _
  | cons entry rest inductionHypothesis =>
      rw [takeBelow]
      split
      · exact List.nil_prefix
      · exact List.prefix_cons_inj entry |>.mpr (inductionHypothesis _)

theorem ofEntries_prefix_ranked (share : Binary64) :
    ofEntries entries share <+: ranked entries := by
  rw [ofEntries]
  split
  · exact List.nil_prefix
  · exact takeBelow_prefix_self _ _ _

/-- Of every name in the list the largest entry is ranked. -/
theorem exists_largest {entry : Entry} (member : entry ∈ entries) :
    ∃ largest ∈ ranked entries, largest.1 = entry.1 ∧
      (largest = entry ∨ Outranks largest entry) := by
  let named := entries.filter fun other => other.1 = entry.1
  have sorted : Sorted (named.mergeSort precedes) :=
    pairwise_mergeSort_outranks (fun _ _ => precedes_iff) named
  have memNamed : ∀ {other}, other ∈ named.mergeSort precedes ↔
      other ∈ entries ∧ other.1 = entry.1 := by
    intro other
    simp [named]
  cases listed : named.mergeSort precedes with
  | nil =>
      have found := memNamed.mpr ⟨member, rfl⟩
      rw [listed] at found
      cases found
  | cons largest rest =>
      rw [listed] at sorted memNamed
      obtain ⟨largestMember, same⟩ := memNamed.mp List.mem_cons_self
      have separated : Separated entries largest := by
        intro larger largerMember largerSame outranks
        have largerNamed := memNamed.mpr ⟨largerMember, largerSame.trans same⟩
        exact absurd outranks (not_outranks_head sorted largerNamed)
      refine ⟨largest, (mem_ranked_iff entries).mpr ⟨largestMember, separated⟩, same, ?_⟩
      rcases List.mem_cons.mp (memNamed.mpr ⟨member, rfl⟩) with equal | below
      · exact Or.inl equal.symm
      · exact sorted.head below

end Ranked

/-! ## Listed entries -/

section Listed

variable {entries : List Entry} {share : Binary64}

theorem pairwise_ofEntries : (ofEntries entries share).Pairwise Outranks :=
  (pairwise_ranked entries).sublist (ofEntries_prefix_ranked entries share).sublist

/-- Whatever ranks above a listed entry is listed. -/
theorem mem_ofEntries_of_outranks {above entry : Entry} (rankedAbove : above ∈ ranked entries)
    (listed : entry ∈ ofEntries entries share) (outranks : Outranks above entry) :
    above ∈ ofEntries entries share := by
  obtain ⟨rest, split⟩ := ofEntries_prefix_ranked entries share
  have ordered := pairwise_ranked entries
  rw [← split] at rankedAbove ordered
  rcases List.mem_append.mp rankedAbove with inside | beyond
  · exact inside
  · have below := (List.pairwise_append.mp ordered).2.2 entry listed above beyond
    exact absurd outranks below.asymm

/-- A name is listed once as long as only its largest entry is listed. -/
theorem nodup_names_iff :
    ((ofEntries entries share).map Prod.fst).Nodup ↔
      ∀ entry ∈ ofEntries entries share, ∀ other ∈ entries, other.1 = entry.1 →
        other.2 ≤ entry.2 := by
  have subset : ∀ entry ∈ ofEntries entries share, entry ∈ entries := fun entry listed =>
    ((mem_ranked_iff entries).mp ((ofEntries_prefix_ranked entries share).subset listed)).1
  constructor
  · intro distinct entry listed other member same
    by_contra larger
    have otherOutranks : Outranks other entry :=
      (Outranks.iff_lt_of_name_eq same).mpr (UInt64.not_le.mp larger)
    obtain ⟨largest, largestRanked, largestSame, largestAbove⟩ := exists_largest entries member
    have outranks : Outranks largest entry := by
      rcases largestAbove with rfl | above
      · exact otherOutranks
      · exact above.trans otherOutranks
    have largestListed := mem_ofEntries_of_outranks largestRanked listed outranks
    have equal := List.inj_on_of_nodup_map distinct largestListed listed (largestSame.trans same)
    exact outranks.ne equal
  · intro largest
    refine List.pairwise_map.mpr (pairwise_ofEntries.imp_of_mem ?_)
    intro above below aboveListed belowListed outranks same
    have smaller := (Outranks.iff_lt_of_name_eq same).mp outranks
    have notSmaller := largest below belowListed above (subset above aboveListed) same
    exact absurd smaller (UInt64.not_lt.mpr notSmaller)

/-- The list is a beginning of the ranked entries, in order and without repeating an entry, and what
is ranked are the entries that an entry of another name separates from every larger one of their
own.  So a name is listed once unless a smaller entry of it is listed that another name separates
from a larger one. -/
theorem ofEntries_names (entries : List Entry) (share : Binary64) :
    (∀ entry ∈ ofEntries entries share, entry ∈ entries) ∧
      (ofEntries entries share).Nodup ∧
      (((ofEntries entries share).map Prod.fst).Nodup ↔
        ∀ entry ∈ ofEntries entries share, ∀ other ∈ entries,
          other.1 = entry.1 → other.2 ≤ entry.2) ∧
      ofEntries entries share <+: ranked entries ∧
      ∀ entry, entry ∈ ranked entries ↔ entry ∈ entries ∧
        ∀ larger ∈ entries, larger.1 = entry.1 → entry.2 < larger.2 →
          ∃ between ∈ entries, between.1 ≠ entry.1 ∧
            Outranks larger between ∧ Outranks between entry := by
  refine ⟨?_, pairwise_ofEntries.imp Outranks.ne, nodup_names_iff, ofEntries_prefix_ranked .., ?_⟩
  · intro entry listed
    exact ((mem_ranked_iff entries).mp ((ofEntries_prefix_ranked entries share).subset listed)).1
  · intro entry
    rw [mem_ranked_iff]
    refine and_congr_right fun _ => forall₃_congr fun larger _ same => ?_
    rw [Outranks.iff_lt_of_name_eq same]

end Listed

/-- A name with two sizes is listed twice when another name ranks between them. -/
theorem ofEntries_repeats_name :
    let names := (ofEntries [("init", 10), ("run", 5), ("init", 1)] .one).map Prod.fst
    names = ["init", "run", "init"] ∧ ¬ names.Nodup := by
  intro names
  have sorted : [("init", 10), ("run", 5), ("init", 1)].mergeSort precedes =
      [("init", 10), ("run", 5), ("init", 1)] := List.mergeSort_of_pairwise (by decide)
  have listed : names = ["init", "run", "init"] := by
    change ((ofEntries _ _).map Prod.fst) = _
    rw [ofEntries, ranked, sorted]
    decide +kernel
  refine ⟨listed, ?_⟩
  rw [listed]
  decide

end SampleProfile.SymbolList
