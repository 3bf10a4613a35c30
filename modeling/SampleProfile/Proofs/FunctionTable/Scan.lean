import Mathlib.Data.List.Induction
import SampleProfile.Proofs.FunctionTable.Coverage

/-!
# Looking up without an index

A look-up by address sorts the functions, keeps the first one of every start and halves what is
left.  `enclosing?_ofList` says that the outcome is that of reading the functions once as they were
given: of those with the greatest start up to the address the one given first answers, if it
contains the address.
-/

namespace SampleProfile

/-! ## Reading the functions once -/

/-- What a scan holds after one more function: that function, if it starts up to the address and
above all before. -/
def nearer (address : UInt64) (held : Option Symbol) (symbol : Symbol) : Option Symbol :=
  if symbol.start ≤ address ∧ held.all fun other => other.start < symbol.start then
    some symbol
  else
    held

/-- Of the functions with the greatest start up to an address the one given first. -/
def nearest? (symbols : List Symbol) (address : UInt64) : Option Symbol :=
  symbols.foldl (nearer address) none

/-- The function is the first of its start, and no other one starts between it and the address. -/
structure Symbol.Nearest (symbol : Symbol) (symbols : List Symbol) (address : UInt64) : Prop where
  below : symbol.start ≤ address
  greatest : ∀ other ∈ symbols, other.start ≤ address → other.start ≤ symbol.start
  first : symbols.find? (fun other => other.start = symbol.start) = some symbol

namespace Symbol.Nearest

variable {symbols : List Symbol} {symbol other : Symbol} {address : UInt64}

theorem unique (nearest : symbol.Nearest symbols address) (again : other.Nearest symbols address) :
    symbol = other := by
  have member := List.mem_of_find?_eq_some nearest.first
  have otherMember := List.mem_of_find?_eq_some again.first
  have same : symbol.start = other.start :=
    UInt64.le_antisymm (again.greatest symbol member nearest.below)
      (nearest.greatest other otherMember again.below)
  have found := nearest.first
  rw [same, again.first, Option.some_inj] at found
  exact found.symm

theorem concat (nearest : symbol.Nearest symbols address)
    (kept : other.start ≤ address → other.start ≤ symbol.start) :
    symbol.Nearest (symbols ++ [other]) address where
  below := nearest.below
  greatest := by
    intro third member started
    rcases List.mem_append.mp member with earlier | last
    · exact nearest.greatest third earlier started
    · rw [List.mem_singleton.mp last] at started ⊢
      exact kept started
  first := by
    rw [List.find?_append, nearest.first]
    rfl

/-- A function up to the address and above all that were given before is the nearest one. -/
theorem of_above (below : symbol.start ≤ address)
    (above : ∀ other ∈ symbols, other.start ≤ address → other.start < symbol.start) :
    symbol.Nearest (symbols ++ [symbol]) address where
  below := below
  greatest := by
    intro other member started
    rcases List.mem_append.mp member with earlier | last
    · exact UInt64.le_of_lt (above other earlier started)
    · exact List.mem_singleton.mp last ▸ UInt64.le_refl _
  first := by
    have newStart : symbols.find? (fun other => other.start = symbol.start) = none := by
      rw [List.find?_eq_none]
      intro other member same
      have equal : other.start = symbol.start := of_decide_eq_true same
      exact absurd (above other member (equal ▸ below)) (equal ▸ UInt64.lt_irrefl _)
    rw [List.find?_append, newStart]
    simp

end Symbol.Nearest

section Scan

variable {symbols : List Symbol} {symbol : Symbol} {address : UInt64}

theorem nearest?_concat (symbols : List Symbol) (last : Symbol) (address : UInt64) :
    nearest? (symbols ++ [last]) address = nearer address (nearest? symbols address) last := by
  rw [nearest?, List.foldl_append, List.foldl_cons, List.foldl_nil, nearest?]

/-- A scan holds the nearest function, and nothing as long as all functions start above the address.
-/
theorem nearest?_spec (symbols : List Symbol) (address : UInt64) :
    (∀ symbol ∈ nearest? symbols address, symbol.Nearest symbols address) ∧
      (nearest? symbols address = none → ∀ other ∈ symbols, ¬ other.start ≤ address) := by
  induction symbols using List.reverseRecOn with
  | nil => simp [nearest?]
  | append_singleton symbols last inductionHypothesis =>
      obtain ⟨heldNearest, noneBelow⟩ := inductionHypothesis
      rw [nearest?_concat, nearer]
      cases held : nearest? symbols address with
      | none =>
          have above := noneBelow held
          by_cases started : last.start ≤ address
          · have nearest : last.Nearest (symbols ++ [last]) address :=
              .of_above started fun other member below => absurd below (above other member)
            simpa [started] using nearest
          · simpa [started, or_imp, forall_and] using And.intro above (UInt64.not_le.mp started)
      | some symbol =>
          have nearest := heldNearest symbol held
          by_cases replaced : last.start ≤ address ∧ symbol.start < last.start
          · have newNearest : last.Nearest (symbols ++ [last]) address :=
              .of_above replaced.1 fun other member below =>
                UInt64.lt_of_le_of_lt (nearest.greatest other member below) replaced.2
            simpa [replaced] using newNearest
          · have kept : last.start ≤ address → last.start ≤ symbol.start := fun started =>
              UInt64.not_lt.mp fun above => replaced ⟨started, above⟩
            simpa [replaced] using nearest.concat kept

theorem nearest?_eq_some_iff :
    nearest? symbols address = some symbol ↔ symbol.Nearest symbols address := by
  obtain ⟨heldNearest, noneBelow⟩ := nearest?_spec symbols address
  constructor
  · exact heldNearest symbol
  · intro nearest
    cases held : nearest? symbols address with
    | none =>
        have member := List.mem_of_find?_eq_some nearest.first
        exact absurd nearest.below (noneBelow held symbol member)
    | some found => rw [(heldNearest found held).unique nearest]

end Scan

/-! ## The index -/

/-- In a row sorted by start the canonical functions are the first ones of their starts. -/
theorem mem_leaders_iff {symbols : List Symbol} {symbol : Symbol}
    (sorted : symbols.Pairwise fun left right => left.start ≤ right.start) :
    symbol ∈ leaders symbols ↔
      symbols.find? (fun other => other.start = symbol.start) = some symbol := by
  fun_induction leaders symbols with
  | case1 => simp
  | case2 first rest inductionHypothesis =>
      have tail := (List.pairwise_cons.mp sorted).2.sublist
        (List.dropWhile_sublist fun other => decide (other.start = first.start))
      by_cases same : first.start = symbol.start
      · have notLater : symbol ∉ leaders (rest.dropWhile fun other => other.start = first.start) :=
          fun later => absurd (start_lt_of_mem_dropWhile sorted (mem_of_mem_leaders later))
            (same ▸ UInt64.lt_irrefl _)
        rw [List.mem_cons, or_iff_left notLater, List.find?_cons_of_pos (by simpa using same),
          Option.some_inj, eq_comm]
      · have notFirst : symbol ≠ first := fun equal => same (equal ▸ rfl)
        have skipped : (rest.takeWhile fun other => other.start = first.start).find?
            (fun other => other.start = symbol.start) = none := by
          rw [List.find?_eq_none]
          intro other member
          have led := List.all_eq_true.mp List.all_takeWhile other member
          simpa [of_decide_eq_true led] using same
        rw [List.mem_cons, or_iff_right notFirst, inductionHypothesis tail,
          List.find?_cons_of_neg (by simpa using same)]
        conv_rhs => rw [← List.takeWhile_append_dropWhile
          (p := fun other : Symbol => decide (other.start = first.start)) (l := rest)]
        rw [List.find?_append, skipped, Option.none_or]

namespace FunctionTable

variable {symbols reordered : List Symbol} {symbol : Symbol} {address : UInt64}

/-- Sorting keeps the functions of one start in the order in which they were given. -/
theorem filter_symbols_ofList (symbols : List Symbol) (start : UInt64) :
    (ofList symbols).symbols.filter (fun symbol => symbol.start = start) =
      symbols.filter fun symbol => symbol.start = start := by
  have oneStart : (symbols.filter fun symbol => symbol.start = start).Pairwise
      fun left right => decide (left.start ≤ right.start) = true := by
    refine List.pairwise_of_forall_mem_list fun left leftMember right rightMember => ?_
    have leftStart := of_decide_eq_true (List.mem_filter.mp leftMember).2
    have rightStart := of_decide_eq_true (List.mem_filter.mp rightMember).2
    simp [leftStart, rightStart]
  have kept : (symbols.filter fun symbol => symbol.start = start).Sublist
      (ofList symbols).symbols :=
    List.sublist_mergeSort
      (fun first second third before after => by
        simp only [decide_eq_true_eq] at before after ⊢
        exact UInt64.le_trans before after)
      (fun left right => by
        simp only [Bool.or_eq_true, decide_eq_true_eq]
        exact UInt64.le_total left.start right.start)
      oneStart List.filter_sublist
  have allKept := kept.filter fun symbol => decide (symbol.start = start)
  simp only [List.filter_filter, Bool.and_self] at allKept
  have sameLength : (symbols.filter fun symbol => symbol.start = start).length =
      ((ofList symbols).symbols.filter fun symbol => symbol.start = start).length :=
    ((List.mergeSort_perm symbols _).filter _).length_eq.symm
  exact (allKept.eq_of_length sameLength).symm

theorem find?_symbols_ofList (symbols : List Symbol) (start : UInt64) :
    (ofList symbols).symbols.find? (fun symbol => symbol.start = start) =
      symbols.find? fun symbol => symbol.start = start := by
  rw [← List.head?_filter, ← List.head?_filter, filter_symbols_ofList]

theorem mem_leaders_ofList :
    symbol ∈ leaders (ofList symbols).symbols ↔
      symbols.find? (fun other => other.start = symbol.start) = some symbol := by
  rw [mem_leaders_iff (ofList symbols).sorted, find?_symbols_ofList]

theorem enclosing?_ofList_eq_some_iff :
    (ofList symbols).enclosing? address = some symbol ↔
      symbol.Nearest symbols address ∧ symbol.contains address := by
  rw [enclosing?_eq_some_iff, mem_leaders_ofList]
  constructor
  · rintro ⟨first, contained, greatest⟩
    refine ⟨⟨(Symbol.contains_iff.mp contained).1, ?_, first⟩, contained⟩
    intro other member started
    obtain ⟨leader, leads, same⟩ := exists_leader (mem_ofList.mpr member)
    exact same ▸ greatest leader leads (same ▸ started)
  · rintro ⟨nearest, contained⟩
    refine ⟨nearest.first, contained, ?_⟩
    intro other leads started
    exact nearest.greatest other (mem_ofList.mp (mem_of_mem_leaders leads)) started

theorem nearest_of_filter_eq
    (same : ∀ start, reordered.filter (fun symbol => symbol.start = start) =
      symbols.filter fun symbol => symbol.start = start)
    (nearest : symbol.Nearest symbols address) : symbol.Nearest reordered address where
  below := nearest.below
  greatest := by
    intro other member
    have listed : other ∈ reordered.filter fun symbol => symbol.start = other.start :=
      List.mem_filter.mpr ⟨member, decide_eq_true rfl⟩
    rw [same] at listed
    exact nearest.greatest other (List.mem_filter.mp listed).1
  first := by
    rw [← List.head?_filter, same, List.head?_filter]
    exact nearest.first

/-- The look-up by sorting and halving is the plain scan of the functions as they were given.  It
finds the function given first among those with the greatest start up to the address, exactly when
its range reaches beyond the address, and that range may pass the top of the address space.  Only
the order of functions that share a start matters. -/
theorem enclosing?_ofList (symbols : List Symbol) :
    (∀ address, (ofList symbols).enclosing? address =
        (nearest? symbols address).filter fun symbol => symbol.contains address) ∧
      (∀ address symbol, (ofList symbols).enclosing? address = some symbol ↔
        symbols.find? (fun other => other.start = symbol.start) = some symbol ∧
          symbol.start ≤ address ∧
          (∀ other ∈ symbols, other.start ≤ address → other.start ≤ symbol.start) ∧
          address.toNat < symbol.start.toNat + symbol.size.toNat) ∧
      ∀ reordered : List Symbol,
        (∀ start, reordered.filter (fun symbol => symbol.start = start) =
          symbols.filter fun symbol => symbol.start = start) →
        ∀ address, (ofList reordered).enclosing? address = (ofList symbols).enclosing? address := by
  refine ⟨?_, ?_, ?_⟩
  · intro address
    ext symbol
    rw [enclosing?_ofList_eq_some_iff, Option.filter_eq_some_iff, nearest?_eq_some_iff]
  · intro address symbol
    rw [enclosing?_ofList_eq_some_iff, Symbol.contains_iff]
    constructor
    · rintro ⟨nearest, _, inside⟩
      exact ⟨nearest.first, nearest.below, nearest.greatest, inside⟩
    · rintro ⟨first, below, greatest, inside⟩
      exact ⟨⟨below, greatest, first⟩, below, inside⟩
  · intro reordered same address
    ext symbol
    rw [enclosing?_ofList_eq_some_iff, enclosing?_ofList_eq_some_iff]
    refine and_congr_left fun _ => ⟨?_, ?_⟩
    · exact nearest_of_filter_eq fun start => (same start).symm
    · exact nearest_of_filter_eq same

/-- Two names of one function, a function that reaches the top of the address space, and one inside
the first. -/
def crowded : List Symbol :=
  [⟨"last", 0xffffffffffffff00, 0x1000⟩, ⟨"main", 0x1000, 0x100⟩, ⟨"inner", 0x1040, 0x10⟩,
    ⟨"start", 0x1000, 0x200⟩]

/-- Sorting by start keeps the alias behind the function that it was given behind. -/
theorem enclosing?_ofList_crowded :
    let reordered : List Symbol := [⟨"main", 0x1000, 0x100⟩, ⟨"start", 0x1000, 0x200⟩,
      ⟨"inner", 0x1040, 0x10⟩, ⟨"last", 0xffffffffffffff00, 0x1000⟩]
    (∀ start, reordered.filter (fun symbol => symbol.start = start) =
        crowded.filter fun symbol => symbol.start = start) ∧
      (ofList reordered).enclosing? 0x103f = some ⟨"main", 0x1000, 0x100⟩ ∧
      (ofList crowded).enclosing? 0xffffffffffffffff =
        some ⟨"last", 0xffffffffffffff00, 0x1000⟩ ∧
      (ofList crowded).enclosing? 0x1050 = none := by
  intro reordered
  have same (start : UInt64) : reordered.filter (fun symbol => symbol.start = start) =
      crowded.filter fun symbol => symbol.start = start := by
    by_cases shared : start = 0x1000
    · subst shared
      decide
    · by_cases inside : start = 0x1040
      · subst inside
        decide
      · simp [reordered, crowded, List.filter_cons, Ne.symm shared, Ne.symm inside]
  obtain ⟨scanned, found, order⟩ := enclosing?_ofList crowded
  refine ⟨same, ?_, ?_, ?_⟩
  · rw [order reordered same, found]
    decide
  · rw [found]
    decide
  · rw [scanned]
    decide

end FunctionTable

end SampleProfile
