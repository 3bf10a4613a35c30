import SampleProfile.Proofs.OrderedMap
import SampleProfile.Proofs.Search

/-!
# Looking up functions

The canonical symbols stand in strict order of their start addresses, so that a start address
determines its canonical symbol.  `enclosing?_eq_some_iff` says which symbol a look-up by address
finds, and `getElem?_sampledRanges` which functions count as sampled.  A name is known by the lowest
start only (`startOf?_eq_some_iff`).
-/

namespace SampleProfile

/-! ## Canonical symbols -/

theorem mem_of_mem_leaders {symbols : List Symbol} {symbol : Symbol}
    (member : symbol ∈ leaders symbols) : symbol ∈ symbols := by
  fun_induction leaders symbols with
  | case1 => exact member
  | case2 first rest inductionHypothesis =>
      rcases List.mem_cons.mp member with same | later
      · exact same ▸ List.mem_cons_self
      · have dropped := inductionHypothesis later
        exact List.mem_cons_of_mem _ ((List.dropWhile_sublist _).subset dropped)

/-- Behind the symbols that share the first start address only greater start addresses follow. -/
theorem start_lt_of_mem_dropWhile {first : Symbol} {rest : List Symbol}
    (sorted : (first :: rest).Pairwise fun left right => left.start ≤ right.start)
    {symbol : Symbol} (member : symbol ∈ rest.dropWhile fun other => other.start = first.start) :
    first.start < symbol.start := by
  induction rest with
  | nil => simp at member
  | cons next others inductionHypothesis =>
      have bounds := List.pairwise_cons.mp sorted
      by_cases same : next.start = first.start
      · simp only [same, decide_true, List.dropWhile_cons_of_pos] at member
        refine inductionHypothesis ?_ member
        exact sorted.sublist ((List.sublist_cons_self next others).cons_cons first)
      · simp only [same, decide_false, Bool.false_eq_true, not_false_eq_true,
          List.dropWhile_cons_of_neg] at member
        have greater : first.start < next.start :=
          UInt64.lt_of_le_of_ne (bounds.1 next List.mem_cons_self) (Ne.symm same)
        rcases List.mem_cons.mp member with rfl | later
        · exact greater
        · have following := (List.pairwise_cons.mp bounds.2).1 symbol later
          exact UInt64.lt_of_lt_of_le greater following

/-- No two canonical symbols share a start address. -/
theorem pairwise_leaders {symbols : List Symbol}
    (sorted : symbols.Pairwise fun left right => left.start ≤ right.start) :
    (leaders symbols).Pairwise fun left right => left.start < right.start := by
  fun_induction leaders symbols with
  | case1 => exact List.Pairwise.nil
  | case2 first rest inductionHypothesis =>
      have tail := (List.pairwise_cons.mp sorted).2.sublist
        (List.dropWhile_sublist fun other => decide (other.start = first.start))
      refine List.Pairwise.cons ?_ (inductionHypothesis tail)
      intro other member
      exact start_lt_of_mem_dropWhile sorted (mem_of_mem_leaders member)

namespace FunctionTable

variable (table : FunctionTable)

theorem pairwise_canonical :
    (leaders table.symbols).Pairwise fun left right => left.start < right.start :=
  pairwise_leaders table.sorted

/-! ## Look-ups by address -/

/-- A look-up by address goes to the last canonical symbol that does not start above the address. -/
theorem enclosing?_eq (address : UInt64) :
    table.enclosing? address =
      ((leaders table.symbols).filter fun symbol => symbol.start ≤ address).getLast?.filter
        fun symbol => symbol.contains address := by
  let passing := (leaders table.symbols).filter fun symbol => symbol.start ≤ address
  let failing := (leaders table.symbols).filter fun symbol => address < symbol.start
  have split : table.canonical.toList = passing ++ failing := by
    rw [table.canonical_eq]
    exact (filter_append_filter table.pairwise_canonical address).symm
  have size : passing.length ≤ table.canonical.size := by
    rw [← Array.length_toList, split, List.length_append]
    exact Nat.le_add_right _ _
  have point : partitionPoint (fun symbol : Symbol => symbol.start ≤ address)
      table.canonical 0 table.canonical.size = passing.length := by
    refine partitionPoint_eq_length _ split ?_ ?_ _ _ (Nat.zero_le _) size (Nat.le_refl _)
    · intro symbol member
      exact (List.mem_filter.mp member).2
    · intro symbol member
      simpa using (List.mem_filter.mp member).2
  rw [enclosing?, point]
  change _ = passing.getLast?.filter _
  rcases List.eq_nil_or_concat passing with empty | ⟨initial, last, shape⟩
  · simp [empty]
  · have found : table.canonical[passing.length - 1]? = some last := by
      rw [← Array.getElem?_toList, split, shape]
      simp
    rw [found, shape]
    simp

/-- The symbol found is the canonical one with the greatest start not above the address, and
contains the address. -/
theorem enclosing?_eq_some_iff {address : UInt64} {symbol : Symbol} :
    table.enclosing? address = some symbol ↔
      symbol ∈ leaders table.symbols ∧ symbol.contains address ∧
        ∀ other ∈ leaders table.symbols,
          other.start ≤ address → other.start ≤ symbol.start := by
  rw [enclosing?_eq, Option.filter_eq_some_iff,
    getLast?_filter_eq_some_iff table.pairwise_canonical]
  constructor
  · rintro ⟨⟨member, _, greatest⟩, contained⟩
    exact ⟨member, contained, greatest⟩
  · rintro ⟨member, contained, greatest⟩
    refine ⟨⟨member, ?_, greatest⟩, contained⟩
    simp only [Symbol.contains, Bool.and_eq_true, decide_eq_true_eq] at contained
    exact contained.1

/-! ## Sampled functions -/

/-- A function is sampled when it encloses one of the addresses. -/
theorem getElem?_sampledRanges {addresses : List UInt64} {start size : UInt64} :
    (table.sampledRanges addresses)[start]? = some size ↔
      ∃ address ∈ addresses, ∃ symbol, table.enclosing? address = some symbol ∧
        symbol.start = start ∧ symbol.size = size := by
  have agree : ∀ left ∈ addresses.filterMap table.enclosing?,
      ∀ right ∈ addresses.filterMap table.enclosing?,
        left.start = right.start → left.size = right.size := by
    intro left leftMember right rightMember same
    obtain ⟨_, _, leftFound⟩ := List.mem_filterMap.mp leftMember
    obtain ⟨_, _, rightFound⟩ := List.mem_filterMap.mp rightMember
    have leftLeads := (table.enclosing?_eq_some_iff.mp leftFound).1
    have rightLeads := (table.enclosing?_eq_some_iff.mp rightFound).1
    rw [eq_of_key_eq table.pairwise_canonical leftLeads rightLeads same]
  rw [sampledRanges, OrderedMap.getElem?_foldl_insert Symbol.start Symbol.size ∅ start size agree]
  constructor
  · rintro (⟨symbol, member, range⟩ | ⟨absent, _⟩)
    · obtain ⟨address, sampled, found⟩ := List.mem_filterMap.mp member
      exact ⟨address, sampled, symbol, found, range⟩
    · simp at absent
  · rintro ⟨address, sampled, symbol, found, range⟩
    exact Or.inl ⟨symbol, List.mem_filterMap.mpr ⟨address, sampled, found⟩, range⟩

/-! ## Look-ups by name -/

/-- No function of the same name starts at a lower address. -/
def FirstOfName (table : FunctionTable) (symbol : Symbol) : Prop :=
  ∀ other ∈ table.symbols, other.name = symbol.name → symbol.start ≤ other.start

/-- No name occurs at two addresses. -/
def UniqueNames (table : FunctionTable) : Prop :=
  ∀ left ∈ table.symbols, ∀ right ∈ table.symbols,
    left.name = right.name → left.start = right.start

instance (table : FunctionTable) : Decidable table.UniqueNames :=
  inferInstanceAs (Decidable (∀ left ∈ table.symbols, ∀ right ∈ table.symbols, _))

section Names

variable {table : FunctionTable} {symbol : Symbol}

theorem mem_of_enclosing? {address : UInt64} (found : table.enclosing? address = some symbol) :
    symbol ∈ table.symbols :=
  mem_of_mem_leaders (table.enclosing?_eq_some_iff.mp found).1

theorem start_le_of_find? {name : String} {found other : Symbol}
    (first : table.symbols.find? (fun symbol => symbol.name = name) = some found)
    (member : other ∈ table.symbols) (same : other.name = name) : found.start ≤ other.start := by
  obtain ⟨_, before, after, split, noneBefore⟩ := List.find?_eq_some_iff_append.mp first
  have sorted := split ▸ table.sorted
  have following := (List.pairwise_append.mp sorted).2.1
  rw [split, List.mem_append, List.mem_cons] at member
  rcases member with earlier | rfl | later
  · have different := noneBefore other earlier
    simp [same] at different
  · exact UInt64.le_refl _
  · exact (List.pairwise_cons.mp following).1 other later

/-- The start that the table knows for a name is the lowest one. -/
theorem startOf?_eq_some_iff (member : symbol ∈ table.symbols) :
    table.startOf? symbol.name = some symbol.start ↔ table.FirstOfName symbol := by
  rw [startOf?]
  cases found : table.symbols.find? fun other => other.name = symbol.name with
  | none =>
      rw [List.find?_eq_none] at found
      exact absurd (decide_eq_true rfl) (found symbol member)
  | some leader =>
      have lower : leader.start ≤ symbol.start := start_le_of_find? found member rfl
      rw [Option.map_some, Option.some_inj]
      constructor
      · intro same other otherMember otherName
        exact same ▸ start_le_of_find? found otherMember otherName
      · intro first
        have leaderMember := List.mem_of_find?_eq_some found
        have leaderName : leader.name = symbol.name := by simpa using List.find?_some found
        exact UInt64.le_antisymm lower (first leader leaderMember leaderName)

theorem UniqueNames.firstOfName {address : UInt64} (unique : table.UniqueNames) :
    ∀ symbol ∈ table.enclosing? address, table.FirstOfName symbol := by
  intro symbol found other otherMember same
  rw [unique other otherMember symbol (mem_of_enclosing? found) same]
  exact UInt64.le_refl _

end Names

end FunctionTable

end SampleProfile
