import Mathlib.Tactic.ByContra
import SampleProfile.Proofs.FunctionTable

/-!
# Addresses that a look-up misses

A look-up by address tries one function only, the canonical one of the greatest start up to the
address.  It never finds a wrong function.  It misses the addresses behind the end of the function
tried, also those that lie in a function that started no later and reaches farther.
`ofList_complete_iff_seamless` says which lists of functions have no such address.
-/

namespace SampleProfile

/-! ## Ends of functions -/

/-- The address behind a function.  It may lie above all addresses, for the range of a function may
pass the top. -/
def Symbol.stop (symbol : Symbol) : Nat :=
  symbol.start.toNat + symbol.size.toNat

theorem Symbol.contains_iff {symbol : Symbol} {address : UInt64} :
    symbol.contains address ↔ symbol.start ≤ address ∧ address.toNat < symbol.stop := by
  simp only [contains, Bool.and_eq_true, decide_eq_true_eq, stop]
  refine and_congr_right fun below => ?_
  have order := UInt64.le_iff_toNat_le.mp below
  rw [UInt64.lt_iff_toNat_lt, UInt64.toNat_sub_of_le _ _ below]
  omega

theorem Symbol.start_le_of_stop_le {symbol : Symbol} {address : UInt64}
    (ended : symbol.stop ≤ address.toNat) : symbol.start ≤ address :=
  UInt64.le_iff_toNat_le.mpr (Nat.le_trans (Nat.le_add_right _ _) ended)

/-- Every function shares its start with a canonical one. -/
theorem exists_leader {symbols : List Symbol} {symbol : Symbol} (member : symbol ∈ symbols) :
    ∃ leader ∈ leaders symbols, leader.start = symbol.start := by
  fun_induction leaders symbols with
  | case1 => exact absurd member List.not_mem_nil
  | case2 first rest inductionHypothesis =>
      by_cases same : symbol.start = first.start
      · exact ⟨first, List.mem_cons_self, same.symm⟩
      · have later : symbol ∈ rest := by
          rcases List.mem_cons.mp member with rfl | later
          · exact absurd rfl same
          · exact later
        rw [← List.takeWhile_append_dropWhile (p := fun other => decide (other.start = first.start))
          (l := rest), List.mem_append] at later
        rcases later with taken | dropped
        · have led := List.all_eq_true.mp List.all_takeWhile symbol taken
          exact absurd (of_decide_eq_true led) same
        · obtain ⟨leader, leads, start⟩ := inductionHypothesis dropped
          exact ⟨leader, List.mem_cons_of_mem _ leads, start⟩

namespace FunctionTable

/-! ## Missed addresses -/

/-- The functions leave no address out: where a canonical function ends inside another one that
started no later, the next function has started by then. -/
def Seamless (table : FunctionTable) : Prop :=
  ∀ symbol ∈ table.symbols, ∀ leader ∈ leaders table.symbols,
    symbol.start ≤ leader.start → leader.stop < symbol.stop → leader.stop < UInt64.size →
      ∃ next ∈ table.symbols, leader.start < next.start ∧ next.start.toNat ≤ leader.stop

instance (table : FunctionTable) : Decidable table.Seamless :=
  inferInstanceAs (Decidable (∀ symbol ∈ table.symbols, ∀ leader ∈ leaders table.symbols, _))

section Table

variable (table : FunctionTable) {symbol : Symbol} {address : UInt64}

theorem exists_greatest (member : symbol ∈ table.symbols) (below : symbol.start ≤ address) :
    ∃ leader ∈ leaders table.symbols, leader.start ≤ address ∧
      ∀ other ∈ table.symbols, other.start ≤ address → other.start ≤ leader.start := by
  obtain ⟨first, leads, start⟩ := exists_leader member
  have candidate : first ∈ (leaders table.symbols).filter fun leader => leader.start ≤ address :=
    List.mem_filter.mpr ⟨leads, decide_eq_true (start ▸ below)⟩
  have someLast := List.getLast?_isSome.mpr (List.ne_nil_of_mem candidate)
  obtain ⟨leader, last⟩ := Option.isSome_iff_exists.mp someLast
  rw [getLast?_filter_eq_some_iff table.pairwise_canonical] at last
  obtain ⟨leaderMember, leaderBelow, greatest⟩ := last
  refine ⟨leader, leaderMember, leaderBelow, ?_⟩
  intro other otherMember otherBelow
  obtain ⟨otherLeader, otherLeads, otherStart⟩ := exists_leader otherMember
  exact otherStart ▸ greatest otherLeader otherLeads (otherStart ▸ otherBelow)

theorem enclosing?_eq_none_iff (member : symbol ∈ table.symbols) (below : symbol.start ≤ address) :
    table.enclosing? address = none ↔
      ∃ leader ∈ leaders table.symbols, leader.stop ≤ address.toNat ∧
        ∀ other ∈ table.symbols, other.start ≤ address → other.start ≤ leader.start := by
  constructor
  · intro missed
    obtain ⟨leader, leads, leaderBelow, greatest⟩ := table.exists_greatest member below
    refine ⟨leader, leads, ?_, greatest⟩
    by_contra inside
    have contained : leader.contains address :=
      Symbol.contains_iff.mpr ⟨leaderBelow, Nat.lt_of_not_le inside⟩
    have found : table.enclosing? address = some leader :=
      table.enclosing?_eq_some_iff.mpr ⟨leads, contained, fun other otherLeads =>
        greatest other (mem_of_mem_leaders otherLeads)⟩
    simp [missed] at found
  · rintro ⟨leader, leads, ended, greatest⟩
    rw [Option.eq_none_iff_forall_not_mem]
    intro found hit
    obtain ⟨foundLeads, contained, foundGreatest⟩ := table.enclosing?_eq_some_iff.mp hit
    obtain ⟨foundBelow, inside⟩ := Symbol.contains_iff.mp contained
    have same : found.start = leader.start :=
      UInt64.le_antisymm (greatest found (mem_of_mem_leaders foundLeads) foundBelow)
        (foundGreatest leader leads (Symbol.start_le_of_stop_le ended))
    rw [eq_of_key_eq table.pairwise_canonical foundLeads leads same] at inside
    exact absurd inside (Nat.not_lt_of_le ended)

/-- The address behind a canonical function is missed when no other function has started by then. -/
theorem enclosing?_stop {leader : Symbol} (leads : leader ∈ leaders table.symbols)
    (behind : address.toNat = leader.stop)
    (gap : ∀ next ∈ table.symbols, leader.start < next.start → leader.stop < next.start.toNat) :
    table.enclosing? address = none := by
  have ended := Nat.le_of_eq behind.symm
  have below := Symbol.start_le_of_stop_le ended
  rw [table.enclosing?_eq_none_iff (mem_of_mem_leaders leads) below]
  refine ⟨leader, leads, ended, ?_⟩
  intro other member started
  by_contra above
  have later := gap other member (UInt64.not_le.mp above)
  rw [UInt64.le_iff_toNat_le, behind] at started
  exact absurd later (Nat.not_lt_of_le started)

theorem complete_iff_seamless :
    (∀ address, (∃ symbol ∈ table.symbols, symbol.contains address) →
        (table.enclosing? address).isSome) ↔
      table.Seamless := by
  constructor
  · intro complete symbol member leader leads notBefore shorter bounded
    by_contra gap
    have behind : (UInt64.ofNat leader.stop).toNat = leader.stop :=
      UInt64.toNat_ofNat_of_lt' bounded
    have missed : table.enclosing? (UInt64.ofNat leader.stop) = none := by
      refine table.enclosing?_stop leads behind ?_
      intro next nextMember above
      by_contra started
      exact gap ⟨next, nextMember, above, Nat.le_of_not_lt started⟩
    have below := UInt64.le_trans notBefore
      (Symbol.start_le_of_stop_le (Nat.le_of_eq behind.symm))
    have found := complete (UInt64.ofNat leader.stop)
      ⟨symbol, member, Symbol.contains_iff.mpr ⟨below, by rwa [behind]⟩⟩
    simp [missed] at found
  · rintro seamless address ⟨symbol, member, contained⟩
    obtain ⟨below, inside⟩ := Symbol.contains_iff.mp contained
    rw [Option.isSome_iff_ne_none]
    intro missed
    obtain ⟨leader, leads, ended, greatest⟩ :=
      (table.enclosing?_eq_none_iff member below).mp missed
    obtain ⟨next, nextMember, nextAbove, nextBelow⟩ :=
      seamless symbol member leader leads (greatest symbol member below)
        (Nat.lt_of_le_of_lt ended inside) (Nat.lt_of_le_of_lt ended address.toNat_lt)
    have nextReached : next.start ≤ address :=
      UInt64.le_iff_toNat_le.mpr (Nat.le_trans nextBelow ended)
    exact absurd (greatest next nextMember nextReached) (UInt64.not_le.mpr nextAbove)

theorem exists_sampledRange_of_enclosing? {addresses : List UInt64} (sampled : address ∈ addresses)
    (found : (table.enclosing? address).isSome) :
    ∃ range : Symbol, (table.sampledRanges addresses)[range.start]? = some range.size ∧
      range.contains address := by
  obtain ⟨range, hit⟩ := Option.isSome_iff_exists.mp found
  refine ⟨range, ?_, (table.enclosing?_eq_some_iff.mp hit).2.1⟩
  exact table.getElem?_sampledRanges.mpr ⟨address, sampled, range, hit, rfl, rfl⟩

theorem sampledRanges_singleton (missed : table.enclosing? address = none) :
    table.sampledRanges [address] = ∅ := by
  simp [sampledRanges, missed]

end Table

/-! ## Functions in any order -/

theorem mem_ofList {symbols : List Symbol} {symbol : Symbol} :
    symbol ∈ (ofList symbols).symbols ↔ symbol ∈ symbols :=
  List.mem_mergeSort

theorem ofList_symbols (table : FunctionTable) : ofList table.symbols = table := by
  obtain ⟨symbols, sorted, canonical, canonicalEq⟩ := table
  have kept : symbols.mergeSort (fun left right => left.start ≤ right.start) = symbols :=
    List.mergeSort_of_pairwise (by simpa using sorted)
  subst canonicalEq
  simp [ofList, kept]

/-- Whatever is found is a function around the address.  Every address inside a function is found,
and every sampled address inside a function lies in a range of the sampled functions, exactly if the
functions leave no address out. -/
theorem ofList_complete_iff_seamless (symbols : List Symbol) :
    let table := ofList symbols
    (∀ address, ∀ symbol ∈ table.enclosing? address, symbol ∈ symbols ∧ symbol.contains address) ∧
      ((∀ address, (∃ symbol ∈ symbols, symbol.contains address) →
          (table.enclosing? address).isSome) ↔ table.Seamless) ∧
      ((∀ addresses, ∀ address ∈ addresses, (∃ symbol ∈ symbols, symbol.contains address) →
          ∃ range : Symbol, (table.sampledRanges addresses)[range.start]? = some range.size ∧
            range.contains address) ↔ table.Seamless) := by
  intro table
  have complete := table.complete_iff_seamless
  simp only [table, mem_ofList] at complete
  refine ⟨?_, complete, ?_⟩
  · intro address symbol found
    exact ⟨mem_ofList.mp (mem_of_enclosing? found), (table.enclosing?_eq_some_iff.mp found).2.1⟩
  · rw [← complete]
    constructor
    · intro listed address inside
      rw [Option.isSome_iff_ne_none]
      intro missed
      obtain ⟨range, held, _⟩ := listed [address] address List.mem_cons_self inside
      simp [table, sampledRanges_singleton _ missed] at held
    · intro every addresses address sampled inside
      exact table.exists_sampledRange_of_enclosing? sampled (every address inside)

/-- A function inside another one. -/
def nested : FunctionTable where
  symbols := [⟨"outer", 0x1000, 0x1000⟩, ⟨"inner", 0x1100, 0x10⟩]
  sorted := by decide
  canonical := #[⟨"outer", 0x1000, 0x1000⟩, ⟨"inner", 0x1100, 0x10⟩]
  canonical_eq := by simp [leaders]

/-- Behind the inner function the outer one is not found. -/
theorem enclosing?_nested :
    let table := ofList nested.symbols
    (∃ symbol ∈ nested.symbols, symbol.contains 0x1200) ∧
      table.enclosing? 0x1200 = none ∧ table.sampledRanges [0x1200] = ∅ := by
  rw [ofList_symbols]
  have missed : nested.enclosing? 0x1200 = none := by decide +kernel
  exact ⟨by decide, missed, nested.sampledRanges_singleton missed⟩

end FunctionTable

end SampleProfile
