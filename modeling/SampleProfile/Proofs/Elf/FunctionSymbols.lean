import Mathlib.Data.List.Pairwise
import Mathlib.Data.Prod.Lex
import SampleProfile.Elf.FunctionSymbols
import SampleProfile.Proofs.FunctionTable.Scan
import SampleProfile.Proofs.Text.ByteOrder

/-!
# The name of an address

The function symbols of a file are the entries of its symbol tables that name code.  They are sorted
by a key that no two of them share unless a name is listed twice for an address, so that the order
of the entries does not matter, and sorting them once more by address keeps the symbol that look-ups
return in front.  `functionsOf_canonical` says which one that is.
-/

namespace SampleProfile

namespace Elf

/-! ## Entries that name code -/

/-- The entry names code of the file, that of a symbol. -/
structure SymbolEntry.Names (entry : SymbolEntry) (symbol : Symbol) : Prop where
  isFunction : entry.isFunction
  isDefined : entry.isDefined
  name_eq : entry.name = some symbol.name
  address_eq : entry.address = symbol.start
  size_eq : entry.size = symbol.size
  name_ne : symbol.name ≠ ""
  start_ne : symbol.start ≠ 0
  size_ne : symbol.size ≠ 0

theorem SymbolEntry.function?_eq_some_iff {entry : SymbolEntry} {symbol : Symbol} :
    entry.function? = some symbol ↔ entry.Names symbol := by
  obtain ⟨name, start, size⟩ := symbol
  cases named : entry.name with
  | none =>
      have unnamed : ¬ entry.Names ⟨name, start, size⟩ := fun names => by
        have readable := names.name_eq
        rw [named] at readable
        cases readable
      simp [function?, named, unnamed]
  | some text =>
      simp only [function?, named, Option.bind_eq_bind, Option.bind_some,
        Option.ite_none_right_eq_some, Bool.and_eq_true, decide_eq_true_eq, Option.pure_def,
        Option.some_inj, Symbol.mk.injEq]
      constructor
      · intro passed
        obtain ⟨⟨⟨⟨⟨isFunction, isDefined⟩, startNe⟩, sizeNe⟩, nameNe⟩, rfl, rfl, rfl⟩ := passed
        exact ⟨isFunction, isDefined, named, rfl, rfl, nameNe, startNe, sizeNe⟩
      · intro names
        obtain ⟨isFunction, isDefined, nameEq, rfl, rfl, nameNe, startNe, sizeNe⟩ := names
        obtain rfl := Option.some_inj.mp (named.symm.trans nameEq)
        exact ⟨⟨⟨⟨⟨isFunction, isDefined⟩, startNe⟩, sizeNe⟩, nameNe⟩, rfl, rfl, rfl⟩

/-- The symbols of the entries that name code, each with whether other files can refer to it. -/
def symbolsOf (entries : List SymbolEntry) : List (Symbol × Bool) :=
  entries.filterMap fun entry => entry.function?.map fun symbol => (symbol, entry.isGlobal)

theorem mem_symbolsOf {entries : List SymbolEntry} {symbol : Symbol} {isGlobal : Bool} :
    (symbol, isGlobal) ∈ symbolsOf entries ↔
      ∃ entry ∈ entries, entry.Names symbol ∧ entry.isGlobal = isGlobal := by
  simp only [symbolsOf, List.mem_filterMap, Option.map_eq_some_iff, Prod.mk.injEq,
    SymbolEntry.function?_eq_some_iff]
  constructor
  · intro listed
    obtain ⟨entry, member, _, names, rfl, same⟩ := listed
    exact ⟨entry, member, names, same⟩
  · intro named
    obtain ⟨entry, member, names, same⟩ := named
    exact ⟨entry, member, symbol, names, rfl, same⟩

theorem forall_names_iff {entries : List SymbolEntry} (holds : Symbol → Bool → Prop) :
    (∀ entry ∈ entries, ∀ symbol, entry.Names symbol → holds symbol entry.isGlobal) ↔
      ∀ listed ∈ symbolsOf entries, holds listed.1 listed.2 := by
  constructor
  · intro all listed member
    obtain ⟨entry, entryMember, names, same⟩ := mem_symbolsOf.mp member
    rw [← same]
    exact all entry entryMember listed.1 names
  · intro all entry member symbol names
    exact all (symbol, entry.isGlobal) (mem_symbolsOf.mpr ⟨entry, member, names, rfl⟩)

/-- Two symbols do not have both name and address in common. -/
def Apart (left right : Symbol × Bool) : Prop :=
  left.1.name = right.1.name → left.1.start ≠ right.1.start

instance : DecidableRel Apart := fun left right =>
  inferInstanceAs (Decidable (left.1.name = right.1.name → left.1.start ≠ right.1.start))

instance : Std.Symm Apart where
  symm _ _ apart sameName sameStart := apart sameName.symm sameStart.symm

/-- No two of the entries that name code have both name and address in common. -/
def NamedOnce (entries : List SymbolEntry) : Prop :=
  entries.Pairwise fun left right => ∀ first second : Symbol, left.Names first →
    right.Names second → first.name = second.name → first.start ≠ second.start

theorem namedOnce_iff {entries : List SymbolEntry} :
    NamedOnce entries ↔ (symbolsOf entries).Pairwise Apart := by
  rw [NamedOnce, symbolsOf, List.pairwise_filterMap]
  apply List.Pairwise.iff
  intro left right
  simp only [Option.map_eq_some_iff, SymbolEntry.function?_eq_some_iff, Apart]
  constructor
  · intro once _ leftSymbol _ rightSymbol
    obtain ⟨first, names, rfl⟩ := leftSymbol
    obtain ⟨second, moreNames, rfl⟩ := rightSymbol
    exact once first second names moreNames
  · intro apart first second names moreNames
    exact apart _ ⟨first, names, rfl⟩ _ ⟨second, moreNames, rfl⟩

instance (entries : List SymbolEntry) : Decidable (NamedOnce entries) :=
  decidable_of_iff _ namedOnce_iff.symm

theorem eq_of_apart {symbols : List (Symbol × Bool)} (apart : symbols.Pairwise Apart)
    {left right : Symbol × Bool} (leftMember : left ∈ symbols) (rightMember : right ∈ symbols)
    (sameName : left.1.name = right.1.name) (sameStart : left.1.start = right.1.start) :
    left = right := by
  by_contra different
  exact apart.forall leftMember rightMember different sameName sameStart

/-! ## Repeated names -/

/-- The names noted at an address are those of the symbols kept there. -/
def Selection.Consistent (selection : Selection) : Prop :=
  ∀ start name, name ∈ selection.names.getD start [] ↔
    ∃ entry ∈ selection.kept, entry.1.start = start ∧ entry.1.name = name

section Selection

variable {selection : Selection} {entry : Symbol × Bool}

theorem Selection.Consistent.kept_add (consistent : selection.Consistent)
    (new : ∀ kept ∈ selection.kept, Apart kept entry) :
    (selection.add entry).kept = entry :: selection.kept := by
  have unmet : entry.1.name ∉ selection.names.getD entry.1.start [] := by
    rw [consistent]
    intro noted
    obtain ⟨kept, member, sameStart, sameName⟩ := noted
    exact new kept member sameName sameStart
  simp [Selection.add, unmet]

theorem Selection.Consistent.add (consistent : selection.Consistent) (entry : Symbol × Bool) :
    (selection.add entry).Consistent := by
  rw [Selection.add]
  by_cases met : entry.1.name ∈ selection.names.getD entry.1.start []
  · simpa [met] using consistent
  · simp only [List.contains_eq_mem, met, decide_false, Bool.false_eq_true, if_false]
    intro start name
    have noted := consistent start name
    rw [Std.ExtTreeMap.getD_insert]
    simp only [Std.LawfulEqCmp.compare_eq_iff_eq, List.mem_cons, exists_eq_or_imp]
    by_cases same : entry.1.start = start
    · subst same
      rw [if_pos rfl, List.mem_cons, noted, eq_comm, and_iff_right rfl]
    · simp only [same, if_false, false_and, false_or, noted]

end Selection

theorem kept_foldl_add {symbols : List (Symbol × Bool)} {selection : Selection}
    (consistent : selection.Consistent) (apart : symbols.Pairwise Apart)
    (new : ∀ kept ∈ selection.kept, ∀ entry ∈ symbols, Apart kept entry) :
    (symbols.foldl Selection.add selection).kept = symbols.reverse ++ selection.kept := by
  -- What is kept is apart from all that follows, so that no later entry meets its name at its
  -- address.
  induction symbols generalizing selection with
  | nil => rfl
  | cons entry rest inductionHypothesis =>
      obtain ⟨firstApart, restApart⟩ := List.pairwise_cons.mp apart
      have kept : (selection.add entry).kept = entry :: selection.kept :=
        consistent.kept_add fun kept member => new kept member entry List.mem_cons_self
      have restNew : ∀ kept ∈ (selection.add entry).kept, ∀ later ∈ rest, Apart kept later := by
        rw [kept]
        intro held heldMember later laterMember
        rcases List.mem_cons.mp heldMember with rfl | earlier
        · exact firstApart later laterMember
        · exact new held earlier later (List.mem_cons_of_mem _ laterMember)
      rw [List.foldl_cons, inductionHypothesis (consistent.add entry) restApart restNew, kept,
        List.reverse_cons, List.append_assoc]
      rfl

theorem dropRepeated_eq_self {symbols : List (Symbol × Bool)} (apart : symbols.Pairwise Apart) :
    dropRepeated symbols = symbols := by
  have startConsistent : Selection.Consistent {} := fun start name => by simp
  rw [dropRepeated, kept_foldl_add startConsistent apart (by simp), List.append_nil,
    List.reverse_reverse]

/-! ## Sorting -/

/-- What symbols are sorted by. -/
def rank (entry : Symbol × Bool) : Lex (Nat × Lex (Bool × Lex (Nat × String))) :=
  toLex (entry.1.start.toNat, toLex (!entry.2, toLex (entry.1.name.utf8ByteSize, entry.1.name)))

section Rank

variable {left right : Symbol × Bool}

theorem isBefore_iff : isBefore left right ↔ rank left ≤ rank right := by
  simp only [isBefore, rank, Prod.Lex.toLex_le_toLex, UInt64.lt_iff_toNat_lt, ne_eq,
    ← UInt64.toNat_inj]
  by_cases sameStart : left.1.start.toNat = right.1.start.toNat
  · by_cases sameBinding : left.2 = right.2
    · by_cases sameSize : left.1.name.utf8ByteSize = right.1.name.utf8ByteSize
      · simp [sameStart, sameBinding, sameSize]
      · simp [sameStart, sameBinding, sameSize]
    · cases leftGlobal : left.2 <;> cases rightGlobal : right.2 <;>
        simp_all
  · simp [sameStart]

theorem pairwise_mergeSort_rank (symbols : List (Symbol × Bool)) :
    (symbols.mergeSort isBefore).Pairwise fun before after => rank before ≤ rank after := by
  have transitive : ∀ first second third, isBefore first second = true →
      isBefore second third = true → isBefore first third = true := by
    intro first second third earlier later
    rw [isBefore_iff] at earlier later ⊢
    exact earlier.trans later
  have total : ∀ first second, (isBefore first second || isBefore second first) = true := by
    intro first second
    rw [Bool.or_eq_true, isBefore_iff, isBefore_iff]
    exact le_total _ _
  exact (List.pairwise_mergeSort transitive total symbols).imp isBefore_iff.mp

/-- Symbols that are apart never tie. -/
theorem eq_of_rank_eq {symbols : List (Symbol × Bool)} (apart : symbols.Pairwise Apart)
    (leftMember : left ∈ symbols) (rightMember : right ∈ symbols)
    (same : rank left = rank right) : left = right := by
  simp only [rank, EmbeddingLike.apply_eq_iff_eq, Prod.mk.injEq] at same
  exact eq_of_apart apart leftMember rightMember same.2.2.2 (UInt64.toNat_inj.mp same.1)

end Rank

/-- In sorted entries that never tie the first one that passes is the least one that passes. -/
theorem find?_eq_some_iff_least {Entry Key : Type} [LinearOrder Key] {key : Entry → Key}
    {entries : List Entry} (sorted : entries.Pairwise fun before after => key before ≤ key after)
    (untied : ∀ left ∈ entries, ∀ right ∈ entries, key left = key right → left = right)
    {passes : Entry → Bool} {entry : Entry} :
    entries.find? passes = some entry ↔
      entry ∈ entries ∧ passes entry ∧ ∀ other ∈ entries, passes other → key entry ≤ key other := by
  have least (found : Entry) (first : entries.find? passes = some found) :
      found ∈ entries ∧ passes found ∧
        ∀ other ∈ entries, passes other → key found ≤ key other := by
    obtain ⟨passed, before, after, split, noneBefore⟩ := List.find?_eq_some_iff_append.mp first
    refine ⟨List.mem_of_find?_eq_some first, passed, fun other member otherPassed => ?_⟩
    rw [split] at sorted member
    rcases List.mem_append.mp member with earlier | hereOrLater
    · have failed : passes other = false := by simpa using noneBefore other earlier
      rw [failed] at otherPassed
      cases otherPassed
    · rcases List.mem_cons.mp hereOrLater with rfl | later
      · exact le_refl _
      · exact (List.pairwise_cons.mp (List.pairwise_append.mp sorted).2.1).1 other later
  -- Conversely the search finds some least entry, and two of them would tie.
  refine ⟨least entry, fun ⟨member, passed, lowest⟩ => ?_⟩
  cases first : entries.find? passes with
  | none =>
      rw [List.find?_eq_none] at first
      exact absurd passed (first entry member)
  | some found =>
      obtain ⟨foundMember, foundPassed, foundLowest⟩ := least found first
      have same := le_antisymm (foundLowest entry member passed)
        (lowest found foundMember foundPassed)
      rw [untied found foundMember entry member same]

/-! ## The table of functions -/

/-- The symbols of entries in order. -/
def ordered (entries : List SymbolEntry) : List (Symbol × Bool) :=
  (symbolsOf entries).mergeSort isBefore

section Entries

variable {entries reordered : List SymbolEntry}

theorem pairwise_ordered_rank (entries : List SymbolEntry) :
    (ordered entries).Pairwise fun before after => rank before ≤ rank after :=
  pairwise_mergeSort_rank _

theorem mem_ordered {entry : Symbol × Bool} : entry ∈ ordered entries ↔ entry ∈ symbolsOf entries :=
  List.mem_mergeSort

theorem NamedOnce.pairwise_ordered (once : NamedOnce entries) : (ordered entries).Pairwise Apart :=
  (List.mergeSort_perm _ _).symm.pairwise (namedOnce_iff.mp once) (symm ·)

theorem NamedOnce.functionsOf_eq (once : NamedOnce entries) :
    functionsOf entries = (ordered entries).map Prod.fst := by
  change ((dropRepeated (symbolsOf entries)).mergeSort isBefore).map Prod.fst = _
  rw [dropRepeated_eq_self (namedOnce_iff.mp once)]
  rfl

theorem NamedOnce.perm (once : NamedOnce entries) (same : reordered.Perm entries) :
    NamedOnce reordered := by
  rw [namedOnce_iff] at once ⊢
  exact (same.filterMap _).symm.pairwise once (symm ·)

theorem NamedOnce.ordered_eq (once : NamedOnce entries) (same : reordered.Perm entries) :
    ordered reordered = ordered entries := by
  have sameSymbols : (ordered reordered).Perm (ordered entries) :=
    (List.mergeSort_perm _ _).trans
      ((same.filterMap _).trans (List.mergeSort_perm _ _).symm)
  refine List.Perm.eq_of_pairwise ?_ (pairwise_mergeSort_rank _) (pairwise_mergeSort_rank _)
    sameSymbols
  intro left right leftMember rightMember notAfter notBefore
  exact eq_of_rank_eq once.pairwise_ordered (sameSymbols.mem_iff.mp leftMember) rightMember
    (le_antisymm notAfter notBefore)

theorem NamedOnce.nodup_functionsOf (once : NamedOnce entries) : (functionsOf entries).Nodup := by
  rw [once.functionsOf_eq, List.nodup_iff_pairwise_ne, List.pairwise_map]
  exact once.pairwise_ordered.imp fun apart same => apart (by rw [same]) (by rw [same])

theorem NamedOnce.mem_functionsOf (once : NamedOnce entries) {symbol : Symbol} :
    symbol ∈ functionsOf entries ↔ ∃ entry ∈ entries, entry.Names symbol := by
  simp [once.functionsOf_eq, mem_ordered, mem_symbolsOf]

/-- Of two symbols at one address the first one stands for it rather than the second one, or they
are the same: it is global and the other one is local, or else its name is shorter, or else the
bytes of its name come first. -/
def PreferredTo (left right : Symbol × Bool) : Prop :=
  (left.2 ∧ ¬ right.2) ∨ left.2 = right.2 ∧
    (left.1.name.utf8ByteSize < right.1.name.utf8ByteSize ∨
      left.1.name.utf8ByteSize = right.1.name.utf8ByteSize ∧
        textBytes left.1.name ≤ textBytes right.1.name)

theorem rank_le_iff {left right : Symbol × Bool} (same : left.1.start = right.1.start) :
    rank left ≤ rank right ↔ PreferredTo left right := by
  simp only [rank, PreferredTo, Prod.Lex.toLex_le_toLex, same, lt_irrefl, false_or, true_and,
    Text.textBytes_le_iff]
  cases left.2 <;> cases right.2 <;> simp

instance : DecidableRel PreferredTo := fun left right =>
  inferInstanceAs (Decidable ((left.2 ∧ ¬ right.2) ∨ left.2 = right.2 ∧ (_ ∨ _)))

/-- The symbol is preferred to all those of its address that entries name. -/
def Canonical (symbol : Symbol × Bool) (entries : List SymbolEntry) : Prop :=
  ∀ other ∈ entries, ∀ second : Symbol, other.Names second → second.start = symbol.1.start →
    PreferredTo symbol (second, other.isGlobal)

theorem canonical_iff {symbol : Symbol × Bool} :
    Canonical symbol entries ↔
      ∀ other ∈ symbolsOf entries, other.1.start = symbol.1.start → PreferredTo symbol other :=
  forall_names_iff fun second isGlobal => second.start = symbol.1.start →
    PreferredTo symbol (second, isGlobal)

instance (symbol : Symbol × Bool) (entries : List SymbolEntry) :
    Decidable (Canonical symbol entries) :=
  decidable_of_iff _ canonical_iff.symm

theorem NamedOnce.find?_functionsOf (once : NamedOnce entries) {symbol : Symbol} :
    (functionsOf entries).find? (fun other => other.start = symbol.start) = some symbol ↔
      ∃ entry ∈ entries, entry.Names symbol ∧ Canonical (symbol, entry.isGlobal) entries := by
  have least (isGlobal : Bool) : (ordered entries).find?
        (fun other => other.1.start = symbol.start) = some (symbol, isGlobal) ↔
      (symbol, isGlobal) ∈ symbolsOf entries ∧ Canonical (symbol, isGlobal) entries := by
    rw [find?_eq_some_iff_least (pairwise_ordered_rank entries) fun left leftMember right =>
      eq_of_rank_eq once.pairwise_ordered leftMember, canonical_iff]
    simp only [mem_ordered, decide_eq_true_eq, true_and]
    apply and_congr_right
    intro _
    apply forall₃_congr
    intro other _ same
    exact rank_le_iff same.symm
  rw [once.functionsOf_eq, List.find?_map, Option.map_eq_some_iff]
  constructor
  · intro found
    obtain ⟨⟨_, isGlobal⟩, first, rfl⟩ := found
    obtain ⟨listed, preferred⟩ := (least isGlobal).mp first
    obtain ⟨entry, member, names, rfl⟩ := mem_symbolsOf.mp listed
    exact ⟨entry, member, names, preferred⟩
  · intro named
    obtain ⟨entry, member, names, preferred⟩ := named
    have listed := mem_symbolsOf.mpr ⟨entry, member, names, rfl⟩
    exact ⟨_, (least entry.isGlobal).mpr ⟨listed, preferred⟩, rfl⟩

/-- Whatever order the entries of the symbol tables are in, the table of functions is the same and
has the symbol of each entry that names code once.  An address is looked up in the functions with
the greatest start up to it, and of these only in the one that is preferred to all others. -/
theorem functionsOf_canonical (entries reordered : List SymbolEntry) (once : NamedOnce entries)
    (same : reordered.Perm entries) :
    let table := functionsOf entries
    functionsOf reordered = table ∧
      table.Nodup ∧
      (∀ symbol, symbol ∈ table ↔ ∃ entry ∈ entries, entry.Names symbol) ∧
      ∀ address symbol, (FunctionTable.ofList table).enclosing? address = some symbol ↔
        symbol.contains address ∧
        (∀ other ∈ table, other.start ≤ address → other.start ≤ symbol.start) ∧
        ∃ entry ∈ entries, entry.Names symbol ∧ Canonical (symbol, entry.isGlobal) entries := by
  intro table
  refine ⟨?_, once.nodup_functionsOf, fun _ => once.mem_functionsOf, fun address symbol => ?_⟩
  · rw [(once.perm same).functionsOf_eq, once.ordered_eq same, ← once.functionsOf_eq]
  · rw [FunctionTable.enclosing?_ofList_eq_some_iff, ← once.find?_functionsOf]
    constructor
    · intro found
      obtain ⟨nearest, contained⟩ := found
      exact ⟨contained, nearest.greatest, nearest.first⟩
    · intro chosen
      obtain ⟨contained, greatest, first⟩ := chosen
      exact ⟨⟨(Symbol.contains_iff.mp contained).1, greatest, first⟩, contained⟩

/-- Four names of one function, one of them listed a second time without a definition. -/
def aliased : List SymbolEntry :=
  [⟨some "run_worker_loop", 0x1000, 0x40, true, true, true⟩,
    ⟨some "main", 0x1000, 0x20, true, true, true⟩,
    ⟨some "init", 0x1000, 0x30, true, true, true⟩,
    ⟨some "a", 0x1000, 0x10, true, true, false⟩,
    ⟨some "main", 0x1000, 0x20, true, false, true⟩]

/-- Of the global names two are shortest, and the bytes decide between them. -/
theorem functionsOf_canonical_aliased :
    NamedOnce aliased ∧ aliased.reverse.Perm aliased ∧
      functionsOf aliased.reverse = functionsOf aliased ∧
      (FunctionTable.ofList (functionsOf aliased.reverse)).enclosing? 0x102f =
        some ⟨"init", 0x1000, 0x30⟩ := by
  have once : NamedOnce aliased := by decide
  have same : aliased.reverse.Perm aliased := List.reverse_perm _
  obtain ⟨reordered, _, listed, found⟩ := functionsOf_canonical aliased aliased.reverse once same
  refine ⟨once, same, reordered, ?_⟩
  have initListed : (⟨"init", 0x1000, 0x30⟩, true) ∈ symbolsOf aliased := by decide
  obtain ⟨entry, member, names, isGlobal⟩ := mem_symbolsOf.mp initListed
  rw [reordered, found]
  refine ⟨by decide, ?_, entry, member, names, ?_⟩
  · intro other otherListed
    obtain ⟨named, namedMember, otherNames⟩ := (listed other).mp otherListed
    have allStart : ∀ held ∈ symbolsOf aliased, held.1.start ≤ 0x1000 := by decide
    have otherStart := (forall_names_iff fun symbol _ => symbol.start ≤ 0x1000).mpr allStart
      named namedMember other otherNames
    exact fun _ => otherStart
  · rw [isGlobal]
    decide

end Entries

end Elf

end SampleProfile
