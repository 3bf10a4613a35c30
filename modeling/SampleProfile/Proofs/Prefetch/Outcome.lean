import SampleProfile.Proofs.FunctionTable
import SampleProfile.Proofs.Prefetch.Run

/-!
# Counting fates

The outcome of a conversion has every hint under its fate (`snd_convert_eq`).  As long as all hints
with a stack lie in the first functions of their names, the hints before a hint do not matter to it,
and every hint in a function and with a stack is converted.  A hint in a later function of a name is
refused if it comes first (`convert_outcome`).
-/

namespace SampleProfile.Prefetch

theorem any_opens {table : FunctionTable} {hint : Hint} {symbol : Symbol}
    (found : table.enclosing? hint.address = some symbol) (first : table.FirstOfName symbol)
    (earlier : List Hint) : (earlier ++ [hint]).any (opens table symbol.name) := by
  have start := (FunctionTable.startOf?_eq_some_iff
    (FunctionTable.mem_of_enclosing? found)).mpr first
  simp [opens, found, start]

/-! ## Outcomes -/

/-- Whether a hint counts as not placed. -/
def Fate.isUnplaced : Fate → Bool
  | unknownSymbol => false
  | nameTaken => true
  | emptyStack _ => true
  | filed _ => false

theorem foldl_report (fates : List Fate) (outcome : Outcome) :
    fates.foldl (fun outcome fate => fate.report outcome) outcome =
      { converted := outcome.converted + (filings fates).length
        unknownSymbol := outcome.unknownSymbol + fates.countP fun fate => fate = .unknownSymbol
        unplaced := outcome.unplaced + fates.countP Fate.isUnplaced } := by
  induction fates generalizing outcome with
  | nil => simp [filings]
  | cons fate rest inductionHypothesis =>
      rw [List.foldl_cons, inductionHypothesis]
      cases fate <;>
        simp [filings, List.filterMap_cons, List.countP_cons, Fate.report, Fate.filing?,
          Fate.isUnplaced, Nat.add_assoc, Nat.add_comm, Nat.add_left_comm]

/-- Whether a hint has a function around it and a stack. -/
def isPlaceable (table : FunctionTable) (resolve : UInt64 → Stack) (hint : Hint) : Bool :=
  (table.enclosing? hint.address).isSome && !(resolve hint.address).isEmpty

/-- The outcome of hints that do not depend on each other. -/
def Outcome.oneByOne (table : FunctionTable) (resolve : UInt64 → Stack) (hints : List Hint) :
    Outcome where
  unknownSymbol := hints.countP fun hint => (table.enclosing? hint.address).isNone
  unplaced := hints.countP fun hint =>
    (table.enclosing? hint.address).isSome && (resolve hint.address).isEmpty
  converted := hints.countP (isPlaceable table resolve)

section Judge

variable {table : FunctionTable} {resolve : UInt64 → Stack} {earlier : List Hint} {hint : Hint}

theorem isPlaceable_of_filing?
    (filed : (Fate.ofHint table resolve earlier hint).filing?.isSome) :
    isPlaceable table resolve hint := by
  obtain ⟨filing, stored⟩ := Option.isSome_iff_exists.mp filed
  obtain ⟨symbol, place, found, placed, _⟩ := filing?_ofHint.mp stored
  cases stack : resolve hint.address with
  | nil => simp [stack, Stack.place?] at placed
  | cons frame outer => simp [isPlaceable, found, stack]

theorem judge_ofHint
    (first : resolve hint.address ≠ [] →
      ∀ symbol ∈ table.enclosing? hint.address, table.FirstOfName symbol) :
    let fate := Fate.ofHint table resolve earlier hint
    (fate = .unknownSymbol ↔ table.enclosing? hint.address = none) ∧
    (fate.isUnplaced =
      ((table.enclosing? hint.address).isSome && (resolve hint.address).isEmpty)) ∧
    fate.filing?.isSome = isPlaceable table resolve hint := by
  intro fate
  simp only [fate, Fate.ofHint, isPlaceable]
  cases found : table.enclosing? hint.address with
  | none => simp [Fate.isUnplaced, Fate.filing?]
  | some symbol =>
      cases stack : resolve hint.address with
      | nil =>
          -- Whether the name has a profile decides only why the hint is not placed.
          by_cases opened : (earlier ++ [hint]).any (opens table symbol.name) <;>
            simp [opened, Stack.place?, Fate.isUnplaced, Fate.filing?]
      | cons frame outer =>
          have opened := any_opens found (first (by simp [stack]) symbol found) earlier
          simp [opened, Stack.place?, Fate.isUnplaced, Fate.filing?]

end Judge

section Convert

variable (hints : List Hint) (resolve : UInt64 → Stack) (map : ProfileMap)

theorem snd_convert_eq :
    (convert hints resolve { map with profiles := ∅ }).2 =
      { converted := (filings (fates map.functions resolve hints)).length
        unknownSymbol := (fates map.functions resolve hints).countP fun fate =>
          fate = .unknownSymbol
        unplaced := (fates map.functions resolve hints).countP Fate.isUnplaced } := by
  rw [snd_convert, foldl_report]
  simp

/-- A test of fates that only looks at the hint itself counts hints. -/
theorem countP_fates {table : FunctionTable} {passes : Fate → Bool} {passesHint : Hint → Bool}
    (agree : ∀ hint ∈ hints, ∀ earlier,
      passes (Fate.ofHint table resolve earlier hint) = passesHint hint) :
    (fates table resolve hints).countP passes = hints.countP passesHint := by
  have agreeHere : ∀ occasion ∈ occasions hints,
      passes (Fate.ofHint table resolve occasion.1 occasion.2) = passesHint occasion.2 := by
    intro occasion member
    have listed : occasion.2 ∈ (occasions hints).map Prod.snd := List.mem_map_of_mem member
    rw [map_snd_occasions] at listed
    exact agree occasion.2 listed occasion.1
  calc (fates table resolve hints).countP passes
      = (occasions hints).countP (passesHint ∘ Prod.snd) := by
        rw [fates, List.countP_map]
        exact List.countP_congr fun occasion member => by simp [agreeHere occasion member]
    _ = hints.countP passesHint := by rw [← List.countP_map, map_snd_occasions]

theorem length_filings (fates : List Fate) :
    (filings fates).length = fates.countP fun fate => fate.filing?.isSome := by
  rw [filings, List.length_filterMap_eq_countP]

theorem oneByOne_perm {table : FunctionTable} {reordered : List Hint}
    (same : hints.Perm reordered) :
    Outcome.oneByOne table resolve reordered = Outcome.oneByOne table resolve hints := by
  simp only [Outcome.oneByOne, same.countP_eq]

theorem convert_outcome_of_firstOfName
    (first : ∀ hint ∈ hints, resolve hint.address ≠ [] →
      ∀ symbol ∈ map.functions.enclosing? hint.address, map.functions.FirstOfName symbol) :
    (convert hints resolve { map with profiles := ∅ }).2 =
      Outcome.oneByOne map.functions resolve hints := by
  rw [snd_convert_eq, length_filings, Outcome.oneByOne]
  congr 1
  · exact countP_fates hints resolve fun hint member earlier =>
      (judge_ofHint (first hint member)).2.2
  · refine countP_fates hints resolve fun hint member earlier => ?_
    rw [Bool.eq_iff_iff, decide_eq_true_eq, Option.isNone_iff_eq_none]
    exact (judge_ofHint (first hint member)).1
  · exact countP_fates hints resolve fun hint member earlier =>
      (judge_ofHint (first hint member)).2.1

/-- A hint that comes first and lies in a later function of a name is not converted. -/
theorem converted_lt_of_not_firstOfName {table : FunctionTable} {hint : Hint} {symbol : Symbol}
    (found : table.enclosing? hint.address = some symbol) (stacked : resolve hint.address ≠ [])
    (later : ¬ table.FirstOfName symbol) :
    (filings (fates table resolve (hint :: hints))).length <
      (Outcome.oneByOne table resolve (hint :: hints)).converted := by
  have unopened : ¬ opens table symbol.name hint := by
    simp [opens, found, FunctionTable.startOf?_eq_some_iff (FunctionTable.mem_of_enclosing? found),
      later]
  have refused : Fate.ofHint table resolve [] hint = .nameTaken := by
    simp [Fate.ofHint, found, unopened]
  have placeable : isPlaceable table resolve hint := by
    simp [isPlaceable, found, stacked]
  let fateBehind := fun occasion : List Hint × Hint =>
    Fate.ofHint table resolve (hint :: occasion.1) occasion.2
  have others : ((occasions hints).map fateBehind).countP (·.filing?.isSome) ≤
      hints.countP (isPlaceable table resolve) := by
    calc ((occasions hints).map fateBehind).countP (·.filing?.isSome)
        = (occasions hints).countP ((·.filing?.isSome) ∘ fateBehind) := List.countP_map
      _ ≤ (occasions hints).countP (isPlaceable table resolve ∘ Prod.snd) := by
        apply List.countP_mono_left
        intro occasion _ filed
        exact isPlaceable_of_filing? filed
      _ = hints.countP (isPlaceable table resolve) := by
        rw [← List.countP_map, map_snd_occasions]
  rw [length_filings, Outcome.oneByOne, List.countP_cons_of_pos placeable, fates, occasions_cons,
    List.map_cons, List.map_map, refused, List.countP_cons_of_neg (by simp [Fate.filing?])]
  exact Nat.lt_succ_of_le others

/-- The outcome is that of the hints one by one, in whatever order they come, just when every hint
with a stack lies in the first function of a name. -/
theorem convert_outcome :
    (∀ reordered, hints.Perm reordered →
      (convert reordered resolve { map with profiles := ∅ }).2 =
        Outcome.oneByOne map.functions resolve hints) ↔
    ∀ hint ∈ hints, resolve hint.address ≠ [] →
      ∀ symbol ∈ map.functions.enclosing? hint.address, map.functions.FirstOfName symbol := by
  constructor
  · intro settled hint member stacked symbol found
    by_contra later
    have same := List.perm_cons_erase member
    have outcome := settled _ same
    rw [snd_convert_eq, ← oneByOne_perm hints resolve same] at outcome
    have fewer := converted_lt_of_not_firstOfName (hints.erase hint) resolve found stacked later
    rw [← outcome] at fewer
    exact Nat.lt_irrefl _ fewer
  · intro first reordered same
    rw [← oneByOne_perm hints resolve same]
    apply convert_outcome_of_firstOfName
    intro hint member
    exact first hint (same.mem_iff.mpr member)

end Convert

/-- Two functions of one name. -/
def homonyms : ProfileMap where
  functions := {
    symbols := [⟨"foo", 0x1000, 0x10⟩, ⟨"foo", 0x2000, 0x10⟩]
    sorted := by decide
    canonical := #[⟨"foo", 0x1000, 0x10⟩, ⟨"foo", 0x2000, 0x10⟩]
    canonical_eq := by simp [leaders] }

/-- A hint in the second function of a name is not placed unless a hint in the first one stands
before it. -/
theorem outcome_of_homonyms :
    let resolve : UInt64 → Stack := fun _ => [⟨"foo", 10, 12, 0⟩]
    let outcome := fun hints => (convert hints resolve { homonyms with profiles := ∅ }).2
    Outcome.oneByOne homonyms.functions resolve [⟨0x2004, 64, "T0"⟩] = { converted := 1 } ∧
      outcome [⟨0x2004, 64, "T0"⟩] = { unplaced := 1 } ∧
      outcome [⟨0x1004, 8, "T0"⟩, ⟨0x2004, 64, "T0"⟩] = { converted := 2 } ∧
      outcome [⟨0x2004, 64, "T0"⟩, ⟨0x1004, 8, "T0"⟩] = { unplaced := 1, converted := 1 } := by
  decide +kernel

end SampleProfile.Prefetch
