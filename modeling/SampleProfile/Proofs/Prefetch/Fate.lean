import SampleProfile.Prefetch.Conversion
import SampleProfile.Proofs.Prefetch.Numbering
import SampleProfile.Proofs.ProfileMap.Targets

/-!
# What becomes of a hint

The fate of a hint follows from the function table, the inline stacks and the hints before it.  A
look-up by address finds the function around a hint, but its profile is made under a name, and the
table knows a name by its lowest start only: a function that shares its name with a function at a
lower address gets no profile until a hint lies in that one.

One step of a conversion settles the fate of one hint, so that a run is a fold over fates
(`foldl_convert`).
-/

namespace SampleProfile

/-! ## Profiles made on demand -/

namespace ProfileMap

/-- A name gets a profile if it has one, or if the function around the address is the first one of
that name. -/
theorem ensure?_eq (map : ProfileMap) (name : String) (address : UInt64) :
    map.ensure? name address =
      if name ∈ map.profiles ∨
          ∃ symbol, map.functions.enclosing? address = some symbol ∧
            map.functions.startOf? name = some symbol.start then
        some { map with profiles := OrderedMap.update map.profiles name id }
      else
        none := by
  rw [ensure?]
  by_cases known : name ∈ map.profiles
  · rw [if_pos known, if_pos (Or.inl known), OrderedMap.update_id_of_mem known]
  · have absent : map.profiles[name]? = none := by
      rw [Std.ExtTreeMap.mem_iff_isSome_getElem?] at known
      simpa using known
    rw [if_neg known]
    cases found : map.functions.enclosing? address with
    | none => simp [known]
    | some symbol =>
        by_cases tied : map.functions.startOf? name = some symbol.start
        · simp only [tied, if_true, Option.some_inj, exists_eq_left', or_true,
            OrderedMap.update_eq_insert, absent]
          rfl
        · simp [known, tied]

theorem setTarget?_of_mem {map : ProfileMap} {name : String} (known : name ∈ map.profiles)
    (stack : Stack) (target : String) (count : Count) :
    map.setTarget? name stack target count =
      stack.place?.map fun place =>
        { map with
          profiles := OrderedMap.update map.profiles name (·.setTarget place target count) } := by
  rw [Std.ExtTreeMap.mem_iff_isSome_getElem?] at known
  obtain ⟨profile, held⟩ := Option.isSome_iff_exists.mp known
  have found : map.profile? name = some profile := held
  rw [setTarget?, found]
  cases stack.place? with
  | none => rfl
  | some place => simp [OrderedMap.update_eq_insert, held]

end ProfileMap

namespace Prefetch

/-! ## Fates -/

/-- A delta in its slot. -/
structure Filing where
  slot : Slot
  delta : Int64
deriving DecidableEq

/-- What becomes of a hint. -/
inductive Fate where
  /-- No function encloses the address. -/
  | unknownSymbol
  /-- The name of the function belongs to another one, and has no profile yet. -/
  | nameTaken
  /-- The function has a profile, but the address has no inline stack. -/
  | emptyStack (function : String)
  | filed (filing : Filing)
deriving DecidableEq

/-- A hint in the first function of a name, for which a profile of the name is made. -/
def opens (table : FunctionTable) (name : String) (hint : Hint) : Bool :=
  (table.enclosing? hint.address).any fun symbol =>
    symbol.name = name ∧ table.startOf? name = some symbol.start

namespace Fate

/-- The fate of a hint behind others. -/
def ofHint (table : FunctionTable) (resolve : UInt64 → Stack) (earlier : List Hint) (hint : Hint) :
    Fate :=
  match table.enclosing? hint.address with
  | none => unknownSymbol
  | some symbol =>
      if (earlier ++ [hint]).any (opens table symbol.name) then
        match (resolve hint.address).place? with
        | none => emptyStack symbol.name
        | some place =>
            filed {
              slot := {
                function := symbol.name
                place
                target := Hint.targetName hint.kind
                  (Hint.countAt hint.address earlier % UInt32.size) }
              delta := hint.delta }
      else
        nameTaken

/-- The name whose profile is made or changed. -/
def function? : Fate → Option String
  | unknownSymbol => none
  | nameTaken => none
  | emptyStack function => some function
  | filed filing => some filing.slot.function

/-- What is stored. -/
def filing? : Fate → Option Filing
  | unknownSymbol => none
  | nameTaken => none
  | emptyStack _ => none
  | filed filing => some filing

/-- The profiles after one hint. -/
def enter (fate : Fate) (profiles : OrderedMap String FunctionProfile) :
    OrderedMap String FunctionProfile :=
  match fate with
  | unknownSymbol => profiles
  | nameTaken => profiles
  | emptyStack function => OrderedMap.update profiles function id
  | filed filing =>
      OrderedMap.update profiles filing.slot.function
        (·.setTarget filing.slot.place filing.slot.target (.prefetchDelta filing.delta))

/-- The outcome after one hint. -/
def report (fate : Fate) (outcome : Outcome) : Outcome :=
  match fate with
  | unknownSymbol => { outcome with unknownSymbol := outcome.unknownSymbol + 1 }
  | nameTaken => { outcome with unplaced := outcome.unplaced + 1 }
  | emptyStack _ => { outcome with unplaced := outcome.unplaced + 1 }
  | filed _ => { outcome with converted := outcome.converted + 1 }

end Fate

/-! ## One step -/

/-- What a conversion has kept of the hints so far: which names have profiles, and how many hints
were at each address of a function. -/
structure Progress.After (progress : Progress) (earlier : List Hint) : Prop where
  opened : ∀ name, name ∈ progress.map.profiles ↔
    earlier.any (opens progress.map.functions name)
  numbered : ∀ address, (progress.map.functions.enclosing? address).isSome →
    progress.seen.getD address 0 = UInt32.ofNat (Hint.countAt address earlier)

/-- The numbers kept after one hint. -/
def Progress.seenAfter (progress : Progress) (hint : Hint) : OrderedMap UInt64 UInt32 :=
  if (progress.map.functions.enclosing? hint.address).isSome then
    progress.seen.insert hint.address (progress.seen.getD hint.address 0 + 1)
  else
    progress.seen

variable {progress : Progress} {earlier : List Hint}

section Found

variable {hint : Hint} {symbol : Symbol}

/-- The function around a hint has a profile now if this hint or an earlier one opens it. -/
theorem Progress.After.ensure?_eq (after : progress.After earlier)
    (found : progress.map.functions.enclosing? hint.address = some symbol) :
    progress.map.ensure? symbol.name hint.address =
      if (earlier ++ [hint]).any (opens progress.map.functions symbol.name) then
        some { progress.map with
          profiles := OrderedMap.update progress.map.profiles symbol.name id }
      else
        none := by
  have openedIff : (earlier ++ [hint]).any (opens progress.map.functions symbol.name) ↔
      (symbol.name ∈ progress.map.profiles ∨
        ∃ other, progress.map.functions.enclosing? hint.address = some other ∧
          progress.map.functions.startOf? symbol.name = some other.start) := by
    rw [List.any_append, Bool.or_eq_true, after.opened]
    simp [opens, found]
  rw [progress.map.ensure?_eq]
  simp only [openedIff]

theorem Progress.After.toNat_seen (after : progress.After earlier)
    (found : progress.map.functions.enclosing? hint.address = some symbol) :
    (progress.seen.getD hint.address 0).toNat =
      Hint.countAt hint.address earlier % UInt32.size := by
  have enclosed : (progress.map.functions.enclosing? hint.address).isSome := by simp [found]
  rw [after.numbered hint.address enclosed, UInt32.toNat_ofNat']

end Found

/-- One step settles the fate of one hint. -/
theorem Progress.After.convert_eq (after : progress.After earlier) (resolve : UInt64 → Stack)
    (hint : Hint) :
    progress.convert resolve hint =
      let fate := Fate.ofHint progress.map.functions resolve earlier hint
      { map := { progress.map with profiles := fate.enter progress.map.profiles }
        seen := progress.seenAfter hint
        outcome := fate.report progress.outcome } := by
  cases found : progress.map.functions.enclosing? hint.address with
  | none => simp [Progress.convert, Fate.ofHint, found, Fate.enter, Fate.report, Progress.seenAfter]
  | some symbol =>
      have number := after.toNat_seen found
      have ensured := after.ensure?_eq found
      rw [Progress.convert, Fate.ofHint, found]
      by_cases opened : (earlier ++ [hint]).any (opens progress.map.functions symbol.name)
      · rw [if_pos opened] at ensured
        let prepared : ProfileMap :=
          { progress.map with
            profiles := OrderedMap.update progress.map.profiles symbol.name id }
        have known : symbol.name ∈ prepared.profiles :=
          (OrderedMap.mem_update ..).mpr (Or.inl rfl)
        have stored := ProfileMap.setTarget?_of_mem known (resolve hint.address)
          (Hint.targetName hint.kind (Hint.countAt hint.address earlier % UInt32.size))
          (.prefetchDelta hint.delta)
        simp only [prepared] at stored
        simp only [ensured, number, stored, opened, if_true, Progress.seenAfter, found,
          Option.isSome_some]
        cases (resolve hint.address).place? with
        | none => simp [Fate.enter, Fate.report]
        | some place => simp [Fate.enter, Fate.report, OrderedMap.update_update_id]
      · rw [if_neg opened] at ensured
        simp [ensured, opened, Progress.seenAfter, found, Fate.enter, Fate.report]

theorem mem_enter (fate : Fate) (profiles : OrderedMap String FunctionProfile) (name : String) :
    name ∈ fate.enter profiles ↔ fate.function? = some name ∨ name ∈ profiles := by
  cases fate <;> simp [Fate.enter, Fate.function?, OrderedMap.mem_update]

/-- A hint is filed if there are a function and a source position for it and the name of the
function is opened. -/
theorem filing?_ofHint {table : FunctionTable} {resolve : UInt64 → Stack} {hint : Hint}
    {filing : Filing} :
    (Fate.ofHint table resolve earlier hint).filing? = some filing ↔
      ∃ symbol place, table.enclosing? hint.address = some symbol ∧
        (resolve hint.address).place? = some place ∧
        (earlier ++ [hint]).any (opens table symbol.name) ∧
        filing = {
          slot := {
            function := symbol.name
            place
            target := Hint.targetName hint.kind
              (Hint.countAt hint.address earlier % UInt32.size) }
          delta := hint.delta } := by
  rw [Fate.ofHint]
  cases table.enclosing? hint.address with
  | none => simp [Fate.filing?]
  | some symbol =>
      simp only [Option.some_inj, exists_and_left, exists_eq_left']
      by_cases opened : (earlier ++ [hint]).any (opens table symbol.name)
      · rw [if_pos opened]
        cases (resolve hint.address).place? with
        | none => simp [Fate.filing?]
        | some place =>
            simp only [Fate.filing?, Option.some_inj, opened, true_and, exists_eq_left']
            exact eq_comm
      · rw [if_neg opened]
        simp [Fate.filing?, opened]

theorem function?_ofHint (table : FunctionTable) (resolve : UInt64 → Stack) (earlier : List Hint)
    (hint : Hint) (name : String) :
    (Fate.ofHint table resolve earlier hint).function? = some name ↔
      (∃ symbol, table.enclosing? hint.address = some symbol ∧ symbol.name = name) ∧
        (earlier ++ [hint]).any (opens table name) := by
  rw [Fate.ofHint]
  cases found : table.enclosing? hint.address with
  | none => simp [Fate.function?]
  | some symbol =>
      simp only [Option.some_inj, exists_eq_left']
      by_cases same : symbol.name = name
      · subst same
        by_cases tied : (earlier ++ [hint]).any (opens table symbol.name)
        · rw [if_pos tied]
          cases (resolve hint.address).place? <;> simp [Fate.function?, tied]
        · simp [tied, Fate.function?]
      · by_cases tied : (earlier ++ [hint]).any (opens table symbol.name)
        · rw [if_pos tied]
          cases (resolve hint.address).place? <;> simp [Fate.function?, same]
        · simp [tied, Fate.function?, same]

theorem Progress.After.convert (after : progress.After earlier) (resolve : UInt64 → Stack)
    (hint : Hint) : (progress.convert resolve hint).After (earlier ++ [hint]) := by
  rw [after.convert_eq]
  constructor
  · intro name
    rw [mem_enter, function?_ofHint, after.opened, List.any_append, Bool.or_eq_true]
    constructor
    · rintro (⟨_, tied⟩ | known)
      · exact tied
      · exact Or.inl known
    · rintro (known | opening)
      · exact Or.inr known
      · refine Or.inl ⟨?_, Or.inr opening⟩
        simp only [List.any_cons, List.any_nil, Bool.or_false, opens, Option.any_eq_true,
          decide_eq_true_eq] at opening
        obtain ⟨symbol, found, same, _⟩ := opening
        exact ⟨symbol, found, same⟩
  · intro address enclosed
    have before := after.numbered address enclosed
    rw [Hint.countAt_concat]
    simp only [Progress.seenAfter]
    by_cases same : hint.address = address
    · subst same
      simp only at enclosed
      rw [if_pos enclosed, if_pos rfl, Std.ExtTreeMap.getD_insert_self, before,
        UInt32.ofNat_add]
      rfl
    · rw [if_neg same, Nat.add_zero, ← before]
      by_cases here : (progress.map.functions.enclosing? hint.address).isSome
      · rw [if_pos here, Std.ExtTreeMap.getD_insert, if_neg]
        simpa [Std.LawfulEqCmp.compare_eq_iff_eq] using same
      · rw [if_neg here]

/-! ## A whole run -/

/-- The fates of all hints. -/
def fates (table : FunctionTable) (resolve : UInt64 → Stack) (hints : List Hint) : List Fate :=
  (occasions hints).map fun occasion => Fate.ofHint table resolve occasion.1 occasion.2

theorem fates_concat (table : FunctionTable) (resolve : UInt64 → Stack) (hints : List Hint)
    (hint : Hint) :
    fates table resolve (hints ++ [hint]) =
      fates table resolve hints ++ [Fate.ofHint table resolve hints hint] := by
  rw [fates, occasions_concat, List.map_append]
  rfl

theorem after_nil (map : ProfileMap) :
    Progress.After { map := { map with profiles := ∅ } } [] where
  opened name := by simp
  numbered address _ := by simp [Hint.countAt]

/-- A run settles the fates of all hints, and changes nothing of a map but its profiles. -/
theorem foldl_convert (hints : List Hint) (resolve : UInt64 → Stack) (map : ProfileMap) :
    let final := hints.foldl (Progress.convert resolve) { map := { map with profiles := ∅ } }
    final.After hints ∧
      final.map = { map with
        profiles := (fates map.functions resolve hints).foldl
          (fun held fate => fate.enter held) ∅ } ∧
      final.outcome =
        (fates map.functions resolve hints).foldl (fun outcome fate => fate.report outcome) {} := by
  -- Hints are taken off the end: the fate of a hint depends on those before it.
  induction hints using List.reverseRecOn with
  | nil => exact ⟨after_nil map, rfl, rfl⟩
  | append_singleton earlier hint inductionHypothesis =>
      obtain ⟨after, sameMap, sameOutcome⟩ := inductionHypothesis
      have functions := congrArg ProfileMap.functions sameMap
      simp only at functions
      rw [fates_concat, List.foldl_append, List.foldl_append, List.foldl_append]
      simp only [List.foldl_cons, List.foldl_nil]
      refine ⟨after.convert resolve hint, ?_, ?_⟩
      · rw [after.convert_eq]
        simp only [functions]
        rw [sameMap]
      · rw [after.convert_eq]
        simp only [functions]
        rw [sameOutcome]

end Prefetch

end SampleProfile
