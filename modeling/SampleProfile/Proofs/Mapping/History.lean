import SampleProfile.Proofs.Mapping.Loading

/-!
# Answers from the whole history

A mapping table keeps for each process only what still stands.  `fileOffset?_replay` reads its
answers off the sequence of all additions instead: the last mapping of the process that contains the
address and whose start was not mapped again answers, whatever other processes have mapped in
between.
-/

namespace SampleProfile.MappingTable

variable {process : Int32} {address : UInt64} {offset : Except Overflow UInt64}
  {mapping : Mapping} {history later : List (Int32 × Mapping)}

/-! ## The history of one process -/

theorem mem_addedFor : mapping ∈ addedFor process history ↔ (process, mapping) ∈ history := by
  simp [addedFor]

theorem addedFor_filter (process : Int32) (history : List (Int32 × Mapping)) :
    addedFor process (history.filter fun entry => entry.1 = process) =
      addedFor process history := by
  simp [addedFor]

/-- The mappings of a process split where the history does. -/
theorem addedFor_eq_append_cons_iff {earlier rest : List Mapping} :
    addedFor process history = earlier ++ mapping :: rest ↔
      ∃ before after, history = before ++ (process, mapping) :: after ∧
        addedFor process before = earlier ∧ addedFor process after = rest := by
  constructor
  · intro split
    obtain ⟨own, others, parts, rfl, othersEq⟩ := List.map_eq_append_iff.mp split
    obtain ⟨entry, ownLater, rfl, rfl, rfl⟩ := List.map_eq_cons_iff.mp othersEq
    obtain ⟨before, behind, rfl, rfl, behindEq⟩ := List.filter_eq_append_iff.mp parts
    obtain ⟨foreign, after, rfl, noneOwn, isOwn, rfl⟩ := List.filter_eq_cons_iff.mp behindEq
    obtain rfl : entry.1 = process := of_decide_eq_true isOwn
    refine ⟨before ++ foreign, after, by simp, ?_, rfl⟩
    rw [addedFor, List.filter_append, List.filter_eq_nil_iff.mpr noneOwn, List.append_nil]
  · rintro ⟨before, after, rfl, rfl, rfl⟩
    simp [addedFor]

/-! ## The mapping that answers -/

/-- A mapping of a process, after which so much of the history follows, contains an address and has
not been replaced since. -/
def Claims (process : Int32) (address : UInt64) (mapping : Mapping)
    (later : List (Int32 × Mapping)) : Prop :=
  (mapping.start.toNat ≤ address.toNat ∧ address.toNat < mapping.stop) ∧
    ∀ other, (process, other) ∈ later → other.start ≠ mapping.start

/-- Of the mappings of a process that claim an address the last one. -/
def Answers (history : List (Int32 × Mapping)) (process : Int32) (address : UInt64)
    (mapping : Mapping) : Prop :=
  ∃ earlier later, history = earlier ++ (process, mapping) :: later ∧
    Claims process address mapping later ∧
    ∀ between other rest, later = between ++ (process, other) :: rest →
      ¬ Claims process address other rest

theorem Answers.fileOffset?_isSome (answers : Answers history process address mapping) :
    (mapping.fileOffset? address).isSome := by
  obtain ⟨_, _, _, ⟨inside, _⟩, _⟩ := answers
  exact Mapping.fileOffset?_isSome.mpr inside

theorem stands_addedFor_iff {rest : List Mapping} :
    mapping.Stands (addedFor process history) rest ↔
      ∃ earlier later, history = earlier ++ (process, mapping) :: later ∧
        addedFor process later = rest ∧
        ∀ other, (process, other) ∈ later → other.start ≠ mapping.start := by
  simp only [Mapping.Stands, addedFor_eq_append_cons_iff]
  constructor
  · rintro ⟨⟨_, before, after, split, _, rfl⟩, unreplaced⟩
    exact ⟨before, after, split, rfl, fun other member =>
      unreplaced other (mem_addedFor.mpr member)⟩
  · rintro ⟨before, after, split, rfl, unreplaced⟩
    exact ⟨⟨_, before, after, split, rfl, rfl⟩, fun other member =>
      unreplaced other (mem_addedFor.mp member)⟩

/-- No standing mapping has an answer exactly if none claims the address. -/
theorem silent_iff :
    (∀ (other : Mapping) (last : List Mapping), other.Stands (addedFor process later) last →
        other.fileOffset? address = none) ↔
      ∀ between other rest, later = between ++ (process, other) :: rest →
        ¬ Claims process address other rest := by
  constructor
  · rintro silent between other rest split ⟨inside, unreplaced⟩
    have stands := stands_addedFor_iff.mpr ⟨between, rest, split, rfl, unreplaced⟩
    have answers := Mapping.fileOffset?_isSome.mpr inside
    rw [silent other _ stands] at answers
    cases answers
  · intro unclaimed other last stands
    obtain ⟨between, rest, split, rfl, unreplaced⟩ := stands_addedFor_iff.mp stands
    rw [← Option.not_isSome_iff_eq_none, Mapping.fileOffset?_isSome]
    exact fun inside => unclaimed between other rest split ⟨inside, unreplaced⟩

theorem fileOffset?_eq_some_iff :
    (ofHistory history).fileOffset? process address = some offset ↔
      ∃ mapping, Answers history process address mapping ∧
        mapping.fileOffset? address = some offset := by
  rw [fileOffset?_ofHistory]
  constructor
  · rintro ⟨mapping, rest, stands, answers, silent⟩
    obtain ⟨earlier, later, split, rfl, unreplaced⟩ := stands_addedFor_iff.mp stands
    have inside := Mapping.fileOffset?_isSome.mp (Option.isSome_of_eq_some answers)
    exact ⟨mapping, ⟨earlier, later, split, ⟨inside, unreplaced⟩, silent_iff.mp silent⟩, answers⟩
  · rintro ⟨mapping, ⟨earlier, later, split, ⟨_, unreplaced⟩, unclaimed⟩, answers⟩
    have stands := stands_addedFor_iff.mpr ⟨earlier, later, split, rfl, unreplaced⟩
    exact ⟨mapping, _, stands, answers, silent_iff.mpr unclaimed⟩

theorem fileOffset?_filter (process : Int32) (address : UInt64) (history : List (Int32 × Mapping)) :
    (ofHistory (history.filter fun entry => entry.1 = process)).fileOffset? process address =
      (ofHistory history).fileOffset? process address := by
  rw [fileOffset?, fileOffset?, mappings_ofHistory, mappings_ofHistory, addedFor_filter]

/-- What a table answers is the file offset in the last mapping of the process that contains the
address and whose start the process has not mapped again, and nothing if there is no such mapping.
The mappings of other processes can be left out of the history. -/
theorem fileOffset?_replay (history : List (Int32 × Mapping)) (process : Int32) (address : UInt64) :
    (∀ offset, (ofHistory history).fileOffset? process address = some offset ↔
        ∃ mapping, Answers history process address mapping ∧
          mapping.fileOffset? address = some offset) ∧
      ((ofHistory history).fileOffset? process address = none ↔
        ∀ mapping, ¬ Answers history process address mapping) ∧
      (ofHistory (history.filter fun entry => entry.1 = process)).fileOffset? process address =
        (ofHistory history).fileOffset? process address := by
  refine ⟨fun _ => fileOffset?_eq_some_iff, ?_, fileOffset?_filter process address history⟩
  rw [Option.eq_none_iff_forall_ne_some]
  constructor
  · intro silent mapping answers
    obtain ⟨offset, located⟩ := Option.isSome_iff_exists.mp answers.fileOffset?_isSome
    exact silent offset (fileOffset?_eq_some_iff.mpr ⟨mapping, answers, located⟩)
  · intro unanswered offset located
    obtain ⟨mapping, answers, _⟩ := fileOffset?_eq_some_iff.mp located
    exact unanswered mapping answers

end SampleProfile.MappingTable
