import Mathlib.Data.List.Induction
import SampleProfile.Mapping

/-!
# Mappings over time

A mapping table answers from the whole history of mappings: a mapping stands until the same process
maps the same start again, and of the standing mappings that contain an address the one added last
answers.
-/

namespace SampleProfile

namespace Mapping

/-! ## Standing mappings -/

/-- None of the mappings added later has the same start. -/
def Unreplaced (mapping : Mapping) (later : List Mapping) : Prop :=
  ∀ other ∈ later, other.start ≠ mapping.start

instance (mapping : Mapping) (later : List Mapping) : Decidable (mapping.Unreplaced later) :=
  inferInstanceAs (Decidable (∀ other ∈ later, other.start ≠ mapping.start))

/-- A mapping was added before the later ones and is not replaced by them. -/
def Stands (mapping : Mapping) (added later : List Mapping) : Prop :=
  (∃ earlier, added = earlier ++ mapping :: later) ∧ mapping.Unreplaced later

variable {mapping first last : Mapping} {added rest later : List Mapping}

@[simp]
theorem unreplaced_nil : mapping.Unreplaced [] :=
  fun _ member => absurd member List.not_mem_nil

theorem unreplaced_concat :
    mapping.Unreplaced (added ++ [last]) ↔
      mapping.start ≠ last.start ∧ mapping.Unreplaced added := by
  simp only [Unreplaced, List.forall_mem_append, List.forall_mem_singleton]
  rw [and_comm, ne_comm]

@[simp]
theorem not_stands_nil : ¬ mapping.Stands [] later := by
  rintro ⟨⟨earlier, split⟩, _⟩
  simp at split

theorem stands_cons :
    mapping.Stands (first :: rest) later ↔
      (mapping = first ∧ later = rest ∧ first.Unreplaced rest) ∨ mapping.Stands rest later := by
  constructor
  · rintro ⟨⟨earlier, split⟩, unreplaced⟩
    cases earlier with
    | nil =>
        obtain ⟨rfl, rfl⟩ := List.cons.inj split
        exact Or.inl ⟨rfl, rfl, unreplaced⟩
    | cons _ others =>
        exact Or.inr ⟨⟨others, (List.cons.inj split).2⟩, unreplaced⟩
  · rintro (⟨rfl, rfl, unreplaced⟩ | ⟨⟨earlier, rfl⟩, unreplaced⟩)
    · exact ⟨⟨[], rfl⟩, unreplaced⟩
    · exact ⟨⟨first :: earlier, rfl⟩, unreplaced⟩

end Mapping

namespace MappingTable

/-! ## The mappings of one process -/

/-- Mappings of one process, latest first, after one more has been added. -/
def put (held : List Mapping) (mapping : Mapping) : List Mapping :=
  mapping :: held.filter fun other => other.start ≠ mapping.start

/-- Of the mappings held before, those remain whose start is not mapped again. -/
theorem foldl_put (held added : List Mapping) :
    added.foldl put held =
      added.foldl put [] ++ held.filter fun mapping => mapping.Unreplaced added := by
  induction added using List.reverseRecOn with
  | nil =>
      rw [List.filter_eq_self.mpr fun mapping _ => decide_eq_true Mapping.unreplaced_nil]
      rfl
  | append_singleton added last inductionHypothesis =>
      simp only [List.foldl_append, List.foldl_cons, List.foldl_nil]
      rw [inductionHypothesis, put, put, List.filter_append, List.filter_filter, List.cons_append]
      congr 2
      refine List.filter_congr fun mapping _ => ?_
      simp [Mapping.unreplaced_concat]

theorem foldl_put_cons (first : Mapping) (rest : List Mapping) :
    (first :: rest).foldl put [] =
      rest.foldl put [] ++ if first.Unreplaced rest then [first] else [] := by
  rw [List.foldl_cons, foldl_put (put [] first)]
  by_cases unreplaced : first.Unreplaced rest <;> simp [put, unreplaced]

/-- What is left are the standing mappings. -/
theorem mem_foldl_put {mapping : Mapping} {added : List Mapping} :
    mapping ∈ added.foldl put [] ↔ ∃ later, mapping.Stands added later := by
  induction added with
  | nil => simp
  | cons first rest inductionHypothesis =>
      rw [foldl_put_cons, List.mem_append, inductionHypothesis]
      simp only [Mapping.stands_cons, exists_or]
      rw [or_comm]
      refine or_congr_left ?_
      by_cases unreplaced : first.Unreplaced rest <;> simp [unreplaced]

/-- Of the standing mappings with an answer the last one answers. -/
theorem findSome?_foldl_put_eq_some_iff {Answer : Type} (answer? : Mapping → Option Answer)
    {added : List Mapping} {result : Answer} :
    (added.foldl put []).findSome? answer? = some result ↔
      ∃ mapping later, mapping.Stands added later ∧ answer? mapping = some result ∧
        ∀ other last, other.Stands later last → answer? other = none := by
  induction added with
  | nil => simp
  | cons first rest inductionHypothesis =>
      have silent : (rest.foldl put []).findSome? answer? = none ↔
          ∀ other last, other.Stands rest last → answer? other = none := by
        simp only [List.findSome?_eq_none_iff, mem_foldl_put, forall_exists_index]
      rw [foldl_put_cons, List.findSome?_append, Option.or_eq_some_iff, inductionHypothesis,
        silent]
      constructor
      · rintro (⟨mapping, later, stands, answers⟩ | ⟨others, answers⟩)
        · exact ⟨mapping, later, Mapping.stands_cons.mpr (Or.inr stands), answers⟩
        · by_cases unreplaced : first.Unreplaced rest
          · rw [if_pos unreplaced] at answers
            refine ⟨first, rest, Mapping.stands_cons.mpr (Or.inl ⟨rfl, rfl, unreplaced⟩), ?_,
              others⟩
            simpa using answers
          · rw [if_neg unreplaced] at answers
            cases answers
      · rintro ⟨mapping, later, stands, answers, others⟩
        rcases Mapping.stands_cons.mp stands with ⟨rfl, rfl, unreplaced⟩ | stands
        · exact Or.inr ⟨others, by simp [unreplaced, answers]⟩
        · exact Or.inl ⟨mapping, later, stands, answers, others⟩

/-! ## All processes -/

/-- The table after mappings of any processes have been added one after another. -/
def ofHistory (history : List (Int32 × Mapping)) : MappingTable :=
  history.foldl (fun table entry => table.add entry.1 entry.2) {}

/-- The mappings added for one process, in order. -/
def addedFor (process : Int32) (history : List (Int32 × Mapping)) : List Mapping :=
  (history.filter fun entry => entry.1 = process).map Prod.snd

theorem mappings_add (table : MappingTable) (process other : Int32) (mapping : Mapping) :
    (table.add process mapping).mappings other =
      if process = other then put (table.mappings other) mapping else table.mappings other := by
  by_cases same : process = other
  · subst same
    simp [mappings, add, put]
  · have different : compare process other ≠ .eq := fun equal =>
      same (Std.LawfulEqOrd.eq_of_compare equal)
    simp [mappings, add, Std.ExtTreeMap.getD_insert, same, different]

theorem mappings_ofHistory (process : Int32) (history : List (Int32 × Mapping)) :
    (ofHistory history).mappings process = (addedFor process history).foldl put [] := by
  induction history using List.reverseRecOn with
  | nil => simp [ofHistory, addedFor, mappings]
  | append_singleton history last inductionHypothesis =>
      rw [ofHistory, List.foldl_append, List.foldl_cons, List.foldl_nil, mappings_add]
      change (if last.1 = process then put ((ofHistory history).mappings process) last.2
        else (ofHistory history).mappings process) = _
      rw [inductionHypothesis, addedFor, addedFor, List.filter_append, List.map_append,
        List.foldl_append]
      by_cases own : last.1 = process <;> simp [own]

theorem fileOffset?_ofHistory_isSome {process : Int32} {history : List (Int32 × Mapping)}
    {address : UInt64} :
    ((ofHistory history).fileOffset? process address).isSome ↔
      ∃ (mapping : Mapping) (later : List Mapping),
        mapping.Stands (addedFor process history) later ∧
        (mapping.fileOffset? address).isSome := by
  rw [fileOffset?, mappings_ofHistory, List.findSome?_isSome_iff]
  simp only [mem_foldl_put]
  constructor
  · rintro ⟨mapping, ⟨later, stands⟩, inside⟩
    exact ⟨mapping, later, stands, inside⟩
  · rintro ⟨mapping, later, stands, inside⟩
    exact ⟨mapping, ⟨later, stands⟩, inside⟩

/-- The last standing mapping of a process that contains an address answers its file offset. -/
theorem fileOffset?_ofHistory {process : Int32} {history : List (Int32 × Mapping)}
    {address : UInt64} {offset : Except Overflow UInt64} :
    (ofHistory history).fileOffset? process address = some offset ↔
      ∃ (mapping : Mapping) (later : List Mapping),
        mapping.Stands (addedFor process history) later ∧
        mapping.fileOffset? address = some offset ∧
        ∀ (other : Mapping) (last : List Mapping), other.Stands later last →
          other.fileOffset? address = none := by
  rw [fileOffset?, mappings_ofHistory, findSome?_foldl_put_eq_some_iff]

end MappingTable

end SampleProfile
