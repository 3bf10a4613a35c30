import SampleProfile.Proofs.OrderedMap
import SampleProfile.Proofs.Text.Blank
import SampleProfile.Workspace.Disk

/-!
# Places on a disk

A path leads through directories to a place.  Where a file can be moved to, putting a file changes
what stands at that place and nothing of where other paths lead.
-/

namespace SampleProfile.Disk

variable {disk other : Disk} {path : String} {place : List String}

/-! ## Steps along a path -/

/-- The place to which a part of a path leads from a directory. -/
def step (start : List String) (part : String) : List String :=
  if part = "" || part = "." then start
  else if part = ".." then (if start = root then root else start.dropLast)
  else start ++ [part]

theorem advance_eq_ok_iff {start next : List String} {part : String} :
    disk.advance start part = .ok next ↔
      disk.lookup? start = some .directory ∧ step start part = next := by
  rw [advance, step]
  cases disk.lookup? start with
  | none => simp
  | some entry =>
      cases entry with
      | file contents => simp
      | directory =>
          simp only [true_and]
          split
          · rw [Except.ok.injEq]
          · split
            · rw [Except.ok.injEq]
            · rw [Except.ok.injEq]

theorem foldlM_cons_eq_ok_iff {start : List String} {part : String} {rest : List String} :
    (part :: rest).foldlM disk.advance start = .ok place ↔
      ∃ next, disk.advance start part = .ok next ∧ rest.foldlM disk.advance next = .ok place := by
  rw [List.foldlM_cons]
  cases disk.advance start part with
  | error fault =>
      constructor
      · intro found
        cases found
      · rintro ⟨next, stepped, _⟩
        cases stepped
  | ok next =>
      refine ⟨fun found => ⟨next, rfl, found⟩, ?_⟩
      rintro ⟨_, stepped, walked⟩
      cases stepped
      exact walked

/-- Where a path starts there is a directory, if it leads to a directory. -/
theorem directory_of_foldlM {parts : List String} {start : List String}
    (walked : parts.foldlM disk.advance start = .ok place)
    (arrived : disk.lookup? place = some .directory) : disk.lookup? start = some .directory := by
  cases parts with
  | nil =>
      have same : start = place := Except.ok.inj walked
      rw [same]
      exact arrived
  | cons part rest =>
      obtain ⟨next, stepped, _⟩ := foldlM_cons_eq_ok_iff.mp walked
      exact (advance_eq_ok_iff.mp stepped).1

/-- Empty parts of a path do not count on the way to a directory. -/
theorem foldlM_advance_of_filter {parts : List String} {start : List String}
    (walked : (parts.filter fun part => part ≠ "").foldlM disk.advance start = .ok place)
    (arrived : disk.lookup? place = some .directory) :
    parts.foldlM disk.advance start = .ok place := by
  induction parts generalizing start with
  | nil => exact walked
  | cons part rest inductionHypothesis =>
      rw [foldlM_cons_eq_ok_iff]
      by_cases empty : part = ""
      · have skipped : (rest.filter fun part => part ≠ "").foldlM disk.advance start =
            .ok place := by
          simpa [empty] using walked
        have stays : disk.advance start part = .ok start :=
          advance_eq_ok_iff.mpr ⟨directory_of_foldlM skipped arrived, by simp [step, empty]⟩
        exact ⟨start, stays, inductionHypothesis skipped⟩
      · have kept : ((part :: rest).filter fun part => part ≠ "") =
            part :: rest.filter fun part => part ≠ "" := by
          simp [empty]
        rw [kept, foldlM_cons_eq_ok_iff] at walked
        obtain ⟨next, stepped, later⟩ := walked
        exact ⟨next, stepped, inductionHypothesis later⟩

/-! ## Places for files -/

/-- The parts of a path that are not empty. -/
def names (path : String) : List String :=
  (Workspace.parts path).filter fun part => part ≠ ""

theorem locate_eq_ok_iff :
    disk.locate path = .ok place ↔
      path.toList.contains '\x00' = false ∧ path ≠ "" ∧
        (Workspace.parts path).foldlM disk.advance (origin path) = .ok place := by
  rw [locate]
  split
  · next bad => simp only [bad, reduceCtorEq, Bool.true_eq_false, false_and]
  · next good =>
    split
    · next empty => simp [empty]
    · next nonempty =>
      rw [Bool.not_eq_true] at good
      simp only [good, nonempty, ne_eq, not_false_eq_true, true_and]

theorem contents_eq_ok_iff {bytes : ByteArray} :
    disk.contents path = .ok bytes ↔
      ∃ place, disk.locate path = .ok place ∧ disk.lookup? place = some (.file bytes) := by
  rw [contents]
  cases disk.locate path with
  | error fault => simp
  | ok place =>
      cases found : disk.lookup? place with
      | none => simp [found]
      | some entry => cases entry <;> simp [found]

theorem checkDirectory_eq_ok_iff :
    disk.checkDirectory path = .ok () ↔
      ∃ place, disk.locate path = .ok place ∧ disk.lookup? place = some .directory := by
  rw [checkDirectory]
  cases disk.locate path with
  | error fault => simp
  | ok place =>
      cases found : disk.lookup? place with
      | none => simp [found]
      | some entry => cases entry <;> simp [found]

/-- A file can be moved to a name in a directory at which there is no directory. -/
theorem target_eq_ok_iff :
    disk.target path = .ok place ↔
      path.toList.contains '\x00' = false ∧ path ≠ "" ∧ path.toList.getLast? ≠ some '/' ∧
        disk.lookup? place ≠ some .directory ∧
        ∃ directory name, (names path).dropLast.foldlM disk.advance (origin path) = .ok directory ∧
          disk.lookup? directory = some .directory ∧ (names path).getLast? = some name ∧
          name ≠ "." ∧ name ≠ ".." ∧ directory ++ [name] = place := by
  constructor
  · intro found
    rw [target] at found
    split at found
    · cases found
    · next clean =>
      split at found
      · cases found
      · next nonempty =>
        dsimp only at found
        split at found
        · cases found
        · next directory walked =>
          split at found
          · cases found
          · cases found
          · cases found
          · next name arrived last =>
            split at found
            · cases found
            · next named =>
              split at found
              · cases found
              · next openEnd =>
                split at found
                · cases found
                · next free =>
                  cases found
                  rw [Bool.or_eq_true, decide_eq_true_eq, decide_eq_true_eq, not_or] at named
                  exact ⟨Bool.not_eq_true _ ▸ clean, nonempty, openEnd, free, directory, name,
                    walked, arrived, last, named.1, named.2, rfl⟩
  · rintro ⟨clean, nonempty, openEnd, free, directory, name, walked, arrived, last, noPoint,
      noPoints, rfl⟩
    rw [names] at walked last
    rw [target, clean, if_neg (by decide), if_neg nonempty]
    dsimp only
    rw [walked]
    dsimp only
    rw [arrived, last]
    dsimp only
    rw [if_neg (by simp [noPoint, noPoints]), if_neg openEnd]
    split
    · next blocked => exact absurd blocked free
    · rfl

theorem parts_eq_append {path : String} (nonempty : path ≠ "")
    (openEnd : path.toList.getLast? ≠ some '/') :
    ∃ outer name, Workspace.parts path = outer ++ [name] ∧ name ≠ "" := by
  have charsNonempty : path.toList ≠ [] := fun empty => nonempty (String.toList_eq_nil_iff.mp empty)
  have lastNonempty := Text.getLast?_splitOn_ne charsNonempty openEnd
  have somePart := Text.splitOn_ne_nil '/' path.toList
  refine ⟨((Text.splitOn '/' path.toList).dropLast).map String.ofList,
    String.ofList ((Text.splitOn '/' path.toList).getLast somePart), ?_, ?_⟩
  · rw [Workspace.parts, ← List.map_singleton, ← List.map_append, List.dropLast_concat_getLast]
  · intro empty
    have noChars : (Text.splitOn '/' path.toList).getLast somePart = [] := by
      simpa using congrArg String.toList empty
    rw [List.getLast?_eq_some_getLast somePart, noChars] at lastNonempty
    exact lastNonempty rfl

/-- The path itself leads to the place to which a file can be moved under it. -/
theorem locate_of_target (found : disk.target path = .ok place) : disk.locate path = .ok place := by
  obtain ⟨clean, nonempty, openEnd, _, directory, name, walked, arrived, last, noPoint, noPoints,
    rfl⟩ := target_eq_ok_iff.mp found
  obtain ⟨outer, final, shape, finalNonempty⟩ := parts_eq_append nonempty openEnd
  have kept : names path = (outer.filter fun part => part ≠ "") ++ [final] := by
    rw [names, shape, List.filter_append]
    simp [finalNonempty]
  rw [kept, List.getLast?_concat, Option.some_inj] at last
  rw [kept, List.dropLast_concat] at walked
  subst last
  have stepped : disk.advance directory final = .ok (directory ++ [final]) := by
    refine advance_eq_ok_iff.mpr ⟨arrived, ?_⟩
    simp [step, finalNonempty, noPoint, noPoints]
  rw [locate_eq_ok_iff, shape, List.foldlM_append, foldlM_advance_of_filter walked arrived]
  refine ⟨clean, nonempty, ?_⟩
  change [final].foldlM disk.advance directory = _
  rw [List.foldlM_cons, stepped]
  rfl

/-! ## Disks with the same directories -/

/-- The same places are directories on both disks. -/
def SameDirectories (left right : Disk) : Prop :=
  ∀ place, left.lookup? place = some .directory ↔ right.lookup? place = some .directory

namespace SameDirectories

variable {left right : Disk}

theorem advance_iff (same : SameDirectories left right) {start next : List String}
    {part : String} : left.advance start part = .ok next ↔ right.advance start part = .ok next := by
  rw [advance_eq_ok_iff, advance_eq_ok_iff, same]

theorem foldlM_iff (same : SameDirectories left right) {parts start : List String} :
    parts.foldlM left.advance start = .ok place ↔ parts.foldlM right.advance start = .ok place := by
  induction parts generalizing start with
  | nil => exact Iff.rfl
  | cons part rest inductionHypothesis =>
      simp only [foldlM_cons_eq_ok_iff, same.advance_iff, inductionHypothesis]

theorem locate_iff (same : SameDirectories left right) :
    left.locate path = .ok place ↔ right.locate path = .ok place := by
  rw [locate_eq_ok_iff, locate_eq_ok_iff, same.foldlM_iff]

theorem checkDirectory_iff (same : SameDirectories left right) :
    left.checkDirectory path = .ok () ↔ right.checkDirectory path = .ok () := by
  simp only [checkDirectory_eq_ok_iff, same.locate_iff, same _]

theorem target_iff (same : SameDirectories left right) :
    left.target path = .ok place ↔ right.target path = .ok place := by
  simp only [target_eq_ok_iff, same.foldlM_iff, ne_eq, same _]

end SameDirectories

/-! ## Putting a file -/

section Put

variable {contents : ByteArray}

theorem lookup?_of_put (free : disk.lookup? place ≠ some .directory)
    (changed : other.entries = disk.entries.insert place (.file contents)) (tested : List String) :
    other.lookup? tested = if place = tested then some (.file contents)
      else disk.lookup? tested := by
  have named : ¬ (place = [] || place = root) := by
    intro always
    rw [lookup?, if_pos always] at free
    exact free rfl
  rw [lookup?, lookup?, changed, Std.ExtTreeMap.getElem?_insert]
  by_cases same : place = tested
  · subst same
    simp [named]
  · have different : compare place tested ≠ .eq := fun equal =>
      same (Std.LawfulEqOrd.eq_of_compare equal)
    rw [if_neg same, if_neg different]

theorem sameDirectories_of_put (free : disk.lookup? place ≠ some .directory)
    (changed : other.entries = disk.entries.insert place (.file contents)) :
    SameDirectories other disk := by
  intro tested
  rw [lookup?_of_put free changed]
  by_cases same : place = tested
  · subst same
    simp [free]
  · rw [if_neg same]

end Put

end SampleProfile.Disk
