import SampleProfile.Proofs.Workspace.Disk

/-!
# What operations leave on a disk

Operations can be refused at any time.  Whatever is refused, reading leaves all files as they are,
and writing a file as a whole either writes it or leaves all files as they are; no temporary file is
left over (`replaceFile_outcome`).
-/

namespace SampleProfile.Disk

variable {disk between later : Disk} {path : String} {contents : ByteArray}

/-! ## Disks with the same files -/

/-- The files are the same, named and temporary, and the same operations are refused. -/
structure SameFiles (disk later : Disk) : Prop where
  entries_eq : later.entries = disk.entries
  temporaries_eq : later.temporaries = disk.temporaries
  refusals_eq : later.refusals = disk.refusals

namespace SameFiles

theorem refl (disk : Disk) : SameFiles disk disk := ⟨rfl, rfl, rfl⟩

theorem trans (first : SameFiles disk between) (second : SameFiles between later) :
    SameFiles disk later where
  entries_eq := second.entries_eq.trans first.entries_eq
  temporaries_eq := second.temporaries_eq.trans first.temporaries_eq
  refusals_eq := second.refusals_eq.trans first.refusals_eq

end SameFiles

section Entries

variable (same : later.entries = disk.entries)

include same

theorem locate_congr (path : String) : later.locate path = disk.locate path := by
  cases disk
  cases later
  cases same
  rfl

theorem contents_congr (path : String) : later.contents path = disk.contents path := by
  cases disk
  cases later
  cases same
  rfl

theorem sameDirectories_congr : SameDirectories later disk := by
  intro place
  rw [lookup?, lookup?, same]

end Entries

/-- No temporary file is left over. -/
def NoLeftover (disk later : Disk) : Prop :=
  ∀ temporary, temporary ∈ later.temporaries → temporary ∈ disk.temporaries

/-- All paths lead to the contents to which they led, or to none as before. -/
structure Untouched (disk later : Disk) : Prop where
  contents_eq : ∀ tested, later.contents tested = disk.contents tested
  directories : SameDirectories later disk
  noLeftover : NoLeftover disk later

/-- A path leads to a file that has been written as a whole.  All paths to other places lead to the
contents to which they led, or to none as before. -/
structure OnlyWritten (disk : Disk) (path : String) (contents : ByteArray) (later : Disk) :
    Prop where
  written : later.contents path = .ok contents
  others : ∀ tested, disk.locate tested ≠ disk.locate path → ∀ held,
    later.contents tested = .ok held ↔ disk.contents tested = .ok held
  directories : SameDirectories later disk
  noLeftover : NoLeftover disk later

namespace SameFiles

theorem noLeftover (same : SameFiles disk later) : NoLeftover disk later :=
  fun _ member => same.temporaries_eq ▸ member

theorem untouched (same : SameFiles disk later) : disk.Untouched later where
  contents_eq := contents_congr same.entries_eq
  directories := sameDirectories_congr same.entries_eq
  noLeftover := same.noLeftover

theorem untouched_after (same : SameFiles disk between) (untouched : between.Untouched later) :
    disk.Untouched later where
  contents_eq tested := by
    rw [untouched.contents_eq, contents_congr same.entries_eq]
  directories place := by
    rw [untouched.directories, sameDirectories_congr same.entries_eq]
  noLeftover temporary member := same.noLeftover temporary (untouched.noLeftover temporary member)

theorem onlyWritten_after (same : SameFiles disk between)
    (written : between.OnlyWritten path contents later) : disk.OnlyWritten path contents later where
  written := written.written
  others tested different held := by
    rw [← locate_congr same.entries_eq, ← locate_congr same.entries_eq] at different
    rw [← contents_congr same.entries_eq]
    exact written.others tested different held
  directories place := by
    rw [written.directories, sameDirectories_congr same.entries_eq]
  noLeftover temporary member := same.noLeftover temporary (written.noLeftover temporary member)

end SameFiles

theorem Replaced.onlyWritten (replaced : disk.Replaced path contents later)
    (noLeftover : NoLeftover disk later) : disk.OnlyWritten path contents later where
  written := replaced.contents_eq
  others _ different _ := replaced.contents_iff different
  directories := replaced.sameDirectories
  noLeftover := noLeftover

/-! ## Operations that may be refused -/

theorem sameFiles_ticked (disk : Disk) : SameFiles disk disk.ticked := ⟨rfl, rfl, rfl⟩

/-- An operation that is tried changes nothing, or does what it does where it is not refused. -/
theorem attempt_cases {Answer : Type} (disk : Disk)
    (operation : Disk → Except FileFault (Answer × Disk)) :
    (∃ fault, disk.attempt operation = (.error fault, disk.ticked)) ∨
      ∃ answer changed, operation disk.ticked = .ok (answer, changed) ∧
        disk.attempt operation = (.ok answer, changed) := by
  rw [attempt, ← ticked]
  cases disk.refusals disk.clock with
  | some fault => exact Or.inl ⟨fault, rfl⟩
  | none =>
      cases done : operation disk.ticked with
      | error fault => exact Or.inl ⟨fault, rfl⟩
      | ok result => exact Or.inr ⟨result.1, result.2, rfl, rfl⟩

/-! ## Reading -/

/-- An action leaves all files as they are. -/
def OnlyReads {Answer : Type} (action : DiskM Answer) : Prop :=
  ∀ disk, SameFiles disk (action.run disk).2

section OnlyReads

variable {Answer Next : Type}

theorem onlyReads_pure (answer : Answer) : OnlyReads (pure answer) :=
  fun disk => .refl disk

theorem OnlyReads.sameFiles {action : DiskM Answer} {answer : Answer} (reads : OnlyReads action)
    (ran : action.run disk = (answer, later)) : SameFiles disk later := by
  have same := reads disk
  rw [ran] at same
  exact same

theorem OnlyReads.bind {first : DiskM Answer} {next : Answer → DiskM Next}
    (firstReads : OnlyReads first) (nextReads : ∀ answer, OnlyReads (next answer)) :
    OnlyReads (first >>= next) := by
  intro disk
  rcases ran : first.run disk with ⟨answer, between⟩
  rw [run_bind ran]
  exact (firstReads.sameFiles ran).trans (nextReads answer between)

theorem onlyReads_read (path : String) : OnlyReads (Workspace.read path) := by
  intro disk
  rw [read_run_eq]
  exact sameFiles_ticked disk

theorem onlyReads_note (event : Event) : OnlyReads (Workspace.note event) :=
  fun _ => ⟨rfl, rfl, rfl⟩

theorem onlyReads_readText (path : String) : OnlyReads (Workspace.readText path) := by
  refine (onlyReads_read path).bind fun answer => ?_
  cases answer with
  | error fault => exact onlyReads_pure _
  | ok contents =>
      dsimp only
      cases String.fromUTF8? contents <;> exact onlyReads_pure _

end OnlyReads

/-! ## Writing -/

/-- The disk after one of its temporary files has been given contents. -/
def stored (disk : Disk) (temporary : String) (contents : ByteArray) : Disk :=
  { disk.ticked with temporaries := disk.temporaries.insert temporary contents }

theorem makeTemporary_cases (disk : Disk) (directory : String) :
    (∃ fault, (Workspace.makeTemporary directory : DiskM _).run disk =
        (.error fault, disk.ticked)) ∨
      (Workspace.makeTemporary directory : DiskM _).run disk =
        (.ok (disk.temporaryIn directory), disk.stored (disk.temporaryIn directory) .empty) := by
  change (∃ fault, disk.makeTemporary directory = _) ∨ disk.makeTemporary directory = _
  rw [makeTemporary]
  rcases disk.attempt_cases (fun now => (now.checkDirectory directory).map fun () =>
      ((), { now with
        temporaries := now.temporaries.insert (disk.temporaryIn directory) .empty })) with
    ⟨fault, failed⟩ | ⟨answer, changed, done, ran⟩
  · rw [temporaryIn] at failed
    rw [failed]
    exact Or.inl ⟨_, rfl⟩
  · have arrived : changed = disk.stored (disk.temporaryIn directory) .empty := by
      cases found : disk.ticked.checkDirectory directory with
      | error fault =>
          rw [found] at done
          cases done
      | ok _ =>
          rw [found] at done
          cases done
          rfl
    rw [temporaryIn] at ran
    rw [ran, arrived]
    exact Or.inr rfl

theorem fill_cases (disk : Disk) (temporary : String) (contents : ByteArray) :
    (∃ fault, (Workspace.fill temporary contents : DiskM _).run disk =
        (.error fault, disk.ticked)) ∨
      (Workspace.fill temporary contents : DiskM _).run disk =
        (.ok (), disk.stored temporary contents) := by
  change (∃ fault, fill temporary contents disk = _) ∨ fill temporary contents disk = _
  rw [fill]
  refine Or.imp id ?_ (disk.attempt_cases _)
  rintro ⟨answer, changed, done, ran⟩
  cases done
  exact ran

/-- The disk after a temporary file has been moved to a place. -/
def moved (disk : Disk) (temporary : String) (place : List String) (contents : ByteArray) : Disk :=
  { disk.ticked with
    entries := disk.entries.insert place (.file contents)
    temporaries := disk.temporaries.erase temporary }

theorem rename_cases (disk : Disk) (temporary path : String) :
    (∃ fault, (Workspace.rename temporary path : DiskM _).run disk =
        (.error fault, disk.ticked)) ∨
      ∃ place contents, disk.target path = .ok place ∧
        disk.temporaries[temporary]? = some contents ∧
        (Workspace.rename temporary path : DiskM _).run disk =
          (.ok (), disk.moved temporary place contents) := by
  change (∃ fault, Disk.rename temporary path disk = _) ∨
    ∃ place contents, _ ∧ _ ∧ Disk.rename temporary path disk = _
  rw [Disk.rename]
  refine Or.imp id ?_ (disk.attempt_cases _)
  rintro ⟨answer, changed, done, ran⟩
  split at done
  · cases done
  · cases done
  · next place contents target held =>
    cases done
    exact ⟨place, contents, target, held, ran⟩

/-- Of the temporary files none has been added but one. -/
def AddsOnly (disk : Disk) (temporary : String) (later : Disk) : Prop :=
  ∀ tested, tested ∈ later.temporaries → tested = temporary ∨ tested ∈ disk.temporaries

theorem AddsOnly.stored {temporary : String} (adds : AddsOnly disk temporary later)
    (contents : ByteArray) : AddsOnly disk temporary (later.stored temporary contents) := by
  intro tested member
  rw [Disk.stored, Std.ExtTreeMap.mem_insert, Std.LawfulEqCmp.compare_eq_iff_eq] at member
  rcases member with same | held
  · exact Or.inl same.symm
  · exact adds tested held

/-- A temporary file that is moved or deleted in the end is not left over, however often it has been
written. -/
theorem AddsOnly.noLeftover {temporary : String} (adds : AddsOnly disk temporary between)
    (erased : later.temporaries = between.temporaries.erase temporary) :
    NoLeftover disk later := by
  intro tested member
  rw [erased, Std.ExtTreeMap.mem_erase, ne_eq, Std.LawfulEqCmp.compare_eq_iff_eq] at member
  exact (adds tested member.2).resolve_left fun same => member.1 same.symm

theorem AddsOnly.untouched_discard {temporary : String} (adds : AddsOnly disk temporary later)
    (same : later.entries = disk.entries) : disk.Untouched (later.discard temporary) where
  contents_eq := contents_congr same
  directories := sameDirectories_congr same
  noLeftover := adds.noLeftover rfl

/-- Writing a file as a whole writes it or changes no file, whatever is refused. -/
theorem replaceFile_outcome (disk : Disk) (path : String) (contents : ByteArray) :
    match (Workspace.replaceFile path contents : DiskM _).run disk with
    | (.error _, later) => disk.Untouched later
    | (.ok (), later) => disk.OnlyWritten path contents later := by
  rw [Workspace.replaceFile]
  rcases disk.makeTemporary_cases (Workspace.directoryOf path) with ⟨fault, failed⟩ | made
  · rw [run_bind failed]
    exact (sameFiles_ticked disk).untouched
  rw [run_bind made]
  generalize disk.temporaryIn (Workspace.directoryOf path) = temporary
  dsimp only
  -- From here on there is one temporary file, which every way out moves or deletes.
  have noneAdded : AddsOnly disk temporary disk := fun _ held => Or.inr held
  have madeOnly := noneAdded.stored .empty
  rcases (disk.stored temporary .empty).fill_cases temporary contents with
    ⟨fault, failed⟩ | filled
  · rw [run_bind failed]
    exact AddsOnly.untouched_discard madeOnly rfl
  rw [run_bind filled]
  dsimp only
  have filledOnly := madeOnly.stored contents
  rcases ((disk.stored temporary .empty).stored temporary contents).rename_cases temporary path
    with ⟨fault, failed⟩ | ⟨place, moved, target, held, renamed⟩
  · rw [run_bind failed]
    exact AddsOnly.untouched_discard filledOnly rfl
  rw [run_bind renamed]
  have movedContents : moved = contents := by
    rw [stored, Std.ExtTreeMap.getElem?_insert_self, Option.some_inj] at held
    exact held.symm
  subst movedContents
  have replaced : disk.Replaced path moved
      (((disk.stored temporary .empty).stored temporary moved).moved temporary place moved) :=
    ⟨rfl, place, target, rfl⟩
  exact replaced.onlyWritten (filledOnly.noLeftover rfl)

end SampleProfile.Disk
