import SampleProfile.Proofs.Workspace.Place

/-!
# Writing files on a disk

Where nothing is refused, a file that can be written holds what was written, and every other file
holds what it held.
-/

namespace SampleProfile.Disk

/-- A file can be written at a path: nothing is refused, there is a directory for the temporary
file, and the temporary file can be moved to the path. -/
structure Writable (disk : Disk) (path : String) : Prop where
  unrefused : ∀ operation, disk.refusals operation = none
  directory : disk.checkDirectory (Workspace.directoryOf path) = .ok ()
  target : ∃ place, disk.target path = .ok place

/-- A disk on which a file has been written at a path, and nothing else has happened to named files.
-/
structure Replaced (disk : Disk) (path : String) (contents : ByteArray) (later : Disk) : Prop where
  refusals_eq : later.refusals = disk.refusals
  entries_eq : ∃ place, disk.target path = .ok place ∧
    later.entries = disk.entries.insert place (.file contents)

variable {disk later : Disk} {path : String} {contents : ByteArray} {place : List String}

/-! ## Steps -/

theorem run_bind {Answer Next : Type} {first : DiskM Answer} {next : Answer → DiskM Next}
    {answer : Answer} (ran : first.run disk = (answer, later)) :
    (first >>= next).run disk = (next answer).run later := by
  rw [StateT.run_bind, ran]
  rfl

theorem attempt_of_unrefused {Answer : Type}
    {operation : Disk → Except FileFault (Answer × Disk)} {answer : Answer}
    (unrefused : disk.refusals disk.clock = none)
    (succeeds : operation { disk with clock := disk.clock + 1 } = .ok (answer, later)) :
    disk.attempt operation = (.ok answer, later) := by
  rw [attempt, unrefused]
  dsimp only
  rw [succeeds]

/-- The disk after an operation that has changed no file. -/
def ticked (disk : Disk) : Disk :=
  { disk with clock := disk.clock + 1 }

/-- What an attempt to read a file answers. -/
def attempted (disk : Disk) (path : String) : Except FileFault ByteArray :=
  match disk.refusals disk.clock with
  | some fault => .error fault
  | none => disk.contents path

theorem attempted_of_unrefused (unrefused : disk.refusals disk.clock = none) (path : String) :
    disk.attempted path = disk.contents path := by
  rw [attempted, unrefused]

theorem contents_of_attempted (answered : disk.attempted path = .ok contents) :
    disk.contents path = .ok contents := by
  rw [attempted] at answered
  cases refused : disk.refusals disk.clock with
  | some fault =>
      rw [refused] at answered
      cases answered
  | none =>
      rw [refused] at answered
      exact answered

theorem read_run_eq (disk : Disk) (path : String) :
    (Workspace.read path : DiskM _).run disk = (disk.attempted path, disk.ticked) := by
  change Disk.read path disk = _
  have same : disk.ticked.contents path = disk.contents path := rfl
  rw [Disk.read, attempt, attempted, ← ticked]
  cases disk.refusals disk.clock with
  | some fault => rfl
  | none =>
      dsimp only
      rw [same]
      cases disk.contents path <;> rfl

/-- The temporary file that is made next in a directory. -/
def temporaryIn (disk : Disk) (directory : String) : String :=
  directory ++ "/.tmp" ++ toString disk.clock

theorem makeTemporary_run {directory : String} (unrefused : disk.refusals disk.clock = none)
    (found : disk.checkDirectory directory = .ok ()) :
    (Workspace.makeTemporary directory : DiskM _).run disk =
      (.ok (disk.temporaryIn directory), { disk with
        clock := disk.clock + 1
        temporaries := disk.temporaries.insert (disk.temporaryIn directory) .empty }) := by
  have attempted : disk.attempt (fun now => (now.checkDirectory directory).map fun () =>
      ((), { now with
        temporaries := now.temporaries.insert (disk.temporaryIn directory) .empty })) =
      (.ok (), { disk with
        clock := disk.clock + 1
        temporaries := disk.temporaries.insert (disk.temporaryIn directory) .empty }) := by
    refine attempt_of_unrefused unrefused ?_
    change (disk.checkDirectory directory).map _ = _
    rw [found]
    rfl
  rw [temporaryIn] at attempted
  change disk.makeTemporary directory = _
  rw [makeTemporary, attempted]
  rfl

theorem fill_run {temporary : String} (unrefused : disk.refusals disk.clock = none)
    (contents : ByteArray) :
    (Workspace.fill temporary contents : DiskM _).run disk =
      (.ok (), { disk with
        clock := disk.clock + 1
        temporaries := disk.temporaries.insert temporary contents }) := by
  change fill temporary contents disk = _
  rw [fill]
  exact attempt_of_unrefused unrefused rfl

theorem rename_run {temporary : String} (unrefused : disk.refusals disk.clock = none)
    (target : disk.target path = .ok place)
    (held : disk.temporaries[temporary]? = some contents) :
    (Workspace.rename temporary path : DiskM _).run disk =
      (.ok (), { disk with
        clock := disk.clock + 1
        entries := disk.entries.insert place (.file contents)
        temporaries := disk.temporaries.erase temporary }) := by
  change rename temporary path disk = _
  rw [rename]
  refine attempt_of_unrefused unrefused ?_
  have same : Disk.target { disk with clock := disk.clock + 1 } path = .ok place := target
  dsimp only
  rw [same, held]

/-! ## Writing -/

theorem replaceFile_run (writable : disk.Writable path) (contents : ByteArray) :
    ∃ later, (Workspace.replaceFile path contents : DiskM _).run disk = (.ok (), later) ∧
      disk.Replaced path contents later := by
  obtain ⟨place, target⟩ := writable.target
  rw [Workspace.replaceFile,
    run_bind (makeTemporary_run (writable.unrefused _) writable.directory)]
  dsimp only
  rw [run_bind (fill_run (by exact writable.unrefused _) contents)]
  dsimp only
  rw [run_bind (rename_run (by exact writable.unrefused _) (by exact target)
    Std.ExtTreeMap.getElem?_insert_self)]
  exact ⟨_, rfl, rfl, place, target, rfl⟩

/-! ## Afterwards -/

namespace Replaced

theorem sameDirectories (replaced : disk.Replaced path contents later) :
    SameDirectories later disk := by
  obtain ⟨place, target, changed⟩ := replaced.entries_eq
  exact sameDirectories_of_put (target_eq_ok_iff.mp target).2.2.2.1 changed

theorem writable (replaced : disk.Replaced path contents later) {tested : String}
    (writable : disk.Writable tested) : later.Writable tested where
  unrefused := by
    rw [replaced.refusals_eq]
    exact writable.unrefused
  directory := replaced.sameDirectories.checkDirectory_iff.mpr writable.directory
  target := by
    obtain ⟨place, target⟩ := writable.target
    exact ⟨place, replaced.sameDirectories.target_iff.mpr target⟩

theorem contents_eq (replaced : disk.Replaced path contents later) :
    later.contents path = .ok contents := by
  obtain ⟨place, target, changed⟩ := replaced.entries_eq
  have free := (target_eq_ok_iff.mp target).2.2.2.1
  rw [contents_eq_ok_iff]
  refine ⟨place, replaced.sameDirectories.locate_iff.mpr (locate_of_target target), ?_⟩
  rw [lookup?_of_put free changed, if_pos rfl]

/-- Other places hold what they held. -/
theorem contents_iff (replaced : disk.Replaced path contents later) {tested : String}
    {bytes : ByteArray} (different : disk.locate tested ≠ disk.locate path) :
    later.contents tested = .ok bytes ↔ disk.contents tested = .ok bytes := by
  obtain ⟨place, target, changed⟩ := replaced.entries_eq
  have free := (target_eq_ok_iff.mp target).2.2.2.1
  rw [contents_eq_ok_iff, contents_eq_ok_iff]
  refine exists_congr fun found => ?_
  rw [replaced.sameDirectories.locate_iff]
  refine and_congr_right fun foundPlace => ?_
  have apart : place ≠ found := by
    rintro rfl
    exact different (foundPlace.trans (locate_of_target target).symm)
  rw [lookup?_of_put free changed, if_neg apart]

/-- Files at other places keep their contents and their places. -/
theorem other_file (replaced : disk.Replaced path contents later) {tested : String}
    {bytes : ByteArray} (different : disk.locate tested ≠ disk.locate path)
    (holds : disk.contents tested = .ok bytes) :
    later.contents tested = .ok bytes ∧ later.locate tested ≠ later.locate path := by
  refine ⟨(replaced.contents_iff different).mpr holds, ?_⟩
  obtain ⟨place, target, _⟩ := replaced.entries_eq
  obtain ⟨found, foundPlace, _⟩ := contents_eq_ok_iff.mp holds
  have same := replaced.sameDirectories
  have pathPlace := locate_of_target target
  rw [same.locate_iff.mpr foundPlace, same.locate_iff.mpr pathPlace, ← foundPlace, ← pathPlace]
  exact different

end Replaced

end SampleProfile.Disk
