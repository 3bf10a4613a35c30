import SampleProfile.Proofs.Samples.TextFormat
import SampleProfile.Proofs.Workspace.Disk
import SampleProfile.Samples.Source

/-!
# Sample files on a disk

What is read from a file depends on its contents alone, and a text file that holds written samples
is read as them.
-/

namespace SampleProfile

namespace Samples

/-- The samples in the contents of a text file, or why there are none. -/
def ofContents : Except FileFault ByteArray → Except SampleFault Samples
  | .error fault => .error (.file fault)
  | .ok bytes =>
      match String.fromUTF8? bytes with
      | none => .error (.file .notText)
      | some text => (parse text).mapError fun located => .text located.1 located.2

theorem fromUTF8?_toUTF8 (text : String) : String.fromUTF8? text.toUTF8 = some text := by
  rw [String.toUTF8_eq_toByteArray, String.fromUTF8?, dif_pos text.isValidUTF8]
  rfl

/-- Contents that were written are read as the samples written, with their total brought up to date.
-/
theorem ofContents_render {samples : Samples} (sized : samples.WordSized) :
    ofContents (.ok samples.render.toUTF8) = .ok samples.withTotal := by
  rw [ofContents, fromUTF8?_toUTF8]
  dsimp only
  rw [parse_render sized]
  rfl

theorem total_of_ofContents {contents : Except FileFault ByteArray} {samples : Samples}
    (read : ofContents contents = .ok samples) : samples.total = samples.computedTotal := by
  cases contents with
  | error fault => cases read
  | ok bytes =>
      rw [ofContents] at read
      cases decoded : String.fromUTF8? bytes with
      | none =>
          rw [decoded] at read
          cases read
      | some text =>
          rw [decoded] at read
          dsimp only at read
          cases parsed : parse text with
          | error fault =>
              rw [parsed] at read
              cases read
          | ok result =>
              rw [parsed] at read
              cases read
              exact total_of_parse parsed

/-- The samples in the contents of a capture, or why there are none. -/
def ofCapture (focus : Focus) (segments : List LoadSegment)
    (contents : Except FileFault ByteArray) : Except SampleFault Samples :=
  match Pattern.parse focus.pattern with
  | .error fault => .error (.focusPattern fault)
  | .ok pattern =>
      match contents with
      | .error .isDirectory => .error (.capture .unreadable)
      | .error fault => .error (.file fault)
      | .ok bytes =>
          match Capture.recordsOf bytes with
          | .error fault => .error (.capture fault)
          | .ok records =>
              (Capture.count ⟨pattern, focus.buildId⟩ segments records).mapError .overflow

theorem contents_of_ofContents {contents : Except FileFault ByteArray} {samples : Samples}
    (read : ofContents contents = .ok samples) : ∃ bytes, contents = .ok bytes := by
  cases contents with
  | error fault => cases read
  | ok bytes => exact ⟨bytes, rfl⟩

theorem contents_of_ofCapture {focus : Focus} {segments : List LoadSegment}
    {contents : Except FileFault ByteArray} {samples : Samples}
    (read : ofCapture focus segments contents = .ok samples) : ∃ bytes, contents = .ok bytes := by
  cases contents with
  | error fault =>
      rw [ofCapture] at read
      cases parsed : Pattern.parse focus.pattern with
      | error syntaxFault =>
          rw [parsed] at read
          cases read
      | ok pattern =>
          rw [parsed] at read
          cases fault <;> cases read
  | ok bytes => exact ⟨bytes, rfl⟩

end Samples

namespace Disk

variable {disk : Disk}

theorem readText_run {path text : String} (held : disk.attempted path = .ok text.toUTF8) :
    (Workspace.readText path : DiskM _).run disk = (.ok text, disk.ticked) := by
  rw [Workspace.readText, run_bind (read_run_eq disk path), held]
  dsimp only
  rw [Samples.fromUTF8?_toUTF8]
  rfl

theorem readTextFile_run_eq (disk : Disk) (path : String) :
    (Samples.readTextFile path : DiskM _).run disk =
      (Samples.ofContents (disk.attempted path), disk.ticked) := by
  rw [Samples.readTextFile, Workspace.readText, bind_assoc, run_bind (read_run_eq disk path)]
  cases disk.attempted path with
  | error fault => rfl
  | ok bytes =>
      rw [Samples.ofContents]
      dsimp only
      cases String.fromUTF8? bytes with
      | none => rfl
      | some text =>
          rw [pure_bind]
          dsimp only
          cases Samples.parse text <;> rfl

theorem readTextFile_run (unrefused : disk.refusals disk.clock = none) (path : String) :
    (Samples.readTextFile path : DiskM _).run disk =
      (Samples.ofContents (disk.contents path), { disk with clock := disk.clock + 1 }) := by
  rw [readTextFile_run_eq, attempted_of_unrefused unrefused, ticked]

theorem readCapture_run_eq (disk : Disk) (path : String) (focus : Focus)
    (segments : List LoadSegment) :
    ∃ now, (Samples.readCapture path focus segments : DiskM _).run disk =
      (Samples.ofCapture focus segments (disk.attempted path), { disk with clock := now }) := by
  rw [Samples.readCapture, Samples.ofCapture]
  cases Pattern.parse focus.pattern with
  | error fault => exact ⟨disk.clock, rfl⟩
  | ok pattern =>
      refine ⟨disk.clock + 1, ?_⟩
      dsimp only
      rw [run_bind (read_run_eq disk path), ticked]
      cases disk.attempted path with
      | error fault => cases fault <;> rfl
      | ok bytes =>
          dsimp only
          cases Capture.recordsOf bytes <;> rfl

/-- What reading a text file of samples answers. -/
def readSamples (disk : Disk) (path : String) : Except SampleFault Samples :=
  ((Samples.readTextFile path : DiskM _).run disk).1

theorem readSamples_eq (unrefused : disk.refusals disk.clock = none) (path : String) :
    disk.readSamples path = Samples.ofContents (disk.contents path) := by
  rw [readSamples, readTextFile_run unrefused]

end Disk

end SampleProfile
