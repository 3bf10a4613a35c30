import SampleProfile.Proofs.Samples.Source
import SampleProfile.Session

/-!
# Collecting samples in a text file

Text files of samples are merged into one destination, one after another.  Nothing is lost and
nothing is counted twice, and the destination does not depend on the order of the files.
-/

namespace SampleProfile.Session

open Disk

variable {disk : Disk} {output : String}

/-! ## One file -/

theorem samplesOf_text_run (session : Session) {input : String} {samples : Samples}
    (unrefused : disk.refusals disk.clock = none)
    (readable : Samples.ofContents (disk.contents input) = .ok samples) :
    (session.samplesOf input .text : DiskM _).run disk =
      (.ok samples, { disk with clock := disk.clock + 1 }) := by
  rw [samplesOf, run_bind (readTextFile_run unrefused input), readable]
  rfl

/-- Reads the destination of a merge if there is such a file. -/
def readHeld (output : String) (present : Bool) : DiskM (Except SampleFault Samples) :=
  if present then Samples.readTextFile output else pure (.ok {})

/-- A destination that is missing or can be read is read as what it holds. -/
theorem readHeld_run {held : Samples} (unrefused : disk.refusals disk.clock = none)
    (initial : (disk.isFile output = false ∧ held = {}) ∨
      Samples.ofContents (disk.contents output) = .ok held) :
    ∃ now, (readHeld output (disk.isFile output)).run disk =
      (.ok held, { disk with clock := now }) := by
  rcases initial with ⟨missing, rfl⟩ | readable
  · refine ⟨disk.clock, ?_⟩
    rw [missing]
    rfl
  · obtain ⟨bytes, contents⟩ := Samples.contents_of_ofContents readable
    have present : disk.isFile output = true := by
      rw [isFile, contents]
      rfl
    refine ⟨disk.clock + 1, ?_⟩
    rw [present, readHeld, if_pos rfl, readTextFile_run unrefused, readable]

/-- The rest of a merge, once the destination has been read. -/
def addTo (session : Session) (input output : String) (kind : SourceKind) :
    Except SampleFault Samples → DiskM (Except SessionFault Unit)
  | .error fault => return .error (.sampleRead output fault)
  | .ok held => do
      match ← session.samplesOf input kind with
      | .error fault => return .error fault
      | .ok samples =>
          let merged : SampleFile := ⟨output, held.merge samples⟩
          return (← merged.write output).mapError (.write output)

theorem merge_eq (session : Session) (input output : String) {token : String} {kind : SourceKind}
    (parsed : SourceKind.parse token = .ok kind) :
    (session.merge input token output : DiskM _) =
      Workspace.isFile output >>= fun present =>
        readHeld output present >>= session.addTo input output kind := by
  rw [merge, parsed]
  dsimp only
  congr 1
  funext present
  cases present <;> rfl

theorem merge_text_run (session : Session) {input : String} {held samples : Samples}
    (writable : disk.Writable output)
    (initial : (disk.isFile output = false ∧ held = {}) ∨
      Samples.ofContents (disk.contents output) = .ok held)
    (readable : Samples.ofContents (disk.contents input) = .ok samples) :
    ∃ later,
      (session.merge input SourceKind.text.token output : DiskM _).run disk = (.ok (), later) ∧
        disk.Replaced output (held.merge samples).render.toUTF8 later := by
  obtain ⟨now, heldRead⟩ := readHeld_run (writable.unrefused _) initial
  have asked : (Workspace.isFile output : DiskM _).run disk = (disk.isFile output, disk) := rfl
  have ticked : ∀ now, Writable { disk with clock := now } output := fun _ =>
    ⟨writable.unrefused, writable.directory, writable.target⟩
  obtain ⟨later, written, replaced⟩ :=
    replaceFile_run (ticked (now + 1)) (held.merge samples).render.toUTF8
  refine ⟨later, ?_, replaced.refusals_eq, replaced.entries_eq⟩
  have parsed : SourceKind.parse SourceKind.text.token = .ok .text := rfl
  rw [merge_eq session input output parsed, run_bind asked, run_bind heldRead, addTo,
    run_bind (samplesOf_text_run session (by exact writable.unrefused _) (by exact readable))]
  dsimp only
  rw [SampleFile.write, run_bind written]
  rfl

/-! ## Many files -/

/-- Merges text files into a destination, one after another. -/
def mergeAll (session : Session) (inputs : List String) (output : String) :
    DiskM (List (Except SessionFault Unit)) :=
  inputs.mapM fun input => session.merge input SourceKind.text.token output

/-- Between two merges the destination can be written and is read as what it holds, and every file
to come is read from another place. -/
structure Collecting (disk : Disk) (output : String) (inputs : List String)
    (content : String → Samples) (held : Samples) : Prop where
  writable : disk.Writable output
  destination : (disk.isFile output = false ∧ held = {}) ∨
    Samples.ofContents (disk.contents output) = .ok held
  readable : ∀ input ∈ inputs, Samples.ofContents (disk.contents input) = .ok (content input)
  other : ∀ input ∈ inputs, disk.locate input ≠ disk.locate output

namespace Collecting

variable {inputs : List String} {content : String → Samples} {held : Samples}

theorem perm {reordered : List String} (collecting : Collecting disk output inputs content held)
    (same : inputs.Perm reordered) : Collecting disk output reordered content held where
  writable := collecting.writable
  destination := collecting.destination
  readable input member := collecting.readable input (same.mem_iff.mpr member)
  other input member := collecting.other input (same.mem_iff.mpr member)

/-- One merge goes on to the next file. -/
theorem merge {input : String} (session : Session)
    (collecting : Collecting disk output (input :: inputs) content held)
    (sized : (held.merge (content input)).WordSized) :
    ∃ next,
      (session.merge input SourceKind.text.token output : DiskM _).run disk = (.ok (), next) ∧
        Collecting next output inputs content (held.merge (content input)) ∧
        next.contents output = .ok (held.merge (content input)).render.toUTF8 := by
  obtain ⟨inputReadable, restReadable⟩ := List.forall_mem_cons.mp collecting.readable
  obtain ⟨_, restOther⟩ := List.forall_mem_cons.mp collecting.other
  obtain ⟨next, merged, replaced⟩ :=
    merge_text_run session collecting.writable collecting.destination inputReadable
  have written := replaced.contents_eq
  have reread : Samples.ofContents (next.contents output) = .ok (held.merge (content input)) := by
    rw [written, Samples.ofContents_render sized]
    rfl
  have kept : ∀ tested ∈ inputs, next.contents tested = disk.contents tested ∧
      next.locate tested ≠ next.locate output := by
    intro tested member
    obtain ⟨bytes, contents⟩ := Samples.contents_of_ofContents (restReadable tested member)
    rw [contents]
    exact replaced.other_file (restOther tested member) contents
  refine ⟨next, merged, ⟨replaced.writable collecting.writable, Or.inr reread, ?_, ?_⟩, written⟩
  · intro tested member
    rw [(kept tested member).1]
    exact restReadable tested member
  · intro tested member
    exact (kept tested member).2

theorem mergeAll (session : Session) (collecting : Collecting disk output inputs content held)
    (sized : ((inputs.map content).foldl Samples.merge held).WordSized) :
    ∃ later, (session.mergeAll inputs output).run disk = (inputs.map fun _ => .ok (), later) ∧
      later.Writable output ∧
      (inputs ≠ [] → later.contents output =
        .ok ((inputs.map content).foldl Samples.merge held).render.toUTF8) := by
  induction inputs generalizing disk held with
  | nil => exact ⟨disk, rfl, collecting.writable, fun nonempty => absurd rfl nonempty⟩
  | cons input rest inductionHypothesis =>
      rw [List.map_cons, List.foldl_cons] at sized
      obtain ⟨next, merged, nextCollecting, nextContents⟩ :=
        collecting.merge session sized.of_foldl_merge
      obtain ⟨later, run, laterWritable, laterContents⟩ :=
        inductionHypothesis nextCollecting sized
      refine ⟨later, ?_, laterWritable, fun _ => ?_⟩
      · rw [Session.mergeAll, List.mapM_cons, run_bind merged]
        exact run_bind run
      · cases rest with
        | nil =>
            have stayed : next = later := congrArg Prod.snd run
            rw [← stayed]
            exact nextContents
        | cons second others => exact laterContents (by simp)

/-- The totals of all files are up to date. -/
theorem total_eq (collecting : Collecting disk output inputs content held) :
    (held :: inputs.map content).map Samples.total =
      (held :: inputs.map content).map Samples.computedTotal := by
  refine List.map_congr_left fun file member => ?_
  rw [List.mem_cons, List.mem_map] at member
  rcases member with rfl | ⟨input, inputMember, rfl⟩
  · rcases collecting.destination with ⟨_, rfl⟩ | read
    · rfl
    · exact Samples.total_of_ofContents read
  · exact Samples.total_of_ofContents (collecting.readable input inputMember)

end Collecting

theorem textTotal_run {samples : Samples} (unrefused : disk.refusals disk.clock = none)
    (readable : disk.readSamples output = .ok samples) :
    ((textTotal output : DiskM _).run disk).1 = samples.total := by
  rw [readSamples_eq unrefused] at readable
  rw [textTotal, run_bind (readTextFile_run unrefused output), readable]
  rfl

/-- Merging text files into a destination that is missing or a text file itself adds up all counts:
key by key, in total and in whatever order.  The merged set must have so few entries that their
numbers are 64-bit numbers, as are the sizes of all collections in memory. -/
theorem mergeAll_adds_up (session : Session) {inputs : List String} {start : Samples}
    {content : String → Samples} (writable : disk.Writable output)
    (initial : (disk.isFile output = false ∧ start = {}) ∨ disk.readSamples output = .ok start)
    (readable : ∀ input ∈ inputs, disk.readSamples input = .ok (content input))
    (other : ∀ input ∈ inputs, disk.locate input ≠ disk.locate output)
    (nonempty : inputs ≠ [])
    (sized : ((inputs.map content).foldl Samples.merge start).WordSized) :
    let files := start :: inputs.map content
    ∃ final merged,
      (session.mergeAll inputs output).run disk = (inputs.map fun _ => .ok (), final) ∧
      final.readSamples output = .ok merged ∧
      (∀ pair : AddressPair, merged.ranges[pair]? =
        satSum? (files.filterMap fun file => file.ranges[pair]?)) ∧
      (∀ address : UInt64, merged.addresses[address]? =
        satSum? (files.filterMap fun file => file.addresses[address]?)) ∧
      (∀ pair : AddressPair, merged.branches[pair]? =
        satSum? (files.filterMap fun file => file.branches[pair]?)) ∧
      ((textTotal output : DiskM _).run final).1 = satSum (files.map Samples.total) ∧
      ∀ reordered, inputs.Perm reordered →
        ((session.mergeAll reordered output).run disk).2.contents output =
          final.contents output := by
  intro files
  simp only [readSamples_eq (writable.unrefused _)] at initial readable
  have collecting : Collecting disk output inputs content start :=
    ⟨writable, initial, readable, other⟩
  obtain ⟨final, run, finalWritable, finalContents⟩ := collecting.mergeAll session sized
  have written := finalContents nonempty
  have finalRead : final.readSamples output =
      .ok ((inputs.map content).foldl Samples.merge start).withTotal := by
    rw [readSamples_eq (finalWritable.unrefused _), written, Samples.ofContents_render sized]
  refine ⟨final, _, run, finalRead, fun pair => ?_, fun address => ?_, fun pair => ?_, ?_, ?_⟩
  · exact Samples.lookup_foldl_merge start (inputs.map content) (·.ranges[pair]?)
      fun left right => OrderedMap.getElem?_unionWith_eq_merge satAdd left.ranges right.ranges pair
  · exact Samples.lookup_foldl_merge start (inputs.map content) (·.addresses[address]?)
      fun left right =>
        OrderedMap.getElem?_unionWith_eq_merge satAdd left.addresses right.addresses address
  · exact Samples.lookup_foldl_merge start (inputs.map content) (·.branches[pair]?)
      fun left right =>
        OrderedMap.getElem?_unionWith_eq_merge satAdd left.branches right.branches pair
  · rw [textTotal_run (finalWritable.unrefused _) finalRead, collecting.total_eq]
    exact Samples.computedTotal_foldl_merge start (inputs.map content)
  · intro reordered same
    have sameMerged := Samples.foldl_merge_perm start (same.map content)
    have reorderedNonempty : reordered ≠ [] := by
      rintro rfl
      exact nonempty same.eq_nil
    rw [sameMerged] at sized
    obtain ⟨reached, reorderedRun, _, reachedContents⟩ :=
      (collecting.perm same).mergeAll session sized
    rw [reorderedRun, written, reachedContents reorderedNonempty, sameMerged]

/-- Samples with one count at the limit. -/
def crowded : Samples := Samples.withTotal
  { ranges := (∅ : OrderedMap AddressPair UInt64).insert ⟨0x1000, 0x1008⟩ 3
    addresses := (∅ : OrderedMap UInt64 UInt64).insert 0x1004 countLimit }

def sparse : Samples := Samples.withTotal
  { ranges := (∅ : OrderedMap AddressPair UInt64).insert ⟨0x1000, 0x1008⟩ 4
    branches := (∅ : OrderedMap AddressPair UInt64).insert ⟨0x1008, 0x2000⟩ 1 }

def crowdedDisk : Disk where
  entries := (((∅ : OrderedMap (List String) Entry).insert
    ["sum"] (.file crowded.render.toUTF8)).insert
    ["again"] (.file crowded.render.toUTF8)).insert
    ["rest"] (.file sparse.render.toUTF8)

theorem mergeAll_adds_up_crowded :
    let content := fun input => if input = "again" then crowded else sparse
    crowdedDisk.Writable "sum" ∧ crowdedDisk.readSamples "sum" = .ok crowded ∧
      (∀ input ∈ ["again", "rest"], crowdedDisk.readSamples input = .ok (content input)) ∧
      (∀ input ∈ ["again", "rest"], crowdedDisk.locate input ≠ crowdedDisk.locate "sum") ∧
      ((["again", "rest"].map content).foldl Samples.merge crowded).WordSized ∧
      ∃ final merged,
        (mergeAll {} ["again", "rest"] "sum").run crowdedDisk = ([.ok (), .ok ()], final) ∧
        final.readSamples "sum" = .ok merged ∧
        merged.ranges[(⟨0x1000, 0x1008⟩ : AddressPair)]? = some 10 ∧
        merged.addresses[(0x1004 : UInt64)]? = some countLimit ∧
        merged.addresses[(0x1000 : UInt64)]? = none ∧
        ((textTotal "sum" : DiskM _).run final).1 = countLimit := by
  intro content
  have writable : crowdedDisk.Writable "sum" := ⟨fun _ => rfl, rfl, ["sum"], rfl⟩
  have crowdedSized : crowded.WordSized := ⟨by decide, by decide, by decide⟩
  have sparseSized : sparse.WordSized := ⟨by decide, by decide, by decide⟩
  have sumRead : crowdedDisk.readSamples "sum" = .ok crowded := by
    rw [readSamples_eq rfl]
    exact Samples.ofContents_render crowdedSized
  have againRead : crowdedDisk.readSamples "again" = .ok crowded := by
    rw [readSamples_eq rfl]
    exact Samples.ofContents_render crowdedSized
  have restRead : crowdedDisk.readSamples "rest" = .ok sparse := by
    rw [readSamples_eq rfl]
    exact Samples.ofContents_render sparseSized
  have readable : ∀ input ∈ ["again", "rest"],
      crowdedDisk.readSamples input = .ok (content input) := by
    simp only [List.forall_mem_cons]
    exact ⟨againRead, restRead, by simp⟩
  have other : ∀ input ∈ ["again", "rest"],
      crowdedDisk.locate input ≠ crowdedDisk.locate "sum" := by
    have againPlace : crowdedDisk.locate "again" = .ok ["again"] := rfl
    have restPlace : crowdedDisk.locate "rest" = .ok ["rest"] := rfl
    have sumPlace : crowdedDisk.locate "sum" = .ok ["sum"] := rfl
    simp [againPlace, restPlace, sumPlace]
  have sized : ((["again", "rest"].map content).foldl Samples.merge crowded).WordSized :=
    ⟨by decide, by decide, by decide⟩
  obtain ⟨final, merged, run, read, ranges, addresses, _, total, _⟩ :=
    mergeAll_adds_up {} writable (Or.inr sumRead) readable other (by simp) sized
  refine ⟨writable, sumRead, readable, other, sized, final, merged, run, read, ?_, ?_, ?_, ?_⟩
  · rw [ranges]
    decide
  · rw [addresses]
    decide
  · rw [addresses]
    decide
  · rw [total]
    decide

end SampleProfile.Session
