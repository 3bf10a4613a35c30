import SampleProfile.Capture
import SampleProfile.Proofs.Mapping
import SampleProfile.Proofs.Occasions

/-!
# What a capture counts

Only mappings of the binary are followed.  A sample is counted where the last standing mapping of
its process among them places it (`count_samples`).  Mappings of other files are passed over, also
where they cover the same addresses, and `count_remapped` is a sample that is counted although
another file had been mapped there.
-/

namespace SampleProfile.Capture

variable (filter : FileFilter) (segments : List LoadSegment)

/-- The mapping in a record, if it is one of the binary. -/
def focused? : CaptureRecord → Option (Int32 × Mapping)
  | .mapped process mapping path buildId =>
      if filter.accepts path buildId then some (process, mapping) else none
  | .sampled _ _ => none

/-- The mappings of the binary, with the processes that made them. -/
def focused (records : List CaptureRecord) : List (Int32 × Mapping) :=
  records.filterMap (focused? filter)

/-- The link-time address at which a record is counted after the records before it. -/
def target? (before : List CaptureRecord) : CaptureRecord → Option (Except Overflow UInt64)
  | .mapped _ _ _ _ => none
  | .sampled process address =>
      (MappingTable.ofHistory (focused filter before)).linkAddress? segments process address

/-- The link-time addresses of the samples that are counted, in order. -/
def targets (records : List CaptureRecord) : List (Except Overflow UInt64) :=
  (occasions records).filterMap fun occasion => target? filter segments occasion.1 occasion.2

/-- The addresses among targets, apart from those that overflow. -/
def addressesOf (targets : List (Except Overflow UInt64)) : List UInt64 :=
  targets.filterMap Except.toOption

theorem focused_concat (records : List CaptureRecord) (record : CaptureRecord) :
    focused filter (records ++ [record]) =
      focused filter records ++ (focused? filter record).toList := by
  rw [focused, List.filterMap_append]
  cases found : focused? filter record <;> simp [focused, found]

theorem targets_concat (records : List CaptureRecord) (record : CaptureRecord) :
    targets filter segments (records ++ [record]) =
      targets filter segments records ++ (target? filter segments records record).toList := by
  rw [targets, occasions_concat, List.filterMap_append]
  cases found : target? filter segments records record <;> simp [targets, found]

/-! ## Following records -/

/-- Counts one sample at each of several addresses. -/
def tallied (targets : List (Except Overflow UInt64)) :
    Except Overflow (OrderedMap UInt64 UInt64) :=
  targets.foldlM (fun counts target => target >>= countSample counts) ∅

theorem tallied_concat (targets : List (Except Overflow UInt64))
    (last : Except Overflow UInt64) :
    tallied (targets ++ [last]) =
      tallied targets >>= fun counts => last >>= countSample counts := by
  rw [tallied, List.foldlM_append, ← tallied]
  simp

/-- What has been followed is a table of the mappings of the binary and a tally of the samples in
them. -/
def After (records : List CaptureRecord) : Except Overflow Progress := do
  let addresses ← tallied (targets filter segments records)
  return { table := MappingTable.ofHistory (focused filter records), addresses }

theorem after_concat (records : List CaptureRecord) (record : CaptureRecord) :
    After filter segments records >>= (Progress.follow filter segments · record) =
      After filter segments (records ++ [record]) := by
  rw [After, After, focused_concat, targets_concat]
  cases record with
  | mapped process mapping path buildId =>
      by_cases accepted : filter.accepts path buildId <;>
        simp [Progress.follow, focused?, target?, accepted, MappingTable.ofHistory]
  | sampled process address =>
      simp only [bind_assoc, pure_bind, Progress.follow]
      cases located : (MappingTable.ofHistory (focused filter records)).linkAddress? segments
        process address with
      | none => simp [focused?, target?, located]
      | some target => simp [focused?, target?, located, tallied_concat]

theorem foldlM_follow (records : List CaptureRecord) :
    records.foldlM (Progress.follow filter segments) {} = After filter segments records := by
  induction records using List.reverseRecOn with
  | nil => rfl
  | append_singleton records record inductionHypothesis =>
      rw [List.foldlM_append, inductionHypothesis, ← after_concat]
      simp

theorem count_eq_ok_iff {records : List CaptureRecord} {samples : Samples} :
    count filter segments records = .ok samples ↔
      ∃ addresses, tallied (targets filter segments records) = .ok addresses ∧
        Samples.withTotal { addresses } = samples := by
  rw [count, foldlM_follow, After]
  simp only [bind_assoc, pure_bind, bind_eq_ok_iff]
  refine exists_congr fun addresses => and_congr_right fun _ => ?_
  exact ⟨Except.ok.inj, congrArg Except.ok⟩

/-! ## Tallies -/

/-- A tally has at each address how often it occurs. -/
def Tally (counts : OrderedMap UInt64 UInt64) (addresses : List UInt64) : Prop :=
  ∀ address : UInt64, (counts[address]?).map UInt64.toNat =
    if address ∈ addresses then some (addresses.count address) else none

section Tally

variable {counts final : OrderedMap UInt64 UInt64} {addresses : List UInt64} {address : UInt64}
  {targets : List (Except Overflow UInt64)}

theorem Tally.toNat_getD (tally : Tally counts addresses) (address : UInt64) :
    (counts.getD address 0).toNat = addresses.count address := by
  have held := tally address
  rw [Std.ExtTreeMap.getD_eq_getD_getElem?]
  by_cases known : address ∈ addresses
  · rw [if_pos known, Option.map_eq_some_iff] at held
    obtain ⟨samples, found, value⟩ := held
    rw [found, Option.getD_some, value]
  · rw [if_neg known, Option.map_eq_none_iff] at held
    rw [held, List.count_eq_zero.mpr known]
    rfl

theorem Tally.count_lt (tally : Tally counts addresses) (address : UInt64) :
    addresses.count address < UInt64.size := by
  rw [← tally.toNat_getD]
  exact UInt64.toNat_lt _

/-- One more sample is counted unless there are as many as a word can tell. -/
theorem Tally.countSample_eq_ok_iff (tally : Tally counts addresses) :
    countSample counts address = .ok final ↔
      ∃ samples, samples.toNat = addresses.count address + 1 ∧
        counts.insert address samples = final := by
  rw [countSample, exactSum, tally.toNat_getD, UInt64.toNat_one, bind_eq_ok_iff]
  refine exists_congr fun samples => and_congr exactWord_eq_ok_iff ?_
  exact ⟨Except.ok.inj, congrArg Except.ok⟩

theorem Tally.insert (tally : Tally counts addresses) {samples : UInt64}
    (value : samples.toNat = addresses.count address + 1) :
    Tally (counts.insert address samples) (addresses ++ [address]) := by
  intro tested
  rw [Std.ExtTreeMap.getElem?_insert]
  simp only [Std.LawfulEqCmp.compare_eq_iff_eq]
  by_cases same : address = tested
  · subst same
    simp [value]
  · simp [same, Ne.symm same, tally tested, List.count_append]

theorem tally_of_tallied (finished : tallied targets = .ok counts) :
    (∀ target ∈ targets, target.isOk) ∧ Tally counts (addressesOf targets) := by
  induction targets using List.reverseRecOn generalizing counts with
  | nil =>
      cases finished
      exact ⟨by simp, fun address => by simp [addressesOf]⟩
  | append_singleton targets last inductionHypothesis =>
      rw [tallied_concat, bind_eq_ok_iff] at finished
      obtain ⟨before, started, counted⟩ := finished
      obtain ⟨address, rfl, counted⟩ := bind_eq_ok_iff.mp counted
      obtain ⟨allOk, tally⟩ := inductionHypothesis started
      obtain ⟨samples, value, rfl⟩ := tally.countSample_eq_ok_iff.mp counted
      constructor
      · rw [List.forall_mem_append, List.forall_mem_singleton]
        exact ⟨allOk, rfl⟩
      · simpa [addressesOf, Except.toOption] using tally.insert value

theorem exists_tallied (allOk : ∀ target ∈ targets, target.isOk)
    (few : ∀ address, (addressesOf targets).count address < UInt64.size) :
    ∃ counts, tallied targets = .ok counts := by
  induction targets using List.reverseRecOn with
  | nil => exact ⟨∅, rfl⟩
  | append_singleton targets last inductionHypothesis =>
      obtain ⟨earlierOk, lastOk⟩ := List.forall_mem_append.mp allOk
      cases last with
      | error fault => simp [Except.isOk, Except.toBool] at lastOk
      | ok address =>
          have split : addressesOf (targets ++ [.ok address]) =
              addressesOf targets ++ [address] := by
            simp [addressesOf, Except.toOption]
          rw [split] at few
          have earlierFew (tested : UInt64) :
              (addressesOf targets).count tested < UInt64.size := by
            have together := few tested
            rw [List.count_append] at together
            omega
          obtain ⟨before, started⟩ := inductionHypothesis earlierOk earlierFew
          have tally := (tally_of_tallied started).2
          have fits : (addressesOf targets).count address + 1 < UInt64.size := by
            simpa using few address
          have value := UInt64.toNat_ofNat_of_lt' fits
          rw [tallied_concat, started]
          exact ⟨_, tally.countSample_eq_ok_iff.mpr ⟨_, value, rfl⟩⟩

end Tally

/-! ## Samples that are counted -/

/-- Whether a record matters: it is a sample, or a mapping of the binary. -/
def concerns : CaptureRecord → Bool
  | .mapped _ _ path buildId => filter.accepts path buildId
  | .sampled _ _ => true

theorem foldlM_follow_filter (records : List CaptureRecord) (progress : Progress) :
    (records.filter (concerns filter)).foldlM (Progress.follow filter segments) progress =
      records.foldlM (Progress.follow filter segments) progress := by
  induction records generalizing progress with
  | nil => rfl
  | cons record rest inductionHypothesis =>
      by_cases concerned : concerns filter record
      · rw [List.filter_cons_of_pos concerned, List.foldlM_cons, List.foldlM_cons]
        simp only [inductionHypothesis]
      · have passedOver : Progress.follow filter segments progress record = .ok progress := by
          cases record with
          | mapped process mapping path buildId =>
              exact if_neg concerned
          | sampled process address => simp [concerns] at concerned
        rw [List.filter_cons_of_neg concerned, inductionHypothesis, List.foldlM_cons, passedOver]
        rfl

/-- At each address as many samples are counted as have it for their target, unless the program
stops at a target that overflows or at a count that does.  A sample has a target when a mapping of
the binary stands in its process and contains its runtime address; the last such mapping gives the
target.  Mappings of other files do not matter. -/
theorem count_samples (records : List CaptureRecord) :
    let targets := targets filter segments records
    ((∃ samples, count filter segments records = .ok samples) ↔
        (∀ target ∈ targets, target.isOk) ∧
          ∀ address, (addressesOf targets).count address < UInt64.size) ∧
      (∀ samples, count filter segments records = .ok samples → ∀ address : UInt64,
        (samples.addresses[address]?).map UInt64.toNat =
          if address ∈ addressesOf targets then
            some ((addressesOf targets).count address)
          else
            none) ∧
      (∀ before process address,
        let added := MappingTable.addedFor process (focused filter before)
        ((target? filter segments before (.sampled process address)).isSome ↔
          ∃ (mapping : Mapping) (later : List Mapping),
            mapping.Stands added later ∧ (mapping.fileOffset? address).isSome) ∧
        ∀ target, target? filter segments before (.sampled process address) = some target ↔
          ∃ (mapping : Mapping) (later : List Mapping) (offset : Except Overflow UInt64),
            mapping.Stands added later ∧ mapping.fileOffset? address = some offset ∧
            (∀ (other : Mapping) (last : List Mapping), other.Stands later last →
              other.fileOffset? address = none) ∧
            offset >>= LoadSegment.translate segments = target) ∧
      count filter segments (records.filter (concerns filter)) =
        count filter segments records := by
  refine ⟨⟨?_, ?_⟩, fun samples finished => ?_,
    fun before process address => ⟨?_, fun target => ?_⟩, ?_⟩
  · intro finished
    obtain ⟨samples, counted⟩ := finished
    obtain ⟨addresses, started, _⟩ := (count_eq_ok_iff filter segments).mp counted
    obtain ⟨allOk, tally⟩ := tally_of_tallied started
    exact ⟨allOk, tally.count_lt⟩
  · intro fits
    obtain ⟨addresses, started⟩ := exists_tallied fits.1 fits.2
    exact ⟨_, (count_eq_ok_iff filter segments).mpr ⟨addresses, started, rfl⟩⟩
  · obtain ⟨addresses, started, rfl⟩ := (count_eq_ok_iff filter segments).mp finished
    exact (tally_of_tallied started).2
  · rw [target?, MappingTable.linkAddress?, Option.isSome_map]
    exact MappingTable.fileOffset?_ofHistory_isSome
  · rw [target?, MappingTable.linkAddress?, Option.map_eq_some_iff]
    simp only [MappingTable.fileOffset?_ofHistory]
    constructor
    · intro found
      obtain ⟨offset, ⟨mapping, later, stands, inside, others⟩, translated⟩ := found
      exact ⟨mapping, later, offset, stands, inside, others, translated⟩
    · intro found
      obtain ⟨mapping, later, offset, stands, inside, others, translated⟩ := found
      exact ⟨offset, ⟨mapping, later, stands, inside, others⟩, translated⟩
  · rw [count, count, foldlM_follow_filter]

/-- The files named `app`, with any build-id. -/
def appFilter : FileFilter where
  pattern := (Pattern.parse (Focus.patternFor "app")).toOption.getD .empty
  buildId := ""

/-- Another file is mapped over the binary, and a sample there still counts for the binary. -/
theorem count_remapped :
    let mapping : Mapping := ⟨0x1000, 0x1000, 0⟩
    let records : List CaptureRecord := [.mapped 42 mapping "/bin/app" none,
      .mapped 42 mapping "/lib/other" none, .sampled 42 0x1800]
    appFilter.accepts "/bin/app" none ∧ ¬ appFilter.accepts "/lib/other" none ∧
      mapping.fileOffset? 0x1800 = some (.ok 0x800) ∧
      (count appFilter [] records).toOption.map (·.addresses[(0x800 : UInt64)]?) =
        some (some 1) := by
  intro mapping records
  have located : mapping.fileOffset? 0x1800 = some (.ok 0x800) := by
    rw [Mapping.fileOffset?, if_pos (by decide), Option.some_inj, exactSum, exactWord_eq_ok_iff]
    decide
  exact ⟨by decide +kernel, by decide +kernel, located, by decide +kernel⟩

end SampleProfile.Capture
