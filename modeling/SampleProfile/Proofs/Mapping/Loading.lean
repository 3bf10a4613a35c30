import SampleProfile.Proofs.Mapping

/-!
# Addresses of a loaded file

A linker gives stretches of a file their link-time addresses, and a process maps stretches of the
same file wherever it likes.  `translate_runtime` says that a byte of the file at its runtime
address is led back to its link-time address as long as neither the segments nor the mappings
overlap.
-/

namespace SampleProfile

namespace LoadSegment

variable {segments reordered : List LoadSegment} {segment other : LoadSegment} {offset : UInt64}

/-- The end of the segment in the file. -/
def fileStop (segment : LoadSegment) : Nat :=
  segment.fileOffset.toNat + segment.fileSize.toNat

/-- A byte of the file belongs to the segment. -/
def Holds (segment : LoadSegment) (offset : UInt64) : Prop :=
  segment.fileOffset.toNat ≤ offset.toNat ∧ offset.toNat < segment.fileStop

instance (segment : LoadSegment) (offset : UInt64) : Decidable (segment.Holds offset) :=
  inferInstanceAs (Decidable (_ ∧ _))

/-- Two segments have no byte of the file in common. -/
def Apart (left right : LoadSegment) : Prop :=
  left.fileStop ≤ right.fileOffset.toNat ∨ right.fileStop ≤ left.fileOffset.toNat

instance (left right : LoadSegment) : Decidable (left.Apart right) :=
  inferInstanceAs (Decidable (_ ∨ _))

/-- Segments as a linker lays them out: they end within the address space, and no two share a byte
of the file. -/
structure LaidOut (segments : List LoadSegment) : Prop where
  bounded : ∀ segment ∈ segments, segment.address.toNat + segment.fileSize.toNat ≤ UInt64.size
  apart : ∀ left ∈ segments, ∀ right ∈ segments, left ≠ right → left.Apart right

theorem containsOffset_iff : segment.containsOffset offset ↔ segment.Holds offset := by
  rw [containsOffset, Holds, fileStop, Bool.and_eq_true, decide_eq_true_eq, decide_eq_true_eq,
    UInt64.le_iff_toNat_le, UInt64.lt_iff_toNat_lt]
  refine and_congr_right fun above => ?_
  rw [UInt64.toNat_sub_of_le _ _ (UInt64.le_iff_toNat_le.mpr above)]
  omega

theorem Holds.eq_of_apart (laidOut : LaidOut segments) (member : segment ∈ segments)
    (otherMember : other ∈ segments) (holds : segment.Holds offset)
    (otherHolds : other.Holds offset) : segment = other := by
  by_contra different
  obtain ⟨above, below⟩ := holds
  obtain ⟨otherAbove, otherBelow⟩ := otherHolds
  rcases laidOut.apart segment member other otherMember different with before | after
  · omega
  · omega

theorem Holds.toNat_sub (holds : segment.Holds offset) :
    (offset - segment.fileOffset).toNat = offset.toNat - segment.fileOffset.toNat :=
  UInt64.toNat_sub_of_le _ _ (UInt64.le_iff_toNat_le.mpr holds.1)

theorem toNat_address_add (laidOut : LaidOut segments) (member : segment ∈ segments)
    (holds : segment.Holds offset) :
    (segment.address + (offset - segment.fileOffset)).toNat =
      segment.address.toNat + (offset.toNat - segment.fileOffset.toNat) := by
  have bounded := laidOut.bounded segment member
  rw [UInt64.toNat_add, holds.toNat_sub]
  obtain ⟨above, below⟩ := holds
  rw [fileStop] at below
  rw [UInt64.size] at bounded
  exact Nat.mod_eq_of_lt (by omega)

/-- The segment that has a byte of the file gives it its address. -/
theorem translate_eq (laidOut : LaidOut segments) (member : segment ∈ segments)
    (holds : segment.Holds offset) :
    translate segments offset = .ok (segment.address + (offset - segment.fileOffset)) := by
  rw [translate]
  cases found : segments.find? (·.containsOffset offset) with
  | none =>
      have missed := List.find?_eq_none.mp found segment member
      exact absurd (containsOffset_iff.mpr holds) missed
  | some other =>
      have otherMember := List.mem_of_find?_eq_some found
      have otherContains : other.containsOffset offset := by simpa using List.find?_some found
      have otherHolds := containsOffset_iff.mp otherContains
      obtain rfl := holds.eq_of_apart laidOut member otherMember otherHolds
      dsimp only
      rw [exactSum, exactWord_eq_ok_iff, toNat_address_add laidOut member holds, holds.toNat_sub]

theorem LaidOut.perm (laidOut : LaidOut segments) (same : segments.Perm reordered) :
    LaidOut reordered where
  bounded segment member := laidOut.bounded segment (same.mem_iff.mpr member)
  apart left leftMember right rightMember :=
    laidOut.apart left (same.mem_iff.mpr leftMember) right (same.mem_iff.mpr rightMember)

end LoadSegment

namespace Mapping

variable {added reordered : List Mapping} {mapping other : Mapping} {offset address : UInt64}

/-- The end of the mapping in memory. -/
def stop (mapping : Mapping) : Nat :=
  mapping.start.toNat + mapping.length.toNat

/-- A byte of the file is mapped. -/
def Covers (mapping : Mapping) (offset : UInt64) : Prop :=
  mapping.pageOffset.toNat ≤ offset.toNat ∧
    offset.toNat < mapping.pageOffset.toNat + mapping.length.toNat

instance (mapping : Mapping) (offset : UInt64) : Decidable (mapping.Covers offset) :=
  inferInstanceAs (Decidable (_ ∧ _))

/-- The runtime address of a byte of the file. -/
def addressOf (mapping : Mapping) (offset : UInt64) : UInt64 :=
  mapping.start + (offset - mapping.pageOffset)

/-- Two mappings have no address in common. -/
def Apart (left right : Mapping) : Prop :=
  left.stop ≤ right.start.toNat ∨ right.stop ≤ left.start.toNat

instance (left right : Mapping) : Decidable (left.Apart right) :=
  inferInstanceAs (Decidable (_ ∨ _))

/-- Mappings of one process as its memory can hold them side by side: none is empty, they end within
the address space, and no two share an address. -/
structure SideBySide (added : List Mapping) : Prop where
  nonempty : ∀ mapping ∈ added, mapping.length ≠ 0
  bounded : ∀ mapping ∈ added, mapping.stop ≤ UInt64.size
  apart : ∀ left ∈ added, ∀ right ∈ added, left ≠ right → left.Apart right

/-- A mapping answers for the addresses in it. -/
theorem fileOffset?_isSome :
    (mapping.fileOffset? address).isSome ↔
      mapping.start.toNat ≤ address.toNat ∧ address.toNat < mapping.stop := by
  have inside : mapping.start ≤ address ∧ address - mapping.start < mapping.length ↔
      mapping.start.toNat ≤ address.toNat ∧ address.toNat < mapping.stop := by
    rw [stop, UInt64.le_iff_toNat_le, UInt64.lt_iff_toNat_lt]
    refine and_congr_right fun above => ?_
    rw [UInt64.toNat_sub_of_le _ _ (UInt64.le_iff_toNat_le.mpr above)]
    omega
  rw [fileOffset?, ← inside]
  split
  · next within => simp [within]
  · next outside => simp only [outside, Option.isSome_none, Bool.false_eq_true]

theorem toNat_addressOf (bounded : mapping.stop ≤ UInt64.size) (covers : mapping.Covers offset) :
    (mapping.addressOf offset).toNat =
      mapping.start.toNat + (offset.toNat - mapping.pageOffset.toNat) := by
  obtain ⟨above, below⟩ := covers
  rw [stop, UInt64.size] at bounded
  rw [addressOf, UInt64.toNat_add,
    UInt64.toNat_sub_of_le _ _ (UInt64.le_iff_toNat_le.mpr above)]
  exact Nat.mod_eq_of_lt (by omega)

theorem fileOffset?_addressOf (bounded : mapping.stop ≤ UInt64.size)
    (covers : mapping.Covers offset) :
    mapping.fileOffset? (mapping.addressOf offset) = some (.ok offset) := by
  have exactAddress := toNat_addressOf bounded covers
  obtain ⟨above, below⟩ := covers
  have inside : (mapping.fileOffset? (mapping.addressOf offset)).isSome := by
    rw [fileOffset?_isSome, exactAddress, stop]
    omega
  have distance : (mapping.addressOf offset - mapping.start).toNat =
      offset.toNat - mapping.pageOffset.toNat := by
    rw [addressOf, UInt64.add_comm, UInt64.add_sub_cancel]
    exact UInt64.toNat_sub_of_le _ _ (UInt64.le_iff_toNat_le.mpr above)
  rw [fileOffset?] at inside ⊢
  split at inside
  · next within =>
    rw [if_pos within, Option.some_inj, exactSum, exactWord_eq_ok_iff, distance,
      Nat.sub_add_cancel above]
  · cases inside

/-- Of mappings added several times the last one stands, if no other one has its start. -/
theorem exists_stands_of_unique (member : mapping ∈ added)
    (unique : ∀ other ∈ added, other.start = mapping.start → other = mapping) :
    ∃ later, mapping.Stands added later := by
  induction added with
  | nil => exact absurd member List.not_mem_nil
  | cons first rest inductionHypothesis =>
      rw [List.forall_mem_cons] at unique
      by_cases again : mapping ∈ rest
      · obtain ⟨later, stands⟩ := inductionHypothesis again unique.2
        exact ⟨later, stands_cons.mpr (Or.inr stands)⟩
      · have newest : mapping = first := (List.mem_cons.mp member).resolve_right again
        subst newest
        refine ⟨rest, stands_cons.mpr (Or.inl ⟨rfl, rfl, ?_⟩)⟩
        intro other otherMember same
        exact again (unique.2 other otherMember same ▸ otherMember)

namespace SideBySide

theorem eq_of_start_eq (sideBySide : SideBySide added) (member : mapping ∈ added)
    (otherMember : other ∈ added) (same : other.start = mapping.start) : other = mapping := by
  by_contra different
  have lengthNe := sideBySide.nonempty mapping member
  have otherLengthNe := sideBySide.nonempty other otherMember
  have lengthPos := UInt64.pos_iff_ne_zero.mpr lengthNe
  have otherLengthPos := UInt64.pos_iff_ne_zero.mpr otherLengthNe
  rw [UInt64.lt_iff_toNat_lt, UInt64.toNat_zero] at lengthPos otherLengthPos
  rcases sideBySide.apart other otherMember mapping member different with before | after
  · rw [stop, same] at before
    omega
  · rw [stop, same] at after
    omega

/-- No mapping is replaced by another one. -/
theorem exists_stands (sideBySide : SideBySide added) (member : mapping ∈ added) :
    ∃ later, mapping.Stands added later :=
  exists_stands_of_unique member fun _ otherMember same =>
    sideBySide.eq_of_start_eq member otherMember same

/-- An address of one mapping lies in no other one. -/
theorem fileOffset?_eq_none (sideBySide : SideBySide added) (member : mapping ∈ added)
    (otherMember : other ∈ added) (different : other ≠ mapping)
    (inside : (mapping.fileOffset? address).isSome) : other.fileOffset? address = none := by
  rw [← Option.not_isSome_iff_eq_none, fileOffset?_isSome]
  rw [fileOffset?_isSome] at inside
  rcases sideBySide.apart other otherMember mapping member different with before | after
  · omega
  · omega

theorem perm (sideBySide : SideBySide added) (same : added.Perm reordered) :
    SideBySide reordered where
  nonempty mapping member := sideBySide.nonempty mapping (same.mem_iff.mpr member)
  bounded mapping member := sideBySide.bounded mapping (same.mem_iff.mpr member)
  apart left leftMember right rightMember :=
    sideBySide.apart left (same.mem_iff.mpr leftMember) right (same.mem_iff.mpr rightMember)

end SideBySide

end Mapping

namespace MappingTable

variable {history : List (Int32 × Mapping)} {process : Int32} {mapping : Mapping}
  {segments : List LoadSegment} {segment : LoadSegment} {offset : UInt64}

/-- The runtime address of a mapped byte is led back to the byte, whichever mapping of the process
has it. -/
theorem fileOffset?_addressOf (sideBySide : Mapping.SideBySide (addedFor process history))
    (member : mapping ∈ addedFor process history) (covers : mapping.Covers offset) :
    (ofHistory history).fileOffset? process (mapping.addressOf offset) = some (.ok offset) := by
  have answers := mapping.fileOffset?_addressOf (sideBySide.bounded mapping member) covers
  obtain ⟨later, stands⟩ := sideBySide.exists_stands member
  obtain ⟨⟨earlier, split⟩, unreplaced⟩ := stands
  refine fileOffset?_ofHistory.mpr ⟨mapping, later, ⟨⟨earlier, split⟩, unreplaced⟩, answers, ?_⟩
  rintro other last ⟨⟨between, laterSplit⟩, _⟩
  have inLater : other ∈ later := by simp [laterSplit]
  have inAdded : other ∈ addedFor process history := by simp [split, inLater]
  have different : other ≠ mapping := fun same => unreplaced other inLater (same ▸ rfl)
  refine sideBySide.fileOffset?_eq_none member inAdded different ?_
  rw [answers]
  rfl

/-- A mapped byte of a segment is led from its runtime address to its link-time address.  Neither
address overflows, and the answer depends neither on the order of segments and mappings nor on the
mappings of other processes. -/
theorem translate_runtime (laidOut : LoadSegment.LaidOut segments)
    (sideBySide : Mapping.SideBySide (addedFor process history))
    (segmentMember : segment ∈ segments) (mappingMember : mapping ∈ addedFor process history)
    (holds : segment.Holds offset) (covers : mapping.Covers offset) :
    let runtime := mapping.start + (offset - mapping.pageOffset)
    let linked := segment.address + (offset - segment.fileOffset)
    (ofHistory history).linkAddress? segments process runtime = some (.ok linked) ∧
      runtime.toNat = mapping.start.toNat + (offset.toNat - mapping.pageOffset.toNat) ∧
      linked.toNat = segment.address.toNat + (offset.toNat - segment.fileOffset.toNat) ∧
      ∀ reordered otherHistory, segments.Perm reordered →
        (addedFor process history).Perm (addedFor process otherHistory) →
        (ofHistory otherHistory).linkAddress? reordered process runtime = some (.ok linked) := by
  intro runtime linked
  have answer : ∀ reordered otherHistory, segments.Perm reordered →
      (addedFor process history).Perm (addedFor process otherHistory) →
      (ofHistory otherHistory).linkAddress? reordered process runtime = some (.ok linked) := by
    intro reordered otherHistory sameSegments sameMappings
    have located : (ofHistory otherHistory).fileOffset? process runtime = some (.ok offset) :=
      fileOffset?_addressOf (sideBySide.perm sameMappings)
        (sameMappings.mem_iff.mp mappingMember) covers
    have translated : LoadSegment.translate reordered offset = .ok linked :=
      LoadSegment.translate_eq (laidOut.perm sameSegments)
        (sameSegments.mem_iff.mp segmentMember) holds
    rw [linkAddress?, located, Option.map_some, ← translated]
    rfl
  refine ⟨answer segments history (List.Perm.refl _) (List.Perm.refl _), ?_, ?_, answer⟩
  · exact Mapping.toNat_addressOf (sideBySide.bounded mapping mappingMember) covers
  · exact LoadSegment.toNat_address_add laidOut segmentMember holds

/-- A process maps a file in two overlapping stretches, the later one first, and another process
maps all of it. -/
def twiceMapped : List (Int32 × Mapping) :=
  [(7, ⟨0x7f0000002000, 0x2000, 0x1000⟩), (8, ⟨0x7f0000000000, 0x3000, 0⟩),
    (7, ⟨0x7f0000000000, 0x2000, 0⟩)]

/-- Code and data of the file, the data listed first. -/
def codeAndData : List LoadSegment :=
  [⟨0x402000, 0x1000, 0x2000⟩, ⟨0x400000, 0, 0x1000⟩]

theorem translate_runtime_twiceMapped :
    let mapping : Mapping := ⟨0x7f0000002000, 0x2000, 0x1000⟩
    let segment : LoadSegment := ⟨0x402000, 0x1000, 0x2000⟩
    LoadSegment.LaidOut codeAndData ∧ Mapping.SideBySide (addedFor 7 twiceMapped) ∧
      segment ∈ codeAndData ∧ mapping ∈ addedFor 7 twiceMapped ∧ segment.Holds 0x1fff ∧
      mapping.Covers 0x1fff ∧
      (ofHistory twiceMapped).linkAddress? codeAndData 7 0x7f0000002fff =
        some (.ok 0x402fff) := by
  intro mapping segment
  have laidOut : LoadSegment.LaidOut codeAndData := ⟨by decide, by decide⟩
  have sideBySide : Mapping.SideBySide (addedFor 7 twiceMapped) :=
    ⟨by decide, by decide, by decide⟩
  have segmentMember : segment ∈ codeAndData := by decide
  have mappingMember : mapping ∈ addedFor 7 twiceMapped := by decide
  have holds : segment.Holds 0x1fff := by decide
  have covers : mapping.Covers 0x1fff := by decide
  have runtime : mapping.start + (0x1fff - mapping.pageOffset) = 0x7f0000002fff := by decide
  have linked : segment.address + (0x1fff - segment.fileOffset) = 0x402fff := by decide
  obtain ⟨translated, _⟩ :=
    translate_runtime laidOut sideBySide segmentMember mappingMember holds covers
  rw [runtime, linked] at translated
  exact ⟨laidOut, sideBySide, segmentMember, mappingMember, holds, covers, translated⟩

end MappingTable

end SampleProfile
