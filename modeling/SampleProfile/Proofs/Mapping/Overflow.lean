import SampleProfile.Proofs.Mapping.Loading

/-!
# Addresses that overflow

The ranges of mappings and segments are checked before anything is subtracted, but nothing checks
what is added then: the page offset of a mapping and the address of a segment come from the files
as they are.  `conversion_exact_iff_fits` says which mappings and segments never overflow.  A
program that does not stop on an overflow goes on with a wrong address in exactly the other cases.
-/

namespace SampleProfile

/-! ## Moving a stretch of addresses -/

/-- A stretch of places, as far as they exist, is moved to words exactly if its end is. -/
theorem forall_moved_lt_iff (source length target : UInt64) :
    (∀ place : UInt64, source.toNat ≤ place.toNat → place.toNat < source.toNat + length.toNat →
        target.toNat + (place.toNat - source.toNat) < UInt64.size) ↔
      target.toNat + min length.toNat (UInt64.size - source.toNat) ≤ UInt64.size := by
  have sourceLt : source.toNat < UInt64.size := source.toNat_lt
  have targetLt : target.toNat < UInt64.size := target.toNat_lt
  constructor
  · intro moved
    by_cases empty : length.toNat = 0
    · rw [empty, Nat.zero_min]
      exact Nat.le_of_lt targetLt
    · -- The last place of the stretch is the one that is moved farthest.
      let last := source.toNat + min length.toNat (UInt64.size - source.toNat) - 1
      have lastLt : last < UInt64.size := by omega
      have lastEq : (UInt64.ofNat last).toNat = last := UInt64.toNat_ofNat_of_lt' lastLt
      have farthest := moved (UInt64.ofNat last) (by omega) (by omega)
      omega
  · intro fits place above below
    have placeLt : place.toNat < UInt64.size := place.toNat_lt
    omega

theorem toNat_add_eq_iff {left right : UInt64} :
    (left + right).toNat = left.toNat + right.toNat ↔
      left.toNat + right.toNat < UInt64.size := by
  rw [UInt64.toNat_add]
  exact Nat.mod_eq_iff_lt (by decide)

/-! ## Mappings -/

namespace Mapping

variable {mapping : Mapping} {address : UInt64}

/-- The file offset of an address of the mapping, which may lie above all offsets. -/
def exactOffset (mapping : Mapping) (address : UInt64) : Nat :=
  mapping.pageOffset.toNat + (address.toNat - mapping.start.toNat)

/-- The file offset that a program goes on with that leaves the overflow unnoticed. -/
def wrappedOffset (mapping : Mapping) (address : UInt64) : UInt64 :=
  address - mapping.start + mapping.pageOffset

/-- The part of the mapping that has addresses has file offsets. -/
def Fits (mapping : Mapping) : Prop :=
  mapping.pageOffset.toNat + min mapping.length.toNat (UInt64.size - mapping.start.toNat) ≤
    UInt64.size

instance (mapping : Mapping) : Decidable mapping.Fits :=
  inferInstanceAs (Decidable (_ ≤ _))

theorem toNat_sub_start (above : mapping.start.toNat ≤ address.toNat) :
    (address - mapping.start).toNat = address.toNat - mapping.start.toNat :=
  UInt64.toNat_sub_of_le _ _ (UInt64.le_iff_toNat_le.mpr above)

theorem fileOffset?_eq (mapping : Mapping) (address : UInt64) :
    mapping.fileOffset? address =
      if mapping.start.toNat ≤ address.toNat ∧ address.toNat < mapping.stop then
        some (exactWord (mapping.exactOffset address))
      else
        none := by
  by_cases inside : mapping.start.toNat ≤ address.toNat ∧ address.toNat < mapping.stop
  · have answers := fileOffset?_isSome.mpr inside
    rw [if_pos inside, exactOffset, Nat.add_comm, ← toNat_sub_start inside.1]
    rw [fileOffset?] at answers ⊢
    split at answers
    · next within => rw [if_pos within, exactSum]
    · cases answers
  · rw [if_neg inside, ← Option.not_isSome_iff_eq_none, fileOffset?_isSome]
    exact inside

theorem fileOffset?_ne_error_iff
    (inside : mapping.start.toNat ≤ address.toNat ∧ address.toNat < mapping.stop) :
    mapping.fileOffset? address ≠ some (.error .addition) ↔
      mapping.exactOffset address < UInt64.size := by
  rw [fileOffset?_eq, if_pos inside, Ne, Option.some_inj]
  exact exactWord_ne_error_iff

theorem toNat_wrappedOffset_eq_iff (above : mapping.start.toNat ≤ address.toNat) :
    (mapping.wrappedOffset address).toNat = mapping.exactOffset address ↔
      mapping.exactOffset address < UInt64.size := by
  rw [wrappedOffset, exactOffset, Nat.add_comm mapping.pageOffset.toNat, ← toNat_sub_start above]
  exact toNat_add_eq_iff

theorem forall_fileOffset?_ne_error_iff :
    (∀ address, mapping.fileOffset? address ≠ some (.error .addition)) ↔ mapping.Fits := by
  rw [Fits, ← forall_moved_lt_iff]
  constructor
  · intro unstopped address above below
    exact (fileOffset?_ne_error_iff ⟨above, below⟩).mp (unstopped address)
  · intro bounded address
    by_cases inside : mapping.start.toNat ≤ address.toNat ∧ address.toNat < mapping.stop
    · exact (fileOffset?_ne_error_iff inside).mpr (bounded address inside.1 inside.2)
    · rw [fileOffset?_eq, if_neg inside]
      exact (Option.some_ne_none _).symm

end Mapping

/-! ## Segments -/

namespace LoadSegment

variable {segments : List LoadSegment} {segment : LoadSegment} {offset : UInt64}

/-- The link-time address of a file offset, which may lie above all addresses. -/
def exactAddress (segments : List LoadSegment) (offset : UInt64) : Nat :=
  match segments.find? fun segment => segment.Holds offset with
  | some segment => segment.address.toNat + (offset.toNat - segment.fileOffset.toNat)
  | none => offset.toNat

/-- The link-time address that a program goes on with that leaves the overflow unnoticed. -/
def wrappedAddress (segments : List LoadSegment) (offset : UInt64) : UInt64 :=
  match segments.find? fun segment => segment.Holds offset with
  | some segment => segment.address + (offset - segment.fileOffset)
  | none => offset

/-- The part of the segment that has file offsets has addresses. -/
def Fits (segment : LoadSegment) : Prop :=
  segment.address.toNat + min segment.fileSize.toNat (UInt64.size - segment.fileOffset.toNat) ≤
    UInt64.size

instance (segment : LoadSegment) : Decidable segment.Fits :=
  inferInstanceAs (Decidable (_ ≤ _))

theorem holds_of_find?
    (found : segments.find? (fun segment => segment.Holds offset) = some segment) :
    segment.Holds offset := by
  simpa using List.find?_some found

theorem translate_eq_exactWord (segments : List LoadSegment) (offset : UInt64) :
    translate segments offset = exactWord (exactAddress segments offset) := by
  have same : (fun segment : LoadSegment => segment.containsOffset offset) =
      fun segment => decide (segment.Holds offset) := by
    funext segment
    rw [Bool.eq_iff_iff, containsOffset_iff, decide_eq_true_eq]
  rw [translate, same, exactAddress]
  cases found : segments.find? fun segment => segment.Holds offset with
  | none => exact (exactWord_toNat offset).symm
  | some segment =>
      dsimp only
      rw [exactSum, (holds_of_find? found).toNat_sub]

theorem translate_ne_error_iff :
    translate segments offset ≠ .error .addition ↔
      exactAddress segments offset < UInt64.size := by
  rw [translate_eq_exactWord]
  exact exactWord_ne_error_iff

theorem toNat_wrappedAddress_eq_iff :
    (wrappedAddress segments offset).toNat = exactAddress segments offset ↔
      exactAddress segments offset < UInt64.size := by
  rw [wrappedAddress, exactAddress]
  cases found : segments.find? fun segment => segment.Holds offset with
  | none => exact iff_of_true rfl offset.toNat_lt
  | some segment =>
      dsimp only
      rw [← (holds_of_find? found).toNat_sub]
      exact toNat_add_eq_iff

theorem exactAddress_cons (holds : segment.Holds offset) :
    exactAddress (segment :: segments) offset =
      segment.address.toNat + (offset.toNat - segment.fileOffset.toNat) := by
  rw [exactAddress, List.find?_cons_of_pos (by simpa using holds)]

theorem exactAddress_lt (fits : ∀ segment ∈ segments, segment.Fits) (offset : UInt64) :
    exactAddress segments offset < UInt64.size := by
  rw [exactAddress]
  cases found : segments.find? fun segment => segment.Holds offset with
  | none => exact offset.toNat_lt
  | some segment =>
      have holds := holds_of_find? found
      have bounded := fits segment (List.mem_of_find?_eq_some found)
      rw [Fits, ← forall_moved_lt_iff] at bounded
      exact bounded offset holds.1 holds.2

theorem forall_translate_ne_error_iff :
    (∀ reordered, segments.Perm reordered →
        ∀ offset, translate reordered offset ≠ .error .addition) ↔
      ∀ segment ∈ segments, segment.Fits := by
  constructor
  · intro unstopped segment member
    rw [Fits, ← forall_moved_lt_iff]
    intro offset above below
    -- With the segment on top it is the one that answers.
    have first := unstopped (segment :: segments.erase segment) (List.perm_cons_erase member) offset
    rw [translate_ne_error_iff, exactAddress_cons ⟨above, below⟩] at first
    exact first
  · intro fits reordered same offset
    rw [translate_ne_error_iff]
    exact exactAddress_lt (fun segment member => fits segment (same.mem_iff.mpr member)) offset

end LoadSegment

/-! ## Both conversions -/

/-- An address of a mapping becomes its exact file offset, and a file offset its exact link-time
address, where these are words; else the program stops.  No address of a mapping stops it exactly
if the mapping fits, and no file offset does, in any order of the segments, exactly if all of them
fit.  A program that does not stop gets the exact numbers where it would not have stopped. -/
theorem conversion_exact_iff_fits (mapping : Mapping) (segments : List LoadSegment) :
    (∀ address, mapping.fileOffset? address =
        if mapping.start.toNat ≤ address.toNat ∧ address.toNat < mapping.stop then
          some (if mapping.exactOffset address < UInt64.size then
            .ok (UInt64.ofNat (mapping.exactOffset address)) else .error .addition)
        else
          none) ∧
      ((∀ address, mapping.fileOffset? address ≠ some (.error .addition)) ↔ mapping.Fits) ∧
      (∀ offset, LoadSegment.translate segments offset =
        if LoadSegment.exactAddress segments offset < UInt64.size then
          .ok (UInt64.ofNat (LoadSegment.exactAddress segments offset))
        else
          .error .addition) ∧
      ((∀ reordered, segments.Perm reordered → ∀ offset,
          LoadSegment.translate reordered offset ≠ .error .addition) ↔
        ∀ segment ∈ segments, segment.Fits) ∧
      (∀ address, mapping.start.toNat ≤ address.toNat ∧ address.toNat < mapping.stop →
        ((mapping.wrappedOffset address).toNat = mapping.exactOffset address ↔
          mapping.fileOffset? address ≠ some (.error .addition))) ∧
      ∀ offset, (LoadSegment.wrappedAddress segments offset).toNat =
          LoadSegment.exactAddress segments offset ↔
        LoadSegment.translate segments offset ≠ .error .addition := by
  refine ⟨mapping.fileOffset?_eq, Mapping.forall_fileOffset?_ne_error_iff,
    LoadSegment.translate_eq_exactWord segments, LoadSegment.forall_translate_ne_error_iff, ?_, ?_⟩
  · intro address inside
    rw [Mapping.fileOffset?_ne_error_iff inside]
    exact Mapping.toNat_wrappedOffset_eq_iff inside.1
  · intro offset
    rw [LoadSegment.translate_ne_error_iff]
    exact LoadSegment.toNat_wrappedAddress_eq_iff

/-- A mapping from the last page of the file offsets on, and a segment from the last page of the
addresses on. -/
theorem conversion_overflows :
    let mapping : Mapping := ⟨0x7f0000000000, 0x2000, 0xfffffffffffff000⟩
    let segment : LoadSegment := ⟨0xfffffffffffff000, 0, 0x2000⟩
    mapping.fileOffset? 0x7f0000001000 = some (.error .addition) ∧
      mapping.exactOffset 0x7f0000001000 = UInt64.size ∧
      mapping.wrappedOffset 0x7f0000001000 = 0 ∧
      LoadSegment.translate [segment] 0x1000 = .error .addition ∧
      LoadSegment.exactAddress [segment] 0x1000 = UInt64.size ∧
      LoadSegment.wrappedAddress [segment] 0x1000 = 0 :=
  ⟨rfl, by decide, by decide, rfl, by decide, by decide⟩

end SampleProfile
