import Mathlib.Data.List.Dedup
import SampleProfile.Proofs.Prefetch.Outcome

/-!
# Converted hints and entries

Hints are numbered by address and stored by function and source position.  Hints at one address keep
apart, but hints at two addresses may meet in one entry, and then only one delta is left of them
although each counts as converted.  `convert_entries` says how many entries there are; they are as
many as converted hints just when no two of these meet.
-/

namespace SampleProfile.Prefetch

/-- The slots of the converted hints after variants are folded, in the order of the hints. -/
def convertedSlots (hints : List Hint) (resolve : UInt64 → Stack) (map : ProfileMap) : List Slot :=
  (filings (fates map.functions resolve hints)).map fun filing => filing.slot.elide map.markers

/-- Converted hints at one address have different slots. -/
def SeparateAtAddress (hints : List Hint) (resolve : UInt64 → Stack) (map : ProfileMap) : Prop :=
  (occasions hints).Pairwise fun left right =>
    left.2.address = right.2.address →
      ∀ first ∈ (Fate.ofHint map.functions resolve left.1 left.2).filing?,
      ∀ second ∈ (Fate.ofHint map.functions resolve right.1 right.2).filing?,
        first.slot.elide map.markers ≠ second.slot.elide map.markers

section Convert

variable (hints : List Hint) (resolve : UInt64 → Stack) (map : ProfileMap)

theorem mem_slots_convert (slot : Slot) :
    slot ∈ ProfileMap.slots (convert hints resolve { map with profiles := ∅ }).1.profiles ↔
      slot ∈ convertedSlots hints resolve map := by
  rw [ProfileMap.mem_slots, targetAt?_convert, Option.isSome_map, prevailing?_isSome,
    convertedSlots]
  simp only [List.mem_filter, List.mem_map, decide_eq_true_eq]

theorem slots_convert_perm :
    (ProfileMap.slots (convert hints resolve { map with profiles := ∅ }).1.profiles).Perm
      (convertedSlots hints resolve map).dedup := by
  apply (List.perm_ext_iff_of_nodup (ProfileMap.nodup_slots _) (List.nodup_dedup _)).mpr
  intro slot
  rw [mem_slots_convert, List.mem_dedup]

theorem length_convertedSlots :
    (convert hints resolve { map with profiles := ∅ }).2.converted =
      (convertedSlots hints resolve map).length := by
  rw [snd_convert_eq, convertedSlots, List.length_map]

variable {hints}

theorem separateAtAddress_of_length_lt (few : hints.length < UInt32.size) :
    SeparateAtAddress hints resolve map := by
  refine (Hint.pairwise_nameAfter hints).imp_of_mem ?_
  intro left right leftMember rightMember different sameAddress first stored second otherStored
  obtain ⟨_, _, _, _, _, rfl⟩ := filing?_ofHint.mp stored
  obtain ⟨_, _, _, _, _, rfl⟩ := filing?_ofHint.mp otherStored
  intro sameSlot
  have sameTarget := (Slot.mk.inj sameSlot).2.2
  simp only [Hint.countAt_mod_size few leftMember, Hint.countAt_mod_size few rightMember]
    at sameTarget
  exact different sameAddress sameTarget

end Convert

/-- Every converted hint has an entry in its slot, and there are no other entries.  There are as
many entries as slots of converted hints, thus as many as converted hints if no two of these share a
slot.  Hints at one address never do. -/
theorem convert_entries (hints : List Hint) (resolve : UInt64 → Stack) (map : ProfileMap) :
    let final := convert hints resolve { map with profiles := ∅ }
    let entries := ProfileMap.slots final.1.profiles
    let stored := convertedSlots hints resolve map
    (∀ slot, slot ∈ entries ↔ slot ∈ stored) ∧
    entries.Nodup ∧
    final.2.converted = stored.length ∧
    entries.length = stored.dedup.length ∧
    (entries.length = final.2.converted ↔ stored.Nodup) ∧
    (hints.length < UInt32.size → SeparateAtAddress hints resolve map) := by
  intro final entries stored
  have converted : final.2.converted = stored.length := length_convertedSlots hints resolve map
  have size : entries.length = stored.dedup.length :=
    (slots_convert_perm hints resolve map).length_eq
  refine ⟨mem_slots_convert hints resolve map, ProfileMap.nodup_slots _, converted, size, ?_,
    separateAtAddress_of_length_lt resolve map⟩
  rw [size, converted]
  constructor
  · intro same
    exact List.dedup_eq_self.mp ((List.dedup_sublist stored).eq_of_length same)
  · intro distinct
    rw [distinct.dedup]

/-- A function and a part of it that stands apart. -/
def splitFunction : ProfileMap where
  functions := {
    symbols := [⟨"foo", 0x1000, 0x10⟩, ⟨"foo.cold", 0x2000, 0x10⟩]
    sorted := by decide
    canonical := #[⟨"foo", 0x1000, 0x10⟩, ⟨"foo.cold", 0x2000, 0x10⟩]
    canonical_eq := by simp [leaders] }

/-- Two hints at one address and one in the other part: two of the three meet. -/
theorem convert_entries_splitFunction :
    let hints : List Hint := [⟨0x1004, 64, "T0"⟩, ⟨0x1004, -32, "T0"⟩, ⟨0x2004, 8, "T0"⟩]
    let resolve : UInt64 → Stack := fun _ => [⟨"foo", 10, 12, 0⟩]
    let final := convert hints resolve { splitFunction with profiles := ∅ }
    hints.length < UInt32.size ∧ SeparateAtAddress hints resolve splitFunction ∧
      final.2.converted = 3 ∧ (ProfileMap.slots final.1.profiles).length = 2 := by
  intro hints resolve final
  have few : hints.length < UInt32.size := by decide
  obtain ⟨_, _, converted, size, _, separate⟩ := convert_entries hints resolve splitFunction
  refine ⟨few, separate few, converted.trans ?_, size.trans ?_⟩
  all_goals decide +kernel

/-- Two hints at different addresses and the same source position count twice and leave one entry.
-/
theorem entries_ne_converted :
    let hints : List Hint := [⟨0x1004, 64, "T0"⟩, ⟨0x1008, 8, "T0"⟩]
    let resolve : UInt64 → Stack := fun _ => [⟨"foo", 10, 12, 0⟩]
    let final := convert hints resolve { splitFunction with profiles := ∅ }
    final.2.converted = 2 ∧ (ProfileMap.slots final.1.profiles).length = 1 := by
  decide +kernel

end SampleProfile.Prefetch
