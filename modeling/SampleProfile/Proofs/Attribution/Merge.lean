import SampleProfile.Proofs.Attribution.Run
import SampleProfile.Proofs.Samples

/-!
# Merging before and after attribution

Sample sets can be merged and attributed at once, or attributed one after another: the visits agree
in all tallies, although the second attribution folds variants again.
-/

namespace SampleProfile.Attribution

theorem usable_fates (map : ProfileMap) (resolve : UInt64 → Stack) (samples : Samples) :
    usable (fates map resolve samples) =
      samples.addresses.toList.filterMap fun entry =>
        (Fate.ofAddress map resolve entry.1).landing?.map (·, entry.2) := by
  rw [usable, fates, List.filterMap_map]
  rfl

/-- The visits of a merged set are those of its parts, up to counts for one landing that are added
up. -/
theorem sameTallies_usable_merge (map : ProfileMap) (resolve : UInt64 → Stack)
    (left right : Samples) :
    SameTallies (usable (fates map resolve (left.merge right)))
      (usable (fates map resolve left) ++ usable (fates map resolve right)) := by
  rw [usable_fates, usable_fates, usable_fates, ← List.filterMap_append]
  exact (OrderedMap.sameTallies_unionWith left.addresses right.addresses).filterMap
    fun address => (Fate.ofAddress map resolve address).landing?

/-- Attributing one set after another leaves the map that attributing the merged set leaves. -/
theorem addSamples_addSamples (left right : Samples) (resolve : UInt64 → Stack)
    (map : ProfileMap) :
    (addSamples right resolve (addSamples left resolve { map with profiles := ∅ }).1).1 =
      (addSamples (left.merge right) resolve { map with profiles := ∅ }).1 := by
  let fresh : ProfileMap := { map with profiles := ∅ }
  let leftVisits := usable (fates fresh resolve left)
  let rightVisits := usable (fates fresh resolve right)
  let first := (addSamples left resolve fresh).1
  have shape : first = { fresh with profiles := first.profiles } :=
    fst_addSamples left resolve fresh
  have sameFates : fates first resolve right = fates fresh resolve right := by
    rw [shape]
    rfl
  have sameMarkers : first.markers = map.markers := by rw [shape]
  have oneByOne := Accounts.addSamples right resolve first
    (Accounts.addSamples left resolve fresh accounts_empty)
  rw [sameFates, sameMarkers] at oneByOne
  have merged := Accounts.addSamples (left.merge right) resolve fresh accounts_empty
  -- The second folding finds the first visits under names that it leaves as they are.
  have refolded : elided map.markers (elided map.markers leftVisits ++ rightVisits) =
      elided map.markers (leftVisits ++ rightVisits) := by
    rw [elided_append, elided_append, elided_elided]
  have sameVisits : SameTallies
      (elided map.markers (elided map.markers leftVisits ++ rightVisits))
      (elided map.markers (usable (fates fresh resolve (left.merge right)))) := by
    rw [refolded]
    exact (sameTallies_usable_merge fresh resolve left right).symm.map (Landing.elide map.markers)
  have sameProfiles := (oneByOne.congr sameVisits).unique merged
  rw [fst_addSamples right resolve first, fst_addSamples (left.merge right) resolve fresh,
    sameProfiles, shape]

/-- Attributing two sample sets one after the other, in either order, is attributing the merged set.
-/
theorem addSamples_merge (left right : Samples) (resolve : UInt64 → Stack) (map : ProfileMap) :
    let fresh : ProfileMap := { map with profiles := ∅ }
    let merged := (addSamples (left.merge right) resolve fresh).1
    (addSamples right resolve (addSamples left resolve fresh).1).1 = merged ∧
      (addSamples left resolve (addSamples right resolve fresh).1).1 = merged := by
  refine ⟨addSamples_addSamples left right resolve map, ?_⟩
  rw [Samples.merge_comm]
  exact addSamples_addSamples right left resolve map

end SampleProfile.Attribution
