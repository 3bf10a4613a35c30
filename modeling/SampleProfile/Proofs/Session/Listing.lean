import SampleProfile.Proofs.Attribution.Listing
import SampleProfile.Proofs.FunctionTable.Coverage
import SampleProfile.Proofs.Session.Merge
import SampleProfile.Proofs.Session.Steps

/-!
# Functions accounted for by a profile from samples

A profile made from samples reports the functions whose counts reach the threshold, and the list
beside it has the functions without any sampled address.  `build_listing` says which functions are
left over: those with sampled addresses whose counts stay below the threshold.
-/

namespace SampleProfile.Session

open Disk

variable {session after : Session} {disk later : Disk} {map : ProfileMap}

/-- Of a function with sampled addresses, the profile is reported exactly if its counts reach the
threshold; a function without sampled addresses is listed.  So a function is accounted for once
unless it has sampled addresses and their counts stay below the threshold, and then it is neither
reported nor listed. -/
theorem build_listing {input token : String} {binary : Binary}
    (sampled : token ≠ SourceKind.prefetch.token) (bound : session.binary = some binary)
    (built : Answers (build input token) (session, disk) map (after, later)) :
    ∃ samples resolve, after.held = some samples ∧
      (∃ start, (binary.resolver
          (.within (map.functions.sampledRanges samples.sampledAddresses)) : DiskM _).run start =
        (.ok resolve, later)) ∧
      ∀ symbol ∈ binary.symbols,
        let name := Suffix.elide session.options.markers symbol.name
        let counts := Attribution.received map resolve samples name
        (map.Emits name ↔ counts ≠ [] ∧ session.options.threshold ≤ satSum counts) ∧
          (map.Lists symbol ↔ counts = []) ∧
          ((map.Emits name ∧ ¬ map.Lists symbol ∨ ¬ map.Emits name ∧ map.Lists symbol) ↔
            counts = [] ∨ session.options.threshold ≤ satSum counts) := by
  obtain ⟨samples, resolve, start, held, asked, rfl⟩ :=
    exists_addSamples_of_build sampled bound built
  refine ⟨samples, resolve, held, ⟨start, ?_⟩, ?_⟩
  · rw [Attribution.fst_addSamples]
    exact asked
  · intro symbol member name counts
    have vacant : (session.blankMap binary).profiles = ∅ := rfl
    have filtered : (session.blankMap binary).ignoreThreshold = false := rfl
    have threshold : (session.blankMap binary).threshold = session.options.threshold := rfl
    have markers : (session.blankMap binary).markers = session.options.markers := rfl
    have known : symbol ∈ (session.blankMap binary).functions.symbols :=
      FunctionTable.mem_ofList.mpr member
    have received : counts = Attribution.received (session.blankMap binary) resolve samples name :=
      Attribution.received_addSamples samples
    have emits : (Attribution.addSamples samples resolve (session.blankMap binary)).1.Emits name ↔
        counts ≠ [] ∧ session.options.threshold ≤ satSum counts := by
      simp [Attribution.emits_addSamples vacant, received, filtered, threshold]
    have lists : (Attribution.addSamples samples resolve (session.blankMap binary)).1.Lists symbol ↔
        counts = [] := by
      rw [Attribution.lists_addSamples vacant known, received, markers]
    refine ⟨emits, lists, ?_⟩
    rw [emits, lists]
    by_cases nothing : counts = [] <;> simp [nothing]

/-! ## A function that is left over -/

/-- Three functions, of which the last one is never sampled. -/
def trialFunctions : FunctionTable where
  symbols := [⟨"hot", 0x1000, 0x10⟩, ⟨"cold", 0x2000, 0x10⟩, ⟨"idle", 0x3000, 0x10⟩]
  sorted := by decide
  canonical := #[⟨"hot", 0x1000, 0x10⟩, ⟨"cold", 0x2000, 0x10⟩, ⟨"idle", 0x3000, 0x10⟩]
  canonical_eq := by simp [leaders]

def trialStacks (_ : UInt64) : Stack :=
  [⟨"main", 10, 12, 0⟩]

def trialBinary : Binary where
  path := "bin/trial"
  buildId := none
  symbols := trialFunctions.symbols
  segments := []
  debugInfo := .given trialStacks

def trial : Session where
  binary := some trialBinary

/-- The second function has a sampled address, with a count of zero. -/
def trialSamples : Samples := Samples.withTotal
  { addresses := ((∅ : OrderedMap UInt64 UInt64).insert 0x1004 12).insert 0x2004 0 }

def trialDisk : Disk where
  entries := (∅ : OrderedMap (List String) Entry).insert ["samples"]
    (.file trialSamples.render.toUTF8)

def trialMap : ProfileMap :=
  let sampled := trialFunctions.sampledRanges trialSamples.sampledAddresses
  (Attribution.addSamples trialSamples ((Scope.within sampled).restrict trialStacks)
    { functions := trialFunctions }).1

theorem answers_trial :
    ∃ later, Answers (build "samples" "text") (trial, trialDisk) trialMap
      ({ trial with held := some trialSamples }, later) := by
  have parsed : SourceKind.parse "text" = .ok .text := rfl
  have made : trial.emptyMap = .ok { functions := trialFunctions } := by
    change Except.ok (ProfileMap.ofSymbols trialFunctions.symbols) = _
    rw [ProfileMap.ofSymbols, FunctionTable.ofList_symbols]
  have sized : trialSamples.WordSized := ⟨by decide, by decide, by decide⟩
  have contents : trialDisk.contents "samples" = .ok trialSamples.render.toUTF8 := rfl
  have readable : Samples.ofContents (trialDisk.contents "samples") = .ok trialSamples := by
    rw [contents]
    exact Samples.ofContents_render sized
  have reading := samplesOf_text_run trial rfl readable
  have asked : ∀ scope start, ∃ later,
      ({ trial with held := some trialSamples }.requireResolver scope : DiskM _).run start =
        (.ok (scope.restrict trialStacks), later) :=
    fun scope start => ⟨_, requireResolver_run_iff.mpr ⟨trialBinary, rfl, rfl⟩⟩
  obtain ⟨later, answered⟩ := asked _ _
  exact ⟨later, (answers_build_iff parsed (by decide)).mpr
    ⟨_, _, _, _, made, reading, rfl, answered, rfl⟩⟩

theorem build_listing_trial :
    ∃ map after later,
      Answers (build "samples" "text") (trial, trialDisk) map (after, later) ∧
        "text" ≠ SourceKind.prefetch.token ∧ trial.binary = some trialBinary ∧
        (map.Emits "hot" ∧ ¬ map.Lists ⟨"hot", 0x1000, 0x10⟩) ∧
        (¬ map.Emits "idle" ∧ map.Lists ⟨"idle", 0x3000, 0x10⟩) := by
  obtain ⟨later, built⟩ := answers_trial
  refine ⟨_, _, later, built, by decide, rfl, ?_⟩
  obtain ⟨_, _, ⟨⟩, ⟨_, ⟨⟩⟩, accounted⟩ := build_listing (by decide) rfl built
  obtain ⟨hotEmitted, hotListed, _⟩ := accounted ⟨"hot", 0x1000, 0x10⟩ (by decide)
  obtain ⟨idleEmitted, idleListed, _⟩ := accounted ⟨"idle", 0x3000, 0x10⟩ (by decide)
  have hot : trialMap.Emits "hot" := hotEmitted.mpr (by decide +kernel)
  have hotUnlisted := mt hotListed.mp (by decide +kernel)
  have idleUnreported := mt idleEmitted.mp (by decide +kernel)
  have idle := idleListed.mpr (by decide +kernel)
  exact ⟨⟨hot, hotUnlisted⟩, idleUnreported, idle⟩

/-- The function whose only count is zero is neither reported nor listed. -/
theorem cold_left_over :
    ∃ map after later,
      Answers (build "samples" "text") (trial, trialDisk) map (after, later) ∧
        ⟨"cold", 0x2000, 0x10⟩ ∈ trialBinary.symbols ∧
        ¬ map.Emits "cold" ∧ ¬ map.Lists ⟨"cold", 0x2000, 0x10⟩ := by
  obtain ⟨later, built⟩ := answers_trial
  refine ⟨_, _, later, built, by decide, ?_, ?_⟩
  · rw [trialMap, Attribution.emits_addSamples rfl]
    decide +kernel
  · rw [trialMap, Attribution.lists_addSamples rfl (by decide)]
    decide +kernel

end SampleProfile.Session
