import SampleProfile.Proofs.Attribution.Account
import SampleProfile.Proofs.Attribution.UsableSample

/-!
# Whole attributions

An attribution enters its usable samples and then folds variants, which renames the visits accounted
for.  From a map without profiles it leaves profiles that account for the usable samples and for
nothing else.
-/

namespace SampleProfile.Attribution

variable {profiles : OrderedMap String FunctionProfile} {visits : Visits}

theorem Accounts.foldl_enter (accounts : Accounts profiles visits) (more : Visits) :
    Accounts (more.foldl (fun profiles visit => visit.1.enter visit.2 profiles) profiles)
      (visits ++ more) := by
  induction more generalizing profiles visits with
  | nil => simpa using accounts
  | cons visit rest inductionHypothesis =>
      have entered := inductionHypothesis (accounts.enter visit.1 visit.2)
      rwa [List.append_assoc] at entered

/-! ## Folding variants -/

theorem elided_append (markers : List String) (left right : Visits) :
    elided markers (left ++ right) = elided markers left ++ elided markers right :=
  List.map_append

theorem elided_elided (markers : List String) (visits : Visits) :
    elided markers (elided markers visits) = elided markers visits := by
  rw [elided, elided, List.map_map]
  refine List.map_congr_left fun visit _ => ?_
  simp [Landing.elide]

/-- Visits can be sorted by the names of their functions. -/
theorem flatMap_visitsTo_perm (visits : Visits) {names : List String} (distinct : names.Nodup)
    (named : ∀ visit ∈ visits, visit.1.function ∈ names) :
    (names.flatMap fun name => visitsTo visits name).Perm visits := by
  induction names generalizing visits with
  | nil =>
      have noneVisits : visits = [] :=
        List.eq_nil_iff_forall_not_mem.mpr fun visit member => by simpa using named visit member
      rw [noneVisits]
      rfl
  | cons name rest inductionHypothesis =>
      rw [List.nodup_cons] at distinct
      let others := visits.filter fun visit => !(visit.1.function = name : Bool)
      have othersNamed : ∀ visit ∈ others, visit.1.function ∈ rest := by
        intro visit member
        have found := List.mem_filter.mp member
        have different : visit.1.function ≠ name := by simpa using found.2
        exact (List.mem_cons.mp (named visit found.1)).resolve_left different
      have sameVisits : ∀ other ∈ rest, visitsTo visits other = visitsTo others other := by
        intro other member
        rw [visitsTo, visitsTo, List.filter_filter]
        refine List.filter_congr fun visit _ => ?_
        have different : other ≠ name := fun same => distinct.1 (same ▸ member)
        by_cases visited : visit.1.function = other
        · simp [visited, different]
        · simp [visited]
      have sameListing : (rest.flatMap fun other => visitsTo visits other) =
          rest.flatMap fun other => visitsTo others other := by
        rw [List.flatMap_def, List.flatMap_def, List.map_congr_left sameVisits]
      rw [List.flatMap_cons, sameListing]
      refine ((inductionHypothesis others distinct.2 othersNamed).append_left _).trans ?_
      exact List.filter_append_perm _ visits

theorem function_of_mem_elided {markers : List String} {name : String} {visit : Landing × UInt64}
    (member : visit ∈ elided markers (visitsTo visits name)) :
    visit.1.function = Suffix.elide markers name := by
  obtain ⟨original, visited, rfl⟩ := List.mem_map.mp member
  have same : original.1.function = name := by simpa using (List.mem_filter.mp visited).2
  rw [← same]
  rfl

/-- Folding one profile after another adds the renamed visits of each. -/
theorem Accounts.foldl_combine (markers : List String)
    {entries : List (String × FunctionProfile)} {folded : OrderedMap String FunctionProfile}
    {done : Visits} (accounts : Accounts folded done)
    (held : ∀ entry ∈ entries,
      entry.2.Accounts (visitsTo visits entry.1) ∧ visitsTo visits entry.1 ≠ []) :
    Accounts
      (entries.foldl
        (fun folded entry => OrderedMap.combine FunctionProfile.merge folded
          (Suffix.elide markers entry.1) entry.2) folded)
      (done ++ elided markers (entries.flatMap fun entry => visitsTo visits entry.1)) := by
  induction entries generalizing folded done with
  | nil => simpa [elided] using accounts
  | cons entry rest inductionHypothesis =>
      obtain ⟨entryAccounts, nonempty⟩ := held entry List.mem_cons_self
      have renamedNonempty : elided markers (visitsTo visits entry.1) ≠ [] := by
        simpa [elided] using nonempty
      have entered := accounts.combine (Suffix.elide markers entry.1)
        (entryAccounts.elide markers) renamedNonempty fun _ => function_of_mem_elided
      have finished := inductionHypothesis entered fun other member =>
        held other (List.mem_cons_of_mem _ member)
      rw [List.flatMap_cons, elided_append, ← List.append_assoc]
      exact finished

theorem Accounts.profile (accounts : Accounts profiles visits) {name : String}
    {profile : FunctionProfile} (found : profiles[name]? = some profile) :
    profile.Accounts (visitsTo visits name) ∧ visitsTo visits name ≠ [] := by
  refine ⟨accounts.accounts name profile found, ?_⟩
  have recorded : name ∈ profiles := by
    rw [Std.ExtTreeMap.mem_iff_isSome_getElem?, found]
    rfl
  obtain ⟨visit, visited, same⟩ := (accounts.mem_iff name).mp recorded
  exact List.ne_nil_of_mem (List.mem_filter.mpr ⟨visited, by simpa using same⟩)

/-- Going through the profiles meets every visit once. -/
theorem Accounts.flatMap_visitsTo_perm (accounts : Accounts profiles visits) :
    (profiles.toList.flatMap fun entry => visitsTo visits entry.1).Perm visits := by
  have named : ∀ visit ∈ visits, visit.1.function ∈ profiles.keys := by
    intro visit member
    rw [Std.ExtTreeMap.mem_keys, accounts.mem_iff]
    exact ⟨visit, member, rfl⟩
  have byName := Attribution.flatMap_visitsTo_perm visits Std.ExtTreeMap.nodup_keys named
  rwa [← Std.ExtTreeMap.map_fst_toList_eq_keys, List.flatMap_map] at byName

/-- Folding variants renames the visits accounted for. -/
theorem Accounts.foldVariants (map : ProfileMap) (accounts : Accounts map.profiles visits) :
    Accounts map.foldVariants.profiles (elided map.markers visits) := by
  have held : ∀ entry ∈ map.profiles.toList,
      entry.2.Accounts (visitsTo visits entry.1) ∧ visitsTo visits entry.1 ≠ [] := by
    intro entry member
    exact accounts.profile (Std.ExtTreeMap.mem_toList_iff_getElem?_eq_some.mp member)
  have folded := accounts_empty.foldl_combine map.markers held
  exact folded.congr (SameTallies.of_perm (accounts.flatMap_visitsTo_perm.map _))

/-! ## Attributing samples -/

theorem Accounts.addSamples (samples : Samples) (resolve : UInt64 → Stack) (map : ProfileMap)
    (accounts : Accounts map.profiles visits) :
    Accounts (addSamples samples resolve map).1.profiles
      (elided map.markers (visits ++ usable (fates map resolve samples))) := by
  rw [addSamples_eq, foldl_fate_enter]
  exact Accounts.foldVariants { map with profiles := _ } (accounts.foldl_enter _)

/-- An attribution changes nothing of a map but its profiles. -/
theorem fst_addSamples (samples : Samples) (resolve : UInt64 → Stack) (map : ProfileMap) :
    (addSamples samples resolve map).1 =
      { map with profiles := (addSamples samples resolve map).1.profiles } := by
  rw [addSamples_eq]
  rfl

/-- From a map without profiles an attribution leaves profiles that hold the usable samples, each at
its place in the profile of its function without variant ending, and an outcome that counts every
other address by what it lacks. -/
theorem addSamples_accounts (samples : Samples) (resolve : UInt64 → Stack) (map : ProfileMap) :
    let result := addSamples samples resolve { map with profiles := ∅ }
    let used := usableSamples map.functions resolve samples
    (∀ sample, sample ∈ used ↔
        samples.addresses[sample.address]? = some sample.samples ∧
          map.functions.enclosing? sample.address = some sample.symbol ∧
          resolve sample.address = sample.innermost :: sample.outer) ∧
      Accounts result.1.profiles (used.map fun sample => sample.visit map.markers) ∧
      result.2 =
        { addresses := used.length
          samples := satSum (used.map UsableSample.samples)
          unknownSymbol := samples.addresses.keys.countP fun address =>
            map.functions.enclosing? address = none
          emptyStack := samples.addresses.keys.countP fun address =>
            map.functions.enclosing? address ≠ none ∧ resolve address = [] } := by
  intro result used
  have visits := elided_usable map resolve samples
  refine ⟨fun _ => mem_usableSamples, ?_, ?_⟩
  · have accounts := Accounts.addSamples samples resolve { map with profiles := ∅ } accounts_empty
    rw [← visits]
    exact accounts
  · have counts : (usable (fates map resolve samples)).map Prod.snd =
        used.map UsableSample.samples := by
      rw [← map_snd_elided map.markers, visits]
      exact List.map_map
    have length : (usable (fates map resolve samples)).length = used.length := by
      rw [← length_elided map.markers, visits]
      exact List.length_map _
    have reported := foldl_fate_report (fates map resolve samples) {}
    rw [counts, length, countP_fates, countP_fates] at reported
    simp only [ofAddress_eq_unknownSymbol_iff, ofAddress_eq_emptyStack_iff, Nat.zero_add,
      zero_satAdd] at reported
    have ran := congrArg Prod.snd (addSamples_eq samples resolve { map with profiles := ∅ })
    exact ran.trans reported

/-- A stack inlined twice, a variant that shares a call with its function, an address in no function
and one without a stack. -/
theorem addSamples_accounts_inlined :
    let table : FunctionTable := {
      symbols := [⟨"foo", 0x1000, 0x10⟩, ⟨"foo.cold", 0x3000, 0x10⟩]
      sorted := by decide
      canonical := #[⟨"foo", 0x1000, 0x10⟩, ⟨"foo.cold", 0x3000, 0x10⟩]
      canonical_eq := by simp [leaders] }
    let caller : Frame := ⟨"foo", 10, 14, 0⟩
    let resolve : UInt64 → Stack := fun address =>
      if address = 0x1000 then [⟨"helper", 100, 103, 0⟩, caller]
      else if address = 0x1004 then [⟨"leaf", 1, 2, 0⟩, ⟨"helper", 100, 105, 0⟩, caller]
      else if address = 0x3000 then [⟨"helper", 100, 103, 0⟩, caller]
      else []
    let samples : Samples := {
      addresses := .ofList
        [((0x1000 : UInt64), 5), (0x1004, 7), (0x3000, countLimit), (0x3008, 1), (0x9000, 2)] }
    let result := addSamples samples resolve { functions := table }
    let helper : Path := [⟨⟨4, 0⟩, "helper"⟩]
    let leaf : Path := helper ++ [⟨⟨5, 0⟩, "leaf"⟩]
    "foo.cold" ∉ result.1.profiles ∧
      result.2 = ⟨3, countLimit, 1, 1⟩ ∧
      ∃ profile, result.1.profiles["foo"]? = some profile ∧
        (profile.nodeAt []).head = 5 ∧
        (profile.nodeAt helper).total = countLimit ∧
        (profile.nodeAt leaf).total = 7 ∧
        ((profile.nodeAt leaf).positions[LineOffset.mk 1 0]?).map Position.count =
          some (.execution 7) := by
  intro table caller resolve samples result helper leaf
  obtain ⟨_, accounts, outcome⟩ := addSamples_accounts samples resolve { functions := table }
  have absent : "foo.cold" ∉ result.1.profiles :=
    mt (accounts.mem_iff _).mp (by decide +kernel)
  have recorded : "foo" ∈ result.1.profiles := (accounts.mem_iff _).mpr (by decide +kernel)
  rw [Std.ExtTreeMap.mem_iff_isSome_getElem?, Option.isSome_iff_exists] at recorded
  obtain ⟨profile, held⟩ := recorded
  have counted := accounts.accounts "foo" profile held
  have entries : (profile.nodeAt []).head = 5 := (counted.head_eq _).trans (by decide +kernel)
  have shared : (profile.nodeAt helper).total = countLimit :=
    (counted.total_eq _).trans (by decide +kernel)
  have inlined : (profile.nodeAt leaf).total = 7 := (counted.total_eq _).trans (by decide +kernel)
  refine ⟨absent, outcome.trans (by decide +kernel), profile, held, entries, shared, inlined, ?_⟩
  rw [counted.position_eq]
  decide +kernel

end SampleProfile.Attribution
