import SampleProfile.Attribution
import SampleProfile.Proofs.Saturation
import SampleProfile.Proofs.Suffix

/-!
# What becomes of a sampled address

The fate of an address follows from the function table, the markers and the inline stacks alone: it
lies in no function, it has no stack, or its samples land at a place of a profile.  One step of an
attribution settles the fate of one address, so that a run is a fold over fates (`addSamples_eq`).
-/

namespace SampleProfile

/-- Where the samples of an address are counted. -/
structure Landing where
  /-- The name of the profile. -/
  function : String
  place : Place
  /-- Whether the samples are entries of the function. -/
  atEntry : Bool
deriving DecidableEq

/-- Samples with the landings where they are counted. -/
abbrev Visits := List (Landing × UInt64)

namespace Landing

/-- The landing in the profile of the name without its variant ending. -/
def elide (markers : List String) (landing : Landing) : Landing :=
  { landing with function := Suffix.elide markers landing.function }

/-- Counts samples in the profile of one function. -/
def count (landing : Landing) (samples : UInt64) (profile : FunctionProfile) : FunctionProfile :=
  (if landing.atEntry then profile.recordEntry samples else profile).record landing.place samples

/-- Counts samples in the profiles of all functions. -/
def enter (landing : Landing) (samples : UInt64) (profiles : OrderedMap String FunctionProfile) :
    OrderedMap String FunctionProfile :=
  OrderedMap.update profiles landing.function (landing.count samples)

end Landing

namespace Attribution

/-- What becomes of the samples of an address. -/
inductive Fate where
  /-- No function encloses the address. -/
  | unknownSymbol
  /-- The address has no inline stack. -/
  | emptyStack
  | lands (landing : Landing)
deriving DecidableEq

namespace Fate

/-- The landing, if there is one. -/
def landing? : Fate → Option Landing
  | lands landing => some landing
  | _ => none

/-- The fate of an address.  The first instruction of a function is an entry unless the function is
a variant. -/
def ofAddress (map : ProfileMap) (resolve : UInt64 → Stack) (address : UInt64) : Fate :=
  match map.functions.enclosing? address, (resolve address).place? with
  | none, _ => unknownSymbol
  | some _, none => emptyStack
  | some symbol, some place =>
      lands {
        function := symbol.name
        place
        atEntry := symbol.start = address ∧ Suffix.elide map.markers symbol.name = symbol.name }

/-- The profiles after the samples of one address. -/
def enter (fate : Fate) (samples : UInt64) (profiles : OrderedMap String FunctionProfile) :
    OrderedMap String FunctionProfile :=
  match fate with
  | lands landing => landing.enter samples profiles
  | _ => profiles

/-- The outcome after the samples of one address. -/
def report (fate : Fate) (samples : UInt64) (outcome : Outcome) : Outcome :=
  match fate with
  | unknownSymbol => { outcome with unknownSymbol := outcome.unknownSymbol + 1 }
  | emptyStack => { outcome with emptyStack := outcome.emptyStack + 1 }
  | lands _ =>
      { outcome with
        addresses := outcome.addresses + 1
        samples := satAdd outcome.samples samples }

end Fate

/-- One step settles the fate of one address and touches nothing else. -/
theorem addAddress_eq (resolve : UInt64 → Stack) (progress : Progress)
    (address samples : UInt64) :
    progress.addAddress resolve address samples =
      let fate := Fate.ofAddress progress.map resolve address
      { map := { progress.map with profiles := fate.enter samples progress.map.profiles }
        outcome := fate.report samples progress.outcome } := by
  cases found : progress.map.functions.enclosing? address with
  | none => simp [Progress.addAddress, Fate.ofAddress, found, Fate.enter, Fate.report]
  | some symbol =>
      cases placed : (resolve address).place? with
      | none =>
          simp [Progress.addAddress, Fate.ofAddress, found, placed, Fate.enter, Fate.report,
            ProfileMap.record?]
      | some place =>
          simp only [Progress.addAddress, found, ProfileMap.record?, placed, Option.map_some,
            Bool.and_eq_true, Bool.not_eq_true', decide_eq_true_eq, Fate.ofAddress,
            Fate.enter, Landing.enter, Fate.report, Suffix.isVariant_eq_false_iff]
          congr 3
          funext profile
          simp [Landing.count]

/-- The fates of all sampled addresses, with their samples. -/
def fates (map : ProfileMap) (resolve : UInt64 → Stack) (samples : Samples) :
    List (Fate × UInt64) :=
  samples.addresses.toList.map fun entry => (Fate.ofAddress map resolve entry.1, entry.2)

/-- A run enters the samples by their fates; what has been counted before does not change the fates.
-/
theorem addSamples_eq (samples : Samples) (resolve : UInt64 → Stack) (map : ProfileMap) :
    addSamples samples resolve map =
      (ProfileMap.foldVariants { map with
          profiles := (fates map resolve samples).foldl
            (fun profiles settled => settled.1.enter settled.2 profiles) map.profiles },
        (fates map resolve samples).foldl
          (fun outcome settled => settled.1.report settled.2 outcome) {}) := by
  have run : ∀ (entries : List (UInt64 × UInt64)) (progress : Progress),
      entries.foldl (fun progress entry => Progress.addAddress resolve progress entry.1 entry.2)
          progress =
        { map := { progress.map with
            profiles := (entries.map fun entry =>
                (Fate.ofAddress progress.map resolve entry.1, entry.2)).foldl
              (fun profiles settled => settled.1.enter settled.2 profiles)
              progress.map.profiles }
          outcome := (entries.map fun entry =>
              (Fate.ofAddress progress.map resolve entry.1, entry.2)).foldl
            (fun outcome settled => settled.1.report settled.2 outcome) progress.outcome } := by
    intro entries
    induction entries with
    | nil => exact fun progress => rfl
    | cons entry rest inductionHypothesis =>
        intro progress
        rw [List.foldl_cons, addAddress_eq, inductionHypothesis]
        rfl
  rw [addSamples, run]
  rfl

/-! ## Usable samples -/

/-- The samples that land somewhere. -/
def usable (fates : List (Fate × UInt64)) : Visits :=
  fates.filterMap fun settled => settled.1.landing?.map (·, settled.2)

/-- The visits in the profiles of the names without their variant endings. -/
def elided (markers : List String) (visits : Visits) : Visits :=
  visits.map fun visit => (visit.1.elide markers, visit.2)

theorem length_elided (markers : List String) (visits : Visits) :
    (elided markers visits).length = visits.length :=
  List.length_map _

theorem map_snd_elided (markers : List String) (visits : Visits) :
    (elided markers visits).map Prod.snd = visits.map Prod.snd :=
  List.map_map

/-- Only the usable samples change the profiles. -/
theorem foldl_fate_enter (fates : List (Fate × UInt64))
    (profiles : OrderedMap String FunctionProfile) :
    fates.foldl (fun profiles settled => settled.1.enter settled.2 profiles) profiles =
      (usable fates).foldl (fun profiles visit => visit.1.enter visit.2 profiles) profiles := by
  induction fates generalizing profiles with
  | nil => rfl
  | cons settled rest inductionHypothesis =>
      obtain ⟨fate, samples⟩ := settled
      cases fate <;> exact inductionHypothesis _

/-- The outcome counts every address once, under its fate. -/
theorem foldl_fate_report (fates : List (Fate × UInt64)) (outcome : Outcome) :
    fates.foldl (fun outcome settled => settled.1.report settled.2 outcome) outcome =
      { addresses := outcome.addresses + (usable fates).length
        samples := satAdd outcome.samples (satSum ((usable fates).map Prod.snd))
        unknownSymbol := outcome.unknownSymbol +
          fates.countP fun settled => settled.1 = .unknownSymbol
        emptyStack := outcome.emptyStack +
          fates.countP fun settled => settled.1 = .emptyStack } := by
  induction fates generalizing outcome with
  | nil => simp [usable]
  | cons settled rest inductionHypothesis =>
      obtain ⟨fate, samples⟩ := settled
      rw [List.foldl_cons, inductionHypothesis]
      cases fate <;>
        simp [usable, Fate.report, Fate.landing?, satAdd_assoc, Nat.add_assoc, Nat.add_comm]

end Attribution

end SampleProfile
