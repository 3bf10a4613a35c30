import SampleProfile.Proofs.Attribution.Fate
import SampleProfile.Proofs.FunctionProfile

/-!
# Profiles as accounts of visits

`FunctionProfile.Accounts` and `Attribution.Accounts` say what profiles look like that hold the
samples of a list of visits and nothing else.  Each step of an attribution adds to the visits
accounted for, folding variants renames them, and the account determines the profiles
(`Accounts.unique`).  The main statement is `addSamples_accounts`.
-/

namespace SampleProfile

/-- What stands at a place that some visit ends at. -/
def executed? (place : Place) (visits : Visits) : Option Position :=
  if visits.any fun visit => visit.1.place = place then
    some { count := .execution (tally (fun landing => landing.place = place) visits) }
  else
    none

/-- The profile of a function holds what a list of visits counts. -/
structure FunctionProfile.Accounts (profile : FunctionProfile) (visits : Visits) : Prop where
  /-- Beside the function itself, the instances that visits pass through are recorded. -/
  mem_iff : ∀ path, path ∈ profile.nodes ↔
    path = [] ∨ ∃ visit ∈ visits, path <+: visit.1.place.path
  /-- The total of an instance is the sum of the visits that pass through it. -/
  total_eq : ∀ path, (profile.nodeAt path).total =
    tally (fun landing => path.isPrefixOf landing.place.path) visits
  /-- Only the function itself has entries. -/
  head_eq : ∀ path, (profile.nodeAt path).head =
    if path = [] then tally Landing.atEntry visits else 0
  /-- A position counts the visits that end at it, and has no targets. -/
  position_eq : ∀ path offset, (profile.nodeAt path).positions[offset]? =
    executed? ⟨path, offset⟩ visits

/-! ## Positions -/

theorem executed?_append (place : Place) (left right : Visits) :
    executed? place (left ++ right) =
      Option.merge Position.merge (executed? place left) (executed? place right) := by
  have untallied : ∀ visits : Visits, (visits.any fun visit => visit.1.place = place) = false →
      tally (fun landing => landing.place = place) visits = 0 := by
    intro visits noneEnds
    refine tally_eq_zero _ fun visit member => ?_
    simpa using List.any_eq_false.mp noneEnds visit member
  simp only [executed?, List.any_append, tally_append]
  cases leftEnds : left.any fun visit => visit.1.place = place <;>
    cases rightEnds : right.any fun visit => visit.1.place = place
  · simp
  · simp [untallied left leftEnds]
  · simp [untallied right rightEnds]
  · simp [Position.merge, Count.accumulate]

theorem executed?_singleton (place : Place) (landing : Landing) (samples : UInt64) :
    executed? place [(landing, samples)] =
      if landing.place = place then some { count := .execution samples } else none := by
  by_cases ends : landing.place = place <;> simp [executed?, ends, tally_cons]

theorem executed?_congr {left right : Visits} (same : SameTallies left right) (place : Place) :
    executed? place left = executed? place right := by
  rw [executed?, executed?, same.tally_eq]
  simp only [same.any_eq fun landing => decide (landing.place = place)]

/-! ## Counting one visit -/

namespace Landing

variable (landing : Landing) (samples : UInt64) (profile : FunctionProfile) (path : Path)

theorem mem_count :
    path ∈ (landing.count samples profile).nodes ↔
      path <+: landing.place.path ∨ path ∈ profile.nodes := by
  rw [count, FunctionProfile.mem_record]
  cases landing.atEntry
  · simp
  · simp [FunctionProfile.mem_recordEntry]

theorem total_count :
    ((landing.count samples profile).nodeAt path).total =
      satAdd (profile.nodeAt path).total
        (if path.isPrefixOf landing.place.path then samples else 0) := by
  rw [count, FunctionProfile.nodeAt_record]
  cases landing.atEntry <;>
    simp [FunctionProfile.nodeAt_recordEntry]

theorem head_count :
    ((landing.count samples profile).nodeAt path).head =
      satAdd (profile.nodeAt path).head
        (if path = [] ∧ landing.atEntry then samples else 0) := by
  rw [count, FunctionProfile.nodeAt_record]
  cases landing.atEntry <;> simp [FunctionProfile.nodeAt_recordEntry]

theorem position_count (offset : LineOffset) :
    ((landing.count samples profile).nodeAt path).positions[offset]? =
      Option.merge Position.merge (profile.nodeAt path).positions[offset]?
        (executed? ⟨path, offset⟩ [(landing, samples)]) := by
  have untouched : ((if landing.atEntry then profile.recordEntry samples else profile).nodeAt
      path).positions = (profile.nodeAt path).positions := by
    cases landing.atEntry <;> simp [FunctionProfile.nodeAt_recordEntry]
  rw [count, FunctionProfile.nodeAt_record, executed?_singleton, untouched]
  by_cases ends : landing.place = ⟨path, offset⟩
  · have fresh : (default : Position) = { count := .execution 0, targets := ∅ } := rfl
    simp only [ends, if_true, OrderedMap.getElem?_update]
    cases (profile.nodeAt path).positions[offset]? <;> simp [Position.merge, fresh]
  · rw [if_neg ends]
    by_cases samePath : landing.place.path = path
    · have otherOffset : landing.place.offset ≠ offset := fun sameOffset =>
        ends (by rw [← samePath, ← sameOffset])
      rw [if_pos samePath, OrderedMap.getElem?_update, if_neg otherOffset]
      cases (profile.nodeAt path).positions[offset]? <;> rfl
    · rw [if_neg samePath]
      cases (profile.nodeAt path).positions[offset]? <;> rfl

end Landing

/-! ## Accounts of one function -/

namespace FunctionProfile

variable {profile left right : FunctionProfile} {visits : Visits}

theorem accounts_empty : empty.Accounts [] where
  mem_iff path := by simp [mem_empty]
  total_eq path := by simp [Node.default_eq]
  head_eq path := by simp [Node.default_eq]
  position_eq path offset := by simp [Node.default_eq, executed?]

theorem Accounts.congr {others : Visits} (accounts : profile.Accounts visits)
    (same : SameTallies visits others) : profile.Accounts others where
  mem_iff path := by
    rw [accounts.mem_iff, same.exists_iff fun landing => path <+: landing.place.path]
  total_eq path := by rw [accounts.total_eq, same.tally_eq]
  head_eq path := by rw [accounts.head_eq, same.tally_eq]
  position_eq path offset := by rw [accounts.position_eq, executed?_congr same]

/-- The visits determine the profile. -/
theorem Accounts.unique (leftAccounts : left.Accounts visits)
    (rightAccounts : right.Accounts visits) : left = right := by
  refine ext_nodeAt ?_ ?_
  · intro path
    rw [leftAccounts.mem_iff, rightAccounts.mem_iff]
  · intro path
    have total : (left.nodeAt path).total = (right.nodeAt path).total := by
      rw [leftAccounts.total_eq, rightAccounts.total_eq]
    have head : (left.nodeAt path).head = (right.nodeAt path).head := by
      rw [leftAccounts.head_eq, rightAccounts.head_eq]
    have positions : (left.nodeAt path).positions = (right.nodeAt path).positions := by
      refine Std.ExtTreeMap.ext_getElem? fun offset => ?_
      rw [leftAccounts.position_eq, rightAccounts.position_eq]
    cases leftNode : left.nodeAt path
    cases rightNode : right.nodeAt path
    simp_all

/-- A profile does not depend on the name of its function. -/
theorem Accounts.elide (accounts : profile.Accounts visits) (markers : List String) :
    profile.Accounts (visits.map fun visit => (visit.1.elide markers, visit.2)) where
  mem_iff path := by
    rw [accounts.mem_iff]
    refine or_congr_right ⟨?_, ?_⟩
    · rintro ⟨visit, member, passed⟩
      exact ⟨_, List.mem_map_of_mem member, passed⟩
    · rintro ⟨renamed, member, passed⟩
      obtain ⟨visit, visited, rfl⟩ := List.mem_map.mp member
      exact ⟨visit, visited, passed⟩
  total_eq path := by
    rw [accounts.total_eq, tally_map]
    rfl
  head_eq path := by
    rw [accounts.head_eq, tally_map]
    rfl
  position_eq path offset := by
    rw [accounts.position_eq, executed?, executed?, tally_map, List.any_map]
    rfl

theorem Accounts.merge {more : Visits} (leftAccounts : left.Accounts visits)
    (rightAccounts : right.Accounts more) : (left.merge right).Accounts (visits ++ more) where
  mem_iff path := by
    rw [mem_merge, leftAccounts.mem_iff, rightAccounts.mem_iff]
    simp only [List.mem_append, or_and_right, exists_or]
    rw [or_or_or_comm, or_self]
  total_eq path := by
    rw [nodeAt_merge, Node.merge, leftAccounts.total_eq, rightAccounts.total_eq, tally_append]
  head_eq path := by
    rw [nodeAt_merge, Node.merge, leftAccounts.head_eq, rightAccounts.head_eq, tally_append]
    by_cases root : path = [] <;> simp [root]
  position_eq path offset := by
    rw [nodeAt_merge, Node.merge, OrderedMap.getElem?_unionWith_eq_merge,
      leftAccounts.position_eq, rightAccounts.position_eq, executed?_append]

theorem Accounts.count (accounts : profile.Accounts visits) (landing : Landing)
    (samples : UInt64) :
    (landing.count samples profile).Accounts (visits ++ [(landing, samples)]) where
  mem_iff path := by
    rw [landing.mem_count, accounts.mem_iff]
    simp only [List.mem_append, List.mem_singleton, or_and_right, exists_or, exists_eq_left]
    rw [or_comm, or_assoc]
  total_eq path := by
    rw [landing.total_count, accounts.total_eq, tally_append, tally_cons, tally_nil, satAdd_zero]
  head_eq path := by
    rw [landing.head_count, accounts.head_eq, tally_append, tally_cons, tally_nil, satAdd_zero]
    by_cases root : path = [] <;> simp [root]
  position_eq path offset := by
    rw [landing.position_count, accounts.position_eq, executed?_append]

end FunctionProfile

namespace Attribution

/-! ## Accounts of all functions -/

/-- The visits to one function. -/
def visitsTo (visits : Visits) (name : String) : Visits :=
  visits.filter fun visit => visit.1.function = name

/-- The profiles hold what a list of visits counts. -/
structure Accounts (profiles : OrderedMap String FunctionProfile) (visits : Visits) : Prop where
  /-- The functions with profiles are those that are visited. -/
  mem_iff : ∀ name, name ∈ profiles ↔ ∃ visit ∈ visits, visit.1.function = name
  /-- The profile of a function holds what the visits to the function count. -/
  accounts : ∀ (name : String) (profile : FunctionProfile), profiles[name]? = some profile →
    profile.Accounts (visitsTo visits name)

section Accounts

variable {profiles : OrderedMap String FunctionProfile} {visits others more : Visits}

theorem accounts_empty : Accounts ∅ [] where
  mem_iff name := by simp
  accounts name profile held := by simp at held

theorem Accounts.congr (accounts : Accounts profiles visits) (same : SameTallies visits others) :
    Accounts profiles others where
  mem_iff name := by
    rw [accounts.mem_iff, same.exists_iff fun landing => landing.function = name]
  accounts name profile held :=
    (accounts.accounts name profile held).congr (same.filter fun landing => landing.function = name)

/-- The visits determine the profiles. -/
theorem Accounts.unique {others : OrderedMap String FunctionProfile}
    (accounts : Accounts profiles visits) (othersAccount : Accounts others visits) :
    profiles = others := by
  refine Std.ExtTreeMap.ext_getElem? fun name => ?_
  have recorded : name ∈ profiles ↔ name ∈ others := by
    rw [accounts.mem_iff, othersAccount.mem_iff]
  rw [Std.ExtTreeMap.mem_iff_isSome_getElem?, Std.ExtTreeMap.mem_iff_isSome_getElem?] at recorded
  cases held : profiles[name]? with
  | none =>
      cases otherHeld : others[name]? with
      | none => rfl
      | some profile => simp [held, otherHeld] at recorded
  | some profile =>
      cases otherHeld : others[name]? with
      | none => simp [held, otherHeld] at recorded
      | some other =>
          have same := (accounts.accounts name profile held).unique
            (othersAccount.accounts name other otherHeld)
          rw [same]

theorem Accounts.visitsTo_eq_nil (accounts : Accounts profiles visits) {name : String}
    (absent : profiles[name]? = none) : visitsTo visits name = [] := by
  rw [visitsTo, List.filter_eq_nil_iff]
  intro visit member
  have unvisited : ¬ name ∈ profiles := by
    rw [Std.ExtTreeMap.mem_iff_isSome_getElem?, absent]
    exact Bool.false_ne_true
  rw [accounts.mem_iff] at unvisited
  simpa using fun same => unvisited ⟨visit, member, same⟩

/-- More visits to one function are accounted for as soon as they are in its profile. -/
theorem Accounts.extend {after : OrderedMap String FunctionProfile} {name : String}
    {profile : FunctionProfile} (accounts : Accounts profiles visits)
    (changed : ∀ tested : String,
      after[tested]? = if name = tested then some profile else profiles[tested]?)
    (profileAccounts : profile.Accounts (visitsTo visits name ++ more))
    (nonempty : more ≠ []) (visited : ∀ visit ∈ more, visit.1.function = name) :
    Accounts after (visits ++ more) where
  mem_iff tested := by
    rw [Std.ExtTreeMap.mem_iff_isSome_getElem?, changed]
    by_cases same : name = tested
    · subst same
      obtain ⟨visit, member⟩ := List.exists_mem_of_ne_nil more nonempty
      simp only [if_true, Option.isSome_some, true_iff]
      exact ⟨visit, List.mem_append_right _ member, visited visit member⟩
    · rw [if_neg same, ← Std.ExtTreeMap.mem_iff_isSome_getElem?, accounts.mem_iff]
      simp only [List.mem_append, or_and_right, exists_or]
      refine (or_iff_left ?_).symm
      rintro ⟨visit, member, equal⟩
      exact same ((visited visit member).symm.trans equal)
  accounts tested other held := by
    rw [changed] at held
    by_cases same : name = tested
    · subst same
      have allVisit : visitsTo more name = more := by
        rw [visitsTo, List.filter_eq_self]
        simpa using visited
      rw [if_pos rfl, Option.some_inj] at held
      subst held
      rw [visitsTo, List.filter_append]
      change profile.Accounts (visitsTo visits name ++ visitsTo more name)
      rwa [allVisit]
    · have noneVisits : visitsTo more tested = [] := by
        rw [visitsTo, List.filter_eq_nil_iff]
        intro visit member
        simpa [visited visit member] using same
      rw [if_neg same] at held
      rw [visitsTo, List.filter_append]
      change other.Accounts (visitsTo visits tested ++ visitsTo more tested)
      rw [noneVisits, List.append_nil]
      exact accounts.accounts tested other held

theorem Accounts.enter (accounts : Accounts profiles visits) (landing : Landing)
    (samples : UInt64) :
    Accounts (landing.enter samples profiles) (visits ++ [(landing, samples)]) := by
  refine accounts.extend (OrderedMap.getElem?_update _ landing.function · _)
    ?_ (by simp) (by simp)
  refine FunctionProfile.Accounts.count ?_ landing samples
  cases held : profiles[landing.function]? with
  | none =>
      rw [accounts.visitsTo_eq_nil held]
      exact FunctionProfile.accounts_empty
  | some profile => exact accounts.accounts _ profile held

theorem Accounts.combine (accounts : Accounts profiles visits) (name : String)
    {profile : FunctionProfile} (profileAccounts : profile.Accounts more) (nonempty : more ≠ [])
    (visited : ∀ visit ∈ more, visit.1.function = name) :
    Accounts (OrderedMap.combine FunctionProfile.merge profiles name profile)
      (visits ++ more) := by
  refine accounts.extend (OrderedMap.getElem?_combine _ _ name · _) ?_ nonempty visited
  cases held : profiles[name]? with
  | none =>
      rw [accounts.visitsTo_eq_nil held]
      exact profileAccounts
  | some holding => exact (accounts.accounts _ holding held).merge profileAccounts

end Accounts

end Attribution

end SampleProfile
