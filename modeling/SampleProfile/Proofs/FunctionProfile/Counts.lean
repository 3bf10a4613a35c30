import SampleProfile.Proofs.Attribution.Account

/-!
# Counts beside call targets

`FunctionProfile.Counts` says that totals, heads and position counts are those of a list of visits,
whatever call targets a profile holds beside them.  Storing a target is a visit of nobody: it may
create instances and positions, and counts nothing.
-/

namespace SampleProfile

/-! ## Positions -/

theorem Count.accumulate_empty (count : Count) : count.accumulate (.execution 0) = count := by
  cases count <;> simp [accumulate]

theorem Position.default_eq : (default : Position) = { count := .execution 0, targets := ∅ } := rfl

theorem Position.count_getD_merge (left right : Option Position) :
    ((Option.merge merge left right).getD default).count =
      (left.getD default).count.accumulate (right.getD default).count := by
  cases left <;> cases right <;> simp [merge, default_eq, Count.accumulate_empty]

namespace FunctionProfile

/-- What has been counted at a place itself, nothing if it is not recorded. -/
def countAt (profile : FunctionProfile) (place : Place) : Count :=
  ((profile.nodeAt place.path).positions[place.offset]?.getD default).count

theorem countAt_merge (left right : FunctionProfile) (place : Place) :
    (left.merge right).countAt place = (left.countAt place).accumulate (right.countAt place) := by
  rw [countAt, nodeAt_merge, Node.merge, OrderedMap.getElem?_unionWith_eq_merge,
    Position.count_getD_merge]
  rfl

/-! ## Storing a target -/

section SetTarget

variable (place : Place) (target : String) (count : Count) (path : Path)
  (profile : FunctionProfile)

theorem total_setTarget :
    ((profile.setTarget place target count).nodeAt path).total = (profile.nodeAt path).total := by
  rw [setTarget, nodeAt_atPlace]
  by_cases here : place.path = path <;> simp [here, Node.atPosition]

theorem head_setTarget :
    ((profile.setTarget place target count).nodeAt path).head = (profile.nodeAt path).head := by
  rw [setTarget, nodeAt_atPlace]
  by_cases here : place.path = path <;> simp [here, Node.atPosition]

theorem getElem?_positions_setTarget (offset : LineOffset) :
    ((profile.setTarget place target count).nodeAt path).positions[offset]? =
      if place = ⟨path, offset⟩ then
        let held := (profile.nodeAt path).positions[offset]?.getD default
        some { held with targets := held.targets.insert target count }
      else
        (profile.nodeAt path).positions[offset]? := by
  obtain ⟨placePath, placeOffset⟩ := place
  rw [setTarget, nodeAt_atPlace]
  by_cases here : placePath = path
  · subst here
    rw [if_pos rfl, Node.atPosition, OrderedMap.getElem?_update]
    by_cases same : placeOffset = offset
    · subst same
      simp
    · simp [same]
  · simp [here]

theorem countAt_setTarget (tested : Place) :
    (profile.setTarget place target count).countAt tested = profile.countAt tested := by
  rw [countAt, getElem?_positions_setTarget]
  by_cases here : place = tested <;> simp [here, countAt]

end SetTarget

/-! ## Counts of a list of visits -/

/-- The counts of a profile are those of a list of visits. -/
structure Counts (profile : FunctionProfile) (visits : Visits) : Prop where
  /-- Where a visit ends there is a position. -/
  recorded : ∀ visit ∈ visits,
    visit.1.place.offset ∈ (profile.nodeAt visit.1.place.path).positions
  total_eq : ∀ path, (profile.nodeAt path).total =
    tally (fun landing => path.isPrefixOf landing.place.path) visits
  head_eq : ∀ path, (profile.nodeAt path).head =
    if path = [] then tally Landing.atEntry visits else 0
  countAt_eq : ∀ place, profile.countAt place =
    .execution (tally (fun landing => landing.place = place) visits)

variable {profile left right : FunctionProfile} {visits more : Visits}

theorem counts_empty : empty.Counts [] where
  recorded visit member := by simp at member
  total_eq path := by simp [Node.default_eq]
  head_eq path := by simp [Node.default_eq]
  countAt_eq place := by simp [countAt, Node.default_eq, Position.default_eq]

theorem Counts.merge (leftCounts : left.Counts visits) (rightCounts : right.Counts more) :
    (left.merge right).Counts (visits ++ more) where
  recorded visit member := by
    rw [nodeAt_merge, Node.merge, OrderedMap.mem_unionWith]
    rcases List.mem_append.mp member with visited | visited
    · exact Or.inl (leftCounts.recorded visit visited)
    · exact Or.inr (rightCounts.recorded visit visited)
  total_eq path := by
    rw [nodeAt_merge, Node.merge, leftCounts.total_eq, rightCounts.total_eq, tally_append]
  head_eq path := by
    rw [nodeAt_merge, Node.merge, leftCounts.head_eq, rightCounts.head_eq, tally_append]
    by_cases root : path = [] <;> simp [root]
  countAt_eq place := by
    rw [countAt_merge, leftCounts.countAt_eq, rightCounts.countAt_eq, tally_append]
    rfl

theorem Counts.setTarget (counts : profile.Counts visits) (place : Place) (target : String)
    (count : Count) : (profile.setTarget place target count).Counts visits where
  recorded visit member := by
    have held := counts.recorded visit member
    rw [Std.ExtTreeMap.mem_iff_isSome_getElem?] at held ⊢
    rw [getElem?_positions_setTarget]
    by_cases here : place = visit.1.place
    · simp [here]
    · simpa [here] using held
  total_eq path := by rw [total_setTarget, counts.total_eq]
  head_eq path := by rw [head_setTarget, counts.head_eq]
  countAt_eq tested := by rw [countAt_setTarget, counts.countAt_eq]

theorem Counts.count (counts : profile.Counts visits) (landing : Landing) (samples : UInt64) :
    (landing.count samples profile).Counts (visits ++ [(landing, samples)]) where
  recorded visit member := by
    rw [Std.ExtTreeMap.mem_iff_isSome_getElem?, landing.position_count]
    rcases List.mem_append.mp member with visited | visited
    · have held := counts.recorded visit visited
      rw [Std.ExtTreeMap.mem_iff_isSome_getElem?] at held
      simp [Option.isSome_merge, held]
    · obtain rfl := List.mem_singleton.mp visited
      simp [Option.isSome_merge, executed?_singleton]
  total_eq path := by
    rw [landing.total_count, counts.total_eq, tally_append, tally_cons, tally_nil, satAdd_zero]
  head_eq path := by
    rw [landing.head_count, counts.head_eq, tally_append, tally_cons, tally_nil, satAdd_zero]
    by_cases root : path = [] <;> simp [root]
  countAt_eq place := by
    have ended : ((executed? place [(landing, samples)]).getD default).count =
        .execution (tally (fun landing => landing.place = place) [(landing, samples)]) := by
      rw [executed?_singleton, tally_cons, tally_nil, satAdd_zero]
      by_cases ends : landing.place = place <;> simp [ends, Position.default_eq]
    rw [countAt, landing.position_count, Position.count_getD_merge, tally_append, ended]
    change (profile.countAt place).accumulate _ = _
    rw [counts.countAt_eq]
    rfl

end FunctionProfile

end SampleProfile
