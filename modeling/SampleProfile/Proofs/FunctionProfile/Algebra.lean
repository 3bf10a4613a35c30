import SampleProfile.Proofs.FunctionProfile.Nested
import SampleProfile.Proofs.ProfileMap.Variants

/-!
# The algebra of merging

Totals, heads and position counts of a merger are saturating sums, and a target that only one
profile holds is taken over, so that merging is associative, has the empty profile as neutral
element and does not depend on the order.  Deltas of prefetch targets are the exception: they do not
add up, and the first one stays.  `merge_laws` says which of the laws survive that, and for which
profiles.
-/

namespace SampleProfile

namespace Count

/-- Whether a count is the distance of a prefetch. -/
def isDelta : Count → Bool
  | execution _ => false
  | prefetchDelta _ => true

variable {first second third left right : Count}

theorem isDelta_eq_false_iff {count : Count} :
    count.isDelta = false ↔ ∃ samples, count = execution samples := by
  cases count <;> simp [isDelta]

/-- An execution count that meets a delta may lose samples that follow; counts of one kind are
associative. -/
theorem accumulate_assoc (earlier : first.isDelta = second.isDelta)
    (later : second.isDelta = third.isDelta) :
    (first.accumulate second).accumulate third = first.accumulate (second.accumulate third) := by
  cases first with
  | prefetchDelta delta => rfl
  | execution samples =>
      cases second with
      | prefetchDelta delta => cases earlier
      | execution more =>
          cases third with
          | prefetchDelta delta => cases later
          | execution others => exact congrArg execution (satAdd_assoc ..)

theorem merge_accumulate_assoc {first second third : Option Count}
    (earlier : ∀ count ∈ first, ∀ more ∈ second, count.isDelta = more.isDelta)
    (later : ∀ more ∈ second, ∀ others ∈ third, more.isDelta = others.isDelta) :
    Option.merge accumulate (Option.merge accumulate first second) third =
      Option.merge accumulate first (Option.merge accumulate second third) := by
  cases first with
  | none => simp
  | some count =>
      cases second with
      | none => simp
      | some more =>
          cases third with
          | none => simp
          | some others =>
              exact congrArg some
                (accumulate_assoc (earlier count rfl more rfl) (later more rfl others rfl))

theorem accumulate_comm_iff (same : left.isDelta = right.isDelta) :
    left.accumulate right = right.accumulate left ↔
      (left.isDelta → right.isDelta → left = right) := by
  cases left with
  | execution samples =>
      cases right with
      | execution more => simp [accumulate, isDelta, satAdd_comm]
      | prefetchDelta delta => cases same
  | prefetchDelta delta =>
      cases right with
      | execution more => cases same
      | prefetchDelta other => simp [accumulate, isDelta]

theorem merge_accumulate_comm {left right : Option Count}
    (swap : ∀ count ∈ left, ∀ other ∈ right, count.accumulate other = other.accumulate count) :
    Option.merge accumulate left right = Option.merge accumulate right left := by
  cases left with
  | none => simp
  | some count =>
      cases right with
      | none => simp
      | some other => exact congrArg some (swap count rfl other rfl)

end Count

namespace FunctionProfile

variable {first second third left right profile : FunctionProfile}

/-! ## Profiles known by their counts -/

theorem total_merge (left right : FunctionProfile) (path : Path) :
    ((left.merge right).nodeAt path).total =
      satAdd (left.nodeAt path).total (right.nodeAt path).total := by
  rw [nodeAt_merge]
  rfl

theorem head_merge (left right : FunctionProfile) (path : Path) :
    ((left.merge right).nodeAt path).head =
      satAdd (left.nodeAt path).head (right.nodeAt path).head := by
  rw [nodeAt_merge]
  rfl

/-- Profiles that record the same instances and positions, with the same numbers everywhere, are
equal. -/
theorem ext_counts
    (samePaths : ∀ path, path ∈ left.nodes ↔ path ∈ right.nodes)
    (sameTotals : ∀ path, (left.nodeAt path).total = (right.nodeAt path).total)
    (sameHeads : ∀ path, (left.nodeAt path).head = (right.nodeAt path).head)
    (samePositions : ∀ place, (left.position? place).isSome = (right.position? place).isSome)
    (sameCounts : ∀ place, left.countAt place = right.countAt place)
    (sameTargets : ∀ place target, left.target? place target = right.target? place target) :
    left = right := by
  refine ext_nodeAt samePaths fun path => ?_
  have positions : (left.nodeAt path).positions = (right.nodeAt path).positions := by
    refine Std.ExtTreeMap.ext_getElem? fun offset => ?_
    have recorded := samePositions ⟨path, offset⟩
    have counted := sameCounts ⟨path, offset⟩
    have targeted := sameTargets ⟨path, offset⟩
    simp only [position?, countAt, target?] at recorded counted targeted
    cases leftHeld : (left.nodeAt path).positions[offset]? with
    | none =>
        cases rightHeld : (right.nodeAt path).positions[offset]? with
        | none => rfl
        | some other => simp [leftHeld, rightHeld] at recorded
    | some position =>
        cases rightHeld : (right.nodeAt path).positions[offset]? with
        | none => simp [leftHeld, rightHeld] at recorded
        | some other =>
            simp only [leftHeld, rightHeld, Option.getD_some, Option.bind_some] at counted targeted
            have targets : position.targets = other.targets :=
              Std.ExtTreeMap.ext_getElem? targeted
            cases position
            cases other
            simp_all
  have total := sameTotals path
  have head := sameHeads path
  cases leftNode : left.nodeAt path
  cases rightNode : right.nodeAt path
  simp_all

/-! ## Kinds of counts -/

theorem Executed.isDelta_countAt (executed : profile.Executed) (place : Place) :
    (profile.countAt place).isDelta = false :=
  Count.isDelta_eq_false_iff.mpr ⟨_, executed.countAt_eq place⟩

theorem executed_iff :
    profile.Executed ↔ ∀ entry ∈ profile.nodes.toList, ∀ held ∈ entry.2.positions.toList,
      held.2.count.isDelta = false := by
  simp only [Count.isDelta_eq_false_iff, Prod.forall,
    Std.ExtTreeMap.mem_toList_iff_getElem?_eq_some]
  constructor
  · intro executed path node held offset position found
    refine executed ⟨path, offset⟩ position ?_
    rw [position?, nodeAt_of_getElem? held, found]
  · intro listed place position found
    cases held : profile.nodes[place.path]? with
    | none => simp [position?, nodeAt, node?, held, Node.default_eq] at found
    | some node =>
        rw [position?, nodeAt_of_getElem? held] at found
        exact listed place.path node held place.offset position found

instance (profile : FunctionProfile) : Decidable profile.Executed :=
  decidable_of_iff _ executed_iff.symm

theorem mem_targets_of_target? {place : Place} {target : String} {count : Count}
    (found : count ∈ profile.target? place target) : (place, target) ∈ profile.targets := by
  rw [mem_targets, Option.mem_def.mp found]
  rfl

/-- Targets of one name are counted in one way in all of some profiles, by executions or by deltas.
-/
def UniformTargets (profiles : List FunctionProfile) : Prop :=
  ∀ left ∈ profiles, ∀ right ∈ profiles, ∀ target leftPlace rightPlace,
    ∀ count ∈ left.target? leftPlace target, ∀ other ∈ right.target? rightPlace target,
      count.isDelta = other.isDelta

/-- No target has different deltas at one place of the two profiles. -/
def AgreeOnDeltas (left right : FunctionProfile) : Prop :=
  ∀ place target, ∀ count ∈ left.target? place target, ∀ other ∈ right.target? place target,
    count.isDelta → other.isDelta → count = other

theorem uniformTargets_iff {profiles : List FunctionProfile} :
    UniformTargets profiles ↔ ∀ left ∈ profiles, ∀ right ∈ profiles,
      ∀ held ∈ left.targets, ∀ stored ∈ right.targets, held.2 = stored.2 →
        ∀ count ∈ left.target? held.1 held.2, ∀ other ∈ right.target? stored.1 stored.2,
          count.isDelta = other.isDelta := by
  constructor
  · intro uniform left leftMember right rightMember held _ stored _ same count found other
    rw [← same]
    exact uniform left leftMember right rightMember held.2 held.1 stored.1 count found other
  · intro listed left leftMember right rightMember target leftPlace rightPlace count found
      other otherFound
    exact listed left leftMember right rightMember (leftPlace, target)
      (mem_targets_of_target? found) (rightPlace, target) (mem_targets_of_target? otherFound) rfl
      count found other otherFound

instance (profiles : List FunctionProfile) : Decidable (UniformTargets profiles) :=
  decidable_of_iff _ uniformTargets_iff.symm

theorem agreeOnDeltas_iff :
    left.AgreeOnDeltas right ↔ ∀ held ∈ left.targets, ∀ count ∈ left.target? held.1 held.2,
      ∀ other ∈ right.target? held.1 held.2, count.isDelta → other.isDelta → count = other := by
  constructor
  · intro agree held _
    exact agree held.1 held.2
  · intro listed place target count found
    exact listed (place, target) (mem_targets_of_target? found) count found

instance (left right : FunctionProfile) : Decidable (left.AgreeOnDeltas right) :=
  decidable_of_iff _ agreeOnDeltas_iff.symm

/-! ## The laws -/

@[simp]
theorem empty_merge (profile : FunctionProfile) : empty.merge profile = profile := by
  refine ext_nodeAt (fun path => ?_) (fun path => ?_)
  · rw [mem_merge, mem_empty]
    apply or_iff_right_of_imp
    intro here
    subst here
    exact profile.root_mem
  · rw [nodeAt_merge, nodeAt_empty, Node.default_merge]

@[simp]
theorem merge_empty (profile : FunctionProfile) : profile.merge empty = profile := by
  refine ext_nodeAt (fun path => ?_) (fun path => ?_)
  · rw [mem_merge, mem_empty]
    apply or_iff_left_of_imp
    intro here
    subst here
    exact profile.root_mem
  · rw [nodeAt_merge, nodeAt_empty, Node.merge_default]

theorem merge_assoc (executed : ∀ profile ∈ [first, second, third], profile.Executed)
    (uniform : UniformTargets [first, second, third]) :
    (first.merge second).merge third = first.merge (second.merge third) := by
  refine ext_counts (fun path => ?_) (fun path => ?_) (fun path => ?_) (fun place => ?_)
    (fun place => ?_) (fun place target => ?_)
  · simp only [mem_merge, or_assoc]
  · simp only [total_merge, satAdd_assoc]
  · simp only [head_merge, satAdd_assoc]
  · simp only [position?_merge, Option.isSome_merge, Bool.or_assoc]
  · have firstKind := (executed first (by simp)).isDelta_countAt place
    have secondKind := (executed second (by simp)).isDelta_countAt place
    have thirdKind := (executed third (by simp)).isDelta_countAt place
    simp only [countAt_merge]
    exact Count.accumulate_assoc (firstKind.trans secondKind.symm)
      (secondKind.trans thirdKind.symm)
  · simp only [target?_merge]
    apply Count.merge_accumulate_assoc
    · exact uniform first (by simp) second (by simp) target place place
    · exact uniform second (by simp) third (by simp) target place place

theorem merge_comm_iff (leftExecuted : left.Executed) (rightExecuted : right.Executed)
    (uniform : UniformTargets [left, right]) :
    left.merge right = right.merge left ↔ left.AgreeOnDeltas right := by
  have sameKind (place : Place) (target : String) : ∀ count ∈ left.target? place target,
      ∀ other ∈ right.target? place target, count.isDelta = other.isDelta :=
    uniform left (by simp) right (by simp) target place place
  constructor
  · intro same place target count held other stored
    have swapped := congrArg (fun profile => profile.target? place target) same
    simp only [target?_merge, Option.mem_def.mp held, Option.mem_def.mp stored,
      Option.merge_some_some, Option.some_inj] at swapped
    exact (Count.accumulate_comm_iff (sameKind place target count held other stored)).mp swapped
  · intro agree
    refine ext_counts (fun path => ?_) (fun path => ?_) (fun path => ?_) (fun place => ?_)
      (fun place => ?_) (fun place target => ?_)
    · rw [mem_merge, mem_merge, or_comm]
    · rw [total_merge, total_merge, satAdd_comm]
    · rw [head_merge, head_merge, satAdd_comm]
    · rw [position?_merge, position?_merge, Option.isSome_merge, Option.isSome_merge, Bool.or_comm]
    · have leftKind := leftExecuted.isDelta_countAt place
      have rightKind := rightExecuted.isDelta_countAt place
      rw [countAt_merge, countAt_merge, Count.accumulate_comm_iff (leftKind.trans rightKind.symm)]
      simp [leftKind]
    · rw [target?_merge, target?_merge]
      apply Count.merge_accumulate_comm
      intro count held other stored
      rw [Count.accumulate_comm_iff (sameKind place target count held other stored)]
      exact agree place target count held other stored

/-- Merging goes through two profiles together, at the root and behind every call.  For profiles
whose positions count executions and whose targets are counted uniformly it is associative, and it
depends on the order of two profiles exactly if they disagree on a delta.  The empty profile is
neutral for all profiles. -/
theorem merge_laws (first second third : FunctionProfile)
    (executed : ∀ profile ∈ [first, second, third], profile.Executed)
    (uniform : UniformTargets [first, second, third]) :
    (first.merge second).merge third = first.merge (second.merge third) ∧
      (∀ profile : FunctionProfile, empty.merge profile = profile ∧ profile.merge empty = profile) ∧
      (∀ left ∈ [first, second, third], ∀ right ∈ [first, second, third],
        left.merge right = right.merge left ↔ left.AgreeOnDeltas right) ∧
      ∀ left right : FunctionProfile, (left.merge right).root = left.root.merge right.root ∧
        ∀ call, (left.merge right).inlined? call =
          Option.merge merge (left.inlined? call) (right.inlined? call) := by
  refine ⟨merge_assoc executed uniform, fun profile => ⟨empty_merge profile, merge_empty profile⟩,
    ?_, fun left right => ⟨root_merge left right, inlined?_merge left right⟩⟩
  intro left leftMember right rightMember
  refine merge_comm_iff (executed left leftMember) (executed right rightMember) ?_
  intro one oneMember other otherMember
  have both : ∀ profile ∈ [left, right], profile ∈ [first, second, third] := by
    intro profile member
    rw [List.mem_cons, List.mem_singleton] at member
    rcases member with rfl | rfl
    · exact leftMember
    · exact rightMember
  exact uniform one (both one oneMember) other (both other otherMember)

/-- A function that calls another one, inlined, so often that the count stops, with a delta at its
own position. -/
def saturated : FunctionProfile :=
  ((empty.recordEntry 3).record ⟨[⟨⟨4, 0⟩, "helper"⟩], ⟨3, 0⟩⟩ countLimit).setTarget
    ⟨[], ⟨2, 0⟩⟩ "__prefetch_T0_0" (.prefetchDelta 64)

/-- More samples at the same position of the inlined function, with a delta and a call beside them.
-/
def prefetching : FunctionProfile :=
  ((empty.record ⟨[⟨⟨4, 0⟩, "helper"⟩], ⟨3, 0⟩⟩ 7).setTarget
    ⟨[⟨⟨4, 0⟩, "helper"⟩], ⟨3, 0⟩⟩ "__prefetch_T0_0" (.prefetchDelta 8)).setTarget
      ⟨[], ⟨2, 0⟩⟩ "callee" (.execution 5)

/-- The same target with another delta. -/
def contradicting : FunctionProfile :=
  ((empty.record ⟨[], ⟨2, 0⟩⟩ 1).setTarget
    ⟨[], ⟨2, 0⟩⟩ "__prefetch_T0_0" (.prefetchDelta (-32))).setTarget
      ⟨[], ⟨2, 0⟩⟩ "callee" (.execution 0)

/-- Two of the three profiles disagree on a delta, so that only these two have to be merged in
order. -/
theorem merge_laws_saturated :
    (∀ profile ∈ [saturated, prefetching, contradicting], profile.Executed) ∧
      UniformTargets [saturated, prefetching, contradicting] ∧
      (saturated.merge prefetching).merge contradicting =
        saturated.merge (prefetching.merge contradicting) ∧
      saturated.merge prefetching = prefetching.merge saturated ∧
      saturated.merge contradicting ≠ contradicting.merge saturated ∧
      ((saturated.merge prefetching).nodeAt [⟨⟨4, 0⟩, "helper"⟩]).total = countLimit := by
  have executed : ∀ profile ∈ [saturated, prefetching, contradicting], profile.Executed := by
    decide +kernel
  have uniform : UniformTargets [saturated, prefetching, contradicting] := by decide +kernel
  obtain ⟨assoc, _, swap, _⟩ := merge_laws saturated prefetching contradicting executed uniform
  refine ⟨executed, uniform, assoc, ?_, ?_, by decide +kernel⟩
  · refine (swap saturated ?_ prefetching ?_).mpr (by decide +kernel)
    · exact List.mem_cons_self
    · exact List.mem_cons_of_mem _ List.mem_cons_self
  · refine (not_congr (swap saturated ?_ contradicting ?_)).mpr (by decide +kernel)
    · exact List.mem_cons_self
    · exact List.mem_cons_of_mem _ (List.mem_cons_of_mem _ List.mem_cons_self)

end FunctionProfile

end SampleProfile
