import SampleProfile.Attribution
import SampleProfile.Proofs.OrderedMap

/-!
# What a profile answers

A profile is known by two answers: which instances it records, and what is counted in each of them.
Every operation is described by what it does to the two answers, and profiles with the same answers
are equal.
-/

namespace SampleProfile

theorem Path.nodup_ancestors (path : Path) : (ancestors path).Nodup := by
  induction path with
  | nil => simp [ancestors]
  | cons call rest inductionHypothesis =>
      rw [ancestors, List.nodup_cons]
      refine ⟨by simp, ?_⟩
      exact List.Pairwise.map _ (fun _ _ different same => different (List.cons.inj same).2)
        inductionHypothesis

/-- Every node passed on the way down a path is changed once. -/
theorem NodeMap.getElem?_along (change : Node → Node) (path tested : Path) (nodes : NodeMap) :
    (nodes.along change path)[tested]? =
      if tested <+: path then some (change (nodes[tested]?.getD default)) else nodes[tested]? := by
  have run : ∀ (inners : List Path) (start : NodeMap), inners.Nodup →
      (inners.foldl (fun map inner => OrderedMap.update map inner change) start)[tested]? =
        if tested ∈ inners then some (change (start[tested]?.getD default))
        else start[tested]? := by
    intro inners
    induction inners with
    | nil => simp
    | cons inner rest inductionHypothesis =>
        intro start distinct
        rw [List.nodup_cons] at distinct
        rw [List.foldl_cons, inductionHypothesis _ distinct.2, OrderedMap.getElem?_update]
        by_cases same : inner = tested
        · subst same
          simp [distinct.1]
        · simp [same, Ne.symm same]
  rw [along, run _ _ path.nodup_ancestors]
  simp only [Path.mem_ancestors]

/-! ## Merging nodes and positions -/

theorem Node.default_eq : (default : Node) = { total := 0, head := 0, positions := ∅ } := rfl

@[simp]
theorem Node.default_merge (node : Node) : merge default node = node := by
  simp [Node.default_eq, merge]

@[simp]
theorem Node.merge_default (node : Node) : node.merge default = node := by
  simp [Node.default_eq, merge]

namespace FunctionProfile

/-! ## The two answers -/

/-- What is counted in an instance, nothing if it is not recorded. -/
def nodeAt (profile : FunctionProfile) (path : Path) : Node :=
  (profile.node? path).getD default

theorem nodeAt_of_getElem? {profile : FunctionProfile} {path : Path} {node : Node}
    (held : profile.nodes[path]? = some node) : profile.nodeAt path = node := by
  rw [nodeAt, node?, held]
  rfl

theorem nodeAt_nil (profile : FunctionProfile) : profile.nodeAt [] = profile.root := by
  rw [nodeAt, node?, Std.ExtTreeMap.getElem?_eq_some_getElem profile.root_mem]
  rfl

/-- Profiles with the same answers are equal. -/
theorem ext_nodeAt {left right : FunctionProfile}
    (samePaths : ∀ path, path ∈ left.nodes ↔ path ∈ right.nodes)
    (sameNodes : ∀ path, left.nodeAt path = right.nodeAt path) : left = right := by
  refine ext_nodes (Std.ExtTreeMap.ext_getElem? fun path => ?_)
  have recorded := samePaths path
  have counted := sameNodes path
  rw [Std.ExtTreeMap.mem_iff_isSome_getElem?, Std.ExtTreeMap.mem_iff_isSome_getElem?] at recorded
  rw [nodeAt, nodeAt, node?, node?] at counted
  cases leftNode : left.nodes[path]? with
  | none =>
      cases rightNode : right.nodes[path]? with
      | none => rfl
      | some node => simp [leftNode, rightNode] at recorded
  | some node =>
      cases rightNode : right.nodes[path]? with
      | none => simp [leftNode, rightNode] at recorded
      | some other => simpa [leftNode, rightNode] using counted

/-! ## The empty profile -/

theorem mem_empty (path : Path) : path ∈ empty.nodes ↔ path = [] := by
  rw [empty, OrderedMap.mem_update]
  simp [eq_comm]

@[simp]
theorem nodeAt_empty (path : Path) : empty.nodeAt path = default := by
  rw [nodeAt, node?, empty, OrderedMap.getElem?_update]
  by_cases root : [] = path <;> simp [root]

/-! ## Recording samples -/

theorem mem_along (change : Node → Node) (path tested : Path) (profile : FunctionProfile) :
    tested ∈ (profile.along change path).nodes ↔ tested <+: path ∨ tested ∈ profile.nodes :=
  NodeMap.mem_along ..

theorem nodeAt_along (change : Node → Node) (path tested : Path) (profile : FunctionProfile) :
    (profile.along change path).nodeAt tested =
      if tested <+: path then change (profile.nodeAt tested) else profile.nodeAt tested := by
  rw [nodeAt, node?, along, NodeMap.getElem?_along]
  by_cases passed : tested <+: path
  · rw [if_pos passed, if_pos passed]
    rfl
  · rw [if_neg passed, if_neg passed]
    rfl

theorem mem_atPlace (place : Place) (change : Position → Position) (tested : Path)
    (profile : FunctionProfile) :
    tested ∈ (profile.atPlace place change).nodes ↔
      tested <+: place.path ∨ tested ∈ profile.nodes := by
  rw [atPlace, OrderedMap.mem_update, mem_along]
  constructor
  · rintro (rfl | member)
    · exact Or.inl (List.prefix_refl _)
    · exact member
  · exact Or.inr

theorem nodeAt_atPlace (place : Place) (change : Position → Position) (tested : Path)
    (profile : FunctionProfile) :
    (profile.atPlace place change).nodeAt tested =
      if place.path = tested then (profile.nodeAt tested).atPosition place.offset change
      else profile.nodeAt tested := by
  have passing : (profile.along id place.path).nodeAt tested = profile.nodeAt tested := by
    rw [nodeAt_along]
    exact ite_self _
  rw [← passing, nodeAt, node?, atPlace, OrderedMap.getElem?_update]
  by_cases here : place.path = tested
  · subst here
    rw [if_pos rfl, if_pos rfl]
    rfl
  · rw [if_neg here, if_neg here]
    rfl

theorem mem_record (place : Place) (samples : UInt64) (tested : Path) (profile : FunctionProfile) :
    tested ∈ (profile.record place samples).nodes ↔
      tested <+: place.path ∨ tested ∈ profile.nodes := by
  rw [record, mem_atPlace, mem_along, ← or_assoc, or_self]

/-- Samples are added to every total on the way, and to one position at its end. -/
theorem nodeAt_record (place : Place) (samples : UInt64) (tested : Path)
    (profile : FunctionProfile) :
    (profile.record place samples).nodeAt tested =
      { total := satAdd (profile.nodeAt tested).total
          (if tested <+: place.path then samples else 0)
        head := (profile.nodeAt tested).head
        positions :=
          if place.path = tested then
            OrderedMap.update (profile.nodeAt tested).positions place.offset fun position =>
              { position with count := position.count.accumulate (.execution samples) }
          else
            (profile.nodeAt tested).positions } := by
  rw [record, nodeAt_atPlace, nodeAt_along]
  by_cases passed : tested <+: place.path <;> by_cases ends : place.path = tested <;>
    simp [passed, ends, Node.charge, Node.atPosition]

theorem mem_recordEntry (samples : UInt64) (tested : Path) (profile : FunctionProfile) :
    tested ∈ (profile.recordEntry samples).nodes ↔ tested ∈ profile.nodes := by
  rw [recordEntry, OrderedMap.mem_update]
  constructor
  · rintro (rfl | member)
    · exact profile.root_mem
    · exact member
  · exact Or.inr

theorem nodeAt_recordEntry (samples : UInt64) (tested : Path) (profile : FunctionProfile) :
    (profile.recordEntry samples).nodeAt tested =
      { profile.nodeAt tested with
        head := satAdd (profile.nodeAt tested).head (if tested = [] then samples else 0) } := by
  rw [nodeAt, node?, recordEntry, OrderedMap.getElem?_update]
  by_cases root : tested = []
  · subst root
    rw [if_pos rfl, if_pos rfl]
    rfl
  · rw [if_neg (Ne.symm root), if_neg root, satAdd_zero]
    rfl

/-! ## Merging -/

theorem mem_merge (left right : FunctionProfile) (path : Path) :
    path ∈ (left.merge right).nodes ↔ path ∈ left.nodes ∨ path ∈ right.nodes :=
  OrderedMap.mem_unionWith ..

/-- Profiles are merged instance by instance; what one of them does not record counts nothing. -/
@[simp]
theorem nodeAt_merge (left right : FunctionProfile) (path : Path) :
    (left.merge right).nodeAt path = (left.nodeAt path).merge (right.nodeAt path) := by
  simp only [nodeAt, node?, merge, OrderedMap.getElem?_unionWith]
  cases left.nodes[path]? <;> cases right.nodes[path]? <;> simp

end FunctionProfile

end SampleProfile
