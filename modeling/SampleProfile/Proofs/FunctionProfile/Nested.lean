import SampleProfile.Proofs.FunctionProfile

/-!
# Profiles inside profiles

What is inlined directly into a function has a profile of its own, the nodes behind its call.  A
profile is its root together with the profiles behind its calls (`ext_inlined`), so that the
operations on node maps can be told as recursions: two profiles are merged at the root and, call by
call, behind it (`inlined?_merge`), and samples at the end of a path are recorded behind its first
call, at the end of the rest (`inlined?_record_cons`).
-/

namespace SampleProfile

/-- What is left of a path behind its first call, if that is the given one. -/
def Path.behind? (call : Callsite) : Path → Option Path
  | [] => none
  | first :: rest => if first = call then some rest else none

theorem Path.behind?_eq_some_iff {call : Callsite} {path rest : Path} :
    behind? call path = some rest ↔ path = call :: rest := by
  cases path with
  | nil => simp [behind?]
  | cons first others =>
      by_cases same : first = call <;> simp [behind?, same]

/-- The nodes behind a call, by their paths from there on. -/
def NodeMap.behind (call : Callsite) (nodes : NodeMap) : NodeMap :=
  (nodes.toList.filterMap fun entry => (Path.behind? call entry.1).map (·, entry.2)).foldl
    (fun inner entry => inner.insert entry.1 entry.2) ∅

theorem NodeMap.getElem?_behind (call : Callsite) (nodes : NodeMap) (path : Path) :
    (nodes.behind call)[path]? = nodes[call :: path]? := by
  have listed : ∀ entry : Path × Node,
      (entry ∈ nodes.toList.filterMap fun entry => (Path.behind? call entry.1).map (·, entry.2)) ↔
        nodes[call :: entry.1]? = some entry.2 := by
    intro entry
    obtain ⟨rest, node⟩ := entry
    simp only [List.mem_filterMap, Option.map_eq_some_iff, Prod.mk.injEq,
      Path.behind?_eq_some_iff, Prod.exists, Std.ExtTreeMap.mem_toList_iff_getElem?_eq_some]
    constructor
    · intro found
      obtain ⟨_, _, held, _, rfl, rfl, rfl⟩ := found
      exact held
    · intro held
      exact ⟨_, _, held, rest, rfl, rfl, rfl⟩
  apply Option.ext
  intro node
  rw [behind, OrderedMap.getElem?_foldl_insert Prod.fst Prod.snd ∅ path node]
  · simp only [listed]
    constructor
    · intro found
      rcases found with ⟨_, held, rfl, rfl⟩ | ⟨inEmpty, _⟩
      · exact held
      · simp at inEmpty
    · intro held
      exact Or.inl ⟨(path, node), held, rfl, rfl⟩
  -- Paths behind the call differ, so that no entry takes the place of another one.
  · intro left leftListed right rightListed same
    rw [listed] at leftListed rightListed
    rw [same, rightListed] at leftListed
    exact (Option.some_inj.mp leftListed).symm

namespace FunctionProfile

/-- The profile of what is inlined at a call in the function itself. -/
def inlined? (profile : FunctionProfile) (call : Callsite) : Option FunctionProfile :=
  if recorded : [call] ∈ profile.nodes then
    some {
      nodes := profile.nodes.behind call
      root_mem := by
        rw [Std.ExtTreeMap.mem_iff_isSome_getElem?, NodeMap.getElem?_behind,
          ← Std.ExtTreeMap.mem_iff_isSome_getElem?]
        exact recorded
      closed := by
        intro inner outer extended member
        rw [Std.ExtTreeMap.mem_iff_isSome_getElem?, NodeMap.getElem?_behind,
          ← Std.ExtTreeMap.mem_iff_isSome_getElem?] at member ⊢
        exact profile.closed _ _ (List.cons_prefix_cons.mpr ⟨rfl, extended⟩) member }
  else
    none

/-! ## Nodes behind a call -/

section Nodes

variable (profile : FunctionProfile) (call : Callsite) (path : Path)

theorem node?_eq_none (absent : path ∉ profile.nodes) : profile.node? path = none := by
  rw [Std.ExtTreeMap.mem_iff_isSome_getElem?] at absent
  exact Option.not_isSome_iff_eq_none.mp absent

theorem node?_eq_ite :
    profile.node? path = if path ∈ profile.nodes then some (profile.nodeAt path) else none := by
  by_cases recorded : path ∈ profile.nodes
  · rw [if_pos recorded, nodeAt]
    rw [Std.ExtTreeMap.mem_iff_isSome_getElem?] at recorded
    obtain ⟨node, held⟩ := Option.isSome_iff_exists.mp recorded
    rw [node?, held, Option.getD_some]
  · rw [if_neg recorded, node?_eq_none _ _ recorded]

theorem bind_node?_inlined? :
    (profile.inlined? call).bind (·.node? path) = profile.node? (call :: path) := by
  by_cases recorded : [call] ∈ profile.nodes
  · rw [inlined?, dif_pos recorded, Option.bind_some]
    exact NodeMap.getElem?_behind ..
  · have farther : call :: path ∉ profile.nodes := fun member =>
      recorded (profile.closed _ _ (List.prefix_append [call] path) member)
    rw [inlined?, dif_neg recorded, node?_eq_none _ _ farther]
    rfl

theorem mem_getD_inlined? :
    path ∈ ((profile.inlined? call).getD empty).nodes ↔
      path = [] ∨ call :: path ∈ profile.nodes := by
  have behind := profile.bind_node?_inlined? call path
  cases held : profile.inlined? call with
  | none =>
      rw [held, Option.bind_none] at behind
      have absent : call :: path ∉ profile.nodes := by
        rw [Std.ExtTreeMap.mem_iff_isSome_getElem?]
        change ¬ (profile.node? (call :: path)).isSome
        simp [← behind]
      rw [Option.getD_none, mem_empty, or_iff_left absent]
  | some inner =>
      rw [held, Option.bind_some] at behind
      rw [Option.getD_some, Std.ExtTreeMap.mem_iff_isSome_getElem?,
        Std.ExtTreeMap.mem_iff_isSome_getElem?]
      change (inner.node? path).isSome ↔ path = [] ∨ (profile.node? (call :: path)).isSome
      rw [← behind]
      refine (or_iff_right_of_imp ?_).symm
      intro here
      subst here
      exact Std.ExtTreeMap.mem_iff_isSome_getElem?.mp inner.root_mem

theorem nodeAt_getD_inlined? :
    ((profile.inlined? call).getD empty).nodeAt path = profile.nodeAt (call :: path) := by
  have behind := profile.bind_node?_inlined? call path
  change _ = (profile.node? (call :: path)).getD default
  rw [← behind]
  cases profile.inlined? call with
  | none => exact nodeAt_empty path
  | some inner => rfl

end Nodes

/-- Two profiles, or none, are the same if they have the same nodes; a profile has at least its
root. -/
theorem ext_node? {left right : Option FunctionProfile}
    (same : ∀ path, left.bind (·.node? path) = right.bind (·.node? path)) : left = right := by
  have rooted (profile : FunctionProfile) : profile.node? [] ≠ none := by
    rw [node?_eq_ite, if_pos profile.root_mem]
    exact Option.some_ne_none _
  cases left with
  | none =>
      cases right with
      | none => rfl
      | some profile => exact absurd (same []).symm (rooted profile)
  | some profile =>
      cases right with
      | none => exact absurd (same []) (rooted profile)
      | some other => exact congrArg some (ext_nodes (Std.ExtTreeMap.ext_getElem? same))

/-- A profile is its root and the profiles behind its calls. -/
theorem ext_inlined {left right : FunctionProfile} (sameRoot : left.root = right.root)
    (sameInlined : ∀ call, left.inlined? call = right.inlined? call) : left = right := by
  refine ext_nodes (Std.ExtTreeMap.ext_getElem? fun path => ?_)
  change left.node? path = right.node? path
  cases path with
  | nil =>
      rw [node?_eq_ite, node?_eq_ite, if_pos left.root_mem, if_pos right.root_mem, nodeAt_nil,
        nodeAt_nil, sameRoot]
  | cons call rest => rw [← bind_node?_inlined?, ← bind_node?_inlined?, sameInlined]

/-! ## Merging -/

theorem root_merge (left right : FunctionProfile) :
    (left.merge right).root = left.root.merge right.root := by
  rw [← nodeAt_nil, nodeAt_merge, nodeAt_nil, nodeAt_nil]

theorem node?_merge (left right : FunctionProfile) (path : Path) :
    (left.merge right).node? path =
      Option.merge Node.merge (left.node? path) (right.node? path) :=
  OrderedMap.getElem?_unionWith_eq_merge ..

/-- What is inlined at one call in both profiles is merged in the same way. -/
theorem inlined?_merge (left right : FunctionProfile) (call : Callsite) :
    (left.merge right).inlined? call =
      Option.merge merge (left.inlined? call) (right.inlined? call) := by
  apply ext_node?
  intro path
  rw [bind_node?_inlined?, node?_merge, ← bind_node?_inlined?, ← bind_node?_inlined?]
  cases left.inlined? call with
  | none => cases right.inlined? call <;> simp
  | some leftInner =>
      cases right.inlined? call with
      | none => simp
      | some rightInner => exact (node?_merge leftInner rightInner path).symm

/-! ## Recording -/

section Record

variable (samples : UInt64) (profile : FunctionProfile)

theorem root_record_nil (offset : LineOffset) :
    (profile.record ⟨[], offset⟩ samples).root =
      (profile.root.charge samples).atPosition offset fun position =>
        { position with count := position.count.accumulate (.execution samples) } := by
  rw [← nodeAt_nil, nodeAt_record, nodeAt_nil]
  simp [Node.charge, Node.atPosition]

theorem root_record_cons (call : Callsite) (rest : Path) (offset : LineOffset) :
    (profile.record ⟨call :: rest, offset⟩ samples).root = profile.root.charge samples := by
  rw [← nodeAt_nil, nodeAt_record, nodeAt_nil]
  simp [Node.charge]

theorem inlined?_record_nil (offset : LineOffset) (tested : Callsite) :
    (profile.record ⟨[], offset⟩ samples).inlined? tested = profile.inlined? tested := by
  apply ext_node?
  intro path
  rw [bind_node?_inlined?, bind_node?_inlined?, node?_eq_ite, node?_eq_ite, nodeAt_record]
  simp [mem_record]

theorem inlined?_record_cons (call : Callsite) (rest : Path) (offset : LineOffset)
    (tested : Callsite) :
    (profile.record ⟨call :: rest, offset⟩ samples).inlined? tested =
      if call = tested then
        some (((profile.inlined? call).getD empty).record ⟨rest, offset⟩ samples)
      else
        profile.inlined? tested := by
  apply ext_node?
  intro path
  rw [bind_node?_inlined?, node?_eq_ite, nodeAt_record]
  by_cases same : call = tested
  · subst same
    rw [if_pos rfl, Option.bind_some, node?_eq_ite, nodeAt_record, nodeAt_getD_inlined?]
    have passed : path <+: rest ∨ path = [] ∨ call :: path ∈ profile.nodes ↔
        path <+: rest ∨ call :: path ∈ profile.nodes := by
      rw [← or_assoc, or_iff_left_of_imp (a := path <+: rest)]
      intro here
      subst here
      exact List.nil_prefix
    simp only [mem_record, mem_getD_inlined?, passed, List.cons_prefix_cons, true_and,
      List.cons.injEq]
  · rw [if_neg same, bind_node?_inlined?, node?_eq_ite]
    simp [mem_record, List.cons_prefix_cons, same, Ne.symm same]

end Record

end FunctionProfile

end SampleProfile
