import SampleProfile.Proofs.Attribution.Listing
import SampleProfile.Proofs.CallGraph.Walk
import SampleProfile.Proofs.ProfileMap.Targets
import SampleProfile.Proofs.Ranking

/-!
# Recorded calls as edges

The graph of a profile has an edge for every call recorded at some instance in a reported function,
whatever its depth, and no other edges.  Instances of one function in many profiles share the
callees collected under its name.
-/

namespace SampleProfile

namespace FunctionProfile

/-- The instance at the end of a path in the profile of a function is one of a function: of the
profiled function itself at the start, and of the function whose call was inlined last behind it. -/
inductive InstanceOf (profile : FunctionProfile) (function : String) : String → Path → Prop
  | itself : InstanceOf profile function function []
  | inlined {outer : Path} {call : Callsite} (recorded : outer ++ [call] ∈ profile.nodes) :
      InstanceOf profile function call.callee (outer ++ [call])

/-- A call of a function is recorded at an instance: it has been inlined there, or the function is
an indirect call target.  Prefetch targets are no calls. -/
def CallsAt (profile : FunctionProfile) (path : Path) (callee : String) : Prop :=
  (∃ offset, path ++ [⟨offset, callee⟩] ∈ profile.nodes) ∨
    (∃ offset, (profile.target? ⟨path, offset⟩ callee).isSome) ∧
      ¬ Hint.targetStart.toList <+: callee.toList

end FunctionProfile

namespace CallGraph

/-! ## Collecting edges -/

def HasEdge (edges : OrderedMap String (OrderedSet String)) (caller callee : String) : Prop :=
  ∃ callees, edges[caller]? = some callees ∧ callee ∈ callees

theorem calls_iff {graph : CallGraph} {caller callee : String} :
    graph.Calls caller callee ↔ HasEdge graph.edges caller callee := by
  rw [Calls, callees, HasEdge]
  cases graph.edges[caller]? with
  | none => simp
  | some found => simp

theorem hasEdge_addEdge (edges : OrderedMap String (OrderedSet String)) (edge : String × String)
    (caller callee : String) :
    HasEdge (addEdge edges edge) caller callee ↔
      edge = (caller, callee) ∨ HasEdge edges caller callee := by
  obtain ⟨source, destination⟩ := edge
  rw [HasEdge, HasEdge, addEdge, OrderedMap.getElem?_update, Prod.mk.injEq]
  by_cases same : source = caller
  · subst same
    have collected : callee ∈ ((edges[source]?.getD default).insert destination ()) ↔
        destination = callee ∨ ∃ callees, edges[source]? = some callees ∧ callee ∈ callees := by
      have nothing : callee ∉ (default : OrderedSet String) := Std.ExtTreeMap.not_mem_empty
      rw [mem_insert_iff, eq_comm]
      cases edges[source]? with
      | none => simp [nothing]
      | some callees => simp
    simpa using collected
  · simp [same]

theorem hasEdge_foldl_addEdge (edges : OrderedMap String (OrderedSet String))
    (added : List (String × String)) (caller callee : String) :
    HasEdge (added.foldl addEdge edges) caller callee ↔
      (caller, callee) ∈ added ∨ HasEdge edges caller callee := by
  induction added generalizing edges with
  | nil => simp
  | cons edge rest inductionHypothesis =>
      rw [List.foldl_cons, inductionHypothesis, hasEdge_addEdge, List.mem_cons]
      rw [← or_assoc, or_comm (b := edge = _), eq_comm (a := edge)]

/-! ## Edges of an instance -/

@[simp]
theorem nameAt_nil (function : String) : nameAt function [] = function := rfl

@[simp]
theorem nameAt_concat (function : String) (outer : Path) (call : Callsite) :
    nameAt function (outer ++ [call]) = call.callee := by
  rw [nameAt, List.getLast?_concat]

theorem instanceOf_iff {profile : FunctionProfile} {function named : String} {path : Path} :
    profile.InstanceOf function named path ↔
      path ∈ profile.nodes ∧ nameAt function path = named := by
  constructor
  · intro instanceOf
    cases instanceOf with
    | itself => exact ⟨profile.root_mem, rfl⟩
    | inlined recorded => exact ⟨recorded, nameAt_concat ..⟩
  · rintro ⟨recorded, rfl⟩
    rcases List.eq_nil_or_concat path with rfl | ⟨outer, call, rfl⟩
    · exact .itself
    · rw [List.concat_eq_append] at recorded ⊢
      rw [nameAt_concat]
      exact .inlined recorded

/-- The indirect calls of an instance are edges from its function. -/
theorem mem_indirect_iff {profile : FunctionProfile} {path : Path} {node : Node}
    (held : profile.nodes[path]? = some node) {caller source callee : String} :
    (source, callee) ∈ (node.positions.toList.flatMap fun position =>
        (position.2.targets.keys.filter fun target =>
          !Hint.targetStart.toList.isPrefixOf target.toList).map fun target => (caller, target)) ↔
      caller = source ∧ (∃ offset, (profile.target? ⟨path, offset⟩ callee).isSome) ∧
        ¬ Hint.targetStart.toList <+: callee.toList := by
  have stored : ∀ offset, (profile.target? ⟨path, offset⟩ callee).isSome ↔
      ∃ position, node.positions[offset]? = some position ∧ callee ∈ position.targets := by
    intro offset
    rw [FunctionProfile.target?, FunctionProfile.nodeAt_of_getElem? held]
    cases node.positions[offset]? with
    | none => simp
    | some position => simp
  have noPrefetch : ∀ target : String,
      (!Hint.targetStart.toList.isPrefixOf target.toList) = true ↔
        ¬ Hint.targetStart.toList <+: target.toList := by
    intro target
    rw [Bool.not_eq_true', ← Bool.not_eq_true, List.isPrefixOf_iff_prefix]
  rw [OrderedMap.mem_flatMap_toList]
  simp only [List.mem_map, List.mem_filter, Std.ExtTreeMap.mem_keys, noPrefetch, stored,
    Prod.mk.injEq]
  constructor
  · rintro ⟨offset, position, found, target, ⟨listed, called⟩, sameCaller, rfl⟩
    exact ⟨sameCaller, ⟨offset, position, found, listed⟩, called⟩
  · rintro ⟨sameCaller, ⟨offset, position, found, listed⟩, called⟩
    exact ⟨offset, position, found, callee, ⟨listed, called⟩, sameCaller, rfl⟩

/-- The edges of an instance are the call that leads to it, from the instance around it, and its
indirect calls. -/
theorem mem_instanceEdges_iff {profile : FunctionProfile} {function : String} {path : Path}
    {node : Node} (held : profile.nodes[path]? = some node) {caller callee : String} :
    (caller, callee) ∈ instanceEdges function path node ↔
      (∃ outer offset, path = outer ++ [⟨offset, callee⟩] ∧ nameAt function outer = caller) ∨
        nameAt function path = caller ∧
          (∃ offset, (profile.target? ⟨path, offset⟩ callee).isSome) ∧
            ¬ Hint.targetStart.toList <+: callee.toList := by
  rw [instanceEdges]
  rcases List.eq_nil_or_concat path with rfl | ⟨outer, call, rfl⟩
  · simp only [List.getLast?_nil, mem_indirect_iff held]
    simp
  · rw [List.concat_eq_append] at held ⊢
    have leading : (∃ first offset, outer ++ [call] = first ++ [⟨offset, callee⟩] ∧
        nameAt function first = caller) ↔
        (caller, callee) = (nameAt function outer, call.callee) := by
      rw [Prod.mk.injEq]
      constructor
      · rintro ⟨first, offset, same, rfl⟩
        obtain ⟨rfl, rfl⟩ := List.append_singleton_inj.mp same
        exact ⟨rfl, rfl⟩
      · rintro ⟨rfl, rfl⟩
        exact ⟨outer, call.offset, rfl, rfl⟩
    simp only [List.getLast?_concat, List.dropLast_concat, List.mem_cons, mem_indirect_iff held,
      leading]

/-- In the profile of a function the edges of all instances are the calls recorded at instances of
their callers. -/
theorem mem_profileEdges_iff {profile : FunctionProfile} {function caller callee : String} :
    (caller, callee) ∈ profile.nodes.toList.flatMap
        (fun inner => instanceEdges function inner.1 inner.2) ↔
      ∃ path, profile.InstanceOf function caller path ∧ profile.CallsAt path callee := by
  rw [OrderedMap.mem_flatMap_toList]
  constructor
  · rintro ⟨path, node, held, edge⟩
    have recorded : path ∈ profile.nodes := by
      rw [Std.ExtTreeMap.mem_iff_isSome_getElem?, held]
      rfl
    rcases (mem_instanceEdges_iff held).mp edge with ⟨outer, offset, rfl, named⟩ | ⟨named, indirect⟩
    · have around : outer ∈ profile.nodes :=
        profile.closed outer _ (List.prefix_append _ _) recorded
      exact ⟨outer, instanceOf_iff.mpr ⟨around, named⟩, Or.inl ⟨offset, recorded⟩⟩
    · exact ⟨path, instanceOf_iff.mpr ⟨recorded, named⟩, Or.inr indirect⟩
  · rintro ⟨path, instanceOf, calls⟩
    obtain ⟨recorded, named⟩ := instanceOf_iff.mp instanceOf
    rcases calls with ⟨offset, inlined⟩ | indirect
    · have held := Std.ExtTreeMap.getElem?_eq_some_getElem inlined
      exact ⟨_, _, held, (mem_instanceEdges_iff held).mpr (Or.inl ⟨path, offset, rfl, named⟩)⟩
    · have held := Std.ExtTreeMap.getElem?_eq_some_getElem recorded
      exact ⟨path, _, held, (mem_instanceEdges_iff held).mpr (Or.inr ⟨named, indirect⟩)⟩

/-! ## The graph of a profile -/

theorem calls_ofProfileMap_iff {map : ProfileMap} {caller callee : String} :
    (ofProfileMap map).Calls caller callee ↔
      ∃ function profile, (function, profile) ∈ map.emitted ∧
        ∃ path, profile.InstanceOf function caller path ∧ profile.CallsAt path callee := by
  have noEdge : ¬ HasEdge ∅ caller callee := by
    rintro ⟨callees, found, _⟩
    simp at found
  rw [calls_iff, ofProfileMap, hasEdge_foldl_addEdge, or_iff_left noEdge, List.mem_flatMap]
  simp only [Prod.exists, mem_profileEdges_iff]

/-- The roots are the reported functions with their totals. -/
theorem mem_roots_iff {map : ProfileMap} {name : String} {total : UInt64} :
    (name, total) ∈ (ofProfileMap map).roots ↔
      ∃ profile, (name, profile) ∈ map.emitted ∧ profile.root.total = total := by
  rw [ofProfileMap, List.mem_mergeSort, List.mem_map]
  constructor
  · rintro ⟨⟨_, profile⟩, reported, same⟩
    obtain ⟨rfl, rfl⟩ := Prod.mk.inj same
    exact ⟨profile, reported, rfl⟩
  · rintro ⟨profile, reported, rfl⟩
    exact ⟨(name, profile), reported, rfl⟩

theorem nodup_roots (map : ProfileMap) : ((ofProfileMap map).roots.map Prod.fst).Nodup := by
  have names : (map.emitted.map fun entry => (entry.1, entry.2.root.total)).map Prod.fst =
      map.emitted.map Prod.fst := by
    rw [List.map_map]
    rfl
  have distinct : (map.profiles.toList.map Prod.fst).Nodup := by
    rw [Std.ExtTreeMap.map_fst_toList_eq_keys]
    exact Std.ExtTreeMap.nodup_keys
  have sorted := (List.mergeSort_perm
    (map.emitted.map fun entry => (entry.1, entry.2.root.total)) hotter).map Prod.fst
  rw [ofProfileMap, sorted.nodup_iff, names]
  exact distinct.sublist (List.filter_sublist.map _)

theorem pairwise_roots (map : ProfileMap) : (ofProfileMap map).roots.Pairwise Outranks := by
  have sorted := pairwise_mergeSort_outranks (fun _ _ => hotter_iff)
    (map.emitted.map fun entry => (entry.1, entry.2.root.total))
  have distinct : (ofProfileMap map).roots.Nodup :=
    List.Pairwise.of_map Prod.fst (fun _ _ different same => different (congrArg Prod.fst same))
      (nodup_roots map)
  refine (sorted.and distinct).imp ?_
  rintro above below ⟨same | outranks, different⟩
  · exact absurd same different
  · exact outranks

/-- One function is a callee of another exactly if a call of it is recorded at some instance of the
other in the profile of a reported function, and the roots are the reported functions with their
totals, each once, higher totals first and by name within one total.  Functions below the threshold
have no part in either. -/
theorem ofProfileMap_exact (map : ProfileMap) :
    let reported := fun profile : FunctionProfile =>
      map.ignoreThreshold ∨ map.threshold ≤ profile.root.total
    (∀ caller callee, (ofProfileMap map).Calls caller callee ↔
      ∃ function profile, map.profiles[function]? = some profile ∧ reported profile ∧
        ∃ path, profile.InstanceOf function caller path ∧ profile.CallsAt path callee) ∧
      (∀ name total, (name, total) ∈ (ofProfileMap map).roots ↔
        ∃ profile, map.profiles[name]? = some profile ∧ reported profile ∧
          profile.root.total = total) ∧
      ((ofProfileMap map).roots.map Prod.fst).Nodup ∧
      (ofProfileMap map).roots.Pairwise Outranks ∧
      ofProfileMap { map with profiles := map.profiles.filter fun _ profile => reported profile } =
        ofProfileMap map := by
  intro reported
  refine ⟨?_, ?_, nodup_roots map, pairwise_roots map, ?_⟩
  · intro caller callee
    simp only [calls_ofProfileMap_iff, ProfileMap.mem_emitted, and_assoc, reported]
  · intro name total
    simp only [mem_roots_iff, ProfileMap.mem_emitted, and_assoc, reported]
  · have same : ProfileMap.emitted { map with
        profiles := map.profiles.filter fun _ profile => reported profile } = map.emitted := by
      rw [ProfileMap.emitted, ProfileMap.emitted, Std.ExtTreeMap.toList_filter, List.filter_filter]
      refine List.filter_congr fun entry _ => ?_
      simp [reported]
    rw [ofProfileMap, ofProfileMap, same]

end CallGraph

end SampleProfile
