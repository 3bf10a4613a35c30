import SampleProfile.Prefetch.Hint
import SampleProfile.ProfileMap

/-!
# Call graphs

The call graph of a profile leads from every function, and every instance inlined somewhere, to the
functions inlined into it and to its indirect call targets.  Synthetic prefetch targets are no
calls.
-/

namespace SampleProfile

/-- Callees by caller, and the emitted functions with their totals, hottest first. -/
structure CallGraph where
  edges : OrderedMap String (OrderedSet String) := ∅
  roots : List (String × UInt64) := []

namespace CallGraph

/-- Adds an edge. -/
def addEdge (edges : OrderedMap String (OrderedSet String)) (edge : String × String) :
    OrderedMap String (OrderedSet String) :=
  OrderedMap.update edges edge.1 fun callees => callees.insert edge.2 ()

/-- The name of the function at the end of a path inside a function. -/
def nameAt (function : String) (path : Path) : String :=
  match path.getLast? with
  | some call => call.callee
  | none => function

/-- The calls recorded at one instance: the inlined call that leads to it, and its indirect calls.
-/
def instanceEdges (function : String) (path : Path) (node : Node) : List (String × String) :=
  let caller := nameAt function path
  let indirect := node.positions.toList.flatMap fun position =>
    (position.2.targets.keys.filter fun target =>
      !Hint.targetStart.toList.isPrefixOf target.toList).map fun target => (caller, target)
  match path.getLast? with
  | some call => (nameAt function path.dropLast, call.callee) :: indirect
  | none => indirect

/-- Higher totals first, and by name within one total. -/
def hotter (left right : String × UInt64) : Bool :=
  right.2 < left.2 || (left.2 = right.2 && compare left.1 right.1 != .gt)

/-- The graph of the emitted functions. -/
def ofProfileMap (map : ProfileMap) : CallGraph where
  edges := (map.emitted.flatMap fun entry =>
      entry.2.nodes.toList.flatMap fun inner =>
        instanceEdges entry.1 inner.1 inner.2).foldl addEdge ∅
  roots := (map.emitted.map fun entry => (entry.1, entry.2.root.total)).mergeSort hotter

/-- The direct callees of a function, by name. -/
def callees (graph : CallGraph) (caller : String) : List String :=
  match graph.edges[caller]? with
  | some callees => callees.keys
  | none => []

/-- How many callers have not been visited yet. -/
def unvisited (graph : CallGraph) (visited : OrderedSet String) : Nat :=
  graph.edges.keys.countP fun caller => !visited.contains caller

theorem unvisited_insert (graph : CallGraph) (visited : OrderedSet String) (node : String) :
    graph.unvisited (visited.insert node ()) ≤ graph.unvisited visited := by
  unfold unvisited
  apply List.countP_mono_left
  intro caller _ fresh
  simp only [Std.ExtTreeMap.contains_insert, Bool.not_or, Bool.and_eq_true] at fresh
  exact fresh.2

theorem unvisited_insert_of_callees (graph : CallGraph) (visited : OrderedSet String)
    (node : String) (fresh : visited.contains node = false)
    (calls : graph.callees node ≠ []) :
    graph.unvisited (visited.insert node ()) < graph.unvisited visited := by
  have caller : node ∈ graph.edges.keys := by
    rw [Std.ExtTreeMap.mem_keys, Std.ExtTreeMap.mem_iff_isSome_getElem?]
    unfold callees at calls
    cases found : graph.edges[node]? with
    | none => simp [found] at calls
    | some _ => rfl
  unfold unvisited
  generalize graph.edges.keys = callers at caller
  induction callers with
  | nil => simp at caller
  | cons first rest inductionHypothesis =>
      rw [List.countP_cons, List.countP_cons]
      have tail : rest.countP (fun other => !(visited.insert node ()).contains other) ≤
          rest.countP (fun other => !visited.contains other) := by
        apply List.countP_mono_left
        intro other _ unseen
        simp only [Std.ExtTreeMap.contains_insert, Bool.not_or, Bool.and_eq_true] at unseen
        exact unseen.2
      rcases List.mem_cons.mp caller with same | later
      · subst same
        simp only [Std.ExtTreeMap.contains_insert_self, Bool.not_true, Bool.false_eq_true,
          ↓reduceIte, fresh, Bool.not_false]
        omega
      · have shorter := inductionHypothesis later
        have head : (if (!(visited.insert node ()).contains first) = true then 1 else 0) ≤
            (if (!visited.contains first) = true then 1 else 0) := by
          rw [Std.ExtTreeMap.contains_insert]
          cases compare node first == .eq <;> cases visited.contains first <;> simp
        omega

/-- Walks depth first from the pending nodes, in order, past nodes that have been visited.  Answers
the nodes reached, in order, and all visited nodes. -/
def walk (graph : CallGraph) (visited : OrderedSet String) :
    List String → List String × OrderedSet String
  | [] => ([], visited)
  | node :: pending =>
      if visited.contains node then
        walk graph visited pending
      else
        let rest := walk graph (visited.insert node ()) (graph.callees node ++ pending)
        (node :: rest.1, rest.2)
termination_by pending => (graph.unvisited visited, pending.length)
decreasing_by
  · apply Prod.Lex.right
    simp
  · rename_i unseen
    by_cases calls : graph.callees node = []
    · rw [calls, List.nil_append]
      rcases Nat.lt_or_eq_of_le (unvisited_insert graph visited node) with fewer | same
      · exact Prod.Lex.left _ _ fewer
      · rw [same]
        apply Prod.Lex.right
        simp
    · exact Prod.Lex.left _ _
        (unvisited_insert_of_callees graph visited node (Bool.eq_false_iff.mpr unseen) calls)

/-- One line per root: its name and total, and the functions reachable from it in depth-first order.
-/
def dump (graph : CallGraph) (display : String → String) : String :=
  String.join <| graph.roots.map fun root =>
    display root.1 ++ " (" ++ toString root.2.toNat ++ "): " ++
      String.intercalate " " ((graph.walk ∅ [root.1]).1.map display) ++ "\n"

end CallGraph

end SampleProfile
