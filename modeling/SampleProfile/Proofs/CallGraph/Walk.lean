import Mathlib.Logic.Relation
import SampleProfile.CallGraph

/-!
# Walks of a call graph

A walk from a function reports the functions to which paths of calls lead past all functions visited
before, each of them once.  The reason is that a walk leaves nothing open: whatever it reports, the
callees have been visited when it ends, so that a path of calls cannot leave the visited functions
again.

A walk keeps one list of pending functions.  `walk_singleton` says that this is the same as walking
from the callees one after the other, and `walk_reports` is the main statement.
-/

namespace SampleProfile.CallGraph

variable {graph : CallGraph} {visited : OrderedSet String}

/-! ## Paths of calls -/

def Calls (graph : CallGraph) (caller callee : String) : Prop :=
  callee ∈ graph.callees caller

/-- A path of calls leads from one function to another, and no function on it, both ends included,
has been visited. -/
inductive Reaches (graph : CallGraph) (visited : OrderedSet String) : String → String → Prop where
  | here {function : String} :
      function ∉ visited → Reaches graph visited function function
  | call {caller callee function : String} :
      caller ∉ visited → graph.Calls caller callee → Reaches graph visited callee function →
        Reaches graph visited caller function

namespace Reaches

theorem not_mem {start function : String} (reached : graph.Reaches visited start function) :
    function ∉ visited := by
  induction reached with
  | here fresh => exact fresh
  | call _ _ _ inductionHypothesis => exact inductionHypothesis

/-- A path past many functions is a path past fewer. -/
theorem mono {fewer : OrderedSet String} {start function : String}
    (reached : graph.Reaches visited start function)
    (subset : ∀ tested, tested ∈ fewer → tested ∈ visited) :
    graph.Reaches fewer start function := by
  induction reached with
  | here fresh => exact .here fun member => fresh (subset _ member)
  | call fresh called _ inductionHypothesis =>
      exact .call (fun member => fresh (subset _ member)) called inductionHypothesis

end Reaches

/-- When nothing has been visited, every path of calls will do. -/
theorem reaches_empty_iff {start function : String} :
    graph.Reaches ∅ start function ↔ Relation.ReflTransGen graph.Calls start function := by
  constructor
  · intro reached
    induction reached with
    | here _ => exact .refl
    | call _ called _ inductionHypothesis => exact .head called inductionHypothesis
  · intro path
    induction path using Relation.ReflTransGen.head_induction_on with
    | refl => exact .here Std.ExtTreeMap.not_mem_empty
    | head called _ inductionHypothesis =>
        exact .call Std.ExtTreeMap.not_mem_empty called inductionHypothesis

/-! ## Pending functions -/

theorem mem_insert_iff {visited : OrderedSet String} {node tested : String} :
    tested ∈ visited.insert node () ↔ tested = node ∨ tested ∈ visited := by
  rw [Std.ExtTreeMap.mem_insert, Std.LawfulEqCmp.compare_eq_iff_eq, eq_comm]

@[simp]
theorem walk_nil : graph.walk visited [] = ([], visited) := by
  rw [walk]

theorem walk_cons_of_mem {node : String} (seen : node ∈ visited) (pending : List String) :
    graph.walk visited (node :: pending) = graph.walk visited pending := by
  rw [walk, if_pos (Std.ExtTreeMap.contains_iff_mem.mpr seen)]

theorem walk_cons_of_not_mem {node : String} (fresh : node ∉ visited) (pending : List String) :
    graph.walk visited (node :: pending) =
      (node :: (graph.walk (visited.insert node ()) (graph.callees node ++ pending)).1,
        (graph.walk (visited.insert node ()) (graph.callees node ++ pending)).2) := by
  rw [walk, if_neg (mt Std.ExtTreeMap.contains_iff_mem.mp fresh)]

/-- Walks follow their own recursion: past a visited function, or into a fresh one. -/
theorem walk_induction (graph : CallGraph) {motive : OrderedSet String → List String → Prop}
    (done : ∀ visited, motive visited [])
    (past : ∀ visited node pending, node ∈ visited → motive visited pending →
      motive visited (node :: pending))
    (into : ∀ visited node pending, node ∉ visited →
      motive (visited.insert node ()) (graph.callees node ++ pending) →
      motive visited (node :: pending))
    (visited : OrderedSet String) (pending : List String) : motive visited pending := by
  induction visited, pending using walk.induct graph with
  | case1 visited => exact done visited
  | case2 visited node pending seen inductionHypothesis =>
      exact past visited node pending (Std.ExtTreeMap.contains_iff_mem.mp seen) inductionHypothesis
  | case3 visited node pending fresh inductionHypothesis =>
      have absent : node ∉ visited := mt Std.ExtTreeMap.contains_iff_mem.mpr fresh
      exact into visited node pending absent inductionHypothesis

/-- A walk from many functions can be interrupted between any two of them. -/
theorem walk_append (visited : OrderedSet String) (first second : List String) :
    graph.walk visited (first ++ second) =
      ((graph.walk visited first).1 ++ (graph.walk (graph.walk visited first).2 second).1,
        (graph.walk (graph.walk visited first).2 second).2) := by
  induction visited, first using walk_induction graph with
  | done visited => simp
  | past visited node pending seen inductionHypothesis =>
      rw [List.cons_append, walk_cons_of_mem seen, walk_cons_of_mem seen, inductionHypothesis]
  | into visited node pending fresh inductionHypothesis =>
      rw [List.cons_append, walk_cons_of_not_mem fresh, walk_cons_of_not_mem fresh,
        ← List.append_assoc, inductionHypothesis]
      rfl

/-! ## What a walk visits -/

theorem mem_visited_iff (visited : OrderedSet String) (pending : List String) (node : String) :
    node ∈ (graph.walk visited pending).2 ↔
      node ∈ visited ∨ node ∈ (graph.walk visited pending).1 := by
  induction visited, pending using walk_induction graph with
  | done visited => simp
  | past visited first pending seen inductionHypothesis =>
      rw [walk_cons_of_mem seen]
      exact inductionHypothesis
  | into visited first pending fresh inductionHypothesis =>
      rw [walk_cons_of_not_mem fresh, inductionHypothesis, mem_insert_iff, List.mem_cons]
      rw [or_comm (a := node = first), or_assoc]

/-- Every pending function has been visited in the end. -/
theorem mem_visited_of_pending {node : String} (visited : OrderedSet String)
    (pending : List String) (waiting : node ∈ pending) :
    node ∈ (graph.walk visited pending).2 := by
  induction visited, pending using walk_induction graph with
  | done visited => cases waiting
  | past visited first pending seen inductionHypothesis =>
      rw [walk_cons_of_mem seen]
      rcases List.mem_cons.mp waiting with same | later
      · subst same
        exact (mem_visited_iff visited pending node).mpr (Or.inl seen)
      · exact inductionHypothesis later
  | into visited first pending fresh inductionHypothesis =>
      rw [walk_cons_of_not_mem fresh]
      rcases List.mem_cons.mp waiting with same | later
      · apply (mem_visited_iff _ _ node).mpr
        exact Or.inl (mem_insert_iff.mpr (Or.inl same))
      · exact inductionHypothesis (List.mem_append_right _ later)

/-- Every callee of a reported function has been visited in the end. -/
theorem mem_visited_of_calls {caller callee : String} (visited : OrderedSet String)
    (pending : List String) (reported : caller ∈ (graph.walk visited pending).1)
    (called : graph.Calls caller callee) : callee ∈ (graph.walk visited pending).2 := by
  induction visited, pending using walk_induction graph with
  | done visited => simp at reported
  | past visited first pending seen inductionHypothesis =>
      rw [walk_cons_of_mem seen] at reported ⊢
      exact inductionHypothesis reported
  | into visited first pending fresh inductionHypothesis =>
      rw [walk_cons_of_not_mem fresh] at reported ⊢
      rcases List.mem_cons.mp reported with same | later
      · subst same
        exact mem_visited_of_pending _ _ (List.mem_append_left _ called)
      · exact inductionHypothesis later

/-! ## What a walk reports -/

theorem reaches_of_mem_walk (visited : OrderedSet String) (pending : List String) {node : String}
    (reported : node ∈ (graph.walk visited pending).1) :
    ∃ start ∈ pending, graph.Reaches visited start node := by
  induction visited, pending using walk_induction graph with
  | done visited => simp at reported
  | past visited first pending seen inductionHypothesis =>
      rw [walk_cons_of_mem seen] at reported
      obtain ⟨start, waiting, reached⟩ := inductionHypothesis reported
      exact ⟨start, List.mem_cons_of_mem _ waiting, reached⟩
  | into visited first pending fresh inductionHypothesis =>
      rw [walk_cons_of_not_mem fresh] at reported
      rcases List.mem_cons.mp reported with same | later
      · subst same
        exact ⟨node, List.mem_cons_self, .here fresh⟩
      · obtain ⟨start, waiting, reached⟩ := inductionHypothesis later
        have avoiding : graph.Reaches visited start node :=
          reached.mono fun tested member => mem_insert_iff.mpr (Or.inr member)
        rcases List.mem_append.mp waiting with called | pendingStart
        · exact ⟨first, List.mem_cons_self, .call fresh called avoiding⟩
        · exact ⟨start, List.mem_cons_of_mem _ pendingStart, avoiding⟩

/-- A path that starts among the functions visited in the end does not leave them. -/
theorem mem_walk_of_reaches (visited : OrderedSet String) (pending : List String)
    {start node : String} (reached : graph.Reaches visited start node)
    (inside : start ∈ (graph.walk visited pending).2) :
    node ∈ (graph.walk visited pending).1 := by
  induction reached with
  | here fresh => exact ((mem_visited_iff visited pending _).mp inside).resolve_left fresh
  | call fresh called _ inductionHypothesis =>
      have reported := ((mem_visited_iff visited pending _).mp inside).resolve_left fresh
      exact inductionHypothesis (mem_visited_of_calls visited pending reported called)

/-- The functions reported are those to which paths lead from the pending ones past the visited
ones. -/
theorem mem_walk_iff (visited : OrderedSet String) (pending : List String) (node : String) :
    node ∈ (graph.walk visited pending).1 ↔
      ∃ start ∈ pending, graph.Reaches visited start node := by
  constructor
  · exact reaches_of_mem_walk visited pending
  · intro reached
    obtain ⟨start, waiting, path⟩ := reached
    exact mem_walk_of_reaches visited pending path
      (mem_visited_of_pending visited pending waiting)

theorem nodup_walk (visited : OrderedSet String) (pending : List String) :
    (graph.walk visited pending).1.Nodup := by
  induction visited, pending using walk_induction graph with
  | done visited => simp
  | past visited first pending seen inductionHypothesis =>
      rw [walk_cons_of_mem seen]
      exact inductionHypothesis
  | into visited first pending fresh inductionHypothesis =>
      rw [walk_cons_of_not_mem fresh]
      apply List.nodup_cons.mpr
      refine ⟨?_, inductionHypothesis⟩
      intro repeated
      obtain ⟨_, _, reached⟩ := reaches_of_mem_walk _ _ repeated
      exact reached.not_mem (mem_insert_iff.mpr (Or.inl rfl))

/-- A function is reported after one that calls it, unless it was pending. -/
theorem called_of_walk_eq (visited : OrderedSet String) (pending : List String)
    {earlier later : List String} {node : String}
    (split : (graph.walk visited pending).1 = earlier ++ node :: later) :
    node ∈ pending ∨ ∃ caller ∈ earlier, graph.Calls caller node := by
  induction visited, pending using walk_induction graph generalizing earlier with
  | done visited => simp at split
  | past visited first pending seen inductionHypothesis =>
      rw [walk_cons_of_mem seen] at split
      exact (inductionHypothesis split).imp_left (List.mem_cons_of_mem _)
  | into visited first pending fresh inductionHypothesis =>
      rw [walk_cons_of_not_mem fresh] at split
      cases earlier with
      | nil =>
          have same : first = node := (List.cons.inj split).1
          exact Or.inl (same ▸ List.mem_cons_self)
      | cons head rest =>
          have same : first = head := (List.cons.inj split).1
          have tail := (List.cons.inj split).2
          subst same
          rcases inductionHypothesis tail with waiting | ⟨caller, member, called⟩
          · rcases List.mem_append.mp waiting with called | pendingNode
            · exact Or.inr ⟨first, List.mem_cons_self, called⟩
            · exact Or.inl (List.mem_cons_of_mem _ pendingNode)
          · exact Or.inr ⟨caller, List.mem_cons_of_mem _ member, called⟩

/-! ## Walks one after the other -/

/-- Walks from one function after the other, each past the functions that the walks before it
visited. -/
def walks (graph : CallGraph) (visited : OrderedSet String) :
    List String → List (List String) × OrderedSet String
  | [] => ([], visited)
  | start :: rest =>
      let first := graph.walk visited [start]
      let others := walks graph first.2 rest
      (first.1 :: others.1, others.2)

/-- Walks one after the other report together what one walk reports. -/
theorem walk_eq_walks (visited : OrderedSet String) (starts : List String) :
    graph.walk visited starts =
      ((graph.walks visited starts).1.flatten, (graph.walks visited starts).2) := by
  induction starts generalizing visited with
  | nil => simp [walks]
  | cons start rest inductionHypothesis =>
      rw [← List.singleton_append, walk_append, inductionHypothesis]
      rfl

/-- A walk from a function that has not been visited reports it, and goes on from its callees one
after the other. -/
theorem walk_singleton (visited : OrderedSet String) (start : String) :
    graph.walk visited [start] =
      if start ∈ visited then
        ([], visited)
      else
        let inner := graph.walks (visited.insert start ()) (graph.callees start)
        (start :: inner.1.flatten, inner.2) := by
  by_cases seen : start ∈ visited
  · rw [if_pos seen, walk_cons_of_mem seen, walk_nil]
  · rw [if_neg seen, walk_cons_of_not_mem seen, List.append_nil, walk_eq_walks]

/-- A line of a dump: a root with its total, and the functions listed for it. -/
def dumpLine (display : String → String) (root : String × UInt64) (listed : List String) : String :=
  display root.1 ++ " (" ++ toString root.2.toNat ++ "): " ++
    String.intercalate " " (listed.map display) ++ "\n"

/-- A walk from a function reports, each once, the functions to which paths of calls lead past the
visited ones, every one but the first after a function that calls it, and adds them to the visited
ones.  So walks that share what they visit report each function that can be reached from any of
their starts once, and each line of a dump lists its root and then every other function that can be
reached from it, once. -/
theorem walk_reports (graph : CallGraph) (display : String → String) :
    (∀ visited start,
      let walked := graph.walk visited [start]
      walked.1.Nodup ∧
        (∀ node, node ∈ walked.1 ↔ graph.Reaches visited start node) ∧
        (∀ earlier node later, walked.1 = earlier ++ node :: later →
          node = start ∨ ∃ caller ∈ earlier, graph.Calls caller node) ∧
        ∀ node, node ∈ walked.2 ↔ node ∈ visited ∨ node ∈ walked.1) ∧
      (∀ starts,
        let reported := (graph.walks ∅ starts).1.flatten
        reported.Nodup ∧ ∀ node, node ∈ reported ↔
          ∃ start ∈ starts, Relation.ReflTransGen graph.Calls start node) ∧
      ∃ others : String → List String,
        graph.dump display = String.join (graph.roots.map fun root =>
          dumpLine display root (root.1 :: others root.1)) ∧
        ∀ root, (root :: others root).Nodup ∧ ∀ node, node ∈ root :: others root ↔
          Relation.ReflTransGen graph.Calls root node := by
  have reportedIff : ∀ starts node, node ∈ (graph.walk ∅ starts).1 ↔
      ∃ start ∈ starts, Relation.ReflTransGen graph.Calls start node := by
    intro starts node
    simp only [mem_walk_iff, reaches_empty_iff]
  refine ⟨?_, ?_, ?_⟩
  · intro visited start walked
    refine ⟨nodup_walk visited [start], ?_, ?_, mem_visited_iff visited [start]⟩
    · intro node
      simp only [walked, mem_walk_iff, List.mem_singleton, exists_eq_left]
    · intro earlier node later split
      exact (called_of_walk_eq visited [start] split).imp_left List.mem_singleton.mp
  · intro starts reported
    have flat : reported = (graph.walk ∅ starts).1 := by rw [walk_eq_walks]
    rw [flat]
    exact ⟨nodup_walk ∅ starts, reportedIff starts⟩
  · let others := fun root => (graph.walks ((∅ : OrderedSet String).insert root ())
      (graph.callees root)).1.flatten
    have listed : ∀ root, (graph.walk ∅ [root]).1 = root :: others root := by
      intro root
      rw [walk_singleton, if_neg Std.ExtTreeMap.not_mem_empty]
    refine ⟨others, ?_, ?_⟩
    · simp only [dump, listed]
      rfl
    · intro root
      rw [← listed]
      refine ⟨nodup_walk ∅ [root], fun node => ?_⟩
      rw [reportedIff]
      simp only [List.mem_singleton, exists_eq_left]

/-- A cycle, a function that calls itself, and two functions that call nothing. -/
def knotted : CallGraph where
  edges := [("a", "a"), ("a", "b"), ("a", "c"), ("b", "e"), ("c", "a"), ("c", "d")].foldl addEdge ∅

theorem walk_reports_knotted :
    let visited : OrderedSet String := (∅ : OrderedSet String).insert "b" ()
    (knotted.walk visited ["a"]).1 = ["a"] ++ "c" :: ["d"] ∧
      (∃ caller ∈ ["a"], knotted.Calls caller "c") ∧
      knotted.Reaches visited "a" "d" ∧ ¬ knotted.Reaches visited "a" "e" := by
  intro visited
  have callsA : knotted.callees "a" ++ [] = ["a", "b", "c"] := by decide
  have callsC : knotted.callees "c" ++ [] = ["a", "d"] := by decide
  have callsD : knotted.callees "d" ++ [] = [] := by decide
  have freshA : "a" ∉ visited := by decide
  have freshC : "c" ∉ visited.insert "a" () := by decide
  have freshD : "d" ∉ (visited.insert "a" ()).insert "c" () := by decide
  have seenA : "a" ∈ visited.insert "a" () := by decide
  have seenB : "b" ∈ visited.insert "a" () := by decide
  have seenAgain : "a" ∈ (visited.insert "a" ()).insert "c" () := by decide
  have walked : (knotted.walk visited ["a"]).1 = ["a"] ++ "c" :: ["d"] := by
    rw [walk_cons_of_not_mem freshA, callsA, walk_cons_of_mem seenA, walk_cons_of_mem seenB,
      walk_cons_of_not_mem freshC, callsC, walk_cons_of_mem seenAgain,
      walk_cons_of_not_mem freshD, callsD, walk_nil]
    rfl
  obtain ⟨walks, _, _⟩ := walk_reports knotted id
  obtain ⟨_, reported, ordered, _⟩ := walks visited "a"
  have called := (ordered ["a"] "c" ["d"] walked).resolve_left (by decide)
  have reached : knotted.Reaches visited "a" "d" := by
    apply (reported "d").mp
    rw [walked]
    decide
  have cutOff : ¬ knotted.Reaches visited "a" "e" := by
    rw [← reported, walked]
    decide
  exact ⟨walked, called, reached, cutOff⟩

end SampleProfile.CallGraph
