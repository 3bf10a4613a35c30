import Mathlib.Data.List.Chain
import SampleProfile.FunctionProfile.InlineTree

/-!
# Depth-first walks

In the order of their paths the nodes of a profile are a depth-first walk: every instance comes
after the one before it or after one around that.  So the walk can be told from little more than its
depths, and the tree that it is folded into gives it back.
-/

namespace SampleProfile

namespace Path

variable {outer inner previous next : Path} {call : Callsite}

/-! ## The order of paths -/

theorem compare_cons (first second : Callsite) (outer inner : Path) :
    compare (first :: outer) (second :: inner) =
      (compare first second).then (compare outer inner) := by
  rw [List.compare_eq_compareLex, List.compareLex_cons_cons]

/-- An instance comes before those inlined into it. -/
theorem compare_append_cons (outer : Path) (call : Callsite) (inner : Path) :
    compare outer (outer ++ call :: inner) = .lt := by
  induction outer with
  | nil => rfl
  | cons first rest inductionHypothesis =>
      rw [List.cons_append, compare_cons, inductionHypothesis, Std.compare_self]
      rfl

/-- Between an instance and one inlined into it there are only instances inside the former. -/
theorem prefix_of_compare (reached : compare outer previous ≠ .gt)
    (before : compare previous (outer ++ [call]) = .lt) : outer <+: previous := by
  induction outer generalizing previous with
  | nil => exact List.nil_prefix
  | cons first rest inductionHypothesis =>
      cases previous with
      | nil => exact absurd rfl reached
      | cons second others =>
          rw [List.cons_append, compare_cons, Ordering.then_eq_lt] at before
          rw [compare_cons] at reached
          rcases before with earlier | ⟨same, before⟩
          · rw [Std.OrientedCmp.gt_of_lt earlier] at reached
            exact absurd rfl reached
          · obtain rfl := Std.LawfulEqOrd.eq_of_compare same
            rw [Std.compare_self] at reached
            exact List.cons_prefix_cons.mpr ⟨rfl, inductionHypothesis reached before⟩

/-! ## Steps of a walk -/

/-- The next instance of a depth-first walk is inlined into the previous one or into one around
that, and has not been passed yet. -/
def Follows (previous next : Path) : Prop :=
  ∃ outer call, next = outer ++ [call] ∧ outer <+: previous ∧ ¬ next <+: previous

theorem Follows.ne_nil (follows : Follows previous next) : next ≠ [] := by
  obtain ⟨outer, call, rfl, _⟩ := follows
  simp

/-- Where a walk goes is told by the depth and the last call. -/
theorem Follows.unique {other : Path} (follows : Follows previous next)
    (otherFollows : Follows previous other) (sameDepth : next.length = other.length)
    (sameCall : next.getLast? = other.getLast?) : next = other := by
  obtain ⟨outer, call, rfl, inside, _⟩ := follows
  obtain ⟨otherOuter, otherCall, rfl, otherInside, _⟩ := otherFollows
  rw [List.getLast?_concat, List.getLast?_concat, Option.some_inj] at sameCall
  have sameLength : outer.length = otherOuter.length := by simpa using sameDepth
  have sameOuter : outer = otherOuter :=
    (List.prefix_of_prefix_length_le inside otherInside sameLength.le).eq_of_length sameLength
  rw [sameOuter, sameCall]

theorem ne_nil_of_mem_walk {start path : Path} {walk : List Path}
    (chain : (start :: walk).IsChain Follows) (member : path ∈ walk) : path ≠ [] := by
  induction walk generalizing start with
  | nil => cases member
  | cons first rest inductionHypothesis =>
      rw [List.isChain_cons_cons] at chain
      rcases List.mem_cons.mp member with rfl | later
      · exact chain.1.ne_nil
      · exact inductionHypothesis chain.2 later

/-- Walks from the same start with the same depths and last calls are the same. -/
theorem walk_unique {start : Path} {left right : List Path}
    (leftWalk : (start :: left).IsChain Follows) (rightWalk : (start :: right).IsChain Follows)
    (same : left.map (fun path => (path.length, path.getLast?)) =
      right.map fun path => (path.length, path.getLast?)) : left = right := by
  induction left generalizing start right with
  | nil => exact (List.map_eq_nil_iff.mp same.symm).symm
  | cons first rest inductionHypothesis =>
      cases right with
      | nil => simp at same
      | cons second others =>
          rw [List.isChain_cons_cons] at leftWalk rightWalk
          rw [List.map_cons, List.map_cons, List.cons.injEq, Prod.mk.injEq] at same
          obtain ⟨⟨sameDepth, sameCall⟩, sameRest⟩ := same
          have sameFirst := leftWalk.1.unique rightWalk.1 sameDepth sameCall
          subst sameFirst
          rw [inductionHypothesis leftWalk.2 rightWalk.2 sameRest]

end Path

namespace FunctionProfile

/-! ## The nodes of a profile -/

/-- The nodes of a profile are listed in a depth-first walk. -/
theorem isChain_keys (profile : FunctionProfile) : profile.nodes.keys.IsChain Path.Follows := by
  have sorted : profile.nodes.keys.Pairwise fun before after => compare before after = .lt :=
    Std.ExtTreeMap.ordered_keys
  rw [List.isChain_iff_forall_rel_of_append_cons_cons]
  intro previous next before after listed
  have nextMem : next ∈ profile.nodes := by
    rw [← Std.ExtTreeMap.mem_keys, listed]
    simp
  rw [listed] at sorted
  have inOrder := List.pairwise_append.mp sorted
  have later := List.pairwise_cons.mp inOrder.2.1
  have increasing : compare previous next = .lt := later.1 next List.mem_cons_self
  have passed : ¬ next <+: previous := by
    rintro ⟨rest, rfl⟩
    cases rest with
    | nil =>
        rw [List.append_nil, Std.compare_self] at increasing
        cases increasing
    | cons call inner =>
        have decreasing := Path.compare_append_cons next call inner
        exact Std.OrientedCmp.not_lt_of_lt decreasing increasing
  rcases next.eq_nil_or_concat' with rfl | ⟨outer, call, rfl⟩
  · exact absurd List.nil_prefix passed
  refine ⟨outer, call, rfl, ?_, passed⟩
  -- The instance around the next one is listed, and before it, so not after the previous one.
  have outerListed : outer ∈ before ++ previous :: (outer ++ [call]) :: after := by
    rw [← listed, Std.ExtTreeMap.mem_keys]
    exact profile.closed _ _ (List.prefix_append ..) nextMem
  have outerBefore : compare outer (outer ++ [call]) = .lt := Path.compare_append_cons outer call []
  have notLate : compare (outer ++ [call]) outer ≠ .lt :=
    Std.OrientedCmp.not_lt_of_lt outerBefore
  refine Path.prefix_of_compare ?_ increasing
  rw [List.mem_append, List.mem_cons, List.mem_cons] at outerListed
  rcases outerListed with earlier | rfl | same | late
  · rw [inOrder.2.2 outer earlier previous List.mem_cons_self]
    exact Ordering.noConfusion
  · rw [Std.compare_self]
    exact Ordering.noConfusion
  · simp at same
  · exact absurd ((List.pairwise_cons.mp later.2).1 outer late) notLate

theorem exists_keys_eq_cons (profile : FunctionProfile) :
    ∃ inner, profile.nodes.keys = [] :: inner := by
  have rootListed : [] ∈ profile.nodes.keys := Std.ExtTreeMap.mem_keys.mpr profile.root_mem
  have sorted : profile.nodes.keys.Pairwise fun before after => compare before after = .lt :=
    Std.ExtTreeMap.ordered_keys
  cases listed : profile.nodes.keys with
  | nil =>
      rw [listed] at rootListed
      cases rootListed
  | cons first inner =>
      rw [listed, List.mem_cons] at rootListed
      rcases rootListed with rfl | late
      · exact ⟨inner, rfl⟩
      · rw [listed] at sorted
        have before := (List.pairwise_cons.mp sorted).1 [] late
        cases first with
        | nil => exact ⟨inner, rfl⟩
        | cons call rest =>
            rw [List.compare_eq_compareLex, List.compareLex_cons_nil] at before
            cases before

/-- The walk lists the function itself and goes on to everything inlined into it. -/
theorem exists_toList_eq_cons (profile : FunctionProfile) :
    ∃ root inner, profile.nodes.toList = ([], root) :: inner ∧
      ([] :: inner.map Prod.fst).IsChain Path.Follows := by
  obtain ⟨innerKeys, keys⟩ := profile.exists_keys_eq_cons
  have chain := profile.isChain_keys
  rw [← Std.ExtTreeMap.map_fst_toList_eq_keys] at keys chain
  cases listed : profile.nodes.toList with
  | nil =>
      rw [listed] at keys
      cases keys
  | cons first inner =>
      obtain ⟨path, root⟩ := first
      rw [listed] at keys chain
      obtain ⟨rfl, _⟩ := List.cons.inj keys
      exact ⟨root, inner, rfl, chain⟩

end FunctionProfile

namespace InlineTree

/-! ## Walks through trees -/

mutual

/-- The instances of a tree, depth first, with their paths. -/
def walk : InlineTree → List (Path × Node)
  | mk node inlined => ([], node) :: inlinedWalk inlined

/-- The instances of several trees, each under its call. -/
def inlinedWalk : List (Callsite × InlineTree) → List (Path × Node)
  | [] => []
  | (call, tree) :: rest =>
      tree.walk.map (fun entry => (call :: entry.1, entry.2)) ++ inlinedWalk rest

end

/-- The path at which a walk through a tree ends. -/
def lastPath? (tree : InlineTree) : Option Path :=
  (tree.walk.map Prod.fst).getLast?

theorem inlinedWalk_concat (inlined : List (Callsite × InlineTree)) (call : Callsite)
    (tree : InlineTree) :
    inlinedWalk (inlined ++ [(call, tree)]) =
      inlinedWalk inlined ++ tree.walk.map fun entry => (call :: entry.1, entry.2) := by
  induction inlined with
  | nil => simp [inlinedWalk]
  | cons first rest inductionHypothesis =>
      rw [List.cons_append, inlinedWalk, inlinedWalk, inductionHypothesis, List.append_assoc]

theorem walk_ne_nil (tree : InlineTree) : tree.walk ≠ [] := by
  cases tree
  simp [walk]

/-- A walk ends in the last inlined instance. -/
theorem lastPath?_concat (node : Node) (inlined : List (Callsite × InlineTree)) (call : Callsite)
    (tree : InlineTree) :
    (mk node (inlined ++ [(call, tree)])).lastPath? = tree.lastPath?.map (call :: ·) := by
  have someInstance := walk_ne_nil tree
  simp only [lastPath?, walk, inlinedWalk_concat, List.map_cons, List.map_append, List.map_map,
    Function.comp_def]
  rw [← List.cons_append, List.getLast?_append_of_ne_nil _ (by simpa using someInstance),
    List.getLast?_map, List.getLast?_map, Option.map_map]
  rfl

theorem walk_append {tree : InlineTree} {node : Node} {previous path : Path}
    (reached : tree.lastPath? = some previous) (follows : previous.Follows path) :
    (tree.append node path).walk = tree.walk ++ [(path, node)] := by
  obtain ⟨outer, call, rfl, inside, passed⟩ := follows
  induction outer generalizing tree previous with
  | nil =>
      obtain ⟨root, inlined⟩ := tree
      have added : (mk root inlined).append node [call] =
          mk root (inlined ++ [(call, leaf node)]) := by
        rw [List.nil_append] at passed
        rcases inlined.eq_nil_or_concat' with rfl | ⟨others, ⟨last, child⟩, rfl⟩
        · rfl
        · rw [lastPath?_concat, Option.map_eq_some_iff] at reached
          obtain ⟨inner, _, rfl⟩ := reached
          have different : last ≠ call := by
            rintro rfl
            exact passed (List.cons_prefix_cons.mpr ⟨rfl, List.nil_prefix⟩)
          simp only [append, InlineTree.inlined, InlineTree.node, List.getLast?_concat,
            if_neg different, List.append_assoc]
          rfl
      rw [List.nil_append, added, walk, walk, inlinedWalk_concat]
      rfl
  | cons first rest inductionHypothesis =>
      obtain ⟨root, inlined⟩ := tree
      rcases inlined.eq_nil_or_concat' with rfl | ⟨others, ⟨last, child⟩, rfl⟩
      · have ended : [] = previous := Option.some_inj.mp reached
        subst ended
        cases List.prefix_nil.mp inside
      · rw [lastPath?_concat, Option.map_eq_some_iff] at reached
        obtain ⟨inner, childReached, rfl⟩ := reached
        obtain ⟨rfl, childInside⟩ := List.cons_prefix_cons.mp inside
        have childPassed : ¬ rest ++ [call] <+: inner := fun extended =>
          passed (List.cons_prefix_cons.mpr ⟨rfl, extended⟩)
        have added : (mk root (others ++ [(first, child)])).append node (first :: rest ++ [call]) =
            mk root (others ++ [(first, child.append node (rest ++ [call]))]) := by
          simp only [List.cons_append, append, InlineTree.inlined, InlineTree.node,
            List.getLast?_concat, if_true, List.dropLast_concat]
        rw [added, walk, walk, inlinedWalk_concat, inlinedWalk_concat,
          inductionHypothesis childReached childInside childPassed, List.map_append,
          List.cons_append, List.append_assoc]
        rfl

/-- A walk that goes on where a tree ends is added to it node by node. -/
theorem walk_foldl_append {tree : InlineTree} {previous : Path} {rest : List (Path × Node)}
    (reached : tree.lastPath? = some previous)
    (chain : (previous :: rest.map Prod.fst).IsChain Path.Follows) :
    (rest.foldl (fun tree entry => tree.append entry.2 entry.1) tree).walk = tree.walk ++ rest := by
  induction rest generalizing tree previous with
  | nil => exact (List.append_nil _).symm
  | cons entry others inductionHypothesis =>
      rw [List.map_cons, List.isChain_cons_cons] at chain
      have added : (tree.append entry.2 entry.1).walk = tree.walk ++ [(entry.1, entry.2)] :=
        walk_append reached chain.1
      have nextReached : (tree.append entry.2 entry.1).lastPath? = some entry.1 := by
        rw [lastPath?, added, List.map_append]
        exact List.getLast?_concat
      rw [List.foldl_cons, inductionHypothesis nextReached chain.2, added, List.append_assoc]
      rfl

end InlineTree

namespace FunctionProfile

theorem walk_tree (profile : FunctionProfile) : profile.tree.walk = profile.nodes.toList := by
  obtain ⟨root, inner, listed, chain⟩ := profile.exists_toList_eq_cons
  have alone : (InlineTree.leaf root).lastPath? = some [] := rfl
  rw [tree, InlineTree.ofWalk, listed]
  exact InlineTree.walk_foldl_append alone chain

theorem tree_injective {left right : FunctionProfile} (same : left.tree = right.tree) :
    left = right := by
  refine ext_nodes (Std.ExtTreeMap.toList_inj.mp ?_)
  rw [← walk_tree, ← walk_tree, same]

end FunctionProfile

end SampleProfile
