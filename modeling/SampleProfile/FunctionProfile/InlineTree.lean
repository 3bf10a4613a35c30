import SampleProfile.FunctionProfile

/-!
# Profiles as trees

The nodes of a profile, listed in order of their paths, are a depth-first walk; here the walk is
folded back into a tree in which every instance holds the instances inlined directly into it.
-/

namespace SampleProfile

/-- A node with the instances inlined into it, in order of their calls. -/
inductive InlineTree where
  | mk (node : Node) (inlined : List (Callsite × InlineTree))

namespace InlineTree

/-- The counts of the instance itself. -/
def node : InlineTree → Node
  | mk node _ => node

/-- The instances inlined directly into this one. -/
def inlined : InlineTree → List (Callsite × InlineTree)
  | mk _ inlined => inlined

/-- An instance into which nothing is inlined. -/
def leaf (node : Node) : InlineTree := mk node []

/-- Adds the next node of a depth-first walk: below the last instance as long as the calls agree. -/
def append (tree : InlineTree) (node : Node) : Path → InlineTree
  | [] => mk node tree.inlined
  | call :: rest =>
      match tree.inlined.getLast? with
      | some (last, child) =>
          if last = call then
            mk tree.node (tree.inlined.dropLast ++ [(call, append child node rest)])
          else
            mk tree.node (tree.inlined ++ [(call, append (leaf {}) node rest)])
      | none => mk tree.node [(call, append (leaf {}) node rest)]

/-- The tree of a depth-first walk. -/
def ofWalk (walk : List (Path × Node)) : InlineTree :=
  walk.foldl (fun tree entry => tree.append entry.2 entry.1) (leaf {})

/-- Whether no samples, positions or inlined calls have been recorded. -/
def isEmpty (tree : InlineTree) : Bool :=
  tree.node.total = 0 && tree.node.positions.isEmpty && tree.inlined.isEmpty

end InlineTree

/-- The profile as a tree. -/
def FunctionProfile.tree (profile : FunctionProfile) : InlineTree :=
  .ofWalk profile.nodes.toList

end SampleProfile
