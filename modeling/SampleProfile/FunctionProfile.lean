import SampleProfile.Count
import SampleProfile.Frame
import SampleProfile.OrderedMap

/-!
# Profiles of single functions

The profile of a function holds one `Node` per inlined instance, keyed by the path of calls that
leads there; the empty path is the function itself.  Listing the nodes in order of their paths walks
the tree of inlined calls depth first.  An instance is never recorded without the instances around
it, which the type keeps as a proof.
-/

namespace SampleProfile

/-- What was counted at one source position. -/
structure Position where
  count : Count := .execution 0
  /-- Counts of the indirect call targets, by name. -/
  targets : OrderedMap String Count := ∅
deriving Inhabited

namespace Position

/-- Both positions' counts, target by target. -/
def merge (left right : Position) : Position where
  count := left.count.accumulate right.count
  targets := OrderedMap.unionWith Count.accumulate left.targets right.targets

end Position

/-- The counts of one function, or of one inlined instance of a function. -/
structure Node where
  /-- Samples in this instance and in everything inlined into it. -/
  total : UInt64 := 0
  /-- Samples at the function's first instruction. -/
  head : UInt64 := 0
  positions : OrderedMap LineOffset Position := ∅
deriving Inhabited

namespace Node

/-- Adds samples to the total. -/
def charge (samples : UInt64) (node : Node) : Node :=
  { node with total := satAdd node.total samples }

/-- Changes what is recorded at one position, creating the position if necessary. -/
def atPosition (offset : LineOffset) (change : Position → Position) (node : Node) : Node :=
  { node with positions := OrderedMap.update node.positions offset change }

/-- Both nodes' counts. -/
def merge (left right : Node) : Node where
  total := satAdd left.total right.total
  head := satAdd left.head right.head
  positions := OrderedMap.unionWith Position.merge left.positions right.positions

end Node

/-- The nodes of a function, by path. -/
abbrev NodeMap := OrderedMap Path Node

namespace NodeMap

/-- Changes every node passed on the way down a path, creating those that are missing. -/
def along (change : Node → Node) (path : Path) (nodes : NodeMap) : NodeMap :=
  path.ancestors.foldl (fun map inner => OrderedMap.update map inner change) nodes

theorem mem_along (change : Node → Node) (path tested : Path) (nodes : NodeMap) :
    tested ∈ along change path nodes ↔ tested <+: path ∨ tested ∈ nodes := by
  have run : ∀ (inners : List Path) (start : NodeMap),
      tested ∈ inners.foldl (fun map inner => OrderedMap.update map inner change) start ↔
        tested ∈ inners ∨ tested ∈ start := by
    intro inners
    induction inners with
    | nil => simp
    | cons inner rest inductionHypothesis =>
        intro start
        rw [List.foldl_cons, inductionHypothesis, OrderedMap.mem_update,
          List.mem_cons]
        grind
  rw [along, run, Path.mem_ancestors]

end NodeMap

/-- The profile of one function with everything inlined into it. -/
structure FunctionProfile where
  nodes : NodeMap
  /-- The function itself is recorded. -/
  root_mem : [] ∈ nodes
  /-- With an instance, all instances around it are recorded. -/
  closed : ∀ inner outer : Path, inner <+: outer → outer ∈ nodes → inner ∈ nodes

namespace FunctionProfile

/-- Profiles are equal when they hold the same nodes. -/
@[ext]
theorem ext_nodes {left right : FunctionProfile} (same : left.nodes = right.nodes) :
    left = right := by
  cases left
  cases right
  simpa using same

/-- A function about which nothing has been recorded. -/
def empty : FunctionProfile where
  nodes := OrderedMap.update ∅ [] id
  root_mem := by simp [OrderedMap.mem_update]
  closed := by
    intro inner outer extended member
    rw [OrderedMap.mem_update] at member ⊢
    rcases member with same | absent
    · subst same
      exact Or.inl (List.prefix_nil.mp extended).symm
    · simp at absent

instance : Inhabited FunctionProfile := ⟨empty⟩

/-- Changes every node on the way to a place. -/
def along (change : Node → Node) (path : Path) (profile : FunctionProfile) : FunctionProfile where
  nodes := profile.nodes.along change path
  root_mem := by simp [NodeMap.mem_along]
  closed := by
    intro inner outer extended member
    rw [NodeMap.mem_along] at member ⊢
    rcases member with passed | held
    · exact Or.inl (extended.trans passed)
    · exact Or.inr (profile.closed inner outer extended held)

/-- Changes what is recorded at a place, creating the instances on the way and the position if
necessary. -/
def atPlace (place : Place) (change : Position → Position) (profile : FunctionProfile) :
    FunctionProfile where
  nodes := OrderedMap.update (profile.along id place.path).nodes place.path
    (Node.atPosition place.offset change)
  root_mem := by
    rw [OrderedMap.mem_update]
    exact Or.inr (profile.along id place.path).root_mem
  closed := by
    intro inner outer extended member
    rw [OrderedMap.mem_update] at member ⊢
    have present : outer ∈ (profile.along id place.path).nodes := by
      rcases member with same | held
      · exact (NodeMap.mem_along ..).mpr (Or.inl (same ▸ List.prefix_refl _))
      · exact held
    exact Or.inr ((profile.along id place.path).closed inner outer extended present)

/-- Adds samples at a place: to the total of every instance around it and to the position's own
count. -/
def record (place : Place) (samples : UInt64) (profile : FunctionProfile) : FunctionProfile :=
  (profile.along (Node.charge samples) place.path).atPlace place fun position =>
    { position with count := position.count.accumulate (.execution samples) }

/-- Stores the count of a call target at a place, in place of an earlier one; totals stay as they
are. -/
def setTarget (place : Place) (target : String) (count : Count) (profile : FunctionProfile) :
    FunctionProfile :=
  profile.atPlace place fun position =>
    { position with targets := position.targets.insert target count }

/-- Adds samples at the first instruction of the function. -/
def recordEntry (samples : UInt64) (profile : FunctionProfile) : FunctionProfile where
  nodes := OrderedMap.update profile.nodes [] fun node =>
    { node with head := satAdd node.head samples }
  root_mem := by simp [OrderedMap.mem_update]
  closed := by
    intro inner outer extended member
    rw [OrderedMap.mem_update] at member ⊢
    refine Or.inr (profile.closed inner outer extended ?_)
    rcases member with same | held
    · exact same ▸ profile.root_mem
    · exact held

/-- All counts of both profiles, instance by instance. -/
def merge (left right : FunctionProfile) : FunctionProfile where
  nodes := OrderedMap.unionWith Node.merge left.nodes right.nodes
  root_mem := (OrderedMap.mem_unionWith ..).mpr (Or.inl left.root_mem)
  closed := by
    intro inner outer extended member
    rw [OrderedMap.mem_unionWith] at member ⊢
    exact member.imp (left.closed inner outer extended) (right.closed inner outer extended)

/-- The node at a path. -/
def node? (profile : FunctionProfile) (path : Path) : Option Node :=
  profile.nodes[path]?

/-- The node of the function itself. -/
def root (profile : FunctionProfile) : Node :=
  profile.nodes.get [] profile.root_mem

/-- The calls inlined directly into the function. -/
def callsites (profile : FunctionProfile) : List Callsite :=
  profile.nodes.keys.filterMap fun
    | [call] => some call
    | _ => none

end FunctionProfile

end SampleProfile
