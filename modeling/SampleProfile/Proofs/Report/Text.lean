import SampleProfile.Proofs.FunctionProfile.Walk
import SampleProfile.Proofs.Report.Line

/-!
# What the text format tells

The text format loses the kinds of counts and the samples at the first instructions of inlined
instances.  `text_eq_iff` says that it loses nothing else: texts are the same exactly if the
profiles are, up to these two things.
-/

namespace SampleProfile

/-! ## What is kept -/

/-- The count that is read from the unsigned field of a count. -/
def Count.flattened (count : Count) : Count :=
  .execution count.raw

/-- A position without the kinds of its counts. -/
def Position.flattened (position : Position) : Position where
  count := position.count.flattened
  targets := position.targets.map fun _ count => count.flattened

/-- A node without the kinds of its counts and, in an inlined instance, without samples at the first
instruction. -/
def Node.flattened (path : Path) (node : Node) : Node where
  total := node.total
  head := if path = [] then node.head else 0
  positions := node.positions.map fun _ position => position.flattened

/-- A profile without what the text format has no place for. -/
def FunctionProfile.flattened (profile : FunctionProfile) : FunctionProfile where
  nodes := profile.nodes.map Node.flattened
  root_mem := Std.ExtTreeMap.mem_map.mpr profile.root_mem
  closed inner outer extended member := by
    rw [Std.ExtTreeMap.mem_map] at member ⊢
    exact profile.closed inner outer extended member

/-- The reported functions without what the text format has no place for. -/
def ProfileMap.flattened (map : ProfileMap) : List (String × FunctionProfile) :=
  map.emitted.map fun entry => (entry.1, entry.2.flattened)

/-- All names in the nodes of a profile are plain. -/
def FunctionProfile.Plain (profile : FunctionProfile) : Prop :=
  ∀ entry ∈ profile.nodes.toList, (∀ call ∈ entry.1, ReportFormat.Plain call.callee) ∧
    ∀ position ∈ entry.2.positions.toList, ∀ target ∈ position.2.targets.toList,
      ReportFormat.Plain target.1

instance (profile : FunctionProfile) : Decidable profile.Plain :=
  inferInstanceAs (Decidable (∀ entry ∈ profile.nodes.toList, _ ∧ _))

/-- All names in the reported functions are plain. -/
def ProfileMap.Plain (map : ProfileMap) : Prop :=
  ∀ entry ∈ map.emitted, ReportFormat.Plain entry.1 ∧ entry.2.Plain

instance (map : ProfileMap) : Decidable map.Plain :=
  inferInstanceAs (Decidable (∀ entry ∈ map.emitted, _ ∧ _))

namespace ReportFormat

/-! ## The lines of a function -/

/-- The call targets of a position as they are written. -/
def writtenTargets (position : Position) : List (String × UInt64) :=
  position.targets.toList.map fun target => (target.1, target.2.raw)

/-- The line of a position. -/
def countsLine (depth : Nat) (position : LineOffset × Position) : Line :=
  .indented depth position.1 (.counts position.2.count.raw (writtenTargets position.2))

/-- The line on which a function or an inlined instance opens. -/
def opening (name : String) (path : Path) (node : Node) : Line :=
  match path.getLast? with
  | none => .function name node.total node.head
  | some call => .indented path.length call.offset (.inlined call.callee node.total)

/-- The lines of one instance. -/
def nodeLines (name : String) (entry : Path × Node) : List Line :=
  opening name entry.1 entry.2 ::
    entry.2.positions.toList.map (countsLine (entry.1.length + 1))

/-- The lines of a function. -/
def functionLines (entry : String × FunctionProfile) : List Line :=
  entry.2.nodes.toList.flatMap (nodeLines entry.1)

theorem positionLine_eq (depth : Nat) (position : LineOffset × Position) :
    positionLine depth position.1 position.2 = (countsLine depth position).chars ++ ['\n'] := by
  simp [positionLine, countsLine, writtenTargets, Line.chars, Remark.chars, counted,
    List.flatMap_map]

theorem openingLine_eq (name : String) (path : Path) (node : Node) :
    openingLine name node path = (opening name path node).chars ++ ['\n'] := by
  rw [openingLine, opening]
  cases path.getLast? with
  | none => simp [Line.chars, counted]
  | some call => simp [Line.chars, Remark.chars, counted]

theorem functionText_eq (entry : String × FunctionProfile) :
    functionText entry.1 entry.2 = Line.text (functionLines entry) := by
  rw [functionText, functionLines, Line.text, List.flatMap_assoc]
  refine List.flatMap_congr fun node _ => ?_
  rw [nodeLines, List.flatMap_cons, List.flatMap_map, openingLine_eq]
  simp only [positionLine_eq]

theorem toList_render_text (map : ProfileMap) (symbols : Option (List SymbolList.Entry)) :
    (render .text map symbols).toList = Line.text (map.emitted.flatMap functionLines) := by
  rw [render, String.toList_ofList, Line.text, List.flatMap_assoc]
  exact List.flatMap_congr fun entry _ => functionText_eq entry

/-! ## Lines and what is kept -/

theorem writtenTargets_flattened (position : Position) :
    writtenTargets position.flattened = writtenTargets position := by
  rw [writtenTargets, Position.flattened, Std.ExtTreeMap.toList_map, List.map_map]
  rfl

theorem countsLine_flattened (depth : Nat) (offset : LineOffset) (position : Position) :
    countsLine depth (offset, position.flattened) = countsLine depth (offset, position) := by
  rw [countsLine, countsLine, writtenTargets_flattened]
  rfl

theorem nodeLines_flattened (name : String) (path : Path) (node : Node) :
    nodeLines name (path, node.flattened path) = nodeLines name (path, node) := by
  have sameOpening : opening name path (node.flattened path) = opening name path node := by
    cases path with
    | nil => rfl
    | cons call rest =>
        rw [opening, opening, List.getLast?_cons]
        rfl
  have samePositions : (node.flattened path).positions.toList.map (countsLine (path.length + 1)) =
      node.positions.toList.map (countsLine (path.length + 1)) := by
    rw [Node.flattened, Std.ExtTreeMap.toList_map, List.map_map]
    exact List.map_congr_left fun position _ =>
      countsLine_flattened (path.length + 1) position.1 position.2
  rw [nodeLines, nodeLines, sameOpening, samePositions]

theorem functionLines_flattened (name : String) (profile : FunctionProfile) :
    functionLines (name, profile.flattened) = functionLines (name, profile) := by
  rw [functionLines, FunctionProfile.flattened, Std.ExtTreeMap.toList_map, List.flatMap_map]
  exact List.flatMap_congr fun entry _ => nodeLines_flattened name entry.1 entry.2

theorem position_flattened_eq {left right : Position} (sameCount : left.count.raw = right.count.raw)
    (sameTargets : writtenTargets left = writtenTargets right) :
    left.flattened = right.flattened := by
  have sameMap : (left.targets.map fun _ count => count.flattened) =
      right.targets.map fun _ count => count.flattened := by
    refine Std.ExtTreeMap.toList_inj.mp ?_
    rw [Std.ExtTreeMap.toList_map, Std.ExtTreeMap.toList_map]
    refine map_eq_of_map_eq (fun target _ other _ same => ?_) sameTargets
    obtain ⟨sameName, sameRaw⟩ := Prod.mk.inj same
    rw [sameName, Count.flattened, Count.flattened, sameRaw]
  rw [Position.flattened, Position.flattened, Count.flattened, Count.flattened, sameCount, sameMap]

/-- The lines of an instance tell everything that is kept of it but the path. -/
theorem node_flattened_eq {leftName rightName : String} {path : Path} {left right : Node}
    (same : nodeLines leftName (path, left) = nodeLines rightName (path, right)) :
    left.flattened path = right.flattened path := by
  obtain ⟨sameOpening, sameLines⟩ := List.cons.inj same
  have samePositions : (left.positions.map fun _ position => position.flattened) =
      right.positions.map fun _ position => position.flattened := by
    refine Std.ExtTreeMap.toList_inj.mp ?_
    rw [Std.ExtTreeMap.toList_map, Std.ExtTreeMap.toList_map]
    refine map_eq_of_map_eq (fun position _ other _ sameLine => ?_) sameLines
    rw [countsLine, countsLine, Line.indented.injEq, Remark.counts.injEq] at sameLine
    obtain ⟨_, sameOffset, sameCount, sameTargets⟩ := sameLine
    rw [sameOffset, position_flattened_eq sameCount sameTargets]
  rw [opening, opening] at sameOpening
  rw [Node.flattened, Node.flattened, samePositions]
  cases last : path.getLast? with
  | none =>
      rw [last, Line.function.injEq] at sameOpening
      rw [sameOpening.2.1, sameOpening.2.2]
  | some call =>
      rw [last, Line.indented.injEq, Remark.inlined.injEq] at sameOpening
      have nested : path ≠ [] := by
        rintro rfl
        cases last
      rw [sameOpening.2.2.2, if_neg nested, if_neg nested]

/-- The lines of an instance tell its depth and the last call that leads there. -/
theorem depth_eq {leftName rightName : String} {left right : Path × Node}
    (same : nodeLines leftName left = nodeLines rightName right) :
    (left.1.length, left.1.getLast?) = (right.1.length, right.1.getLast?) := by
  have sameOpening := (List.cons.inj same).1
  rw [opening, opening] at sameOpening
  cases leftLast : left.1.getLast? with
  | none =>
      cases rightLast : right.1.getLast? with
      | none =>
          rw [List.getLast?_eq_none_iff.mp leftLast, List.getLast?_eq_none_iff.mp rightLast]
      | some other =>
          rw [leftLast, rightLast] at sameOpening
          cases sameOpening
  | some call =>
      cases rightLast : right.1.getLast? with
      | none =>
          rw [leftLast, rightLast] at sameOpening
          cases sameOpening
      | some other =>
          rw [leftLast, rightLast, Line.indented.injEq, Remark.inlined.injEq] at sameOpening
          obtain ⟨sameDepth, sameOffset, sameCallee, _⟩ := sameOpening
          have sameCall : call = other := by
            cases call
            cases other
            exact congr (congrArg Callsite.mk sameOffset) sameCallee
          rw [sameDepth, sameCall]

/-! ## Functions in a text -/

theorem opened_nodeLines (name : String) (entry : Path × Node) :
    Opened Line.opens (nodeLines name entry) := by
  refine ⟨_, _, rfl, ?_, ?_⟩
  · rw [opening]
    cases entry.1.getLast? <;> rfl
  · intro line member
    obtain ⟨position, _, rfl⟩ := List.mem_map.mp member
    rfl

/-- A function opens on its first line only. -/
theorem exists_functionLines_eq_cons (entry : String × FunctionProfile) :
    ∃ (root : Node) (rest : List Line),
      functionLines entry = .function entry.1 root.total root.head :: rest ∧
        ∀ line ∈ rest, line.opensFunction = false := by
  obtain ⟨root, inner, listed, chain⟩ := entry.2.exists_toList_eq_cons
  rw [functionLines, listed, List.flatMap_cons, nodeLines, List.cons_append]
  refine ⟨root, _, rfl, fun line member => ?_⟩
  have counts (depth : Nat) (position : LineOffset × Position) :
      (countsLine depth position).opensFunction = false := rfl
  rw [List.mem_append, List.mem_map, List.mem_flatMap] at member
  rcases member with ⟨position, _, rfl⟩ | ⟨node, nodeMem, lineMem⟩
  · exact counts _ position
  · rw [nodeLines, List.mem_cons, List.mem_map] at lineMem
    rcases lineMem with rfl | ⟨position, _, rfl⟩
    · have nested : node.1 ≠ [] :=
        Path.ne_nil_of_mem_walk chain (List.mem_map_of_mem nodeMem)
      rw [opening, List.getLast?_eq_some_getLast nested]
      rfl
    · exact counts _ position

theorem opened_functionLines (entry : String × FunctionProfile) :
    Opened Line.opensFunction (functionLines entry) := by
  obtain ⟨root, rest, shape, closed⟩ := exists_functionLines_eq_cons entry
  exact ⟨_, rest, shape, rfl, closed⟩

/-- The lines of a function tell its name and everything that is kept of it. -/
theorem function_flattened_eq {left right : String × FunctionProfile}
    (same : functionLines left = functionLines right) :
    (left.1, left.2.flattened) = (right.1, right.2.flattened) := by
  have sameName : left.1 = right.1 := by
    obtain ⟨leftRoot, leftRest, leftShape, _⟩ := exists_functionLines_eq_cons left
    obtain ⟨rightRoot, rightRest, rightShape, _⟩ := exists_functionLines_eq_cons right
    rw [leftShape, rightShape, List.cons.injEq, Line.function.injEq] at same
    exact same.1.1
  obtain ⟨name, left⟩ := left
  obtain ⟨_, right⟩ := right
  cases sameName
  have sameLines : left.nodes.toList.map (nodeLines name) =
      right.nodes.toList.map (nodeLines name) :=
    map_eq_of_flatMap_eq (fun entry _ => opened_nodeLines name entry)
      (fun entry _ => opened_nodeLines name entry) same
  have samePaths : left.nodes.toList.map Prod.fst = right.nodes.toList.map Prod.fst := by
    have sameDepths : left.nodes.toList.map
          (fun entry => (entry.1.length, entry.1.getLast?)) =
        right.nodes.toList.map fun entry => (entry.1.length, entry.1.getLast?) :=
      map_eq_of_map_eq (fun entry _ other _ => depth_eq) sameLines
    obtain ⟨leftRoot, leftInner, leftListed, leftChain⟩ := left.exists_toList_eq_cons
    obtain ⟨rightRoot, rightInner, rightListed, rightChain⟩ := right.exists_toList_eq_cons
    rw [leftListed, rightListed] at sameDepths ⊢
    have sameInner : leftInner.map Prod.fst = rightInner.map Prod.fst := by
      refine Path.walk_unique leftChain rightChain ?_
      rw [List.map_map, List.map_map]
      exact (List.cons.inj sameDepths).2
    exact congrArg (List.cons []) sameInner
  have sameNodes : left.nodes.map Node.flattened = right.nodes.map Node.flattened := by
    have sameBoth : left.nodes.toList.map (fun entry => (entry.1, nodeLines name entry)) =
        right.nodes.toList.map fun entry => (entry.1, nodeLines name entry) := by
      rw [← List.zip_map', ← List.zip_map', samePaths, sameLines]
    refine Std.ExtTreeMap.toList_inj.mp ?_
    rw [Std.ExtTreeMap.toList_map, Std.ExtTreeMap.toList_map]
    refine map_eq_of_map_eq ?_ sameBoth
    rintro ⟨path, node⟩ _ ⟨_, other⟩ _ equal
    obtain ⟨rfl, equalLines⟩ := Prod.mk.inj equal
    exact congrArg (Prod.mk path) (node_flattened_eq equalLines)
  exact congrArg (Prod.mk name) (FunctionProfile.ext_nodes sameNodes)

theorem plain_functionLines {entry : String × FunctionProfile} (namePlain : Plain entry.1)
    (plain : entry.2.Plain) : ∀ line ∈ functionLines entry, line.Plain := by
  intro line member
  obtain ⟨node, nodeMem, lineMem⟩ := List.mem_flatMap.mp member
  obtain ⟨pathPlain, positionsPlain⟩ := plain node nodeMem
  rw [nodeLines, List.mem_cons, List.mem_map] at lineMem
  rcases lineMem with rfl | ⟨position, positionMem, rfl⟩
  · rw [opening]
    cases last : node.1.getLast? with
    | none => exact namePlain
    | some call => exact pathPlain call (List.mem_of_getLast? last)
  · intro target targetMem
    obtain ⟨counted, countedMem, rfl⟩ := List.mem_map.mp targetMem
    exact positionsPlain position positionMem counted countedMem

/-- Texts of profiles with plain names are the same exactly if the same functions are reported, with
the same names, totals and samples at their first instructions, and with the same inlined instances,
positions and call targets, up to the kinds of counts and the samples at the first instructions of
inlined instances. -/
theorem text_eq_iff {left right : ProfileMap}
    {leftSymbols rightSymbols : Option (List SymbolList.Entry)} (leftPlain : left.Plain)
    (rightPlain : right.Plain) :
    (render .text left leftSymbols).toUTF8 = (render .text right rightSymbols).toUTF8 ↔
      left.flattened = right.flattened := by
  have plainLines {map : ProfileMap} (plain : map.Plain) :
      ∀ line ∈ map.emitted.flatMap functionLines, line.Plain := by
    intro line member
    obtain ⟨entry, entryMem, lineMem⟩ := List.mem_flatMap.mp member
    exact plain_functionLines (plain entry entryMem).1 (plain entry entryMem).2 line lineMem
  have kept (map : ProfileMap) : map.flattened.flatMap functionLines =
      map.emitted.flatMap functionLines := by
    rw [ProfileMap.flattened, List.flatMap_map]
    exact List.flatMap_congr fun entry _ => functionLines_flattened entry.1 entry.2
  rw [String.toUTF8_eq_toByteArray, String.toUTF8_eq_toByteArray, String.toByteArray_inj,
    ← String.toList_inj, toList_render_text, toList_render_text]
  constructor
  · intro same
    have sameLines := Line.text_injective (plainLines leftPlain) (plainLines rightPlain) same
    exact map_eq_of_map_eq (fun entry _ other _ => function_flattened_eq)
      (map_eq_of_flatMap_eq (fun entry _ => opened_functionLines entry)
        (fun entry _ => opened_functionLines entry) sameLines)
  · intro same
    rw [← kept, ← kept, same]

/-- A function, an inlined call and a call target whose names look like parts of a line. -/
def oddlyNamed (count : Count) : ProfileMap where
  functions := .ofList []
  profiles := (∅ : OrderedMap String FunctionProfile).insert "a:3" <|
    (FunctionProfile.empty.record ⟨[⟨⟨1, 0⟩, "7"⟩], ⟨2, 5⟩⟩ 4).setTarget ⟨[], ⟨3, 0⟩⟩ "" count

/-- A delta is written like the execution count with the same bits, and unlike other counts. -/
theorem text_eq_iff_oddlyNamed :
    let delta := oddlyNamed (.prefetchDelta (-1))
    let limit := oddlyNamed (.execution countLimit)
    let one := oddlyNamed (.execution 1)
    delta.Plain ∧ limit.Plain ∧ one.Plain ∧
      (render .text delta none).toUTF8 = (render .text limit none).toUTF8 ∧
      delta.flattened = limit.flattened ∧
      (render .text delta none).toUTF8 ≠ (render .text one none).toUTF8 ∧
      delta.flattened ≠ one.flattened := by
  intro delta limit one
  have deltaPlain : delta.Plain := by decide +kernel
  have limitPlain : limit.Plain := by decide +kernel
  have onePlain : one.Plain := by decide +kernel
  have sameText : (render .text delta none).toUTF8 = (render .text limit none).toUTF8 := by
    decide +kernel
  have otherText : (render .text delta none).toUTF8 ≠ (render .text one none).toUTF8 := by
    decide +kernel
  have sameKept := (text_eq_iff deltaPlain limitPlain).mp sameText
  have otherKept := mt (text_eq_iff deltaPlain onePlain).mpr otherText
  exact ⟨deltaPlain, limitPlain, onePlain, sameText, sameKept, otherText, otherKept⟩

end ReportFormat

end SampleProfile
