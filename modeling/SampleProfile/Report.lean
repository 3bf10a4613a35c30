import SampleProfile.FunctionProfile.InlineTree
import SampleProfile.Json
import SampleProfile.ProfileMap
import SampleProfile.SymbolList
import SampleProfile.Text.Integer

/-!
# Written profiles

A profile is written in one of two formats.  The compiler's text format has one line per position
and inlined call, indented by one blank per level, and stores every count as an unsigned number.
The JSON format keeps the kinds and signs of counts and can carry a list of unprofiled symbols.
-/

namespace SampleProfile

/-- The formats in which profiles are written. -/
inductive ReportFormat where
  | text
  | json
deriving DecidableEq, Repr

namespace ReportFormat

/-- A position: its offset, its count, and its call targets on the same line. -/
def positionLine (depth : Nat) (offset : LineOffset) (position : Position) : List Char :=
  List.replicate depth ' ' ++ offset.render.toList ++ ':' :: ' ' ::
    (Text.decimalDigits position.count.raw ++
      (position.targets.toList.flatMap fun target =>
        ' ' :: (target.1.toList ++ ':' :: Text.decimalDigits target.2.raw)) ++
      ['\n'])

/-- The line that opens a function or an inlined instance. -/
def openingLine (name : String) (node : Node) (path : Path) : List Char :=
  match path.getLast? with
  | none =>
      name.toList ++ ':' :: (Text.decimalDigits node.total ++
        ':' :: (Text.decimalDigits node.head ++ ['\n']))
  | some call =>
      List.replicate path.length ' ' ++ call.offset.render.toList ++ ':' :: ' ' ::
        (call.callee.toList ++ ':' :: (Text.decimalDigits node.total ++ ['\n']))

/-- One function in text format: every instance in depth-first order, with its positions after it.
-/
def functionText (name : String) (profile : FunctionProfile) : List Char :=
  profile.nodes.toList.flatMap fun entry =>
    openingLine name entry.2 entry.1 ++
      entry.2.positions.toList.flatMap fun position =>
        positionLine (entry.1.length + 1) position.1 position.2

/-- A count with its kind. -/
def countJson : Count → Json
  | .execution samples =>
      .object [("kind", .string "execution"), ("value", .integer samples.toNat)]
  | .prefetchDelta delta =>
      .object [("kind", .string "prefetch_delta"), ("value", .integer delta.toInt)]

/-- A position; the field of targets is absent when there are none. -/
def positionJson (offset : LineOffset) (position : Position) : Json :=
  let targets := position.targets.toList.map fun target => (target.1, countJson target.2)
  .object <|
    [("offset", .string offset.render), ("count", countJson position.count)] ++
      (if targets.isEmpty then [] else [("targets", .object targets)])

mutual

/-- The fields of a function or inlined instance; the field of inlined calls is absent when there
are none. -/
def treeFields (name : String) : InlineTree → List (String × Json)
  | .mk node inlined =>
      [("name", .string name),
        ("total_count", .integer node.total.toNat),
        ("head_count", .integer node.head.toNat),
        ("positions", .array (node.positions.toList.map fun position =>
          positionJson position.1 position.2))] ++
        (if inlined.isEmpty then [] else [("callsites", .array (inlinedJson inlined))])

/-- The inlined calls, each with its offset before the fields of the instance. -/
def inlinedJson : List (Callsite × InlineTree) → List Json
  | [] => []
  | (call, tree) :: rest =>
      .object (("offset", .string call.offset.render) :: treeFields call.callee tree) ::
        inlinedJson rest

end

/-- The whole profile; the field of the symbol list is absent when there is no list. -/
def documentJson (map : ProfileMap) (symbols : Option (List SymbolList.Entry)) : Json :=
  .object <|
    [("functions", .array (map.emitted.map fun entry =>
      .object (treeFields entry.1 entry.2.tree)))] ++
      match symbols with
      | none => []
      | some entries =>
          [("symbol_list", .array (entries.map fun entry =>
            .object [("name", .string entry.1), ("size", .integer entry.2.toNat)]))]

/-- Writes the emitted functions of a profile; the text format has no place for a symbol list. -/
def render (format : ReportFormat) (map : ProfileMap)
    (symbols : Option (List SymbolList.Entry)) : String :=
  match format with
  | text => String.ofList (map.emitted.flatMap fun entry => functionText entry.1 entry.2)
  | json => (documentJson map symbols).render ++ "\n"

end ReportFormat

end SampleProfile
