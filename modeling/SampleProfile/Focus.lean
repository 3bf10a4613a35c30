import SampleProfile.Pattern.Parser

/-!
# The binary in focus

A capture holds samples of every process.  Those of one binary are told by the path that was mapped,
which must match a pattern, and by the build-id of the mapped file, which must not contradict the
binary's.
-/

namespace SampleProfile

/-- A pattern for mapped paths and the expected build-id; an empty one accepts every build-id. -/
structure Focus where
  pattern : String
  buildId : String
deriving DecidableEq, Repr

namespace Focus

/-- The length to which captures pad build-ids. -/
def buildIdLength : Nat := 40

/-- Pads a build-id with zeros at its end; an empty one and one whose text fills the length are left
alone. -/
def padBuildId (buildId : String) : String :=
  if buildId.isEmpty || buildId.utf8ByteSize ≥ buildIdLength then
    buildId
  else
    buildId ++ String.ofList (List.replicate (buildIdLength - buildId.length) '0')

/-- A build-id without the zeros at its end, in lower case. -/
def significant (buildId : String) : List Char :=
  ((buildId.toList.reverse.dropWhile (· = '0')).reverse).map Char.toLower

/-- Whether two build-ids agree up to case and padding; an empty one agrees with all. -/
def buildIdsMatch (expected actual : String) : Bool :=
  expected.isEmpty || actual.isEmpty || significant expected = significant actual

/-- The ending of a binary that keeps its debug information, of which processes run the copy without
the ending. -/
def unstrippedEnding : List Char := ".unstripped".toList

/-- The part of a path after its last slash, without one ending of an unstripped copy. -/
def fileName (path : String) : List Char :=
  let chars := path.toList
  let kept :=
    if unstrippedEnding.isSuffixOf chars then
      chars.take (chars.length - unstrippedEnding.length)
    else
      chars
  (kept.reverse.takeWhile (· ≠ '/')).reverse

/-- The pattern of all paths that end in the file name of a binary. -/
def patternFor (path : String) : String :=
  ".*/" ++ Pattern.escape (String.ofList (fileName path)) ++ "$"

/-- The focus for a binary.  A pattern given explicitly is taken as it is, and then build-ids are
not compared. -/
def resolve (path : String) (buildId : Option String) : Option String → Focus
  | some pattern => ⟨pattern, ""⟩
  | none => ⟨patternFor path, padBuildId (buildId.getD "")⟩

end Focus

end SampleProfile
