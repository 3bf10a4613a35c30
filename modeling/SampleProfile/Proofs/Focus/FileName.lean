import Mathlib.Data.List.TakeWhile
import SampleProfile.Focus
import SampleProfile.Proofs.Pattern.Notation

/-!
# The paths that a derived pattern selects

The pattern that is derived from the path of a binary reads as a repeated point, a slash, the
literals of the file name and the end of the text (`parse_patternFor`).  A point does not stand for
a line feed, but nothing has to match before the slash, so that exactly the paths that end in the
slash and the name are selected.
-/

namespace SampleProfile.Focus

/-! ## The file name -/

/-- The part of a path after its last slash, or all of it if it has none. -/
def IsLastPart (kept name : List Char) : Prop :=
  ∃ directory, (directory = [] ∨ ∃ parent, directory = parent ++ ['/']) ∧ '/' ∉ name ∧
    kept = directory ++ name

/-- The last part of a path that has lost one ending of an unstripped copy, if it had any. -/
def Names (path : String) (name : List Char) : Prop :=
  ∃ kept, (path.toList = kept ++ unstrippedEnding ∨
      path.toList = kept ∧ ¬ unstrippedEnding <:+ path.toList) ∧ IsLastPart kept name

theorem isLastPart_iff (kept name : List Char) :
    IsLastPart kept name ↔ name = (kept.reverse.takeWhile (· ≠ '/')).reverse := by
  constructor
  · rintro ⟨directory, ends, noSlash, rfl⟩
    have allTaken : ∀ char ∈ name.reverse, decide (char ≠ '/') = true := by
      intro char mem
      have differs : char ≠ '/' := fun same => noSlash (same ▸ List.mem_reverse.mp mem)
      exact decide_eq_true differs
    have noneBefore : directory.reverse.takeWhile (· ≠ '/') = [] := by
      rcases ends with rfl | ⟨parent, rfl⟩
      · rfl
      · simp
    rw [List.reverse_append, List.takeWhile_append_of_pos allTaken, noneBefore, List.append_nil,
      List.reverse_reverse]
  · rintro rfl
    refine ⟨(kept.reverse.dropWhile (· ≠ '/')).reverse, ?_, ?_, ?_⟩
    · cases remaining : kept.reverse.dropWhile (· ≠ '/') with
      | nil => exact .inl rfl
      | cons char rest =>
          have stopped := List.head?_dropWhile_not (· ≠ '/') kept.reverse
          simp only [remaining, List.head?_cons] at stopped
          refine .inr ⟨rest.reverse, ?_⟩
          simpa using stopped
    · intro slash
      have differs := List.mem_takeWhile_imp (List.mem_reverse.mp slash)
      simp at differs
    · rw [← List.reverse_append, List.takeWhile_append_dropWhile, List.reverse_reverse]

/-- Every path has exactly one file name. -/
theorem names_iff (path : String) (name : List Char) : Names path name ↔ name = fileName path := by
  simp only [Names, isLastPart_iff, fileName]
  by_cases ending : unstrippedEnding <:+ path.toList
  · obtain ⟨kept, split⟩ := ending
    have taken : path.toList.take (path.toList.length - unstrippedEnding.length) = kept := by
      rw [← split, List.length_append, Nat.add_sub_cancel, List.take_left]
    rw [if_pos (List.isSuffixOf_iff_suffix.mpr ⟨kept, split⟩), taken, ← split]
    simp
  · rw [if_neg (fun claimed => ending (List.isSuffixOf_iff_suffix.mp claimed))]
    have notEnded : ∀ kept, path.toList ≠ kept ++ unstrippedEnding :=
      fun kept split => ending ⟨kept, split.symm⟩
    simp [ending, notEnded]

/-! ## The derived pattern -/

/-- A point, repeated as often as it matches. -/
def anyStretch : Pattern := .repeated 0 none (.one (Pattern.pointClass {}))

/-- What the derived pattern reads as. -/
def derived (path : String) : Pattern :=
  Pattern.sequenceOf
    (anyStretch :: (('/' :: fileName path).map Pattern.literal ++ [.check .textEnd]))

theorem size_derived (path : String) : (derived path).size = (fileName path).length + 12 := by
  have anySize : anyStretch.size = 9 := rfl
  rw [derived, Pattern.size_sequenceOf_cons, Pattern.size_sequenceOf_literals, anySize,
    List.length_cons, Pattern.size]
  omega

theorem toList_patternFor (path : String) :
    (patternFor path).toList = '.' :: '*' :: '/' ::
      ((fileName path).flatMap Pattern.escaped ++ ['$']) := by
  simp [patternFor, Pattern.toList_escape]

example : patternFor "/opt/app+v1.2.unstripped" = ".*/app\\+v1\\.2$" := by decide +kernel

/-- The derived pattern is read as it is meant, unless the file name makes it too large. -/
theorem parse_patternFor (path : String) :
    Pattern.parse (patternFor path) =
      if (fileName path).length + 12 ≤ Pattern.sizeLimit then .ok (derived path)
        else .error .tooLarge := by
  rw [← size_derived]
  apply Pattern.parse_of_plain
  obtain ⟨spare, enough⟩ := Nat.exists_eq_add_of_le
    (Pattern.length_le_length_escaped (fileName path))
  have length : (patternFor path).toList.length + 1 =
      (fileName path).length + (spare + 1 + 1) + 1 + 1 + 1 := by
    simp only [toList_patternFor, List.length_cons, List.length_append, List.length_nil, enough]
    omega
  have point : ∀ rest, Pattern.readToken (Pattern.plain []) '.' rest =
      .ok (Pattern.plain [.one (Pattern.pointClass {})], rest) := fun _ => rfl
  have star : ∀ rest,
      Pattern.readToken (Pattern.plain [.one (Pattern.pointClass {})]) '*' ('/' :: rest) =
        .ok (Pattern.plain [anyStretch], '/' :: rest) := fun _ => rfl
  have slash : '/' ∉ Pattern.metaCharacters := by decide
  have dollar : ∀ patterns, Pattern.readToken (Pattern.plain patterns) '$' [] =
      .ok (Pattern.plain (patterns ++ [.check .textEnd]), []) := by
    intro patterns
    rw [← Pattern.push_plain]
    rfl
  rw [length, toList_patternFor, Pattern.readTokens_cons _ (point _),
    Pattern.readTokens_cons _ (star _),
    Pattern.readTokens_cons _ (Pattern.readToken_of_not_mem slash), Pattern.readTokens_escaped,
    Pattern.readTokens_cons _ (dollar _), Pattern.readTokens_nil]
  rfl

/-! ## What it selects -/

/-- The derived pattern matches in a path that ends in a slash and the file name. -/
theorem matchesIn_derived (path mapped : String) :
    (derived path).matchesIn mapped ↔ '/' :: fileName path <:+ mapped.toList := by
  have ends : ∀ place stop,
      Pattern.Spans mapped.toList (Pattern.sequenceOf [.check .textEnd]) place stop ↔
        place = stop ∧ mapped.toList.length ≤ place := by
    intro place stop
    simp only [Pattern.spans_sequenceOf_cons, Pattern.spans_textEnd]
    exact exists_eq_right
  simp only [Pattern.matchesIn_iff, derived, Pattern.spans_sequenceOf_cons,
    Pattern.spans_sequenceOf_literals, ends]
  constructor
  · rintro ⟨_, _, _, middle, _, stands, _, atEnd⟩
    have whole : '/' :: fileName path = mapped.toList.drop middle := by
      apply stands.eq_of_length_le
      rw [List.length_drop]
      omega
    rw [whole]
    exact List.drop_suffix middle mapped.toList
  · rintro ⟨front, split⟩
    have length : front.length + ('/' :: fileName path).length = mapped.toList.length := by
      rw [← split, List.length_append]
    refine ⟨front.length, by omega, mapped.toList.length, front.length, ?_, ?_, length,
      Nat.le_of_eq length.symm⟩
    · exact ⟨0, Nat.le_refl 0, nofun, rfl⟩
    · have rest : mapped.toList.drop front.length = '/' :: fileName path := by
        rw [← split, List.drop_left]
      exact rest ▸ List.prefix_rfl

example : (derived "/opt/app+v1.2.unstripped").matchesIn "/usr/bin/line\n/app+v1.2" := by
  decide +kernel

/-- The derived pattern selects the paths that end in a slash and the file name of the binary,
whatever characters they contain.  A file name is refused only if it is so long that its pattern
exceeds the limit. -/
theorem patternFor_selects (path : String) :
    ∃ pattern : Pattern,
      Pattern.parse (patternFor path) =
          (if (fileName path).length + 12 ≤ Pattern.sizeLimit then .ok pattern
            else .error .tooLarge) ∧
        ∀ mapped : String,
          pattern.matchesIn mapped ↔ ∃ name, Names path name ∧ '/' :: name <:+ mapped.toList := by
  refine ⟨derived path, parse_patternFor path, fun mapped => ?_⟩
  simp only [matchesIn_derived, names_iff, exists_eq_left]

end SampleProfile.Focus
