import SampleProfile.Pattern.Parser
import SampleProfile.Proofs.Pattern.Matching

/-!
# What escaped text reads as

A text in which the characters of the notation are escaped is read as a sequence of literals, one
for each of its characters (`readTokens_escaped`).  Such a sequence matches exactly where the text
stands (`spans_sequenceOf_literals`).
-/

namespace SampleProfile.Pattern

/-- The pattern of one character as it stands in a text. -/
def literal (char : Char) : Pattern := one (.range char char)

/-- Patterns one after the other, as a level puts them together. -/
def sequenceOf (patterns : List Pattern) : Pattern := patterns.foldr seq empty

/-- A character of an escaped text. -/
def escaped (char : Char) : List Char :=
  if metaCharacters.contains char then ['\\', char] else [char]

theorem toList_escape (text : String) : (escape text).toList = text.toList.flatMap escaped := by
  rw [escape, String.toList_ofList]
  rfl

theorem length_le_length_escaped (chars : List Char) :
    chars.length ≤ (chars.flatMap escaped).length := by
  induction chars with
  | nil => exact Nat.le_refl 0
  | cons char rest inductionHypothesis =>
      rw [List.flatMap_cons, List.length_append, List.length_cons, escaped]
      split <;> simp only [List.length_cons, List.length_nil] <;> omega

/-! ## Reading -/

/-- Adds an element to the innermost group. -/
def Progress.push (progress : Progress) (pattern : Pattern) : Progress :=
  { progress with level := progress.level.push pattern }

/-- What has been read of a text that opens no group and sets no flags. -/
def plain (patterns : List Pattern) : Progress :=
  { level := patterns.foldl Level.push { outerFlags := {} } }

section Reading

variable {patterns further : List Pattern} {char : Char} {rest remaining : List Char}

theorem push_plain (pattern : Pattern) :
    (plain patterns).push pattern = plain (patterns ++ [pattern]) := by
  simp [plain, Progress.push]

theorem skip_default (chars : List Char) : ({} : Flags).skip chars = chars := by
  rw [Flags.skip, Pattern.skip]
  rfl

theorem readTokens_nil (tokens : Nat) :
    readTokens tokens (plain patterns) [] = .ok (plain patterns) := by
  cases tokens <;> rfl

theorem readTokens_cons (tokens : Nat)
    (read : readToken (plain patterns) char rest = .ok (plain further, remaining)) :
    readTokens (tokens + 1) (plain patterns) (char :: rest) =
      readTokens tokens (plain further) remaining := by
  have flags : (plain patterns).flags = {} := rfl
  rw [readTokens, flags, skip_default]
  simp only [read]

theorem readToken_of_not_mem (ordinary : char ∉ metaCharacters) :
    readToken (plain patterns) char rest = .ok (plain (patterns ++ [literal char]), rest) := by
  simp only [metaCharacters, List.mem_cons, List.not_mem_nil, not_or] at ordinary
  rw [← push_plain, readToken]
  · rfl
  all_goals tauto

theorem readEscape_of_mem (flags : Flags) (special : char ∈ metaCharacters) :
    readEscape flags (char :: rest) = .ok (.literal char, rest) := by
  simp only [metaCharacters, List.mem_cons, List.not_mem_nil, or_false] at special
  rcases special with rfl | rfl | rfl | rfl | rfl | rfl | rfl | rfl | rfl | rfl | rfl | rfl | rfl |
    rfl | rfl | rfl | rfl | rfl <;> rfl

theorem readToken_backslash (special : char ∈ metaCharacters) :
    readToken (plain patterns) '\\' (char :: rest) =
      .ok (plain (patterns ++ [literal char]), rest) := by
  rw [← push_plain]
  simp only [readToken, readEscape_of_mem (plain patterns).flags special]
  rfl

theorem readTokens_escaped_cons (tokens : Nat) :
    readTokens (tokens + 1) (plain patterns) (escaped char ++ rest) =
      readTokens tokens (plain (patterns ++ [literal char])) rest := by
  unfold escaped
  split
  · next special =>
    have listed : char ∈ metaCharacters := List.contains_iff_mem.mp special
    exact readTokens_cons tokens (readToken_backslash listed)
  · next unlisted =>
    have ordinary : char ∉ metaCharacters :=
      fun special => unlisted (List.contains_iff_mem.mpr special)
    exact readTokens_cons tokens (readToken_of_not_mem ordinary)

/-- Escaped text adds one literal for each character. -/
theorem readTokens_escaped (tokens : Nat) (chars : List Char) :
    readTokens (chars.length + tokens) (plain patterns) (chars.flatMap escaped ++ rest) =
      readTokens tokens (plain (patterns ++ chars.map literal)) rest := by
  induction chars generalizing patterns with
  | nil => simp
  | cons char chars inductionHypothesis =>
      rw [List.length_cons, Nat.add_right_comm, List.flatMap_cons, List.append_assoc,
        readTokens_escaped_cons, inductionHypothesis, List.map_cons, List.append_assoc]
      rfl

theorem items_foldl_push (level : Level) (patterns : List Pattern) :
    (patterns.foldl Level.push level).items =
      (patterns.map Item.pattern).reverse ++ level.items := by
  induction patterns generalizing level with
  | nil => rfl
  | cons pattern patterns inductionHypothesis =>
      rw [List.foldl_cons, inductionHypothesis, List.map_cons, List.reverse_cons, List.append_assoc]
      rfl

theorem branches_foldl_push (level : Level) (patterns : List Pattern) :
    (patterns.foldl Level.push level).branches = level.branches := by
  induction patterns generalizing level with
  | nil => rfl
  | cons pattern patterns inductionHypothesis => exact inductionHypothesis (level.push pattern)

theorem value_plain (patterns : List Pattern) :
    (plain patterns).level.value = sequenceOf patterns := by
  rw [plain, Level.value, branches_foldl_push, Level.sequence, items_foldl_push, List.append_nil,
    List.foldl_reverse, List.foldr_map]
  rfl

end Reading

/-- A text that is read without groups and flags is the sequence of what was read, if that is not
too large. -/
theorem parse_of_plain {text : String} {patterns : List Pattern}
    (read : readTokens (text.toList.length + 1) (plain []) text.toList = .ok (plain patterns)) :
    parse text =
      if (sequenceOf patterns).size ≤ sizeLimit then .ok (sequenceOf patterns)
        else .error .tooLarge := by
  have initial : ({ level := { outerFlags := {} } } : Progress) = plain [] := rfl
  rw [← value_plain, parse, initial]
  simp only [read]
  rfl

/-! ## Sequences of literals -/

theorem size_sequenceOf_cons (first : Pattern) (rest : List Pattern) :
    (sequenceOf (first :: rest)).size = first.size + (sequenceOf rest).size := rfl

theorem size_sequenceOf_literals (chars : List Char) (pattern : Pattern) :
    (sequenceOf (chars.map literal ++ [pattern])).size = chars.length + pattern.size + 1 := by
  induction chars with
  | nil =>
      rw [List.length_nil, Nat.zero_add]
      rfl
  | cons char chars inductionHypothesis =>
      have oneState : (literal char).size = 1 := rfl
      rw [List.map_cons, List.cons_append, size_sequenceOf_cons, inductionHypothesis, oneState,
        List.length_cons]
      omega

section Matching

variable {text : List Char} {start stop : Nat}

theorem spans_literal {char : Char} :
    Spans text (literal char) start stop ↔ text[start]? = some char ∧ stop = start + 1 := by
  have accepted : ∀ other, (CharClass.range char char).test other ↔ other = char := by
    intro other
    simp only [CharClass.test, Bool.and_eq_true, decide_eq_true_eq]
    constructor
    · rintro ⟨low, high⟩
      exact Char.le_antisymm high low
    · rintro rfl
      exact ⟨Char.le_refl other, Char.le_refl other⟩
  simp only [literal, Spans, accepted, exists_eq_right]

theorem spans_textEnd :
    Spans text (check .textEnd) start stop ↔ start = stop ∧ text.length ≤ start := by
  simp only [Spans, Assertion.holds, Option.isNone_iff_eq_none, List.getElem?_eq_none_iff]

theorem spans_sequenceOf_cons (first : Pattern) (rest : List Pattern) :
    Spans text (sequenceOf (first :: rest)) start stop ↔
      ∃ middle, Spans text first start middle ∧ Spans text (sequenceOf rest) middle stop := Iff.rfl

/-- A sequence of literals leads over a text where it stands. -/
theorem spans_sequenceOf_literals (chars : List Char) (rest : List Pattern) :
    Spans text (sequenceOf (chars.map literal ++ rest)) start stop ↔
      chars <+: text.drop start ∧ Spans text (sequenceOf rest) (start + chars.length) stop := by
  induction chars generalizing start with
  | nil => simp
  | cons char chars inductionHypothesis =>
      have occurs : char :: chars <+: text.drop start ↔
          text[start]? = some char ∧ chars <+: text.drop (start + 1) := by
        rw [← List.head?_drop, ← List.tail_drop]
        cases text.drop start with
        | nil => simp
        | cons other others => simp [List.cons_prefix_cons, eq_comm]
      simp only [List.map_cons, List.cons_append, spans_sequenceOf_cons, spans_literal,
        inductionHypothesis, occurs, List.length_cons]
      constructor
      · rintro ⟨_, ⟨found, rfl⟩, stands, spans⟩
        exact ⟨⟨found, stands⟩, by rwa [Nat.add_right_comm] at spans⟩
      · rintro ⟨⟨found, stands⟩, spans⟩
        exact ⟨start + 1, ⟨found, rfl⟩, stands, by rwa [Nat.add_right_comm]⟩

end Matching

end SampleProfile.Pattern
