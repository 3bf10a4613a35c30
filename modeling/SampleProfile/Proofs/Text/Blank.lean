import Mathlib.Data.List.DropRight
import SampleProfile.Text.Blank

/-!
# Lines and parts of built texts

A text that is put together from lines comes apart into the same lines, up to blanks around them,
and a text that is put together around a separator comes apart at it.
-/

namespace SampleProfile.Text

/-! ## Blanks -/

theorem trimEnd_eq_self {chars : List Char} (solid : ∀ char ∈ chars, isBlank char = false) :
    trimEnd chars = chars := by
  induction chars with
  | nil => rfl
  | cons first rest inductionHypothesis =>
      rw [List.forall_mem_cons] at solid
      rw [trimEnd, inductionHypothesis solid.2]
      cases rest with
      | nil => simp [solid.1]
      | cons => rfl

/-- A text without blanks stays as it is. -/
theorem trim_eq_self {chars : List Char} (solid : ∀ char ∈ chars, isBlank char = false) :
    trim chars = chars := by
  have unchanged : chars.dropWhile isBlank = chars := by
    cases chars with
    | nil => rfl
    | cons first rest => simp [solid first List.mem_cons_self]
  rw [trim, unchanged, trimEnd_eq_self solid]

/-- Nothing but blanks. -/
def Blanks (chars : List Char) : Prop :=
  ∀ char ∈ chars, isBlank char

theorem trimEnd_blanks {blanks : List Char} (blank : Blanks blanks) : trimEnd blanks = [] := by
  induction blanks with
  | nil => rfl
  | cons first rest inductionHypothesis =>
      obtain ⟨firstBlank, restBlank⟩ := List.forall_mem_cons.mp blank
      rw [trimEnd, inductionHypothesis restBlank]
      exact if_pos firstBlank

theorem trimEnd_append {blanks : List Char} (blank : Blanks blanks) (chars : List Char) :
    trimEnd (chars ++ blanks) = trimEnd chars := by
  induction chars with
  | nil => exact trimEnd_blanks blank
  | cons first rest inductionHypothesis =>
      rw [List.cons_append, trimEnd, trimEnd, inductionHypothesis]

/-- Blanks around a text do not count. -/
theorem trim_append {before after : List Char} (blankBefore : Blanks before)
    (blankAfter : Blanks after) (chars : List Char) :
    trim (before ++ chars ++ after) = trim chars := by
  rw [trim, trim, List.append_assoc, List.dropWhile_append_of_pos blankBefore]
  rw [List.dropWhile_append]
  split
  · next nothing =>
    have afterDropped : after.dropWhile isBlank = [] := by
      rw [← List.append_nil after, List.dropWhile_append_of_pos blankAfter]
      rfl
    rw [afterDropped, List.isEmpty_iff.mp nothing]
  · exact trimEnd_append blankAfter _

theorem exists_trimEnd (chars : List Char) :
    ∃ after, Blanks after ∧ chars = trimEnd chars ++ after := by
  induction chars with
  | nil => exact ⟨[], fun _ member => absurd member List.not_mem_nil, rfl⟩
  | cons first rest inductionHypothesis =>
      obtain ⟨after, blank, split⟩ := inductionHypothesis
      rw [trimEnd]
      cases kept : trimEnd rest with
      | nil =>
          rw [kept, List.nil_append] at split
          by_cases firstBlank : isBlank first
          · refine ⟨first :: rest, ?_, by simp [firstBlank]⟩
            exact List.forall_mem_cons.mpr ⟨firstBlank, split ▸ blank⟩
          · exact ⟨after, blank, by simp [firstBlank, split]⟩
      | cons second later =>
          rw [kept] at split
          exact ⟨after, blank, by rw [split]; rfl⟩

/-- A text is what trimming leaves of it, with blanks around. -/
theorem exists_trim (chars : List Char) :
    ∃ before after, Blanks before ∧ Blanks after ∧ chars = before ++ trim chars ++ after := by
  obtain ⟨after, blankAfter, split⟩ := exists_trimEnd (chars.dropWhile isBlank)
  refine ⟨chars.takeWhile isBlank, after, ?_, blankAfter, ?_⟩
  · intro char member
    exact List.all_eq_true.mp List.all_takeWhile char member
  · rw [trim, List.append_assoc, ← split, List.takeWhile_append_dropWhile]

theorem trim_trim (chars : List Char) : trim (trim chars) = trim chars := by
  obtain ⟨before, after, blankBefore, blankAfter, split⟩ := exists_trim chars
  have trimmed := trim_append blankBefore blankAfter (trim chars)
  rw [← split] at trimmed
  exact trimmed.symm

theorem trim_dropWhile (chars : List Char) : trim (chars.dropWhile isBlank) = trim chars := by
  rw [trim, trim, List.dropWhile_idempotent]

theorem trim_trimEnd (chars : List Char) : trim (trimEnd chars) = trim chars := by
  obtain ⟨after, blank, split⟩ := exists_trimEnd chars
  have trimmed := trim_append (fun _ member => absurd member List.not_mem_nil) blank (trimEnd chars)
  rw [List.nil_append, ← split] at trimmed
  exact trimmed.symm

theorem trimEnd_append_cons {char : Char} (solid : isBlank char = false) (left right : List Char) :
    trimEnd (left ++ char :: right) = left ++ char :: trimEnd right := by
  induction left with
  | nil =>
      rw [List.nil_append, trimEnd]
      cases trimEnd right with
      | nil => simp [solid]
      | cons => rfl
  | cons first rest inductionHypothesis =>
      rw [List.cons_append, trimEnd, inductionHypothesis]
      cases rest <;> rfl

/-- A character that is no blank keeps apart what is trimmed before it and after it. -/
theorem trim_append_cons {char : Char} (solid : isBlank char = false) (left right : List Char) :
    trim (left ++ char :: right) = left.dropWhile isBlank ++ char :: trimEnd right := by
  have stops : (char :: right).dropWhile isBlank = char :: right :=
    List.dropWhile_cons_of_neg (by simp [solid])
  rw [trim, List.dropWhile_append]
  split
  · next nothing =>
    rw [stops, List.isEmpty_iff.mp nothing]
    exact trimEnd_append_cons solid [] right
  · exact trimEnd_append_cons solid _ right

/-! ## Lines -/

theorem splitLine_append {line : List Char} (whole : '\n' ∉ line) (rest : List Char) :
    splitLine (line ++ '\n' :: rest) = (line, some rest) := by
  induction line with
  | nil => rfl
  | cons first later inductionHypothesis =>
      rw [List.mem_cons, not_or] at whole
      rw [List.cons_append]
      unfold splitLine
      split
      · contradiction
      · next same =>
        rw [List.cons.injEq] at same
        exact absurd same.1.symm whole.1
      · next char tail _ same =>
        rw [List.cons.injEq] at same
        obtain ⟨rfl, rfl⟩ := same
        rw [inductionHypothesis whole.2]

/-- A line feed ends a line, with the carriage return before it. -/
theorem lines_append_feed {line : List Char} (whole : '\n' ∉ line) (rest : List Char) :
    lines (line ++ '\n' :: rest) = dropReturn line :: lines rest := by
  rw [lines]
  split
  · next first tail found =>
    rw [splitLine_append whole, Prod.mk.injEq, Option.some_inj] at found
    obtain ⟨rfl, rfl⟩ := found
    rfl
  · next found =>
    rw [splitLine_append whole] at found
    simp at found
  · next found =>
    rw [splitLine_append whole] at found
    simp at found

theorem lines_append {line : List Char} (whole : '\n' ∉ line) (openEnd : '\r' ∉ line)
    (rest : List Char) : lines (line ++ '\n' :: rest) = line :: lines rest := by
  have kept : dropReturn line = line := by
    rw [dropReturn, if_neg]
    intro last
    exact openEnd (List.mem_of_getLast? last)
  rw [lines_append_feed whole, kept]

/-- Lines that were each ended by a line feed come apart again. -/
theorem lines_flatMap {parts : List (List Char)}
    (whole : ∀ line ∈ parts, '\n' ∉ line ∧ '\r' ∉ line) :
    lines (parts.flatMap fun line => line ++ ['\n']) = parts := by
  induction parts with
  | nil =>
      rw [List.flatMap_nil, lines]
      rfl
  | cons line rest inductionHypothesis =>
      rw [List.forall_mem_cons] at whole
      rw [List.flatMap_cons, List.append_assoc, List.singleton_append,
        lines_append whole.1.1 whole.1.2, inductionHypothesis whole.2]

theorem splitLine_of_not_mem {line : List Char} (whole : '\n' ∉ line) :
    splitLine line = (line, none) := by
  induction line with
  | nil => rfl
  | cons first later inductionHypothesis =>
      rw [List.mem_cons, not_or] at whole
      unfold splitLine
      split
      · contradiction
      · next same =>
        rw [List.cons.injEq] at same
        exact absurd same.1.symm whole.1
      · next char tail _ same =>
        rw [List.cons.injEq] at same
        obtain ⟨rfl, rfl⟩ := same
        rw [inductionHypothesis whole.2]

theorem lines_of_not_mem {line : List Char} (whole : '\n' ∉ line) :
    lines line = if line = [] then [] else [line] := by
  rw [lines]
  split
  · next found =>
    rw [splitLine_of_not_mem whole] at found
    simp at found
  · next found =>
    rw [splitLine_of_not_mem whole, Prod.mk.injEq] at found
    rw [if_pos found.1]
  · next other found =>
    rw [splitLine_of_not_mem whole, Prod.mk.injEq] at found
    rw [found.1, if_neg other]

/-- A text is a line without an end, or a line with its end and the text after it. -/
theorem lines_induction {motive : List Char → Prop}
    (last : ∀ line, '\n' ∉ line → motive line)
    (feed : ∀ line rest, '\n' ∉ line → motive rest → motive (line ++ '\n' :: rest))
    (chars : List Char) : motive chars := by
  induction length : chars.length using Nat.strongRecOn generalizing chars with
  | ind _ inductionHypothesis =>
      by_cases member : '\n' ∈ chars
      · obtain ⟨line, rest, rfl, whole⟩ := List.eq_append_cons_of_mem member
        have shorter : rest.length < (line ++ '\n' :: rest).length := by
          rw [List.length_append, List.length_cons]
          omega
        exact feed line rest whole (inductionHypothesis _ (length ▸ shorter) rest rfl)
      · exact last chars member

/-- So many first lines of a text are the lines of a beginning of it. -/
theorem exists_lines_eq_take (chars : List Char) (count : Nat) :
    ∃ start rest, chars = start ++ rest ∧ lines start = (lines chars).take count := by
  induction chars using lines_induction generalizing count with
  | last line whole =>
      cases count with
      | zero => exact ⟨[], line, rfl, lines_of_not_mem List.not_mem_nil⟩
      | succ fewer =>
          refine ⟨line, [], (List.append_nil line).symm, ?_⟩
          rw [lines_of_not_mem whole]
          split
          · rfl
          · rw [List.take_succ_cons, List.take_nil]
  | feed line rest whole inductionHypothesis =>
      cases count with
      | zero => exact ⟨[], _, rfl, lines_of_not_mem List.not_mem_nil⟩
      | succ fewer =>
          obtain ⟨start, remainder, split, taken⟩ := inductionHypothesis fewer
          refine ⟨line ++ '\n' :: start, remainder, ?_, ?_⟩
          · rw [split, List.append_assoc, List.cons_append]
          · rw [lines_append_feed whole, lines_append_feed whole, taken, List.take_succ_cons]

/-- A line end in two characters keeps the lines before it, and adds a blank one if it stands at the
start of a line. -/
theorem exists_lines_append_return (start rest : List Char) :
    ∃ blank, (blank = [] ∨ blank = [[]]) ∧
      lines (start ++ '\r' :: '\n' :: rest) = lines start ++ blank ++ lines rest := by
  induction start using lines_induction with
  | last line whole =>
      have wholeReturn : '\n' ∉ line ++ ['\r'] := by
        rw [List.mem_append, not_or]
        exact ⟨whole, by decide⟩
      have dropped : dropReturn (line ++ ['\r']) = line := by
        rw [dropReturn, List.getLast?_concat, if_pos rfl, List.dropLast_concat]
      have ended : lines (line ++ '\r' :: '\n' :: rest) = line :: lines rest := by
        have split := lines_append_feed wholeReturn rest
        rw [dropped, List.append_assoc] at split
        exact split
      rw [ended, lines_of_not_mem whole]
      by_cases empty : line = []
      · exact ⟨[[]], Or.inr rfl, by rw [if_pos empty, empty]; rfl⟩
      · exact ⟨[], Or.inl rfl, by rw [if_neg empty]; rfl⟩
  | feed line later whole inductionHypothesis =>
      obtain ⟨blank, blankCases, split⟩ := inductionHypothesis
      refine ⟨blank, blankCases, ?_⟩
      rw [List.append_assoc, List.cons_append, lines_append_feed whole, lines_append_feed whole,
        split]
      rfl

/-- Another line can start behind the text. -/
def Ended (chars : List Char) : Prop :=
  ∀ last ∈ chars.getLast?, last = '\n'

theorem lines_append_of_ended {start : List Char} (ended : Ended start) (rest : List Char) :
    lines (start ++ rest) = lines start ++ lines rest := by
  induction start using lines_induction with
  | last line whole =>
      have empty : line = [] := by
        by_contra nonempty
        have last := ended _ (List.getLast?_eq_some_getLast nonempty)
        exact whole (last ▸ List.getLast_mem nonempty)
      rw [empty, lines_of_not_mem List.not_mem_nil]
      rfl
  | feed line later whole inductionHypothesis =>
      have laterEnded : Ended later := by
        intro last member
        refine ended last ?_
        rw [List.getLast?_append, List.getLast?_cons, member]
        rfl
      rw [List.append_assoc, List.cons_append, lines_append_feed whole, lines_append_feed whole,
        inductionHypothesis laterEnded]
      rfl

theorem trim_dropReturn (line : List Char) : trim (dropReturn line) = trim line := by
  rw [dropReturn]
  split
  · next last =>
    obtain ⟨initial, rfl⟩ := List.getLast?_eq_some_iff.mp last
    have returnBlank : Blanks ['\r'] := by
      intro char member
      rw [List.mem_singleton.mp member]
      decide
    have trimmed := trim_append (fun _ member => absurd member List.not_mem_nil) returnBlank initial
    rw [List.dropLast_concat]
    exact trimmed.symm
  · rfl

/-! ## Separators -/

/-- A text is cut at the first place where the separator can start. -/
theorem cutAt_append {first : Char} {left : List Char} (absent : first ∉ left)
    (separator right : List Char) :
    cutAt (first :: separator) (left ++ (first :: separator) ++ right) = some (left, right) := by
  induction left with
  | nil => simp [cutAt]
  | cons char rest inductionHypothesis =>
      rw [List.mem_cons, not_or] at absent
      have elsewhere : ((first :: separator).isPrefixOf
          (char :: (rest ++ (first :: separator) ++ right))) = false := by
        simp [List.isPrefixOf, absent.1]
      rw [List.cons_append, List.cons_append, cutAt, elsewhere, inductionHypothesis absent.2]
      rfl

theorem cutAtLast_eq_none {separator : Char} {chars : List Char} (absent : separator ∉ chars) :
    cutAtLast separator chars = none := by
  induction chars with
  | nil => rfl
  | cons char rest inductionHypothesis =>
      rw [List.mem_cons, not_or] at absent
      rw [cutAtLast, inductionHypothesis absent.2]
      exact if_neg (Ne.symm absent.1)

/-- A text is cut at a separator that occurs nowhere after it. -/
theorem cutAtLast_append {separator : Char} {right : List Char} (absent : separator ∉ right)
    (left : List Char) : cutAtLast separator (left ++ separator :: right) = some (left, right) := by
  induction left with
  | nil =>
      rw [List.nil_append, cutAtLast, cutAtLast_eq_none absent]
      exact if_pos rfl
  | cons char rest inductionHypothesis =>
      rw [List.cons_append, cutAtLast, inductionHypothesis]

theorem splitOn_ne_nil (separator : Char) (chars : List Char) : splitOn separator chars ≠ [] := by
  cases chars with
  | nil => simp [splitOn]
  | cons char rest =>
      rw [splitOn]
      split
      · simp
      · cases splitOn separator rest <;> simp

/-- A part without the separator comes off in front of it. -/
theorem splitOn_append {separator : Char} {part : List Char} (whole : separator ∉ part)
    (rest : List Char) :
    splitOn separator (part ++ separator :: rest) = part :: splitOn separator rest := by
  induction part with
  | nil => rw [List.nil_append, splitOn, if_pos rfl]
  | cons first later inductionHypothesis =>
      rw [List.mem_cons, not_or] at whole
      rw [List.cons_append, splitOn, if_neg (Ne.symm whole.1), inductionHypothesis whole.2]

theorem splitOn_of_not_mem {separator : Char} {part : List Char} (whole : separator ∉ part) :
    splitOn separator part = [part] := by
  induction part with
  | nil => rfl
  | cons first later inductionHypothesis =>
      rw [List.mem_cons, not_or] at whole
      rw [splitOn, if_neg (Ne.symm whole.1), inductionHypothesis whole.2]

/-- Parts that are each ended by the separator come apart again. -/
theorem splitOn_flatMap {Part : Type} {separator : Char} {parts : List Part}
    {text : Part → List Char} (whole : ∀ part ∈ parts, separator ∉ text part) :
    splitOn separator (parts.flatMap fun part => text part ++ [separator]) =
      parts.map text ++ [[]] := by
  induction parts with
  | nil => rfl
  | cons part rest inductionHypothesis =>
      rw [List.forall_mem_cons] at whole
      rw [List.flatMap_cons, List.append_assoc, List.singleton_append, splitOn_append whole.1,
        inductionHypothesis whole.2, List.map_cons, List.cons_append]

/-- Parts that each follow a separator come apart again. -/
theorem splitOn_append_flatMap {Part : Type} {separator : Char} {first : List Char}
    {parts : List Part} {text : Part → List Char} (firstWhole : separator ∉ first)
    (whole : ∀ part ∈ parts, separator ∉ text part) :
    splitOn separator (first ++ parts.flatMap fun part => separator :: text part) =
      first :: parts.map text := by
  induction parts generalizing first with
  | nil => rw [List.flatMap_nil, List.append_nil, splitOn_of_not_mem firstWhole, List.map_nil]
  | cons part rest inductionHypothesis =>
      rw [List.forall_mem_cons] at whole
      rw [List.flatMap_cons, List.cons_append, splitOn_append firstWhole,
        inductionHypothesis whole.1 whole.2, List.map_cons]

theorem splitOn_replicate_append (separator : Char) (repetitions : Nat) (rest : List Char) :
    splitOn separator (List.replicate repetitions separator ++ rest) =
      List.replicate repetitions [] ++ splitOn separator rest := by
  induction repetitions with
  | zero => rfl
  | succ fewer inductionHypothesis =>
      rw [List.replicate_succ, List.replicate_succ, List.cons_append, List.cons_append, splitOn,
        if_pos rfl, inductionHypothesis]

/-- The last separator shows where a text ends that may hold separators itself. -/
theorem append_cons_inj {separator : Char} {left right leftEnd rightEnd : List Char}
    (leftAbsent : separator ∉ leftEnd) (rightAbsent : separator ∉ rightEnd)
    (same : left ++ separator :: leftEnd = right ++ separator :: rightEnd) :
    left = right ∧ leftEnd = rightEnd := by
  have parts := congrArg (cutAtLast separator) same
  rw [cutAtLast_append leftAbsent, cutAtLast_append rightAbsent, Option.some_inj] at parts
  exact Prod.mk.inj parts

/-- The last part is only empty if a separator ends the text, or if the text is empty. -/
theorem getLast?_splitOn_ne {separator : Char} {chars : List Char} (nonempty : chars ≠ [])
    (openEnd : chars.getLast? ≠ some separator) :
    (splitOn separator chars).getLast? ≠ some [] := by
  induction chars with
  | nil => exact absurd rfl nonempty
  | cons char rest inductionHypothesis =>
      cases rest with
      | nil =>
          have different : char ≠ separator := by simpa using openEnd
          simp [splitOn, different]
      | cons second later =>
          have laterEnd : (second :: later).getLast? ≠ some separator := by
            simpa using openEnd
          have last := inductionHypothesis (by simp) laterEnd
          have somePart := splitOn_ne_nil separator (second :: later)
          rw [splitOn]
          cases split : splitOn separator (second :: later) with
          | nil => exact absurd split somePart
          | cons part others =>
              rw [split] at last
              by_cases same : char = separator
              · simp only [same, if_true, List.getLast?_cons_cons]
                exact last
              · cases others with
                | nil => simp [same]
                | cons next remaining =>
                    simp only [same, if_false, List.getLast?_cons_cons]
                    simpa only [List.getLast?_cons_cons] using last

end SampleProfile.Text
