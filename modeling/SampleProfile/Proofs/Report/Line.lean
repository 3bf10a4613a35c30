import SampleProfile.Proofs.Blocks
import SampleProfile.Proofs.Frame
import SampleProfile.Report

/-!
# Lines of the text format

A line of the text format falls into words at its blanks, and the words tell what the line says: one
word opens a function, leading empty words give the depth, and the word after an offset has a colon
exactly if it names a callee.
-/

namespace SampleProfile.ReportFormat

/-- A name that stays one word of one line. -/
def Plain (name : String) : Prop :=
  ' ' ∉ name.toList ∧ '\n' ∉ name.toList

instance (name : String) : Decidable (Plain name) :=
  inferInstanceAs (Decidable (_ ∧ _))

/-- A name with a count after it. -/
def counted (name : String) (count : UInt64) : List Char :=
  name.toList ++ ':' :: Text.decimalDigits count

/-- What an indented line says about an offset. -/
inductive Remark where
  /-- A call was inlined there, with so many samples. -/
  | inlined (callee : String) (total : UInt64)
  /-- So much was counted there, and so much for each call target. -/
  | counts (count : UInt64) (targets : List (String × UInt64))

/-- A line of the text format. -/
inductive Line where
  /-- A function opens, with its total and its samples at the first instruction. -/
  | function (name : String) (total head : UInt64)
  /-- A remark on an offset, so many levels deep. -/
  | indented (depth : Nat) (offset : LineOffset) (remark : Remark)

/-! ## Characters -/

theorem not_mem_counted {char : Char} {name : String} (absent : char ∉ name.toList)
    (noDigit : ∀ digit < 10, char ≠ Nat.digitChar digit) (noColon : char ≠ ':')
    (count : UInt64) : char ∉ counted name count := by
  simp [counted, absent, noColon, Text.not_mem_decimalDigits noDigit]

theorem counted_injective {left right : String} {leftCount rightCount : UInt64}
    (same : counted left leftCount = counted right rightCount) :
    left = right ∧ leftCount = rightCount := by
  have colonless (value : UInt64) : ':' ∉ Text.decimalDigits value :=
    Text.not_mem_decimalDigits (by decide) value
  obtain ⟨names, counts⟩ := Text.append_cons_inj (colonless _) (colonless _) same
  exact ⟨String.toList_inj.mp names, Text.decimalDigits_injective counts⟩

namespace Remark

/-- The characters of a remark. -/
def chars : Remark → List Char
  | inlined callee total => counted callee total
  | counts count targets =>
      Text.decimalDigits count ++ targets.flatMap fun target => ' ' :: counted target.1 target.2

/-- The words of a remark. -/
def words : Remark → List (List Char)
  | inlined callee total => [counted callee total]
  | counts count targets =>
      Text.decimalDigits count :: targets.map fun target => counted target.1 target.2

/-- All names in the remark are plain. -/
def Plain : Remark → Prop
  | inlined callee _ => ReportFormat.Plain callee
  | counts _ targets => ∀ target ∈ targets, ReportFormat.Plain target.1

theorem splitOn_chars {remark : Remark} (plain : remark.Plain) :
    Text.splitOn ' ' remark.chars = remark.words := by
  have blankless (value : UInt64) : ' ' ∉ Text.decimalDigits value :=
    Text.not_mem_decimalDigits (by decide) value
  cases remark with
  | inlined callee total =>
      exact Text.splitOn_of_not_mem (not_mem_counted plain.1 (by decide) (by decide) total)
  | counts count targets =>
      exact Text.splitOn_append_flatMap (blankless count) fun target member =>
        not_mem_counted (plain target member).1 (by decide) (by decide) target.2

theorem newline_not_mem_chars {remark : Remark} (plain : remark.Plain) : '\n' ∉ remark.chars := by
  cases remark with
  | inlined callee total => exact not_mem_counted plain.2 (by decide) (by decide) total
  | counts count targets =>
      have targetsWhole : ∀ target ∈ targets, '\n' ∉ ' ' :: counted target.1 target.2 := by
        intro target member
        have whole := not_mem_counted (plain target member).2 (by decide) (by decide) target.2
        simp [whole]
      simp only [chars, List.mem_append, List.mem_flatMap, not_or, not_exists, not_and]
      exact ⟨Text.not_mem_decimalDigits (by decide) count, targetsWhole⟩

theorem words_injective {left right : Remark} (same : left.words = right.words) :
    left = right := by
  have colonless (value : UInt64) : ':' ∉ Text.decimalDigits value :=
    Text.not_mem_decimalDigits (by decide) value
  have colonMem (name : String) (count : UInt64) : ':' ∈ counted name count := by simp [counted]
  cases left with
  | inlined callee total =>
      cases right with
      | inlined otherCallee otherTotal =>
          obtain ⟨rfl, rfl⟩ := counted_injective (List.cons.inj same).1
          rfl
      | counts count targets =>
          have word := (List.cons.inj same).1
          exact absurd (word ▸ colonMem callee total) (colonless count)
  | counts count targets =>
      cases right with
      | inlined callee total =>
          have word := (List.cons.inj same).1
          exact absurd (word ▸ colonMem callee total) (colonless count)
      | counts otherCount otherTargets =>
          obtain ⟨countWord, targetWords⟩ := List.cons.inj same
          have sameTargets : targets = otherTargets := by
            refine (List.map_inj_right ?_).mp targetWords
            intro target other sameWord
            exact Prod.ext_iff.mpr (counted_injective sameWord)
          rw [Text.decimalDigits_injective countWord, sameTargets]

end Remark

namespace Line

/-- The characters of a line, without its end. -/
def chars : Line → List Char
  | function name total head => counted name total ++ ':' :: Text.decimalDigits head
  | indented depth offset remark =>
      List.replicate depth ' ' ++ (offset.render.toList ++ [':'] ++ ' ' :: remark.chars)

/-- The words of a line. -/
def words : Line → List (List Char)
  | function name total head => [counted name total ++ ':' :: Text.decimalDigits head]
  | indented depth offset remark =>
      List.replicate depth [] ++ (offset.render.toList ++ [':']) :: remark.words

/-- All names on the line are plain. -/
def Plain : Line → Prop
  | function name _ _ => ReportFormat.Plain name
  | indented _ _ remark => remark.Plain

/-- Whether a function opens on the line. -/
def opensFunction : Line → Bool
  | function _ _ _ => true
  | indented _ _ _ => false

/-- Whether a function or an inlined instance opens on the line. -/
def opens : Line → Bool
  | function _ _ _ => true
  | indented _ _ (.inlined _ _) => true
  | indented _ _ (.counts _ _) => false

theorem splitOn_chars {line : Line} (plain : line.Plain) :
    Text.splitOn ' ' line.chars = line.words := by
  cases line with
  | function name total head =>
      have nameWhole := not_mem_counted plain.1 (by decide) (by decide) total
      have headWhole : ' ' ∉ Text.decimalDigits head :=
        Text.not_mem_decimalDigits (by decide) head
      refine Text.splitOn_of_not_mem ?_
      simp [chars, nameWhole, headWhole]
  | indented depth offset remark =>
      have offsetWhole : ' ' ∉ offset.render.toList :=
        offset.not_mem_render (by decide) (by decide)
      have wordWhole : ' ' ∉ offset.render.toList ++ [':'] := by simp [offsetWhole]
      rw [chars, Text.splitOn_replicate_append, Text.splitOn_append wordWhole,
        Remark.splitOn_chars plain, words]

theorem newline_not_mem_chars {line : Line} (plain : line.Plain) : '\n' ∉ line.chars := by
  cases line with
  | function name total head =>
      have nameWhole := not_mem_counted plain.2 (by decide) (by decide) total
      have headWhole : '\n' ∉ Text.decimalDigits head :=
        Text.not_mem_decimalDigits (by decide) head
      simp [chars, nameWhole, headWhole]
  | indented depth offset remark =>
      have offsetWhole : '\n' ∉ offset.render.toList :=
        offset.not_mem_render (by decide) (by decide)
      simp [chars, offsetWhole, Remark.newline_not_mem_chars plain]

theorem replicate_append_cons_inj {Item : Type} {padding first second : Item}
    {firstRest secondRest : List Item} {depth other : Nat} (firstNe : first ≠ padding)
    (secondNe : second ≠ padding)
    (same : List.replicate depth padding ++ first :: firstRest =
      List.replicate other padding ++ second :: secondRest) :
    depth = other ∧ first = second ∧ firstRest = secondRest := by
  induction depth generalizing other with
  | zero =>
      cases other with
      | zero => exact ⟨rfl, List.cons.inj same⟩
      | succ fewer => exact absurd (List.cons.inj same).1 firstNe
  | succ fewer inductionHypothesis =>
      cases other with
      | zero => exact absurd (List.cons.inj same).1.symm secondNe
      | succ otherFewer =>
          obtain ⟨sameDepth, sameItems⟩ := inductionHypothesis (List.cons.inj same).2
          exact ⟨congrArg Nat.succ sameDepth, sameItems⟩

/-- A function opens on a line of one word; every other line has more. -/
theorem function_words_ne (name : String) (total head : UInt64) (depth : Nat)
    (offset : LineOffset) (remark : Remark) :
    (function name total head).words ≠ (indented depth offset remark).words := by
  intro same
  have someWords : 0 < remark.words.length := by cases remark <;> simp [Remark.words]
  have lengths := congrArg List.length same
  simp only [words, List.length_append, List.length_replicate, List.length_cons, List.length_nil]
    at lengths
  omega

theorem words_injective {left right : Line} (same : left.words = right.words) : left = right := by
  have offsetWord (offset : LineOffset) : offset.render.toList ++ [':'] ≠ [] := by simp
  cases left with
  | function name total head =>
      cases right with
      | function otherName otherTotal otherHead =>
          have colonless (value : UInt64) : ':' ∉ Text.decimalDigits value :=
            Text.not_mem_decimalDigits (by decide) value
          obtain ⟨sameCounted, sameHead⟩ :=
            Text.append_cons_inj (colonless _) (colonless _) (List.cons.inj same).1
          obtain ⟨rfl, rfl⟩ := counted_injective sameCounted
          rw [Text.decimalDigits_injective sameHead]
      | indented depth offset remark => exact absurd same (function_words_ne _ _ _ _ _ _)
  | indented depth offset remark =>
      cases right with
      | function name total head => exact absurd same.symm (function_words_ne _ _ _ _ _ _)
      | indented otherDepth otherOffset otherRemark =>
          obtain ⟨rfl, sameOffset, sameWords⟩ :=
            replicate_append_cons_inj (offsetWord offset) (offsetWord otherOffset) same
          have sameRender := String.toList_inj.mp (List.append_cancel_right sameOffset)
          rw [LineOffset.render_injective sameRender, Remark.words_injective sameWords]

theorem eq_of_chars_eq {left right : Line} (leftPlain : left.Plain) (rightPlain : right.Plain)
    (same : left.chars = right.chars) : left = right := by
  apply words_injective
  rw [← splitOn_chars leftPlain, ← splitOn_chars rightPlain, same]

/-! ## Texts -/

/-- Lines one after another. -/
def text (lines : List Line) : List Char :=
  lines.flatMap fun line => line.chars ++ ['\n']

theorem text_injective {left right : List Line} (leftPlain : ∀ line ∈ left, line.Plain)
    (rightPlain : ∀ line ∈ right, line.Plain) (same : text left = text right) :
    left = right := by
  have split (lines : List Line) (plain : ∀ line ∈ lines, line.Plain) :
      Text.splitOn '\n' (text lines) = lines.map chars ++ [[]] :=
    Text.splitOn_flatMap fun line member => newline_not_mem_chars (plain line member)
  have sameParts := split left leftPlain
  rw [same, split right rightPlain] at sameParts
  have sameChars : left.map chars = right.map chars := (List.append_cancel_right sameParts).symm
  have sameLines : left.map id = right.map id :=
    map_eq_of_map_eq (fun line member other otherMember => eq_of_chars_eq
      (leftPlain line member) (rightPlain other otherMember)) sameChars
  rwa [List.map_id, List.map_id] at sameLines

end Line

end SampleProfile.ReportFormat
