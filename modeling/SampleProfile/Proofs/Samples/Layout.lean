import SampleProfile.Proofs.Samples.TextFormat

/-!
# Sample texts with blanks

A sample text may be laid out with blank lines, with blanks around its lines and with carriage
returns before its line feeds.  `layout_iff` says which texts that gives, and `parse_layout` that
all of them are read alike.
-/

namespace SampleProfile.Samples

/-- A line with blanks around it, as it stands between two line feeds. -/
structure Padded (line padded : List Char) : Prop where
  blanks : ∃ before after, Text.Blanks before ∧ Text.Blanks after ∧ padded = before ++ line ++ after
  whole : '\n' ∉ padded

/-- The texts in which lines stand one below the other, with blanks around them and blank lines
between them.  Carriage returns are blanks, and the last line feed may be missing. -/
inductive Layout : List (List Char) → List Char → Prop
  | blankEnd {text : List Char} (padded : Padded [] text) : Layout [] text
  | lineEnd {line text : List Char} (padded : Padded line text) : Layout [line] text
  | blank {padding rest : List Char} {lines : List (List Char)} (padded : Padded [] padding)
      (later : Layout lines rest) : Layout lines (padding ++ '\n' :: rest)
  | line {line padding rest : List Char} {lines : List (List Char)} (padded : Padded line padding)
      (later : Layout lines rest) : Layout (line :: lines) (padding ++ '\n' :: rest)

/-! ## Lines of a layout -/

theorem Padded.trim_eq {line padded : List Char} (surrounded : Padded line padded) :
    Text.trim padded = Text.trim line := by
  obtain ⟨before, after, blankBefore, blankAfter, rfl⟩ := surrounded.blanks
  exact Text.trim_append blankBefore blankAfter line

theorem padded_trim {line : List Char} (whole : '\n' ∉ line) : Padded (Text.trim line) line :=
  ⟨Text.exists_trim line, whole⟩

namespace Reader

theorem significant_lines_append {line : List Char} (whole : '\n' ∉ line) (rest : List Char) :
    significant (Text.lines (line ++ '\n' :: rest)) =
      if Text.trim line = [] then significant (Text.lines rest)
      else Text.trim line :: significant (Text.lines rest) := by
  rw [Text.lines_append_feed whole, significant_cons, Text.trim_dropReturn]

theorem significant_lines_of_not_mem {line : List Char} (whole : '\n' ∉ line) :
    significant (Text.lines line) = if Text.trim line = [] then [] else [Text.trim line] := by
  rw [Text.lines_of_not_mem whole]
  by_cases empty : line = []
  · rw [if_pos empty, empty]
    rfl
  · rw [if_neg empty, significant_cons]
    rfl

end Reader

/-- A layout only adds blanks around lines, and blank lines. -/
theorem Layout.significant_lines {lines : List (List Char)} {text : List Char}
    (layout : Layout lines text) :
    Reader.significant (Text.lines text) = Reader.significant lines := by
  induction layout with
  | blankEnd padded =>
      rw [Reader.significant_lines_of_not_mem padded.whole, padded.trim_eq]
      rfl
  | lineEnd padded =>
      rw [Reader.significant_lines_of_not_mem padded.whole, padded.trim_eq, Reader.significant_cons]
      rfl
  | blank padded _ inductionHypothesis =>
      rw [Reader.significant_lines_append padded.whole, padded.trim_eq]
      exact inductionHypothesis
  | line padded _ inductionHypothesis =>
      rw [Reader.significant_lines_append padded.whole, padded.trim_eq, inductionHypothesis,
        Reader.significant_cons]

theorem Layout.significant_eq {lines : List (List Char)} {text : List Char}
    (layout : Layout lines text) (solid : ∀ line ∈ lines, Solid line) :
    Reader.significant (Text.lines text) = lines :=
  layout.significant_lines.trans (Reader.significant_eq_self solid)

/-- Every text lays out its lines that are not blank, trimmed. -/
theorem layout_significant (text : List Char) :
    Layout (Reader.significant (Text.lines text)) text := by
  induction text using Text.lines_induction with
  | last line whole =>
      have padded := padded_trim whole
      rw [Reader.significant_lines_of_not_mem whole]
      by_cases blank : Text.trim line = []
      · rw [if_pos blank]
        exact .blankEnd (blank ▸ padded)
      · rw [if_neg blank]
        exact .lineEnd padded
  | feed line rest whole later =>
      have padded := padded_trim whole
      rw [Reader.significant_lines_append whole]
      by_cases blank : Text.trim line = []
      · rw [if_pos blank]
        exact .blank (blank ▸ padded) later
      · rw [if_neg blank]
        exact .line padded later

/-- A text is a layout of lines without blanks exactly when these are its lines, trimmed and without
the blank ones. -/
theorem layout_iff {lines : List (List Char)} (solid : ∀ line ∈ lines, Solid line)
    {text : List Char} :
    Layout lines text ↔ Reader.significant (Text.lines text) = lines := by
  constructor
  · exact fun layout => layout.significant_eq solid
  · rintro rfl
    exact layout_significant text

/-! ## Reading a layout -/

/-- Written samples are read back with their total brought up to date, and so is every layout of
their lines: with or without the mark of the base before an address, and without empty sections at
the end.  The sizes of the sections must be 64-bit numbers, as are the sizes of all collections in
memory. -/
theorem parse_layout {samples : Samples} (sized : samples.WordSized) :
    parse samples.render = .ok samples.withTotal ∧
      ∀ lines, samples.Spelling lines → ∀ text : String, Layout lines text.toList →
        parse text = .ok samples.withTotal := by
  refine ⟨parse_render sized, ?_⟩
  intro lines spelling text layout
  exact spelling.parse_eq sized ((layout_iff spelling.solid).mp layout)

/-- Samples without branches. -/
def branchless : Samples where
  ranges := (∅ : OrderedMap AddressPair UInt64).insert ⟨0x1000, 0x1008⟩ 3
  addresses := (∅ : OrderedMap UInt64 UInt64).insert 0x1004 countLimit

/-- Carriage returns, a blank line, a tabulator, marks before some addresses, and neither a section
for branches nor a line feed at the end. -/
def spaced : String := "1\r\n  0x1000-1008:3 \r\n\r\n1\n\t0x1004:18446744073709551615"

theorem parse_layout_spaced :
    let lines := ["1".toList, "0x1000-1008:3".toList, "1".toList,
      "0x1004:18446744073709551615".toList]
    branchless.WordSized ∧ branchless.Spelling lines ∧ Layout lines spaced.toList ∧
      parse branchless.render = .ok branchless.withTotal ∧
        parse spaced = .ok branchless.withTotal := by
  intro lines
  have sized : branchless.WordSized := ⟨by decide, by decide, by decide⟩
  have spelling : branchless.Spelling lines := by
    let marks : Marks := { ranges := fun _ => (true, false), addresses := fun _ => true }
    have rangesWritten : branchless.rangeLines marks = ["1".toList, "0x1000-1008:3".toList] := by
      decide +kernel
    have addressesWritten : branchless.addressLines marks =
        ["1".toList, "0x1004:18446744073709551615".toList] := by decide +kernel
    have noBranches : branchless.branches = ∅ := rfl
    have spelled : branchless.Spelling _ := .withoutBranches marks noBranches
    rwa [rangesWritten, addressesWritten] at spelled
  have layout : Layout lines spaced.toList :=
    (layout_iff spelling.solid).mpr (by decide +kernel)
  obtain ⟨rendered, laidOut⟩ := parse_layout sized
  exact ⟨sized, spelling, layout, rendered, laidOut lines spelling spaced layout⟩

end SampleProfile.Samples
