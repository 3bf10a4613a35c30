import SampleProfile.Proofs.Samples.Layout

/-!
# Where a sample text goes wrong

A reader stops at a line exactly if no text goes on with it, and it stops at the end of a text only
while entries are missing that could still follow.  So the number in a fault is that of the first
line that cannot be continued.
-/

namespace SampleProfile.Samples

/-- Whether the end of a text is at fault, and not one of its lines. -/
def TextFault.AtEnd : TextFault → Prop
  | .missingEntry _ => True
  | _ => False

def Accepted (text : String) : Prop :=
  ∃ samples, parse text = .ok samples

/-- With further lines the text is accepted. -/
def Continuable (text : String) : Prop :=
  ∃ further : String,
    Text.lines text.toList <+: Text.lines (text ++ further).toList ∧ Accepted (text ++ further)

/-- An entry of a section. -/
def Section.zeroEntry : Section → List Char
  | .ranges => ['0', '-', '0', ':', '0']
  | .addresses => ['0', ':', '0']
  | .branches => ['0', '-', '>', '0', ':', '0']

theorem solid_zeroEntry (current : Section) : Solid current.zeroEntry := by
  cases current <;> decide

theorem exists_addLine?_zeroEntry (samples : Samples) (current : Section) :
    ∃ later, samples.addLine? current.zeroEntry current = some later := by
  cases current with
  | ranges => exact ⟨{ samples with ranges := samples.ranges.insert ⟨0, 0⟩ 0 }, rfl⟩
  | addresses => exact ⟨{ samples with addresses := samples.addresses.insert 0 0 }, rfl⟩
  | branches => exact ⟨{ samples with branches := samples.branches.insert ⟨0, 0⟩ 0 }, rfl⟩

namespace Reader

/-! ## The line that stops a reader -/

/-- Where a reader stops among lines, and why. -/
inductive Stop (reader : Reader) (lines : List (List Char)) : Nat → TextFault → Prop
  | line {earlier later : List (List Char)} {line : List Char} {next : Reader} {fault : TextFault}
      (split : lines = earlier ++ line :: later)
      (read : reader.after? (significant earlier) = some next)
      (shown : Text.trim line ≠ [])
      (refused : next.step (Text.trim line) = .error fault) :
      Stop reader lines (earlier.length + 1) fault
  | atEnd {next : Reader} {current : Section} {more : Nat}
      (read : reader.after? (significant lines) = some next)
      (waiting : next.expectation = .entry current more) :
      Stop reader lines lines.length (.missingEntry current)

theorem not_atEnd_of_step {reader : Reader} {line : List Char} {fault : TextFault}
    (refused : reader.step line = .error fault) : ¬fault.AtEnd := by
  rw [step] at refused
  split at refused
  · split at refused
    · simp at refused
    · cases refused
      exact id
  · split at refused
    · simp at refused
    · cases refused
      exact id
  · cases refused
    exact id

theorem run_append {reader next : Reader} {earlier : List (List Char)}
    (read : reader.after? (significant earlier) = some next) (before : Nat)
    (later : List (List Char)) :
    reader.run before (earlier ++ later) = next.run (before + earlier.length) later := by
  induction earlier generalizing reader before with
  | nil =>
      have same : reader = next := Option.some_inj.mp read
      rw [same]
      rfl
  | cons line rest inductionHypothesis =>
      have counted : before + (line :: rest).length = before + 1 + rest.length := by
        rw [List.length_cons]
        omega
      rw [significant_cons] at read
      rw [List.cons_append, counted]
      by_cases blank : Text.trim line = []
      · rw [if_pos blank] at read
        rw [run_blank blank]
        exact inductionHypothesis read (before + 1)
      · rw [if_neg blank, after?_cons] at read
        rw [run_shown blank]
        cases stepped : reader.step (Text.trim line) with
        | error fault => simp [stepped, Except.toOption] at read
        | ok following =>
            simp only [stepped, Except.toOption, Option.bind_some] at read
            exact inductionHypothesis read (before + 1)

theorem Stop.cons {reader : Reader} {line : List Char} {rest : List (List Char)} {number : Nat}
    {fault : TextFault} {following : Reader} (stop : following.Stop rest number fault)
    (read : ∀ later : List (List Char), reader.after? (significant (line :: later)) =
      following.after? (significant later)) :
    reader.Stop (line :: rest) (number + 1) fault := by
  cases stop with
  | @line earlier later refusedLine next _ split readEarlier shown refused =>
      have longer : line :: rest = (line :: earlier) ++ refusedLine :: later := by
        rw [split, List.cons_append]
      refine .line longer ?_ shown refused
      rw [read, readEarlier]
  | atEnd readRest waiting =>
      refine .atEnd ?_ waiting
      rw [read, readRest]

theorem stop_of_run {reader : Reader} {before number : Nat} {lines : List (List Char)}
    {fault : TextFault} (failed : reader.run before lines = .error (number, fault)) :
    ∃ offset, number = before + offset ∧ reader.Stop lines offset fault := by
  induction lines generalizing reader before with
  | nil =>
      rw [run] at failed
      split at failed
      · next current more waiting =>
        rw [Except.error.injEq, Prod.mk.injEq] at failed
        obtain ⟨rfl, rfl⟩ := failed
        exact ⟨0, rfl, .atEnd rfl waiting⟩
      · simp at failed
  | cons line rest inductionHypothesis =>
      by_cases blank : Text.trim line = []
      · rw [run_blank blank] at failed
        obtain ⟨offset, counted, stop⟩ := inductionHypothesis failed
        refine ⟨offset + 1, by omega, stop.cons fun later => ?_⟩
        rw [significant_cons, if_pos blank]
      · rw [run_shown blank] at failed
        cases stepped : reader.step (Text.trim line) with
        | error reason =>
            simp only [stepped, Except.error.injEq, Prod.mk.injEq] at failed
            obtain ⟨rfl, rfl⟩ := failed
            exact ⟨1, rfl, .line (List.nil_append _).symm rfl blank stepped⟩
        | ok following =>
            rw [stepped] at failed
            obtain ⟨offset, counted, stop⟩ := inductionHypothesis failed
            refine ⟨offset + 1, by omega, stop.cons fun later => ?_⟩
            rw [significant_cons, if_neg blank, after?_cons, stepped]
            rfl

theorem Stop.run_eq {reader : Reader} {lines : List (List Char)} {number : Nat} {fault : TextFault}
    (stop : reader.Stop lines number fault) (before : Nat) :
    reader.run before lines = .error (before + number, fault) := by
  cases stop with
  | @line earlier later line next _ split read shown refused =>
      rw [split, run_append read, run_shown shown, refused]
      rfl
  | @atEnd next current more read waiting =>
      have whole := run_append read before []
      rw [List.append_nil] at whole
      rw [whole, run, waiting]

/-- What comes after the line at fault does not count. -/
theorem Stop.of_take {reader : Reader} {lines others : List (List Char)} {number : Nat}
    {fault : TextFault} (stop : reader.Stop lines number fault) (inLine : ¬fault.AtEnd)
    (start : lines.take number <+: others) : reader.Stop others number fault := by
  cases stop with
  | @line earlier later line next _ split read shown refused =>
      have taken : lines.take (earlier.length + 1) = earlier ++ [line] := by
        rw [split, List.take_append, List.take_of_length_le (by omega)]
        simp
      obtain ⟨rest, rfl⟩ := start
      have splitOthers : lines.take (earlier.length + 1) ++ rest = earlier ++ line :: rest := by
        rw [taken, List.append_assoc, List.singleton_append]
      exact .line splitOthers read shown refused
  | atEnd => exact absurd trivial inLine

/-- Blanks around lines do not count. -/
theorem run_map_trim (reader : Reader) (before : Nat) (lines : List (List Char)) :
    reader.run before (lines.map Text.trim) = reader.run before lines := by
  induction lines generalizing reader before with
  | nil => rfl
  | cons line rest inductionHypothesis =>
      have trimmed : Text.trim (Text.trim line) = Text.trim line := Text.trim_trim line
      rw [List.map_cons]
      by_cases blank : Text.trim line = []
      · rw [run_blank blank, run_blank (trimmed.trans blank), inductionHypothesis]
      · have stillShown : Text.trim (Text.trim line) ≠ [] := trimmed.symm ▸ blank
        rw [run_shown blank, run_shown stillShown, trimmed]
        cases reader.step (Text.trim line) with
        | error fault => rfl
        | ok next => exact inductionHypothesis next (before + 1)

/-! ## Lines that go on -/

/-- Enough lines to end a text. -/
def completion (reader : Reader) : List (List Char) :=
  match reader.expectation with
  | .entry current more => List.replicate (more + 1) current.zeroEntry
  | _ => []

theorem solid_completion (reader : Reader) : ∀ line ∈ reader.completion, Solid line := by
  intro line member
  rw [completion] at member
  split at member
  · next current more _ =>
    rw [List.eq_of_mem_replicate member]
    exact solid_zeroEntry current
  · exact absurd member List.not_mem_nil

theorem after?_replicate_zeroEntry (samples : Samples) (current : Section) (count : Nat) :
    ∃ held, after? ⟨samples, current.remaining count⟩ (List.replicate count current.zeroEntry) =
      some ⟨held, current.following⟩ := by
  induction count generalizing samples with
  | zero => exact ⟨samples, rfl⟩
  | succ fewer inductionHypothesis =>
      obtain ⟨added, addedEq⟩ := exists_addLine?_zeroEntry samples current
      obtain ⟨held, read⟩ := inductionHypothesis added
      have stepped : step ⟨samples, current.remaining (fewer + 1)⟩ current.zeroEntry =
          .ok ⟨added, current.remaining fewer⟩ := by
        simp only [step, Section.remaining, addedEq]
      refine ⟨held, ?_⟩
      rw [List.replicate_succ, after?_cons, stepped]
      exact read

theorem finish?_following (samples : Samples) (current : Section) :
    finish? ⟨samples, current.following⟩ = some samples := by
  cases current <;> rfl

theorem exists_finish?_completion (reader : Reader) :
    ∃ samples, (reader.after? reader.completion).bind finish? = some samples := by
  obtain ⟨samples, expectation⟩ := reader
  cases expectation with
  | header upcoming => exact ⟨samples, rfl⟩
  | nothing => exact ⟨samples, rfl⟩
  | entry current more =>
      obtain ⟨held, read⟩ := after?_replicate_zeroEntry samples current (more + 1)
      refine ⟨held, ?_⟩
      change (after? ⟨samples, current.remaining (more + 1)⟩
        (List.replicate (more + 1) current.zeroEntry)).bind finish? = some held
      rw [read, Option.bind_some, finish?_following]

end Reader

/-- A text whose lines have been accepted so far can go on. -/
theorem continuable_of_after {text : String} {next : Reader}
    (read : Reader.after? {} (Reader.significant (Text.lines text.toList)) = some next) :
    Continuable text := by
  let ended := next.completion.flatMap fun line => line ++ ['\n']
  have endedLines : Text.lines ended = next.completion :=
    Text.lines_flatMap fun line member => (next.solid_completion line member).whole
  obtain ⟨blank, blankCases, joined⟩ := Text.exists_lines_append_return text.toList ended
  have blankSkipped : Reader.significant blank = [] := by
    rcases blankCases with rfl | rfl <;> rfl
  rw [endedLines, List.append_assoc] at joined
  have furtherLines : Text.lines (text ++ String.ofList ('\r' :: '\n' :: ended)).toList =
      Text.lines text.toList ++ (blank ++ next.completion) := by
    rw [String.toList_append, String.toList_ofList, joined]
  refine ⟨String.ofList ('\r' :: '\n' :: ended), ⟨_, furtherLines.symm⟩, ?_⟩
  obtain ⟨samples, finished⟩ := next.exists_finish?_completion
  refine ⟨samples.withTotal, parse_of_finish ?_⟩
  rw [furtherLines, Reader.significant_append, Reader.significant_append, blankSkipped,
    List.nil_append, Reader.significant_eq_self next.solid_completion, Reader.after?_append, read]
  exact finished

/-! ## The number in a fault -/

theorem parse_eq_error_iff {text : String} {found : Nat × TextFault} :
    parse text = .error found ↔ Reader.run {} 0 (Text.lines text.toList) = .error found := by
  rw [parse]
  cases Reader.run {} 0 (Text.lines text.toList) with
  | error other => exact Iff.rfl
  | ok samples => simp [Except.map]

/-- The lines up to the one at fault decide about a text. -/
theorem parse_error_of_prefix {text other : String} {number : Nat} {fault : TextFault}
    (rejected : parse text = .error (number, fault)) (inLine : ¬fault.AtEnd)
    (start : ((Text.lines text.toList).take number).map Text.trim <+:
      (Text.lines other.toList).map Text.trim) :
    parse other = .error (number, fault) := by
  rw [parse_eq_error_iff, ← Reader.run_map_trim] at rejected ⊢
  obtain ⟨offset, counted, stop⟩ := Reader.stop_of_run rejected
  rw [Nat.zero_add] at counted
  rw [List.map_take, counted] at start
  rw [counted, (stop.of_take inLine start).run_eq 0, Nat.zero_add]

/-- A fault in a line has the number of the first line with which no text goes on.  The text before
it can go on, and every text that begins with the same lines, whatever blanks are around them, has
the same fault.  A fault at the end of the text has the number of the last line, and the text can go
on. -/
theorem parse_error_position {text : String} {number : Nat} {fault : TextFault}
    (rejected : parse text = .error (number, fault)) :
    (¬fault.AtEnd →
      1 ≤ number ∧ number ≤ (Text.lines text.toList).length ∧
      (∃ start rest : String, text = start ++ rest ∧
        Text.lines start.toList = (Text.lines text.toList).take (number - 1) ∧
        Continuable start) ∧
      ∀ other : String,
        ((Text.lines text.toList).take number).map Text.trim <+:
          (Text.lines other.toList).map Text.trim →
        parse other = .error (number, fault)) ∧
    (fault.AtEnd → number = (Text.lines text.toList).length ∧ Continuable text) := by
  obtain ⟨offset, counted, stop⟩ := Reader.stop_of_run (parse_eq_error_iff.mp rejected)
  rw [Nat.zero_add] at counted
  subst counted
  constructor
  · intro inLine
    cases stop with
    | atEnd => exact absurd trivial inLine
    | @line earlier later line next _ split read _ _ =>
        have long : (Text.lines text.toList).length = earlier.length + (later.length + 1) := by
          rw [split, List.length_append, List.length_cons]
        refine ⟨by omega, by omega, ?_, fun other => parse_error_of_prefix rejected inLine⟩
        obtain ⟨start, rest, textSplit, startLines⟩ :=
          Text.exists_lines_eq_take text.toList earlier.length
        have taken : (Text.lines text.toList).take earlier.length = earlier := by
          rw [split, List.take_left]
        refine ⟨String.ofList start, String.ofList rest, ?_, ?_, ?_⟩
        · rw [← String.ofList_append, ← textSplit, String.ofList_toList]
        · rw [String.toList_ofList, startLines, Nat.add_sub_cancel]
        · have readStart : Reader.after? {} (Reader.significant
              (Text.lines (String.ofList start).toList)) = some next := by
            rw [String.toList_ofList, startLines, taken, read]
          exact continuable_of_after readStart
  · intro ends
    cases stop with
    | line _ _ _ refused => exact absurd ends (Reader.not_atEnd_of_step refused)
    | atEnd read _ => exact ⟨rfl, continuable_of_after read⟩

def misspelled : String := "0\n2\n1000:5\nzzz\n"

/-- Three addresses are announced, and one follows. -/
def unfinished : String := "0\n3\n\n1000:5\n"

theorem parse_error_position_misspelled :
    (parse misspelled = .error (4, .badEntry .addresses) ∧
      ∃ start rest : String, misspelled = start ++ rest ∧
        Text.lines start.toList = (Text.lines misspelled.toList).take 3 ∧ Continuable start) ∧
    parse unfinished = .error (4, .missingEntry .addresses) ∧ Continuable unfinished := by
  have misspelledLines : Text.lines misspelled.toList =
      ["0".toList, "2".toList, "1000:5".toList, "zzz".toList] := by decide +kernel
  have lineFault : parse misspelled = .error (4, .badEntry .addresses) := by
    rw [parse_eq_error_iff, misspelledLines]
    rfl
  have unfinishedLines : Text.lines unfinished.toList =
      ["0".toList, "3".toList, [], "1000:5".toList] := by decide +kernel
  have endFault : parse unfinished = .error (4, .missingEntry .addresses) := by
    rw [parse_eq_error_iff, unfinishedLines]
    rfl
  obtain ⟨_, _, continuable, _⟩ := (parse_error_position lineFault).1 id
  exact ⟨⟨lineFault, continuable⟩, endFault, ((parse_error_position endFault).2 trivial).2⟩

end SampleProfile.Samples
