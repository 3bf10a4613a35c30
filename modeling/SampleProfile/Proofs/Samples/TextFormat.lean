import SampleProfile.Proofs.Samples
import SampleProfile.Proofs.Text.Blank
import SampleProfile.Proofs.Text.Digits
import SampleProfile.Samples.TextFormat

/-!
# Reading back sample texts

A reader accepts a text as soon as it accepts its lines without blanks, one after another; a section
of such lines adds one entry for each of them.  So a written sample set is read back, with its total
brought up to date.
-/

namespace SampleProfile.Samples

/-! ## Lines for a reader -/

/-- A line that is not blank and holds no blanks. -/
def Solid (line : List Char) : Prop :=
  line ≠ [] ∧ ∀ char ∈ line, Text.isBlank char = false

instance (line : List Char) : Decidable (Solid line) :=
  decidable_of_iff (line ≠ [] ∧ line.all fun char => Text.isBlank char = false)
    (and_congr_right fun _ => by simp only [List.all_eq_true, decide_eq_true_eq])

theorem Solid.whole {line : List Char} (solid : Solid line) : '\n' ∉ line ∧ '\r' ∉ line :=
  ⟨fun feed => absurd (solid.2 '\n' feed) (by decide),
    fun carriage => absurd (solid.2 '\r' carriage) (by decide)⟩

namespace Reader

/-- The lines that a reader looks at: those that are not blank, trimmed. -/
def significant (lines : List (List Char)) : List (List Char) :=
  (lines.map Text.trim).filter fun line => line ≠ []

/-- The reader after trimmed lines, if it accepts all of them. -/
def after? (reader : Reader) (lines : List (List Char)) : Option Reader :=
  lines.foldlM (fun before line => (before.step line).toOption) reader

/-- The samples that have been read, if a text may end here. -/
def finish? (reader : Reader) : Option Samples :=
  match reader.expectation with
  | .entry _ _ => none
  | _ => some reader.samples

theorem after?_cons (reader : Reader) (line : List Char) (lines : List (List Char)) :
    reader.after? (line :: lines) =
      (reader.step line).toOption.bind fun next => next.after? lines := rfl

theorem after?_append (reader : Reader) (lines others : List (List Char)) :
    reader.after? (lines ++ others) = (reader.after? lines).bind fun next => next.after? others :=
  List.foldlM_append

theorem significant_cons (line : List Char) (rest : List (List Char)) :
    significant (line :: rest) =
      if Text.trim line = [] then significant rest else Text.trim line :: significant rest := by
  by_cases blank : Text.trim line = [] <;> simp [significant, blank]

theorem significant_append (lines others : List (List Char)) :
    significant (lines ++ others) = significant lines ++ significant others := by
  rw [significant, List.map_append, List.filter_append]
  rfl

theorem run_blank {line : List Char} (blank : Text.trim line = []) (reader : Reader) (before : Nat)
    (rest : List (List Char)) :
    reader.run before (line :: rest) = reader.run (before + 1) rest := by
  rw [run, blank]

theorem run_shown {line : List Char} (shown : Text.trim line ≠ []) (reader : Reader) (before : Nat)
    (rest : List (List Char)) :
    reader.run before (line :: rest) =
      match reader.step (Text.trim line) with
      | .ok next => next.run (before + 1) rest
      | .error fault => .error (before + 1, fault) := by
  rw [run]
  cases trimmed : Text.trim line with
  | nil => exact absurd trimmed shown
  | cons first later => rfl

theorem toOption_run (reader : Reader) (before : Nat) (lines : List (List Char)) :
    (reader.run before lines).toOption =
      (reader.after? (significant lines)).bind finish? := by
  induction lines generalizing reader before with
  | nil =>
      obtain ⟨samples, expectation⟩ := reader
      cases expectation <;> rfl
  | cons line rest inductionHypothesis =>
      rw [significant_cons]
      by_cases blank : Text.trim line = []
      · rw [run_blank blank, if_pos blank]
        exact inductionHypothesis reader (before + 1)
      · rw [run_shown blank, if_neg blank, after?_cons]
        cases reader.step (Text.trim line) with
        | error fault => rfl
        | ok next => exact inductionHypothesis next (before + 1)

/-- Lines that are trimmed and not blank are all looked at. -/
theorem significant_eq_self {lines : List (List Char)} (solid : ∀ line ∈ lines, Solid line) :
    significant lines = lines := by
  have trimmed : lines.map Text.trim = lines := by
    rw [List.map_congr_left fun line member => Text.trim_eq_self (solid line member).2,
      List.map_id']
  rw [significant, trimmed, List.filter_eq_self]
  intro line member
  exact decide_eq_true (solid line member).1

/-! ## Sections -/

section Sections

variable {Item Held : Type} {current : Section} {line : Item → List Char} {put : Held → Samples}
  {add : Held → Item → Held}

theorem after?_entries {items : List Item}
    (reads : ∀ held, ∀ item ∈ items,
      addLine? (put held) (line item) current = some (put (add held item)))
    (held : Held) (later : List (List Char)) :
    after? ⟨put held, current.remaining items.length⟩ (items.map line ++ later) =
      after? ⟨put (items.foldl add held), current.following⟩ later := by
  induction items generalizing held with
  | nil => rfl
  | cons item rest inductionHypothesis =>
      have firstRead := reads held item List.mem_cons_self
      have restRead : ∀ held, ∀ item ∈ rest,
          addLine? (put held) (line item) current = some (put (add held item)) :=
        fun held item member => reads held item (List.mem_cons_of_mem _ member)
      have stepped : step ⟨put held, current.remaining (rest.length + 1)⟩ (line item) =
          .ok ⟨put (add held item), current.remaining rest.length⟩ := by
        simp only [step, Section.remaining, firstRead]
      rw [List.map_cons, List.cons_append, List.length_cons, after?_cons, stepped]
      exact inductionHypothesis restRead (add held item)

/-- A section adds its entries one after another and leaves the reader waiting for what follows it.
-/
theorem after?_section {items : List Item} (sized : items.length < UInt64.size)
    (reads : ∀ held, ∀ item ∈ items,
      addLine? (put held) (line item) current = some (put (add held item)))
    (held : Held) (later : List (List Char)) :
    after? ⟨put held, .header current⟩
        (Nat.toDigits 10 items.length :: (items.map line ++ later)) =
      after? ⟨put (items.foldl add held), current.following⟩ later := by
  have header : Text.readUnsigned 10 (UInt64.size - 1) (Nat.toDigits 10 items.length) =
      .ok items.length :=
    Text.readUnsigned_toDigits (by decide) (by decide) (by omega)
  have stepped : step ⟨put held, .header current⟩ (Nat.toDigits 10 items.length) =
      .ok ⟨put held, current.remaining items.length⟩ := by
    simp only [step, header]
  rw [after?_cons, stepped]
  exact after?_entries reads held later

end Sections

end Reader

/-! ## Entries -/

theorem readField?_decimalDigits (count : UInt64) :
    readField? (Text.readUInt64 10) (Text.decimalDigits count) = some count := by
  have trimmed : Text.trim (Text.decimalDigits count) = Text.decimalDigits count :=
    Text.trim_eq_self fun _ member => Text.isBlank_of_mem_decimalDigits member
  rw [readField?, trimmed, Text.readUInt64_decimalDigits]
  rfl

/-- An address in hexadecimal digits, behind the mark of their base or without it. -/
def spellAddress (marked : Bool) (address : UInt64) : List Char :=
  if marked then '0' :: 'x' :: Text.hexDigits address else Text.hexDigits address

theorem isBlank_of_mem_spellAddress {marked : Bool} {address : UInt64} {char : Char}
    (member : char ∈ spellAddress marked address) : Text.isBlank char = false := by
  cases marked with
  | false => exact Text.isBlank_of_mem_hexDigits member
  | true =>
      change char ∈ '0' :: 'x' :: Text.hexDigits address at member
      rw [List.mem_cons, List.mem_cons] at member
      rcases member with rfl | rfl | digit
      · decide
      · decide
      · exact Text.isBlank_of_mem_hexDigits digit

theorem not_mem_spellAddress {char : Char} (noMark : char ≠ 'x')
    (noDigit : ∀ digit < 16, char ≠ Nat.digitChar digit) {marked : Bool} {address : UInt64} :
    char ∉ spellAddress marked address := by
  have absent : char ∉ Text.hexDigits address := Text.not_mem_hexDigits noDigit address
  have noZero : char ≠ '0' := noDigit 0 (by decide)
  cases marked with
  | false => exact absent
  | true =>
      change char ∉ '0' :: 'x' :: Text.hexDigits address
      rw [List.mem_cons, List.mem_cons, not_or, not_or]
      exact ⟨noZero, noMark, absent⟩

theorem readField?_spellAddress (marked : Bool) (address : UInt64) :
    readField? Text.readAddress (spellAddress marked address) = some address := by
  have trimmed : Text.trim (spellAddress marked address) = spellAddress marked address :=
    Text.trim_eq_self fun _ member => isBlank_of_mem_spellAddress member
  have read := Text.readAddress_hexDigits address
  rw [readField?, trimmed]
  cases marked with
  | false => exact congrArg Except.toOption read.1
  | true => exact congrArg Except.toOption read.2

theorem readCount?_append (key : List Char) (count : UInt64) :
    readCount? (key ++ ':' :: Text.decimalDigits count) = some (key, count) := by
  have noColon : ':' ∉ Text.decimalDigits count :=
    Text.not_mem_toDigits (by decide) fun digit _ same => by simp at same
  rw [readCount?, Text.cutAtLast_append noColon, Option.bind_some, readField?_decimalDigits]
  rfl

theorem readPair?_append {first : Char} {separator left right : List Char} {pair : AddressPair}
    (leftRead : readField? Text.readAddress left = some pair.first)
    (rightRead : readField? Text.readAddress right = some pair.second)
    (absent : first ∉ left) (count : UInt64) :
    readPair? (first :: separator)
        (left ++ (first :: separator) ++ right ++ ':' :: Text.decimalDigits count) =
      some (pair, count) := by
  rw [readPair?, readCount?_append, Option.bind_some, Text.cutAt_append absent, Option.bind_some,
    leftRead, rightRead]
  rfl

/-- Two addresses around a separator, each behind the mark of its base or without it. -/
def spellPair (separator : List Char) (marked : Bool × Bool) (pair : AddressPair) : List Char :=
  spellAddress marked.1 pair.first ++ separator ++ spellAddress marked.2 pair.second

theorem isBlank_of_mem_spellPair {separator : List Char} {marked : Bool × Bool}
    (solid : ∀ char ∈ separator, Text.isBlank char = false) {pair : AddressPair} {char : Char}
    (member : char ∈ spellPair separator marked pair) : Text.isBlank char = false := by
  rw [spellPair, List.mem_append, List.mem_append] at member
  rcases member with (first | between) | second
  · exact isBlank_of_mem_spellAddress first
  · exact solid char between
  · exact isBlank_of_mem_spellAddress second

theorem readPair?_spellPair (separator : List Char) (marked : Bool × Bool) (pair : AddressPair)
    (count : UInt64) :
    readPair? ('-' :: separator)
        (spellPair ('-' :: separator) marked pair ++ ':' :: Text.decimalDigits count) =
      some (pair, count) := by
  have noDash : '-' ∉ spellAddress marked.1 pair.first :=
    not_mem_spellAddress (by decide) (by decide)
  exact readPair?_append (readField?_spellAddress marked.1 pair.first)
    (readField?_spellAddress marked.2 pair.second) noDash count

/-! ## Written samples -/

/-- The line of an entry. -/
def entryLine {Key : Type} (key : Key → List Char) (entry : Key × UInt64) : List Char :=
  key entry.1 ++ ':' :: Text.decimalDigits entry.2

/-- The lines of a section. -/
def sectionLines {Key : Type} [Ord Key] [Std.TransOrd Key] (key : Key → List Char)
    (entries : OrderedMap Key UInt64) : List (List Char) :=
  Nat.toDigits 10 entries.size :: entries.toList.map (entryLine key)

/-- Which addresses of a sample set are written behind the mark of their base. -/
structure Marks where
  ranges : AddressPair → Bool × Bool := fun _ => (false, false)
  addresses : UInt64 → Bool := fun _ => false
  branches : AddressPair → Bool × Bool := fun _ => (false, false)

section Lines

variable (marks : Marks) (samples : Samples)

def rangeLines : List (List Char) :=
  sectionLines (fun pair => spellPair ['-'] (marks.ranges pair) pair) samples.ranges

def addressLines : List (List Char) :=
  sectionLines (fun address => spellAddress (marks.addresses address) address) samples.addresses

def branchLines : List (List Char) :=
  sectionLines (fun pair => spellPair ['-', '>'] (marks.branches pair) pair) samples.branches

end Lines

/-- The lines of a sample set are those of its sections, without some of the last sections if these
are empty. -/
inductive Spelling (samples : Samples) : List (List Char) → Prop
  | whole (marks : Marks) :
      Spelling samples (samples.rangeLines marks ++
        (samples.addressLines marks ++ samples.branchLines marks))
  | withoutBranches (marks : Marks) (noBranches : samples.branches = ∅) :
      Spelling samples (samples.rangeLines marks ++ samples.addressLines marks)
  | onlyRanges (marks : Marks) (noAddresses : samples.addresses = ∅)
      (noBranches : samples.branches = ∅) : Spelling samples (samples.rangeLines marks)
  | nothing (noRanges : samples.ranges = ∅) (noAddresses : samples.addresses = ∅)
      (noBranches : samples.branches = ∅) : Spelling samples []

/-- The lines that are written: all sections, and no mark. -/
def writtenLines (samples : Samples) : List (List Char) :=
  samples.rangeLines {} ++ (samples.addressLines {} ++ samples.branchLines {})

theorem renderSection_eq_flatMap {Key : Type} [Ord Key] [Std.TransOrd Key] (key : Key → List Char)
    (entries : OrderedMap Key UInt64) :
    renderSection key entries = (sectionLines key entries).flatMap fun line => line ++ ['\n'] := by
  simp [renderSection, sectionLines, entryLine, List.flatMap_map]

theorem toList_render (samples : Samples) :
    samples.render.toList = samples.writtenLines.flatMap fun line => line ++ ['\n'] := by
  rw [render, String.toList_ofList, writtenLines, List.flatMap_append, List.flatMap_append,
    renderSection_eq_flatMap, renderSection_eq_flatMap, renderSection_eq_flatMap, List.append_assoc]
  rfl

/-! ### Lines without blanks -/

theorem solid_sectionLines {Key : Type} [Ord Key] [Std.TransOrd Key] {key : Key → List Char}
    (solid : ∀ entry, ∀ char ∈ key entry, Text.isBlank char = false)
    (entries : OrderedMap Key UInt64) : ∀ line ∈ sectionLines key entries, Solid line := by
  intro line member
  rw [sectionLines, List.mem_cons, List.mem_map] at member
  rcases member with rfl | ⟨entry, _, rfl⟩
  · exact ⟨Nat.toDigits_ne_nil, fun _ member =>
      Text.isBlank_of_mem_toDigits (by decide) (by decide) member⟩
  · refine ⟨by simp [entryLine], fun char member => ?_⟩
    rw [entryLine, List.mem_append, List.mem_cons] at member
    rcases member with before | rfl | after
    · exact solid entry.1 char before
    · decide
    · exact Text.isBlank_of_mem_decimalDigits after

section Solid

variable (marks : Marks) (samples : Samples)

theorem solid_rangeLines : ∀ line ∈ samples.rangeLines marks, Solid line := by
  have dash : Text.isBlank '-' = false := by decide
  exact solid_sectionLines (fun _ _ => isBlank_of_mem_spellPair (by simp [dash])) _

theorem solid_addressLines : ∀ line ∈ samples.addressLines marks, Solid line :=
  solid_sectionLines (fun _ _ => isBlank_of_mem_spellAddress) _

theorem solid_branchLines : ∀ line ∈ samples.branchLines marks, Solid line := by
  have dash : Text.isBlank '-' = false := by decide
  have head : Text.isBlank '>' = false := by decide
  exact solid_sectionLines (fun _ _ => isBlank_of_mem_spellPair (by simp [dash, head])) _

end Solid

theorem Spelling.solid {samples : Samples} {lines : List (List Char)}
    (spelling : samples.Spelling lines) : ∀ line ∈ lines, Solid line := by
  cases spelling with
  | whole marks =>
      rw [List.forall_mem_append, List.forall_mem_append]
      exact ⟨solid_rangeLines marks samples, solid_addressLines marks samples,
        solid_branchLines marks samples⟩
  | withoutBranches marks =>
      rw [List.forall_mem_append]
      exact ⟨solid_rangeLines marks samples, solid_addressLines marks samples⟩
  | onlyRanges marks => exact solid_rangeLines marks samples
  | nothing => exact fun line member => absurd member List.not_mem_nil

theorem lines_render (samples : Samples) :
    Text.lines samples.render.toList = samples.writtenLines := by
  rw [toList_render, Text.lines_flatMap]
  exact fun line member => ((Spelling.whole {}).solid line member).whole

/-! ### Reading -/

/-- A written section fills an empty map with its entries. -/
theorem after?_sectionLines {Key : Type} [Ord Key] [Std.TransOrd Key] [Std.LawfulEqOrd Key]
    (current : Section) (key : Key → List Char) (put : OrderedMap Key UInt64 → Samples)
    (reads : ∀ map entry,
      addLine? (put map) (entryLine key entry) current = some (put (map.insert entry.1 entry.2)))
    {entries : OrderedMap Key UInt64} (sized : entries.size < UInt64.size)
    (later : List (List Char)) :
    Reader.after? ⟨put ∅, .header current⟩ (sectionLines key entries ++ later) =
      Reader.after? ⟨put entries, current.following⟩ later := by
  rw [← Std.ExtTreeMap.length_toList] at sized
  rw [sectionLines, ← Std.ExtTreeMap.length_toList, List.cons_append,
    Reader.after?_section sized (fun map entry _ => reads map entry),
    OrderedMap.foldl_insert_toList]

section Reading

variable (marks : Marks) {samples : Samples} (sized : samples.WordSized)
  (later : List (List Char))

include sized

theorem after?_rangeLines :
    Reader.after? {} (samples.rangeLines marks ++ later) =
      Reader.after? ⟨{ ranges := samples.ranges }, .header .addresses⟩ later := by
  refine after?_sectionLines .ranges _ (fun map => { ranges := map }) ?_ sized.ranges later
  intro map entry
  rw [addLine?, entryLine, readPair?_spellPair]
  rfl

theorem after?_addressLines :
    Reader.after? ⟨{ ranges := samples.ranges }, .header .addresses⟩
        (samples.addressLines marks ++ later) =
      Reader.after? ⟨⟨samples.ranges, samples.addresses, ∅, 0⟩, .header .branches⟩ later := by
  refine after?_sectionLines .addresses _
    (fun map => { ranges := samples.ranges, addresses := map }) ?_ sized.addresses later
  intro map entry
  rw [addLine?, entryLine, readCount?_append, Option.bind_some, readField?_spellAddress]
  rfl

theorem after?_branchLines :
    Reader.after? ⟨⟨samples.ranges, samples.addresses, ∅, 0⟩, .header .branches⟩
        (samples.branchLines marks ++ later) =
      Reader.after? ⟨{ samples with total := 0 }, .nothing⟩ later := by
  refine after?_sectionLines .branches _
    (fun map => ⟨samples.ranges, samples.addresses, map, 0⟩) ?_ sized.branches later
  intro map entry
  rw [addLine?, entryLine, readPair?_spellPair]
  rfl

end Reading

/-- However a sample set is spelled, its lines are read as its entries. -/
theorem Spelling.read {samples : Samples} (sized : samples.WordSized) {lines : List (List Char)}
    (spelling : samples.Spelling lines) :
    (Reader.after? {} lines).bind Reader.finish? = some { samples with total := 0 } := by
  cases spelling with
  | whole marks =>
      rw [after?_rangeLines marks sized, after?_addressLines marks sized,
        ← List.append_nil (samples.branchLines marks), after?_branchLines marks sized]
      rfl
  | withoutBranches marks noBranches =>
      rw [after?_rangeLines marks sized, ← List.append_nil (samples.addressLines marks),
        after?_addressLines marks sized, noBranches]
      rfl
  | onlyRanges marks noAddresses noBranches =>
      rw [← List.append_nil (samples.rangeLines marks), after?_rangeLines marks sized,
        noAddresses, noBranches]
      rfl
  | nothing noRanges noAddresses noBranches =>
      rw [noRanges, noAddresses, noBranches]
      rfl

theorem total_of_parse {text : String} {samples : Samples} (parsed : parse text = .ok samples) :
    samples.total = samples.computedTotal := by
  rw [parse] at parsed
  cases ran : Reader.run {} 0 (Text.lines text.toList) with
  | error fault =>
      rw [ran] at parsed
      cases parsed
  | ok read =>
      rw [ran] at parsed
      cases parsed
      rfl

/-- A text is accepted if its lines that are not blank are, one after another. -/
theorem parse_of_finish {text : String} {samples : Samples}
    (finished : (Reader.after? {} (Reader.significant (Text.lines text.toList))).bind
      Reader.finish? = some samples) :
    parse text = .ok samples.withTotal := by
  have accepted := Reader.toOption_run {} 0 (Text.lines text.toList)
  rw [finished] at accepted
  rw [parse]
  cases ran : Reader.run {} 0 (Text.lines text.toList) with
  | error fault => simp [ran, Except.toOption] at accepted
  | ok read =>
      simp only [ran, Except.toOption, Option.some_inj] at accepted
      rw [accepted]
      rfl

/-- A text of which a sample set's lines are left, once they are trimmed and blank ones are skipped,
is read as the sample set with its total brought up to date. -/
theorem Spelling.parse_eq {samples : Samples} (sized : samples.WordSized)
    {lines : List (List Char)} (spelling : samples.Spelling lines) {text : String}
    (left : Reader.significant (Text.lines text.toList) = lines) :
    parse text = .ok samples.withTotal := by
  have finished := spelling.read sized
  rw [← left] at finished
  have accepted := parse_of_finish finished
  exact accepted

/-- Written samples are read back with their total brought up to date. -/
theorem parse_render {samples : Samples} (sized : samples.WordSized) :
    parse samples.render = .ok samples.withTotal := by
  have whole : samples.Spelling samples.writtenLines := .whole {}
  refine whole.parse_eq sized ?_
  rw [lines_render]
  exact Reader.significant_eq_self whole.solid

end SampleProfile.Samples
