import Mathlib.Data.List.Forall2
import SampleProfile.Proofs.Samples.Layout
import SampleProfile.Proofs.Samples.Source
import SampleProfile.Session

/-!
# Reading back hint files

Hints that are written one to a line, with blanks around the lines and their fields, are read back,
and a line that is no hint ends the reading without touching the hints before it.
-/

namespace SampleProfile

namespace Hint

open Samples (Padded Solid Layout spellAddress isBlank_of_mem_spellAddress not_mem_spellAddress)

/-! ## Written hints -/

/-- A hint on a line: its address, with or without the mark of its base, its delta and its kind,
with blanks around each. -/
inductive Written (hint : Hint) : List Char → Prop
  | fields {marked : Bool} {address delta kind : List Char}
      (addressPadded : Padded (spellAddress marked hint.address) address)
      (deltaPadded : Padded (Json.integerText hint.delta.toInt) delta)
      (kindPadded : Padded hint.kind.toList kind) :
      Written hint (address ++ ',' :: (delta ++ ',' :: kind))

theorem comma_not_mem_of_padded {field padded : List Char} (surrounded : Padded field padded)
    (absent : ',' ∉ field) : ',' ∉ padded := by
  obtain ⟨before, after, blankBefore, blankAfter, rfl⟩ := surrounded.blanks
  have noBlank : Text.isBlank ',' = false := by decide
  rw [List.mem_append, List.mem_append, not_or, not_or]
  refine ⟨⟨fun member => ?_, absent⟩, fun member => ?_⟩
  · exact Bool.false_ne_true (noBlank.symm.trans (blankBefore _ member))
  · exact Bool.false_ne_true (noBlank.symm.trans (blankAfter _ member))

theorem dropStart_spellAddress (marked : Bool) (address : UInt64) :
    Text.dropStart ['0', 'x'] (spellAddress marked address) = Text.hexDigits address := by
  cases marked with
  | true => rfl
  | false =>
      have unmarked : ¬['0', 'x'].isPrefixOf (Text.hexDigits address) := by
        intro start
        have mark : 'x' ∈ Text.hexDigits address :=
          (List.isPrefixOf_iff_prefix.mp start).subset (by decide)
        exact Text.not_mem_hexDigits (by decide) address mark
      exact if_neg unmarked

theorem fields?_append {address delta : List Char} (addressWhole : ',' ∉ address)
    (deltaWhole : ',' ∉ delta) (kind : List Char) :
    fields? (address ++ ',' :: (delta ++ ',' :: kind)) =
      some (address.dropWhile Text.isBlank, delta, Text.trimEnd kind) := by
  have noBlank : Text.isBlank ',' = false := by decide
  have droppedWhole : ',' ∉ address.dropWhile Text.isBlank :=
    fun member => addressWhole ((List.dropWhile_sublist _).subset member)
  have firstCut := Text.cutAt_append droppedWhole [] (delta ++ ',' :: Text.trimEnd kind)
  have secondCut := Text.cutAt_append deltaWhole [] (Text.trimEnd kind)
  rw [List.append_assoc, List.singleton_append] at firstCut secondCut
  rw [fields?, Text.trim_append_cons noBlank, Text.trimEnd_append_cons noBlank, firstCut,
    Option.bind_some, secondCut]
  rfl

/-- The kind may hold commas, since only the first two end a field. -/
theorem parseLine_written {hint : Hint} (solid : Solid hint.kind.toList) {line : List Char}
    (written : Written hint line) : parseLine line = .ok hint := by
  cases written with
  | @fields marked address delta kind addressPadded deltaPadded kindPadded =>
      have addressWhole : ',' ∉ address :=
        comma_not_mem_of_padded addressPadded (not_mem_spellAddress (by decide) (by decide))
      have deltaWhole : ',' ∉ delta :=
        comma_not_mem_of_padded deltaPadded (Text.not_mem_integerText (by decide) (by decide) _)
      have addressTrimmed : Text.trim (address.dropWhile Text.isBlank) =
          spellAddress marked hint.address := by
        rw [Text.trim_dropWhile, addressPadded.trim_eq]
        exact Text.trim_eq_self fun _ => isBlank_of_mem_spellAddress
      have deltaTrimmed : Text.trim delta = Json.integerText hint.delta.toInt := by
        rw [deltaPadded.trim_eq]
        exact Text.trim_eq_self fun _ => Text.isBlank_of_mem_integerText
      have kindTrimmed : Text.trim (Text.trimEnd kind) = hint.kind.toList := by
        rw [Text.trim_trimEnd, kindPadded.trim_eq]
        exact Text.trim_eq_self solid.2
      have kindFits : ¬(hint.kind.toList.isEmpty || hint.kind.toList.any Text.isBlank) := by
        rw [Bool.or_eq_true, List.isEmpty_iff, List.any_eq_true, not_or]
        refine ⟨solid.1, ?_⟩
        rintro ⟨char, member, blank⟩
        exact Bool.false_ne_true ((solid.2 char member).symm.trans blank)
      have addressRead : Text.readUInt64 16 (Text.hexDigits hint.address) = .ok hint.address :=
        Text.readUInt64_toDigits (by decide) (by decide) hint.address
      rw [parseLine, fields?_append addressWhole deltaWhole]
      simp only [addressTrimmed, deltaTrimmed, kindTrimmed, dropStart_spellAddress, addressRead,
        Text.readInt64_integerText, if_neg kindFits, String.ofList_toList]

/-! ## Lines of hints -/

theorem fields?_trim (line : List Char) : fields? (Text.trim line) = fields? line := by
  rw [fields?, fields?, Text.trim_trim]

theorem parseLine_trim_iff {line : List Char} {hint : Hint} :
    parseLine (Text.trim line) = .ok hint ↔ parseLine line = .ok hint := by
  rw [parseLine, parseLine, fields?_trim]
  cases fields? line with
  | none => simp
  | some fields => exact Iff.rfl

theorem trim_ne_nil_of_parseLine {line : List Char} {hint : Hint}
    (read : parseLine line = .ok hint) : Text.trim line ≠ [] := by
  intro blank
  have nothing : fields? line = none := by
    rw [fields?, blank]
    rfl
  rw [parseLine, nothing] at read
  cases read

/-- Lines that are all hints or blank are read as the hints, and the reading goes on behind them. -/
theorem readLines_append {hints : List Hint} {lines : List (List Char)}
    (read : List.Forall₂ (fun hint line => parseLine line = .ok hint) hints
      (Samples.Reader.significant lines))
    (before : Nat) (further : List (List Char)) :
    readLines before (lines ++ further) =
      (hints ++ (readLines (before + lines.length) further).1,
        (readLines (before + lines.length) further).2) := by
  induction lines generalizing hints before with
  | nil =>
      cases read
      rfl
  | cons line rest inductionHypothesis =>
      have counted : before + (line :: rest).length = before + 1 + rest.length := by
        rw [List.length_cons]
        omega
      rw [Samples.Reader.significant_cons] at read
      rw [List.cons_append, readLines, counted]
      by_cases blank : Text.trim line = []
      · rw [if_pos blank] at read
        rw [if_pos (List.isEmpty_iff.mpr blank)]
        exact inductionHypothesis read (before + 1)
      · rw [if_neg blank] at read
        rw [if_neg (by rwa [List.isEmpty_iff])]
        cases read with
        | cons firstRead restRead =>
            rw [parseLine_trim_iff.mp firstRead]
            dsimp only
            rw [inductionHypothesis restRead (before + 1)]
            rfl

theorem readLines_bad {line : List Char} {fault : LineFault} (shown : Text.trim line ≠ [])
    (rejected : parseLine line = .error fault) (before : Nat) (further : List (List Char)) :
    readLines before (line :: further) = ([], some ⟨before + 1, fault⟩) := by
  rw [readLines, if_neg (by rwa [List.isEmpty_iff]), rejected]

theorem parse_significant {hints : List Hint} (solid : ∀ hint ∈ hints, Solid hint.kind.toList)
    {lines : List (List Char)} (written : List.Forall₂ Written hints lines) :
    List.Forall₂ (fun hint line => parseLine line = .ok hint) hints
      (Samples.Reader.significant lines) := by
  induction written with
  | nil => exact .nil
  | cons firstWritten _ inductionHypothesis =>
      rw [List.forall_mem_cons] at solid
      have read := parseLine_written solid.1 firstWritten
      rw [Samples.Reader.significant_cons, if_neg (trim_ne_nil_of_parseLine read)]
      exact .cons (parseLine_trim_iff.mpr read) (inductionHypothesis solid.2)

end Hint

/-! ## Hint files -/

namespace Session

theorem readHints_run {disk : Disk} {file text : String}
    (held : disk.attempted file = .ok text.toUTF8) :
    (readHints file : DiskM _).run disk =
      (.ok (Hint.readAll text).1, match (Hint.readAll text).2 with
        | none => disk.ticked
        | some bad => disk.ticked.note (.badHint file bad)) := by
  rw [readHints, Disk.run_bind (Disk.readText_run held)]
  dsimp only
  rcases Hint.readAll text with ⟨hints, bad⟩
  cases bad <;> rfl

/-- A file of written hints is read as the hints and nothing is noted.  If a line follows that is
neither blank nor a hint, then whatever stands behind it, the hints are the same and one note is
made, with the number of that line. -/
theorem readHints_written {hints : List Hint}
    (solid : ∀ hint ∈ hints, Samples.Solid hint.kind.toList) {lines : List (List Char)}
    (written : List.Forall₂ Hint.Written hints lines) {text : List Char}
    (layout : Samples.Layout lines text) (disk : Disk) (file : String) :
    (disk.attempted file = .ok (String.ofList text).toUTF8 →
      (readHints file : DiskM _).run disk = (.ok hints, disk.ticked)) ∧
    (Text.Ended text →
      ∀ rest bad further fault, Text.lines rest = bad :: further → Text.trim bad ≠ [] →
        Hint.parseLine bad = .error fault →
        Text.lines (text ++ rest) = Text.lines text ++ bad :: further ∧
        (disk.attempted file = .ok (String.ofList (text ++ rest)).toUTF8 →
          (readHints file : DiskM _).run disk =
            (.ok hints, disk.ticked.note
              (.badHint file ⟨(Text.lines text).length + 1, fault⟩)))) := by
  have read := Hint.parse_significant solid written
  rw [← layout.significant_lines] at read
  constructor
  · intro held
    have whole : Hint.readAll (String.ofList text) = (hints, none) := by
      have appended := Hint.readLines_append read 0 []
      rw [List.append_nil] at appended
      rw [Hint.readAll, String.toList_ofList, appended, Hint.readLines, List.append_nil]
    rw [readHints_run held, whole]
  · intro ended rest bad further fault badFirst shown rejected
    have split : Text.lines (text ++ rest) = Text.lines text ++ bad :: further := by
      rw [Text.lines_append_of_ended ended, badFirst]
    refine ⟨split, fun held => ?_⟩
    have stopped : Hint.readAll (String.ofList (text ++ rest)) =
        (hints, some ⟨(Text.lines text).length + 1, fault⟩) := by
      rw [Hint.readAll, String.toList_ofList, split, Hint.readLines_append read,
        Hint.readLines_bad shown rejected, List.append_nil, Nat.zero_add]
    rw [readHints_run held, stopped]

/-- The least delta, and a kind that looks like more fields. -/
def spacedHints : List Hint :=
  [⟨0x4011a0, Int64.minValue, "NTA"⟩, ⟨0xffffffffffffffff, 64, "T0,_-+"⟩]

def spacedText : String :=
  " 0x4011a0 ,\t-9223372036854775808,NTA \r\n\r\nffffffffffffffff,64, T0,_-+\n"

def spoiledText : String := spacedText ++ "broken\n1008,1,T2"

def hintDisk (contents : String) : Disk where
  entries := (∅ : OrderedMap (List String) Entry).insert ["hints"] (.file contents.toUTF8)

theorem readHints_written_spaced :
    (readHints "hints" : DiskM _).run (hintDisk spacedText) =
      (.ok spacedHints, (hintDisk spacedText).ticked) ∧
    (readHints "hints" : DiskM _).run (hintDisk spoiledText) =
      (.ok spacedHints, (hintDisk spoiledText).ticked.note
        (.badHint "hints" ⟨4, .missingField "broken".toList⟩)) := by
  let lines := [
    "0x4011a0 ".toList ++ ',' :: ("\t-9223372036854775808".toList ++ ',' :: "NTA".toList),
    "ffffffffffffffff".toList ++ ',' :: ("64".toList ++ ',' :: " T0,_-+".toList)]
  have solid : ∀ hint ∈ spacedHints, Samples.Solid hint.kind.toList := by
    rw [spacedHints, List.forall_mem_cons, List.forall_mem_singleton]
    exact ⟨by decide, by decide⟩
  have padded {field around : List Char} (whole : '\n' ∉ around)
      (trimmed : Text.trim around = field) : Samples.Padded field around :=
    trimmed ▸ Samples.padded_trim whole
  have written : List.Forall₂ Hint.Written spacedHints lines := by
    refine .cons (@Hint.Written.fields _ true _ _ _ ?_ ?_ ?_)
      (.cons (@Hint.Written.fields _ false _ _ _ ?_ ?_ ?_) .nil)
    all_goals exact padded (by decide) (by decide +kernel)
  have layout : Samples.Layout lines spacedText.toList := by
    have shown : Samples.Reader.significant (Text.lines spacedText.toList) = lines := by
      decide +kernel
    exact shown ▸ Samples.layout_significant spacedText.toList
  have ended : Text.Ended spacedText.toList := by
    intro last member
    exact Option.some_inj.mp (member.symm.trans (by decide +kernel))
  have counted : (Text.lines spacedText.toList).length = 3 := by decide +kernel
  obtain ⟨whole, _⟩ := readHints_written solid written layout (hintDisk spacedText) "hints"
  obtain ⟨_, spoiled⟩ := readHints_written solid written layout (hintDisk spoiledText) "hints"
  obtain ⟨_, stopped⟩ := spoiled ended "broken\n1008,1,T2".toList "broken".toList
    ["1008,1,T2".toList] (.missingField "broken".toList) (by decide +kernel) (by decide) (by rfl)
  rw [counted] at stopped
  exact ⟨whole rfl, stopped rfl⟩

end Session

end SampleProfile
