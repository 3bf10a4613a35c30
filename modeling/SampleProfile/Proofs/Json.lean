import SampleProfile.Json
import SampleProfile.Proofs.Text.Digits

/-!
# Unique readability of JSON

The text of a value tells the value and where it ends, whatever follows; only what follows an
integer must not start with another digit.  Hence different documents have different texts
(`render_injective`).
-/

namespace SampleProfile.Json

/-! ## Integers -/

/-- What can follow an integer: anything that does not start with a digit. -/
def EndsNumber (rest : List Char) : Prop :=
  rest.takeWhile Char.isDigit = []

theorem endsNumber_nil : EndsNumber [] := rfl

theorem endsNumber_cons {char : Char} (noDigit : char.isDigit = false) (rest : List Char) :
    EndsNumber (char :: rest) :=
  List.takeWhile_cons_of_neg (by simp [noDigit])

theorem isDigit_of_mem_toDigits {number : Nat} {char : Char}
    (member : char ∈ Nat.toDigits 10 number) : char.isDigit = true := by
  have every : ∀ digit < 10, (Nat.digitChar digit).isDigit = true := by decide
  obtain ⟨digit, below, rfl⟩ := Text.exists_of_mem_toDigits (by decide) member
  exact every digit below

theorem takeWhile_toDigits_append (number : Nat) {rest : List Char} (ends : EndsNumber rest) :
    (Nat.toDigits 10 number ++ rest).takeWhile Char.isDigit = Nat.toDigits 10 number := by
  rw [List.takeWhile_append_of_pos fun char member => isDigit_of_mem_toDigits member, ends,
    List.append_nil]

theorem toDigits_append_inj {left right : Nat} {leftEnd rightEnd : List Char}
    (leftEnds : EndsNumber leftEnd) (rightEnds : EndsNumber rightEnd)
    (same : Nat.toDigits 10 left ++ leftEnd = Nat.toDigits 10 right ++ rightEnd) :
    left = right ∧ leftEnd = rightEnd := by
  have sameDigits : Nat.toDigits 10 left = Nat.toDigits 10 right := by
    rw [← takeWhile_toDigits_append left leftEnds, same,
      takeWhile_toDigits_append right rightEnds]
  rw [sameDigits] at same
  exact ⟨Text.toDigits_injective sameDigits, List.append_cancel_left same⟩

theorem exists_toDigits_eq_cons (number : Nat) :
    ∃ digit < 10, ∃ rest, Nat.toDigits 10 number = Nat.digitChar digit :: rest := by
  obtain ⟨first, rest, shape⟩ :=
    List.exists_cons_of_ne_nil (Nat.toDigits_ne_nil (n := number) (b := 10))
  have member : first ∈ Nat.toDigits 10 number := shape ▸ List.mem_cons_self
  obtain ⟨digit, below, rfl⟩ := Text.exists_of_mem_toDigits (by decide) member
  exact ⟨digit, below, rest, shape⟩

theorem minus_cons_ne (number : Nat) (left rest : List Char) :
    '-' :: left ≠ Nat.toDigits 10 number ++ rest := by
  intro same
  have noDigit : ∀ digit < 10, '-' ≠ Nat.digitChar digit := by decide
  obtain ⟨digit, below, others, shape⟩ := exists_toDigits_eq_cons number
  rw [shape, List.cons_append] at same
  exact noDigit digit below (List.cons.inj same).1

theorem integerText_append_inj {left right : Int} {leftEnd rightEnd : List Char}
    (leftEnds : EndsNumber leftEnd) (rightEnds : EndsNumber rightEnd)
    (same : integerText left ++ leftEnd = integerText right ++ rightEnd) :
    left = right ∧ leftEnd = rightEnd := by
  rw [integerText, integerText] at same
  by_cases leftSign : left < 0
  · rw [if_pos leftSign] at same
    by_cases rightSign : right < 0
    · rw [if_pos rightSign] at same
      obtain ⟨sameDigits, sameEnd⟩ :=
        toDigits_append_inj leftEnds rightEnds (List.cons.inj same).2
      exact ⟨by omega, sameEnd⟩
    · rw [if_neg rightSign] at same
      exact absurd same (minus_cons_ne _ _ _)
  · rw [if_neg leftSign] at same
    by_cases rightSign : right < 0
    · rw [if_pos rightSign] at same
      exact absurd same.symm (minus_cons_ne _ _ _)
    · rw [if_neg rightSign] at same
      obtain ⟨sameDigits, sameEnd⟩ := toDigits_append_inj leftEnds rightEnds same
      exact ⟨by omega, sameEnd⟩

/-! ## Strings -/

/-- Reads back one character of a string. -/
def unescape : List Char → Option (Char × List Char)
  | '\\' :: 'u' :: '0' :: '0' :: high :: low :: rest => do
      let sixteens ← Text.digit? 16 high
      let ones ← Text.digit? 16 low
      some (Char.ofNat (16 * sixteens + ones), rest)
  | '\\' :: 'b' :: rest => some ('\x08', rest)
  | '\\' :: 't' :: rest => some ('\t', rest)
  | '\\' :: 'n' :: rest => some ('\n', rest)
  | '\\' :: 'f' :: rest => some ('\x0c', rest)
  | '\\' :: 'r' :: rest => some ('\r', rest)
  | '\\' :: char :: rest => some (char, rest)
  | char :: rest => some (char, rest)
  | [] => none

theorem unescape_escape (char : Char) (rest : List Char) :
    unescape (escape char ++ rest) = some (char, rest) := by
  unfold escape
  split
  -- Only a character without an escape of its own can be a control character, written in
  -- hexadecimal digits.
  case h_8 notQuote notBackslash _ _ _ _ _ =>
    split
    next control =>
      have read : ∀ digit < 16, Text.digit? 16 (Nat.digitChar digit) = some digit :=
        fun digit below => Text.digit?_digitChar (Nat.le_refl 16) below
      have number : 16 * (char.toNat / 16) + char.toNat % 16 = char.toNat := by omega
      simp [unescape, read (char.toNat / 16) (by omega), read (char.toNat % 16) (by omega),
        number]
    next =>
      rw [List.singleton_append, unescape] <;> simp_all
  all_goals rfl

theorem escape_append_inj {left right : Char} {leftEnd rightEnd : List Char}
    (same : escape left ++ leftEnd = escape right ++ rightEnd) :
    left = right ∧ leftEnd = rightEnd := by
  have read := congrArg unescape same
  rw [unescape_escape, unescape_escape, Option.some_inj] at read
  exact Prod.mk.inj read

/-- No escaped character can be taken for the closing quote. -/
theorem quote_cons_ne (char : Char) (left rest : List Char) :
    '"' :: left ≠ escape char ++ rest := by
  unfold escape
  split
  case h_8 notQuote _ _ _ _ _ _ =>
    split
    · simp
    · intro same
      exact notQuote (List.cons.inj same).1.symm
  all_goals simp

theorem flatMap_escape_inj {left right leftEnd rightEnd : List Char}
    (same : left.flatMap escape ++ '"' :: leftEnd = right.flatMap escape ++ '"' :: rightEnd) :
    left = right ∧ leftEnd = rightEnd := by
  induction left generalizing right with
  | nil =>
      cases right with
      | nil => exact ⟨rfl, (List.cons.inj same).2⟩
      | cons other others =>
          rw [List.flatMap_cons, List.append_assoc] at same
          exact absurd same (quote_cons_ne _ _ _)
  | cons char chars inductionHypothesis =>
      cases right with
      | nil =>
          rw [List.flatMap_cons, List.append_assoc] at same
          exact absurd same.symm (quote_cons_ne _ _ _)
      | cons other others =>
          rw [List.flatMap_cons, List.flatMap_cons, List.append_assoc, List.append_assoc] at same
          obtain ⟨sameChar, sameRest⟩ := escape_append_inj same
          obtain ⟨sameChars, sameEnd⟩ := inductionHypothesis sameRest
          exact ⟨by rw [sameChar, sameChars], sameEnd⟩

theorem quote_append_inj {left right : String} {leftEnd rightEnd : List Char}
    (same : quote left ++ leftEnd = quote right ++ rightEnd) :
    left = right ∧ leftEnd = rightEnd := by
  rw [quote, quote, List.cons_append, List.cons_append, List.append_assoc, List.append_assoc]
    at same
  obtain ⟨sameChars, sameEnd⟩ := flatMap_escape_inj (List.cons.inj same).2
  exact ⟨String.toList_inj.mp sameChars, sameEnd⟩

/-! ## Sequences -/

/-- What follows the first of several texts. -/
def afterFirst (rest : List (List Char)) (following : List Char) : List Char :=
  match rest with
  | [] => following
  | next :: others => ',' :: (separated (next :: others) ++ following)

theorem separated_map_cons {Item : Type} (text : Item → List Char) (first : Item)
    (rest : List Item) (following : List Char) :
    separated ((first :: rest).map text) ++ following =
      text first ++ afterFirst (rest.map text) following := by
  cases rest with
  | nil => rfl
  | cons next others =>
      rw [List.map_cons, List.map_cons, separated, afterFirst, List.append_assoc, List.cons_append]
      exact nofun

theorem endsNumber_newLine (level : Nat) (rest : List Char) : EndsNumber (newLine level ++ rest) :=
  endsNumber_cons (by decide) _

theorem endsNumber_afterFirst (rest : List (List Char)) (level : Nat) (following : List Char) :
    EndsNumber (afterFirst rest (newLine level ++ following)) := by
  cases rest with
  | nil => exact endsNumber_newLine level following
  | cons next others => exact endsNumber_cons (by decide) _

variable {Item : Type}

/-- The text of an item tells the item and where it ends. -/
def Told (text : Item → List Char) (item : Item) : Prop :=
  ∀ {other : Item} {itemEnd otherEnd : List Char}, EndsNumber itemEnd → EndsNumber otherEnd →
    text item ++ itemEnd = text other ++ otherEnd → item = other ∧ itemEnd = otherEnd

/-- An item on a line of its own. -/
def line (level : Nat) (text : Item → List Char) (item : Item) : List Char :=
  newLine level ++ text item

/-- The inside of brackets: each item on a line of its own, and the line of the closing bracket. -/
def inside (level : Nat) (text : Item → List Char) : List Item → List Char
  | [] => []
  | first :: rest => separated ((first :: rest).map (line (level + 1) text)) ++ newLine level

theorem first_inj {level : Nat} {text : Item → List Char} {left right : Item}
    {lefts rights : List Item} (told : Told text left) {leftEnd rightEnd : List Char}
    (same :
      separated ((left :: lefts).map (line (level + 1) text)) ++ (newLine level ++ leftEnd) =
        separated ((right :: rights).map (line (level + 1) text)) ++
          (newLine level ++ rightEnd)) :
    left = right ∧
      afterFirst (lefts.map (line (level + 1) text)) (newLine level ++ leftEnd) =
        afterFirst (rights.map (line (level + 1) text)) (newLine level ++ rightEnd) := by
  rw [separated_map_cons, separated_map_cons, line, line, List.append_assoc, List.append_assoc]
    at same
  exact told (endsNumber_afterFirst _ _ _) (endsNumber_afterFirst _ _ _)
    (List.append_cancel_left same)

theorem separated_append_inj {level : Nat} {text : Item → List Char} {left right : Item}
    {lefts rights : List Item} (told : ∀ item ∈ left :: lefts, Told text item)
    {leftEnd rightEnd : List Char}
    (same :
      separated ((left :: lefts).map (line (level + 1) text)) ++ (newLine level ++ leftEnd) =
        separated ((right :: rights).map (line (level + 1) text)) ++
          (newLine level ++ rightEnd)) :
    left :: lefts = right :: rights ∧ leftEnd = rightEnd := by
  obtain ⟨sameFirst, sameRest⟩ := first_inj (told left List.mem_cons_self) same
  induction lefts generalizing left right rights with
  | nil =>
      cases rights with
      | nil => exact ⟨by rw [sameFirst], List.append_cancel_left sameRest⟩
      | cons next others => cases sameRest
  | cons following lefts inductionHypothesis =>
      cases rights with
      | nil => cases sameRest
      | cons next others =>
          have later : ∀ item ∈ following :: lefts, Told text item :=
            fun item member => told item (List.mem_cons_of_mem _ member)
          have sameItems := (List.cons.inj sameRest).2
          obtain ⟨sameNext, sameOthers⟩ :=
            first_inj (later following List.mem_cons_self) sameItems
          obtain ⟨sameLefts, sameEnd⟩ :=
            inductionHypothesis later sameItems sameNext sameOthers
          exact ⟨by rw [sameFirst, sameLefts], sameEnd⟩

theorem inside_append_inj {level : Nat} {text : Item → List Char} {lefts rights : List Item}
    (told : ∀ item ∈ lefts, Told text item) {closing : Char} (noLine : closing ≠ '\n')
    {leftEnd rightEnd : List Char}
    (same : inside level text lefts ++ closing :: leftEnd =
      inside level text rights ++ closing :: rightEnd) :
    lefts = rights ∧ leftEnd = rightEnd := by
  have notClosed : ∀ (item : Item) (items : List Item) (first second : List Char),
      closing :: first ≠ inside level text (item :: items) ++ second := by
    intro item items first second closed
    rw [inside, List.append_assoc, separated_map_cons] at closed
    exact noLine (List.cons.inj closed).1
  cases lefts with
  | nil =>
      cases rights with
      | nil => exact ⟨rfl, (List.cons.inj same).2⟩
      | cons right rights => exact absurd same (notClosed _ _ _ _)
  | cons left lefts =>
      cases rights with
      | nil => exact absurd same.symm (notClosed _ _ _ _)
      | cons right rights =>
          rw [inside, inside, List.append_assoc, List.append_assoc] at same
          obtain ⟨sameItems, sameEnd⟩ := separated_append_inj told same
          exact ⟨sameItems, (List.cons.inj sameEnd).2⟩

/-! ## Values -/

/-- A property holds of every value if it passes from the parts of arrays and objects to the whole.
-/
@[induction_eliminator]
theorem parts_induction {motive : Json → Prop} (integer : ∀ value, motive (integer value))
    (string : ∀ value, motive (string value))
    (array : ∀ items, (∀ item ∈ items, motive item) → motive (array items))
    (object : ∀ fields, (∀ field ∈ fields, motive field.2) → motive (object fields)) :
    ∀ value, motive value
  | .integer value => integer value
  | .string value => string value
  | .array items =>
      array items fun item _ => parts_induction integer string array object item
  | .object fields =>
      object fields fun field member =>
        have _smaller : sizeOf field.2 < 1 + sizeOf fields := by
          have below := List.sizeOf_lt_of_mem member
          cases field
          simp only [Prod.mk.sizeOf_spec] at below ⊢
          omega
        parts_induction integer string array object field.2

theorem layOutItems_eq_map (level : Nat) (items : List Json) :
    layOutItems level items = items.map (line level (layOut level)) := by
  induction items with
  | nil => rw [layOutItems, List.map_nil]
  | cons first rest inductionHypothesis =>
      rw [layOutItems, inductionHypothesis, List.map_cons, line]

/-- The text of a field. -/
def fieldText (level : Nat) (field : String × Json) : List Char :=
  quote field.1 ++ ':' :: ' ' :: layOut level field.2

theorem layOutFields_eq_map (level : Nat) (fields : List (String × Json)) :
    layOutFields level fields = fields.map (line level (fieldText level)) := by
  induction fields with
  | nil => rw [layOutFields, List.map_nil]
  | cons first rest inductionHypothesis =>
      rw [layOutFields, inductionHypothesis, List.map_cons, line, fieldText, List.append_assoc]

theorem layOut_array (level : Nat) (items : List Json) :
    layOut level (array items) = '[' :: (inside level (layOut (level + 1)) items ++ [']']) := by
  cases items with
  | nil => rw [layOut, inside, List.nil_append]
  | cons first rest => rw [layOut, inside, layOutItems_eq_map]

theorem layOut_object (level : Nat) (fields : List (String × Json)) :
    layOut level (object fields) =
      '\x7b' :: (inside level (fieldText (level + 1)) fields ++ ['\x7d']) := by
  cases fields with
  | nil => rw [layOut, inside, List.nil_append]
  | cons first rest => rw [layOut, inside, layOutFields_eq_map]

/-- The kinds of values. -/
inductive Kind where
  | integer
  | string
  | array
  | object
deriving DecidableEq

/-- The kind of a value. -/
def kind : Json → Kind
  | integer _ => .integer
  | string _ => .string
  | array _ => .array
  | object _ => .object

/-- The kind of value that a character opens. -/
def opened (char : Char) : Kind :=
  match char with
  | '"' => .string
  | '[' => .array
  | '\x7b' => .object
  | _ => .integer

theorem opened_digitChar {digit : Nat} (below : digit < 10) :
    opened (Nat.digitChar digit) = .integer := by
  have every : ∀ digit < 10, opened (Nat.digitChar digit) = .integer := by decide
  exact every digit below

theorem exists_layOut_eq_cons (level : Nat) (value : Json) :
    ∃ first rest, layOut level value = first :: rest ∧ opened first = value.kind := by
  cases value with
  | integer value =>
      rw [layOut, integerText]
      split
      · exact ⟨_, _, rfl, rfl⟩
      · obtain ⟨digit, below, rest, shape⟩ := exists_toDigits_eq_cons value.natAbs
        exact ⟨_, rest, shape, opened_digitChar below⟩
  | string value =>
      rw [layOut, quote]
      exact ⟨_, _, rfl, rfl⟩
  | array items => exact ⟨_, _, layOut_array level items, rfl⟩
  | object fields => exact ⟨_, _, layOut_object level fields, rfl⟩

theorem kind_eq {level : Nat} {left right : Json} {leftEnd rightEnd : List Char}
    (same : layOut level left ++ leftEnd = layOut level right ++ rightEnd) :
    left.kind = right.kind := by
  obtain ⟨first, rest, shape, opens⟩ := exists_layOut_eq_cons level left
  obtain ⟨other, others, otherShape, otherOpens⟩ := exists_layOut_eq_cons level right
  rw [shape, otherShape] at same
  rw [← opens, ← otherOpens, (List.cons.inj same).1]

theorem told_fieldText {level : Nat} {field : String × Json} (told : Told (layOut level) field.2) :
    Told (fieldText level) field := by
  intro other fieldEnd otherEnd fieldEnds otherEnds same
  rw [fieldText, fieldText, List.append_assoc, List.append_assoc] at same
  obtain ⟨sameName, sameRest⟩ := quote_append_inj same
  obtain ⟨sameValue, sameEnd⟩ :=
    told fieldEnds otherEnds (List.cons.inj (List.cons.inj sameRest).2).2
  exact ⟨Prod.ext sameName sameValue, sameEnd⟩

/-- The text of a value tells the value and where it ends. -/
theorem told_layOut (level : Nat) (value : Json) : Told (layOut level) value := by
  -- Values of different kinds start with different characters, so that each is compared with its
  -- own kind only.
  induction value generalizing level with
  | integer value =>
      intro other valueEnd otherEnd valueEnds otherEnds same
      have sameKind := kind_eq same
      cases other with
      | integer other =>
          rw [layOut, layOut] at same
          obtain ⟨sameValue, sameEnd⟩ := integerText_append_inj valueEnds otherEnds same
          exact ⟨by rw [sameValue], sameEnd⟩
      | _ => cases sameKind
  | string value =>
      intro other valueEnd otherEnd valueEnds otherEnds same
      have sameKind := kind_eq same
      cases other with
      | string other =>
          rw [layOut, layOut] at same
          obtain ⟨sameValue, sameEnd⟩ := quote_append_inj same
          exact ⟨by rw [sameValue], sameEnd⟩
      | _ => cases sameKind
  | array items inductionHypothesis =>
      intro other valueEnd otherEnd valueEnds otherEnds same
      have sameKind := kind_eq same
      cases other with
      | array others =>
          rw [layOut_array, layOut_array, List.cons_append, List.cons_append, List.append_assoc,
            List.append_assoc] at same
          obtain ⟨sameItems, sameEnd⟩ := inside_append_inj
            (fun item member => inductionHypothesis item member (level + 1)) (by decide)
            (List.cons.inj same).2
          exact ⟨by rw [sameItems], sameEnd⟩
      | _ => cases sameKind
  | object fields inductionHypothesis =>
      intro other valueEnd otherEnd valueEnds otherEnds same
      have sameKind := kind_eq same
      cases other with
      | object others =>
          rw [layOut_object, layOut_object, List.cons_append, List.cons_append, List.append_assoc,
            List.append_assoc] at same
          obtain ⟨sameFields, sameEnd⟩ := inside_append_inj
            (fun field member => told_fieldText (inductionHypothesis field member (level + 1)))
            (by decide) (List.cons.inj same).2
          exact ⟨by rw [sameFields], sameEnd⟩
      | _ => cases sameKind

theorem render_injective {left right : Json} (same : left.render = right.render) :
    left = right := by
  have sameText : layOut 0 left ++ [] = layOut 0 right ++ [] := by
    rw [List.append_nil, List.append_nil]
    exact String.ofList_inj.mp same
  exact (told_layOut 0 left endsNumber_nil endsNumber_nil sameText).1

end SampleProfile.Json
