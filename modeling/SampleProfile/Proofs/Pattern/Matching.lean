import Mathlib.Data.Nat.Bitwise
import SampleProfile.Pattern

/-!
# What patterns match

`Pattern.Spans` says from where to where a pattern matches in a text, construct by construct.  Sets
of positions follow it exactly (`follows_reach`), although repetitions are only followed for as many
rounds as the text has positions: no match leads backwards, so that rounds which do not move can be
left out.
-/

namespace SampleProfile.Pattern

/-! ## Spans -/

/-- So many steps of a relation, one after the other. -/
def Steps (step : Nat → Nat → Prop) : Nat → Nat → Nat → Prop
  | 0, start, stop => start = stop
  | count + 1, start, stop => ∃ middle, step start middle ∧ Steps step count middle stop

/-- The character before a position of a text, where another text may stand in front. -/
def charBefore? (front : Option Char) (text : List Char) : Nat → Option Char
  | 0 => front
  | place + 1 => text[place]?

/-- A pattern matches the stretch of the text between two positions. -/
def Spans (text : List Char) : Pattern → Nat → Nat → Prop
  | empty, start, stop => start = stop
  | check assertion, start, stop =>
      start = stop ∧ assertion.holds (charBefore? none text start) text[start]?
  | one accepted, start, stop =>
      (∃ char, text[start]? = some char ∧ accepted.test char) ∧ stop = start + 1
  | seq first second, start, stop =>
      ∃ middle, Spans text first start middle ∧ Spans text second middle stop
  | alt left right, start, stop => Spans text left start stop ∨ Spans text right start stop
  | repeated least most inner, start, stop =>
      ∃ count, least ≤ count ∧ (∀ limit ∈ most, count ≤ max least limit) ∧
        Steps (Spans text inner) count start stop

/-- A relation between positions of a text that never leads backwards or out of the text. -/
def Forward (text : List Char) (step : Nat → Nat → Prop) : Prop :=
  ∀ start stop, step start stop → start ≤ stop ∧ (start ≤ text.length → stop ≤ text.length)

section Steps

variable {text : List Char} {step : Nat → Nat → Prop} {start stop : Nat}

theorem steps_add (first second : Nat) :
    Steps step (first + second) start stop ↔
      ∃ middle, Steps step first start middle ∧ Steps step second middle stop := by
  induction first generalizing start with
  | zero => simp [Steps]
  | succ first inductionHypothesis =>
      rw [Nat.succ_add]
      simp only [Steps, inductionHypothesis]
      constructor
      · rintro ⟨next, moved, middle, before, after⟩
        exact ⟨middle, ⟨next, moved, before⟩, after⟩
      · rintro ⟨middle, ⟨next, moved, before⟩, after⟩
        exact ⟨next, moved, middle, before, after⟩

theorem Forward.steps (forward : Forward text step) (count : Nat) :
    Forward text (Steps step count) := by
  induction count with
  | zero =>
      rintro start _ rfl
      exact ⟨Nat.le_refl start, id⟩
  | succ count inductionHypothesis =>
      rintro start stop ⟨middle, moved, rest⟩
      have first := forward start middle moved
      have others := inductionHypothesis middle stop rest
      exact ⟨first.1.trans others.1, others.2 ∘ first.2⟩

/-- Steps that do not move can be left out. -/
theorem Forward.exists_steps_le (forward : Forward text step) {count : Nat}
    (steps : Steps step count start stop) :
    ∃ fewer ≤ count, fewer ≤ stop - start ∧ Steps step fewer start stop := by
  induction count generalizing start with
  | zero => exact ⟨0, Nat.le_refl 0, Nat.zero_le _, steps⟩
  | succ count inductionHypothesis =>
      obtain ⟨middle, moved, rest⟩ := steps
      obtain ⟨fewer, fewerLe, bounded, kept⟩ := inductionHypothesis rest
      rcases (forward start middle moved).1.eq_or_lt with rfl | onward
      · exact ⟨fewer, Nat.le_succ_of_le fewerLe, bounded, kept⟩
      · have reaches := (forward.steps fewer middle stop kept).1
        exact ⟨fewer + 1, Nat.succ_le_succ fewerLe, by omega, middle, moved, kept⟩

end Steps

theorem forward_spans (text : List Char) (pattern : Pattern) :
    Forward text (Spans text pattern) := by
  induction pattern with
  | empty =>
      rintro start _ rfl
      exact ⟨Nat.le_refl start, id⟩
  | check assertion =>
      rintro start _ ⟨rfl, _⟩
      exact ⟨Nat.le_refl start, id⟩
  | one accepted =>
      rintro start _ ⟨⟨char, found, _⟩, rfl⟩
      have inside := (List.getElem?_eq_some_iff.mp found).1
      exact ⟨Nat.le_succ start, fun _ => inside⟩
  | seq first second firstForward secondForward =>
      rintro start stop ⟨middle, before, after⟩
      have moved := firstForward start middle before
      have movedAgain := secondForward middle stop after
      exact ⟨moved.1.trans movedAgain.1, movedAgain.2 ∘ moved.2⟩
  | alt left right leftForward rightForward =>
      rintro start stop (spans | spans)
      · exact leftForward start stop spans
      · exact rightForward start stop spans
  | repeated least most inner innerForward =>
      rintro start stop ⟨count, _, _, steps⟩
      exact innerForward.steps count start stop steps

/-! ## Sets of positions -/

/-- All positions of a set lie in a text. -/
def InText (text : List Char) (positions : Nat) : Prop :=
  ∀ place, positions.testBit place → place ≤ text.length

/-- From the positions of a set a step leads exactly to those of another. -/
def Follows (text : List Char) (advance : Nat → Nat) (step : Nat → Nat → Prop) : Prop :=
  ∀ positions, InText text positions → ∀ stop,
    (advance positions).testBit stop ↔ ∃ start, positions.testBit start ∧ step start stop

section Positions

variable {text : List Char} {advance : Nat → Nat} {step : Nat → Nat → Prop} {positions : Nat}

theorem testBit_cons (first : Bool) (rest : Nat) (place : Nat) :
    ((if first then 1 else 0) + 2 * rest).testBit place =
      match place with
      | 0 => first
      | place + 1 => rest.testBit place := by
  cases place with
  | zero => cases first <;> simp
  | succ place =>
      rw [Nat.testBit_succ]
      congr 1
      split <;> omega

theorem testBit_positionsOf (accepted : CharClass) (text : List Char) (place : Nat) :
    (positionsOf accepted text).testBit place ↔
      ∃ char, text[place]? = some char ∧ accepted.test char := by
  induction text generalizing place with
  | nil => simp [positionsOf]
  | cons char rest inductionHypothesis =>
      rw [positionsOf, testBit_cons]
      cases place with
      | zero => simp
      | succ place => simp [inductionHypothesis]

theorem charBefore?_cons (front : Option Char) (char : Char) (rest : List Char) (place : Nat) :
    charBefore? front (char :: rest) (place + 1) = charBefore? (some char) rest place := by
  cases place <;> rfl

theorem testBit_positionsWhere (assertion : Assertion) (front : Option Char) (text : List Char)
    (place : Nat) :
    (positionsWhere assertion front text).testBit place ↔
      place ≤ text.length ∧ assertion.holds (charBefore? front text place) text[place]? := by
  induction text generalizing front place with
  | nil =>
      cases place with
      | zero => cases held : assertion.holds front none <;> simp [positionsWhere, charBefore?, held]
      | succ place =>
          have single : positionsWhere assertion front [] < 2 ^ (place + 1) := by
            have twoLe := Nat.pow_le_pow_right (by omega : 0 < 2) (Nat.le_add_left 1 place)
            rw [positionsWhere]
            split <;> omega
          simp [Nat.testBit_lt_two_pow single]
  | cons char rest inductionHypothesis =>
      rw [positionsWhere, testBit_cons]
      cases place with
      | zero => simp [charBefore?]
      | succ place => simp [inductionHypothesis, charBefore?_cons]

theorem InText.of_follows (inText : InText text positions) (follows : Follows text advance step)
    (forward : Forward text step) : InText text (advance positions) := by
  intro stop reached
  obtain ⟨start, started, moved⟩ := (follows positions inText stop).mp reached
  exact (forward start stop moved).2 (inText start started)

theorem Follows.iterate (follows : Follows text advance step) (forward : Forward text step)
    (count : Nat) : Follows text (Pattern.iterate advance count) (Steps step count) := by
  induction count with
  | zero =>
      intro positions _ stop
      simp [Pattern.iterate, Steps]
  | succ count inductionHypothesis =>
      intro positions inText stop
      rw [Pattern.iterate]
      split
      · next noneLeft => simp [noneLeft]
      · rw [inductionHypothesis _ (inText.of_follows follows forward)]
        simp only [follows positions inText, Steps]
        constructor
        · rintro ⟨middle, ⟨start, started, moved⟩, rest⟩
          exact ⟨start, started, middle, moved, rest⟩
        · rintro ⟨start, started, middle, moved, rest⟩
          exact ⟨middle, ⟨start, started, moved⟩, rest⟩

/-- Positions to which a step adds nothing are not left by any number of steps. -/
theorem Follows.testBit_of_steps (follows : Follows text advance step)
    (inText : InText text positions)
    (closed : positions ||| advance positions = positions) {count start stop : Nat}
    (started : positions.testBit start) (steps : Steps step count start stop) :
    positions.testBit stop := by
  induction count generalizing start with
  | zero =>
      obtain rfl := steps
      exact started
  | succ count inductionHypothesis =>
      obtain ⟨middle, moved, rest⟩ := steps
      have reached : (advance positions).testBit middle :=
        (follows positions inText middle).mpr ⟨start, started, moved⟩
      refine inductionHypothesis ?_ rest
      rw [← closed, Nat.testBit_or, reached, Bool.or_true]

theorem Follows.saturate (follows : Follows text advance step) (forward : Forward text step)
    (rounds : Nat) :
    Follows text (Pattern.saturate advance rounds)
      (fun start stop => ∃ count ≤ rounds, Steps step count start stop) := by
  induction rounds with
  | zero =>
      intro positions _ stop
      simp [Pattern.saturate, Steps]
  | succ rounds inductionHypothesis =>
      intro positions inText stop
      rw [Pattern.saturate]
      split
      · next closed =>
        constructor
        · intro reached
          exact ⟨stop, reached, 0, Nat.zero_le _, rfl⟩
        · rintro ⟨start, started, count, _, steps⟩
          exact follows.testBit_of_steps inText closed started steps
      · have onward : InText text (positions ||| advance positions) := by
          intro place reached
          rw [Nat.testBit_or, Bool.or_eq_true] at reached
          rcases reached with reached | reached
          · exact inText place reached
          · exact inText.of_follows follows forward place reached
        rw [inductionHypothesis _ onward]
        simp only [Nat.testBit_or, Bool.or_eq_true, follows positions inText]
        constructor
        · rintro ⟨middle, started | ⟨start, started, moved⟩, count, countLe, rest⟩
          · exact ⟨middle, started, count, Nat.le_succ_of_le countLe, rest⟩
          · exact ⟨start, started, count + 1, Nat.succ_le_succ countLe, middle, moved, rest⟩
        · rintro ⟨start, started, count, countLe, steps⟩
          cases count with
          | zero => exact ⟨start, .inl started, 0, Nat.zero_le _, steps⟩
          | succ count =>
              obtain ⟨middle, moved, rest⟩ := steps
              exact ⟨middle, .inr ⟨start, started, moved⟩, count, Nat.le_of_succ_le_succ countLe,
                rest⟩

end Positions

/-! ## Reaching and matching -/

theorem repeated_spans_iff {text : List Char} {step : Nat → Nat → Prop}
    (forward : Forward text step)
    (least : Nat) (most : Option Nat) {start stop : Nat} (inside : start ≤ text.length) :
    (∃ count, least ≤ count ∧ (∀ limit ∈ most, count ≤ max least limit) ∧
      Steps step count start stop) ↔
      ∃ middle, Steps step least start middle ∧
        ∃ count ≤ (match most with
          | some most => min (most - least) (text.length + 1)
          | none => text.length + 1), Steps step count middle stop := by
  constructor
  · rintro ⟨count, leastLe, bounded, steps⟩
    obtain ⟨further, rfl⟩ := Nat.exists_eq_add_of_le leastLe
    obtain ⟨middle, before, after⟩ := (steps_add least further).mp steps
    obtain ⟨fewer, fewerLe, short, kept⟩ := forward.exists_steps_le after
    have stopInside := (forward.steps _ start stop steps).2 inside
    refine ⟨middle, before, fewer, ?_, kept⟩
    cases most with
    | none => simp only; omega
    | some most =>
        have := bounded most rfl
        simp only
        omega
  · rintro ⟨middle, before, count, countLe, after⟩
    refine ⟨least + count, Nat.le_add_right _ _, ?_,
      (steps_add least count).mpr ⟨middle, before, after⟩⟩
    rintro limit rfl
    simp only at countLe
    omega

/-- Sets of positions follow a pattern exactly. -/
theorem follows_reach (text : List Char) (pattern : Pattern) :
    Follows text (reach text pattern) (Spans text pattern) := by
  induction pattern with
  | empty =>
      intro positions _ stop
      simp [reach, Spans]
  | check assertion =>
      intro positions inText stop
      simp only [reach, Spans, Nat.testBit_and, Bool.and_eq_true, testBit_positionsWhere]
      constructor
      · rintro ⟨started, _, held⟩
        exact ⟨stop, started, rfl, held⟩
      · rintro ⟨start, started, rfl, held⟩
        exact ⟨started, inText start started, held⟩
  | one accepted =>
      intro positions inText stop
      simp only [reach, Spans, Nat.testBit_shiftLeft, Nat.testBit_and, Bool.and_eq_true,
        testBit_positionsOf, decide_eq_true_eq]
      constructor
      · rintro ⟨positive, started, found⟩
        exact ⟨stop - 1, started, found, by omega⟩
      · rintro ⟨start, started, found, rfl⟩
        exact ⟨Nat.le_add_left 1 start, started, found⟩
  | seq first second firstFollows secondFollows =>
      intro positions inText stop
      have onward := inText.of_follows firstFollows (forward_spans text first)
      simp only [reach, Spans, secondFollows _ onward, firstFollows _ inText]
      constructor
      · rintro ⟨middle, ⟨start, started, before⟩, after⟩
        exact ⟨start, started, middle, before, after⟩
      · rintro ⟨start, started, middle, before, after⟩
        exact ⟨middle, ⟨start, started, before⟩, after⟩
  | alt left right leftFollows rightFollows =>
      intro positions inText stop
      simp only [reach, Spans, Nat.testBit_or, Bool.or_eq_true, leftFollows _ inText,
        rightFollows _ inText]
      constructor
      · rintro (⟨start, started, spans⟩ | ⟨start, started, spans⟩)
        · exact ⟨start, started, .inl spans⟩
        · exact ⟨start, started, .inr spans⟩
      · rintro ⟨start, started, spans | spans⟩
        · exact .inl ⟨start, started, spans⟩
        · exact .inr ⟨start, started, spans⟩
  | repeated least most inner innerFollows =>
      intro positions inText stop
      have forward := forward_spans text inner
      have iterated := innerFollows.iterate forward least
      have onward := inText.of_follows iterated (forward.steps least)
      simp only [reach, Spans, innerFollows.saturate forward _ _ onward, iterated _ inText]
      constructor
      · rintro ⟨middle, ⟨start, started, before⟩, after⟩
        exact ⟨start, started,
          (repeated_spans_iff forward least most (inText start started)).mpr
            ⟨middle, before, after⟩⟩
      · rintro ⟨start, started, spans⟩
        obtain ⟨middle, before, after⟩ :=
          (repeated_spans_iff forward least most (inText start started)).mp spans
        exact ⟨middle, ⟨start, started, before⟩, after⟩

/-- A pattern matches in a text if it matches some stretch of it. -/
theorem matchesIn_iff (pattern : Pattern) (text : String) :
    pattern.matchesIn text ↔
      ∃ start ≤ text.toList.length, ∃ stop, Spans text.toList pattern start stop := by
  have everywhere : ∀ place, (Nat.pow 2 (text.toList.length + 1) - 1).testBit place ↔
      place ≤ text.toList.length := by
    intro place
    rw [Nat.pow_eq, Nat.testBit_two_pow_sub_one, decide_eq_true_eq, Nat.lt_succ_iff]
  have follows := follows_reach text.toList pattern _ fun place => (everywhere place).mp
  simp only [everywhere] at follows
  rw [matchesIn, decide_eq_true_eq]
  constructor
  · intro someReached
    obtain ⟨stop, reached⟩ := Nat.exists_testBit_of_ne_zero someReached
    obtain ⟨start, inside, spans⟩ := (follows stop).mp reached
    exact ⟨start, inside, stop, spans⟩
  · rintro ⟨start, inside, stop, spans⟩ noneReached
    have reached := (follows stop).mpr ⟨start, inside, spans⟩
    rw [noneReached, Nat.zero_testBit] at reached
    exact Bool.false_ne_true reached

end SampleProfile.Pattern
