import SampleProfile.Text.Blank
import SampleProfile.Text.CharClass

/-!
# Patterns

A pattern describes stretches of a text.  Matching follows sets of positions through the pattern:
`Pattern.reach` takes the positions where a stretch may start to the positions where it may end.  A
set of positions is the number whose bits are set at them.
-/

namespace SampleProfile

/-- A class of characters. -/
inductive CharClass where
  | none
  | range (low high : Char)
  | digit
  | blank
  | word
  | either (left right : CharClass)
  | both (left right : CharClass)
  | except (excluded : CharClass)
  /-- A character of the class or one that differs from it by case only. -/
  | caseless (inner : CharClass)
deriving Inhabited

namespace CharClass

/-- The characters between two code points that lie a fixed distance away from a character. -/
def shifted (char : Char) (low high : Nat) (distance : Int) : List Char :=
  if low ≤ char.toNat ∧ char.toNat ≤ high then
    [Char.ofNat ((char.toNat : Int) + distance).toNat]
  else
    []

/-- A character and those that differ from it by case only, for the Latin, Greek and Cyrillic
letters. -/
def caseVariants (char : Char) : List Char :=
  [char] ++ shifted char 0x41 0x5A 32 ++ shifted char 0x61 0x7A (-32) ++
    shifted char 0xC0 0xD6 32 ++ shifted char 0xD8 0xDE 32 ++
    shifted char 0xE0 0xF6 (-32) ++ shifted char 0xF8 0xFE (-32) ++
    shifted char 0x391 0x3A1 32 ++ shifted char 0x3A3 0x3AB 32 ++
    shifted char 0x3B1 0x3C1 (-32) ++ shifted char 0x3C3 0x3CB (-32) ++
    shifted char 0x410 0x42F 32 ++ shifted char 0x430 0x44F (-32) ++
    shifted char 0x400 0x40F 80 ++ shifted char 0x450 0x45F (-80) ++
    (if (0x100 ≤ char.toNat ∧ char.toNat ≤ 0x137 ∧ char.toNat ≠ 0x130 ∧ char.toNat ≠ 0x131) ∨
        (0x14A ≤ char.toNat ∧ char.toNat ≤ 0x177) then
      [Char.ofNat (if char.toNat % 2 = 0 then char.toNat + 1 else char.toNat - 1)]
    else if (0x139 ≤ char.toNat ∧ char.toNat ≤ 0x148) ∨
        (0x179 ≤ char.toNat ∧ char.toNat ≤ 0x17E) then
      [Char.ofNat (if char.toNat % 2 = 1 then char.toNat + 1 else char.toNat - 1)]
    else
      []) ++
    (if char = 'k' ∨ char = 'K' then ['\u212A'] else []) ++
    (if char = '\u212A' then ['k', 'K'] else []) ++
    (if char = 's' ∨ char = 'S' then ['\u017F'] else []) ++
    (if char = '\u017F' then ['s', 'S'] else [])

/-- Whether a character belongs to the class. -/
def test : CharClass → Char → Bool
  | none, _ => false
  | range low high, char => low ≤ char && char ≤ high
  | digit, char => Text.isDigit char
  | blank, char => Text.isBlank char
  | word, char => Text.isWord char
  | either left right, char => left.test char || right.test char
  | both left right, char => left.test char && right.test char
  | except excluded, char => !excluded.test char
  | caseless inner, char => (caseVariants char).any inner.test

end CharClass

/-- What must hold between two characters of a text. -/
inductive Assertion where
  | textStart
  | textEnd
  | lineStart
  | lineEnd
  /-- A line start where a carriage return before a line feed belongs to the line end. -/
  | returnLineStart
  /-- A line end where a carriage return before a line feed belongs to the line end. -/
  | returnLineEnd
  | wordBoundary
  | noWordBoundary
  | wordStart
  | wordEnd
  | wordStartHalf
  | wordEndHalf
deriving DecidableEq, Repr

/-- Whether an assertion holds between the character before and the character after, each absent at
an end of the text. -/
def Assertion.holds (assertion : Assertion) (before after : Option Char) : Bool :=
  let wordBefore := before.any Text.isWord
  let wordAfter := after.any Text.isWord
  match assertion with
  | textStart => before.isNone
  | textEnd => after.isNone
  | lineStart => before.all (· = '\n')
  | lineEnd => after.all (· = '\n')
  | returnLineStart =>
      before.isNone || before = some '\n' || (before = some '\r' && after ≠ some '\n')
  | returnLineEnd =>
      after.isNone || after = some '\r' || (after = some '\n' && before ≠ some '\r')
  | wordBoundary => wordBefore != wordAfter
  | noWordBoundary => wordBefore == wordAfter
  | wordStart => !wordBefore && wordAfter
  | wordEnd => wordBefore && !wordAfter
  | wordStartHalf => !wordBefore
  | wordEndHalf => !wordAfter

/-- A pattern. -/
inductive Pattern where
  | empty
  | check (assertion : Assertion)
  | one (accepted : CharClass)
  | seq (first second : Pattern)
  | alt (left right : Pattern)
  /-- At least so many times, and at most so many times if a limit is given. -/
  | repeated (least : Nat) (most : Option Nat) (inner : Pattern)
deriving Inhabited

namespace Pattern

/-- The positions whose next character belongs to a class. -/
def positionsOf (accepted : CharClass) : List Char → Nat
  | [] => 0
  | char :: rest => (if accepted.test char then 1 else 0) + 2 * positionsOf accepted rest

/-- The positions at which an assertion holds, behind a given character. -/
def positionsWhere (assertion : Assertion) (before : Option Char) : List Char → Nat
  | [] => if assertion.holds before none then 1 else 0
  | char :: rest =>
      (if assertion.holds before (some char) then 1 else 0) +
        2 * positionsWhere assertion (some char) rest

/-- Adds what a step reaches, up to so many times or until nothing is added. -/
def saturate (step : Nat → Nat) : Nat → Nat → Nat
  | 0, positions => positions
  | rounds + 1, positions =>
      let further := positions ||| step positions
      if further = positions then positions else saturate step rounds further

/-- Repeats a step so many times, or until no position is left. -/
def iterate (step : Nat → Nat) : Nat → Nat → Nat
  | 0, positions => positions
  | rounds + 1, positions => if positions = 0 then 0 else iterate step rounds (step positions)

/-- The positions where a stretch that matches may end, if it starts at one of the given positions.
-/
def reach (text : List Char) : Pattern → Nat → Nat
  | empty, starts => starts
  | check assertion, starts => starts &&& positionsWhere assertion none text
  | one accepted, starts => (starts &&& positionsOf accepted text) <<< 1
  | seq first second, starts => reach text second (reach text first starts)
  | alt left right, starts => reach text left starts ||| reach text right starts
  | repeated least most inner, starts =>
      let rounds :=
        match most with
        | some most => min (most - least) (text.length + 1)
        | none => text.length + 1
      saturate (reach text inner) rounds (iterate (reach text inner) least starts)

/-- Whether some stretch of the text matches. -/
def matchesIn (pattern : Pattern) (text : String) : Bool :=
  let chars := text.toList
  reach chars pattern (Nat.pow 2 (chars.length + 1) - 1) ≠ 0

end Pattern

end SampleProfile
