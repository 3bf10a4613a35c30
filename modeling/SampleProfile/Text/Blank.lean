/-!
# Blanks and lines

Blanks are the characters with the Unicode property White_Space.  Lines end in a line feed; a
carriage return right before it belongs to the line end.
-/

namespace SampleProfile.Text

/-- Whether a character has the property White_Space. -/
def isBlank (char : Char) : Bool :=
  let code := char.toNat
  (0x09 ≤ code && code ≤ 0x0D) || code = 0x20 || code = 0x85 || code = 0xA0 || code = 0x1680 ||
    (0x2000 ≤ code && code ≤ 0x200A) || code = 0x2028 || code = 0x2029 || code = 0x202F ||
    code = 0x205F || code = 0x3000

/-- A text without the blanks at its end. -/
def trimEnd : List Char → List Char
  | [] => []
  | first :: rest =>
      match trimEnd rest with
      | [] => if isBlank first then [] else [first]
      | kept => first :: kept

/-- A text without the blanks at its two ends. -/
def trim (chars : List Char) : List Char :=
  trimEnd (chars.dropWhile isBlank)

/-- The part of a text before its first line feed, and the part after it if there is one. -/
def splitLine : List Char → List Char × Option (List Char)
  | [] => ([], none)
  | '\n' :: rest => ([], some rest)
  | char :: rest =>
      let tail := splitLine rest
      (char :: tail.1, tail.2)

theorem length_of_splitLine {chars rest : List Char} (found : (splitLine chars).2 = some rest) :
    rest.length < chars.length := by
  fun_induction splitLine chars with
  | case1 => simp at found
  | case2 tail => simp_all
  | case3 char tail _ _ inductionHypothesis =>
      have shorter := inductionHypothesis found
      simp only [List.length_cons]
      omega

/-- A line without the carriage return that may end it. -/
def dropReturn (line : List Char) : List Char :=
  if line.getLast? = some '\r' then line.dropLast else line

/-- The lines of a text; a line feed at the very end starts no further line. -/
def lines (chars : List Char) : List (List Char) :=
  match found : splitLine chars with
  | (line, some rest) =>
      have : rest.length < chars.length := length_of_splitLine (by rw [found])
      dropReturn line :: lines rest
  | ([], none) => []
  | (line, none) => [line]
termination_by chars.length

/-- The parts of a text between the places where a character stands. -/
def splitOn (separator : Char) : List Char → List (List Char)
  | [] => [[]]
  | char :: rest =>
      if char = separator then
        [] :: splitOn separator rest
      else
        match splitOn separator rest with
        | [] => [[char]]
        | part :: others => (char :: part) :: others

/-- The parts before and after the first occurrence of a text in another. -/
def cutAt (separator : List Char) : List Char → Option (List Char × List Char)
  | [] => if separator.isEmpty then some ([], []) else none
  | char :: rest =>
      if separator.isPrefixOf (char :: rest) then
        some ([], (char :: rest).drop separator.length)
      else
        (cutAt separator rest).map fun parts => (char :: parts.1, parts.2)

/-- The parts before and after the last occurrence of a character. -/
def cutAtLast (separator : Char) : List Char → Option (List Char × List Char)
  | [] => none
  | char :: rest =>
      match cutAtLast separator rest with
      | some parts => some (char :: parts.1, parts.2)
      | none => if char = separator then some ([], rest) else none

/-- A text without one given beginning, if it has that beginning. -/
def dropStart (start chars : List Char) : List Char :=
  if start.isPrefixOf chars then chars.drop start.length else chars

end SampleProfile.Text
