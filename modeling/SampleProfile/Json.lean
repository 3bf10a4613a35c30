/-!
# JSON documents

A document is laid out with one field or element a line, two blanks deeper for each level; an empty
list or object takes two characters.  Of a string only quotes, backslashes and control characters
are escaped.
-/

namespace SampleProfile

/-- A JSON value without fractions. -/
inductive Json where
  | integer (value : Int)
  | string (value : String)
  | array (items : List Json)
  | object (fields : List (String × Json))

namespace Json

/-- A character inside a string. -/
def escape (char : Char) : List Char :=
  match char with
  | '"' => ['\\', '"']
  | '\\' => ['\\', '\\']
  | '\x08' => ['\\', 'b']
  | '\t' => ['\\', 't']
  | '\n' => ['\\', 'n']
  | '\x0c' => ['\\', 'f']
  | '\r' => ['\\', 'r']
  | char =>
      if char.toNat < 0x20 then
        ['\\', 'u', '0', '0', Nat.digitChar (char.toNat / 16), Nat.digitChar (char.toNat % 16)]
      else
        [char]

/-- A string in quotes. -/
def quote (value : String) : List Char :=
  '"' :: (value.toList.flatMap escape ++ ['"'])

/-- A line end and the indentation of a level. -/
def newLine (level : Nat) : List Char :=
  '\n' :: List.replicate (2 * level) ' '

/-- The digits of an integer after a minus sign if it is negative. -/
def integerText (value : Int) : List Char :=
  if value < 0 then '-' :: Nat.toDigits 10 value.natAbs else Nat.toDigits 10 value.natAbs

/-- Texts with a comma after all but the last. -/
def separated : List (List Char) → List Char
  | [] => []
  | [last] => last
  | first :: rest => first ++ ',' :: separated rest

mutual

/-- A value at a level of indentation. -/
def layOut (level : Nat) : Json → List Char
  | integer value => integerText value
  | string value => quote value
  | array [] => ['[', ']']
  | array (first :: rest) =>
      '[' :: (separated (layOutItems (level + 1) (first :: rest)) ++ newLine level ++ [']'])
  | object [] => ['\x7b', '\x7d']
  | object (first :: rest) =>
      '\x7b' ::
        (separated (layOutFields (level + 1) (first :: rest)) ++ newLine level ++ ['\x7d'])

/-- The elements of a list, each on a line of its own. -/
def layOutItems (level : Nat) : List Json → List (List Char)
  | [] => []
  | first :: rest => (newLine level ++ layOut level first) :: layOutItems level rest

/-- The fields of an object, each on a line of its own. -/
def layOutFields (level : Nat) : List (String × Json) → List (List Char)
  | [] => []
  | (name, value) :: rest =>
      (newLine level ++ quote name ++ ':' :: ' ' :: layOut level value) ::
        layOutFields level rest

end

/-- The text of a document. -/
def render (document : Json) : String :=
  String.ofList (layOut 0 document)

end Json

end SampleProfile
