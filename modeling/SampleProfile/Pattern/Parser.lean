import SampleProfile.Pattern
import SampleProfile.Text.Integer

/-!
# The notation of patterns

Literals, classes in brackets with nesting and set operations, groups with flags, alternatives and
repetitions.  A text is read token by token; a stack of levels holds what has been read of each
group that is still open.
-/

namespace SampleProfile.Pattern

/-- Why a text is no pattern. -/
inductive SyntaxFault where
  | unclosedGroup
  | unopenedGroup
  | badGroupName
  | repeatedGroupName
  | badFlags
  | nothingToRepeat
  | badCount
  | badEscape
  | badClass
  | badClassRange
  | lookAround
  | notText
  | tooDeep
  | tooLarge
deriving DecidableEq, Repr

/-- The wording of a fault. -/
def SyntaxFault.message : SyntaxFault → String
  | unclosedGroup => "unclosed group"
  | unopenedGroup => "unopened group"
  | badGroupName => "invalid capture group name"
  | repeatedGroupName => "duplicate capture group name"
  | badFlags => "invalid flags"
  | nothingToRepeat => "repetition operator missing expression"
  | badCount => "invalid repetition count"
  | badEscape => "unrecognized escape sequence"
  | badClass => "invalid character class"
  | badClassRange => "invalid character class range"
  | lookAround => "look-around, including look-ahead and look-behind, is not supported"
  | notText => "pattern can match invalid UTF-8"
  | tooDeep => "exceeded the maximum number of nested parentheses/brackets"
  | tooLarge => "compiled regex exceeds size limit"

/-- The modes that change the meaning of what follows. -/
structure Flags where
  caseless : Bool := false
  multiLine : Bool := false
  dotAll : Bool := false
  returnLines : Bool := false
  swapGreed : Bool := false
  unicode : Bool := true
  /-- Blanks and comments between tokens are skipped. -/
  verbose : Bool := false
deriving DecidableEq, Repr

/-- Sets the flag of a letter. -/
def Flags.set? (flags : Flags) (letter : Char) (value : Bool) : Option Flags :=
  match letter with
  | 'i' => some { flags with caseless := value }
  | 'm' => some { flags with multiLine := value }
  | 's' => some { flags with dotAll := value }
  | 'R' => some { flags with returnLines := value }
  | 'U' => some { flags with swapGreed := value }
  | 'u' => some { flags with unicode := value }
  | 'x' => some { flags with verbose := value }
  | _ => none

/-- The characters with a meaning of their own somewhere in the notation. -/
def metaCharacters : List Char :=
  ['\\', '.', '+', '*', '?', '(', ')', '|', '[', ']', '\x7b', '\x7d', '^', '$', '#', '&', '-', '~']

/-- A text with a backslash before every character that has a meaning of its own. -/
def escape (text : String) : String :=
  String.ofList <| text.toList.flatMap fun char =>
    if metaCharacters.contains char then ['\\', char] else [char]

/-- Whether a backslash makes a literal of a character. -/
def isEscapable (char : Char) : Bool :=
  metaCharacters.contains char ||
    (char.toNat < 128 && !char.isAlphanum && char ≠ '<' && char ≠ '>')

/-- Skips a comment up to its line end. -/
def skipComment (chars : List Char) : List Char :=
  (chars.dropWhile (· ≠ '\n')).drop 1

/-- Skips blanks and comments if the mode says so; the number bounds the comments skipped. -/
def skip (verbose : Bool) : Nat → List Char → List Char
  | 0, chars => chars
  | comments + 1, chars =>
      if verbose then
        match chars.dropWhile Text.isBlank with
        | '#' :: rest => skip verbose comments (skipComment rest)
        | rest => rest
      else
        chars

/-- Skips blanks and comments if the flags say so. -/
def Flags.skip (flags : Flags) (chars : List Char) : List Char :=
  Pattern.skip flags.verbose (chars.length + 1) chars

/-- The character of a code point. -/
def charOf? (code : Nat) : Option Char :=
  if h : code.isValidChar then some (Char.ofNatAux code h) else none

/-- Hexadecimal digits, all of a text and at least one. -/
def hexValue? (digits : List Char) : Option Nat :=
  if digits.isEmpty then
    none
  else
    digits.foldl (fun value digit => do pure ((← value) * 16 + (← Text.digit? 16 digit))) (some 0)

/-- A hexadecimal escape: digits in braces, or as many as the letter says. -/
def hexEscape? (digits : Nat) (chars : List Char) : Option (Char × List Char) :=
  match chars with
  | '\x7b' :: rest =>
      let inner := rest.takeWhile (· ≠ '\x7d')
      match rest.drop inner.length with
      | _ :: rest => do pure (← charOf? (← hexValue? inner), rest)
      | [] => none
  | chars =>
      if chars.length < digits then
        none
      else do
        pure (← charOf? (← hexValue? (chars.take digits)), chars.drop digits)

/-- A word boundary that is named in braces. -/
def namedBoundary? (name : String) : Option Assertion :=
  match name with
  | "start" => some .wordStart
  | "end" => some .wordEnd
  | "start-half" => some .wordStartHalf
  | "end-half" => some .wordEndHalf
  | _ => none

/-- A single token that needs no further context. -/
inductive Primitive where
  | literal (char : Char)
  | characters (accepted : CharClass)
  | assertion (assertion : Assertion)

/-- A class that is written as a backslash and a letter; for capitals the class of all other
characters. -/
def letterClass (flags : Flags) (accepted ascii : CharClass) (negated : Bool) :
    Except SyntaxFault Primitive :=
  if flags.unicode then
    .ok (.characters (if negated then .except accepted else accepted))
  else if negated then
    .error .notText
  else
    .ok (.characters (.both ascii accepted))

/-- The characters below 128. -/
def asciiClass : CharClass := .range '\x00' '\x7f'

/-- Reads what follows a backslash. -/
def readEscape (flags : Flags) : List Char → Except SyntaxFault (Primitive × List Char)
  | [] => .error .badEscape
  | char :: rest =>
      let literal := fun char : Char => Except.ok (Primitive.literal char, rest)
      let letter := fun (accepted : CharClass) (negated : Bool) =>
        (letterClass flags accepted asciiClass negated).map (·, rest)
      let assertion := fun held : Assertion => Except.ok (Primitive.assertion held, rest)
      let hexadecimal := fun digits : Nat =>
        match hexEscape? digits rest with
        | some (char, rest) =>
            if !flags.unicode && char.toNat ≥ 128 then
              Except.error SyntaxFault.notText
            else
              Except.ok (Primitive.literal char, rest)
        | none => Except.error SyntaxFault.badEscape
      match char with
      | 'x' => hexadecimal 2
      | 'u' => hexadecimal 4
      | 'U' => hexadecimal 8
      | 'd' => letter .digit false
      | 'D' => letter .digit true
      | 's' => letter .blank false
      | 'S' => letter .blank true
      | 'w' => letter .word false
      | 'W' => letter .word true
      | 'a' => literal '\x07'
      | 'f' => literal '\x0c'
      | 't' => literal '\t'
      | 'n' => literal '\n'
      | 'r' => literal '\r'
      | 'v' => literal '\x0b'
      | 'A' => assertion .textStart
      | 'z' => assertion .textEnd
      | 'B' => assertion .noWordBoundary
      | '<' => assertion .wordStart
      | '>' => assertion .wordEnd
      | 'b' =>
          match rest with
          | '\x7b' :: named =>
              let name := named.takeWhile (· ≠ '\x7d')
              match namedBoundary? (String.ofList name) with
              | some held => .ok (.assertion held, named.drop (name.length + 1))
              | none =>
                  match name with
                  | first :: _ =>
                      if first.isAlpha || first = '-' then
                        .error .badEscape
                      else
                        assertion .wordBoundary
                  | [] => assertion .wordBoundary
          | _ => assertion .wordBoundary
      | char => if isEscapable char then literal char else .error .badEscape

/-- The classes that are written by name inside brackets. -/
def namedClass? (name : String) : Option CharClass :=
  let lower := CharClass.range 'a' 'z'
  let upper := CharClass.range 'A' 'Z'
  let decimal := CharClass.range '0' '9'
  let alpha := CharClass.either lower upper
  let alnum := CharClass.either alpha decimal
  let graph := CharClass.range '!' '~'
  match name with
  | "alnum" => some alnum
  | "alpha" => some alpha
  | "ascii" => some asciiClass
  | "blank" => some (.either (.range '\t' '\t') (.range ' ' ' '))
  | "cntrl" => some (.either (.range '\x00' '\x1f') (.range '\x7f' '\x7f'))
  | "digit" => some decimal
  | "graph" => some graph
  | "lower" => some lower
  | "print" => some (.range ' ' '~')
  | "punct" => some (.both graph (.except alnum))
  | "space" => some (.either (.range '\t' '\r') (.range ' ' ' '))
  | "upper" => some upper
  | "word" => some (.either alnum (.range '_' '_'))
  | "xdigit" => some (.either decimal (.either (.range 'a' 'f') (.range 'A' 'F')))
  | _ => none

/-- A named class `[:name:]` or its complement `[:^name:]`. -/
def readNamedClass? (chars : List Char) : Option (CharClass × List Char) :=
  match chars with
  | '[' :: ':' :: rest =>
      let (negated, rest) :=
        match rest with
        | '^' :: rest => (true, rest)
        | rest => (false, rest)
      let name := rest.takeWhile (· ≠ ':')
      match rest.drop name.length with
      | ':' :: ']' :: rest =>
          (namedClass? (String.ofList name)).map fun named =>
            (if negated then .except named else named, rest)
      | _ => none
  | _ => none

/-- An item of a class: a literal character, or a class given by a letter. -/
def readClassItem (flags : Flags) : List Char → Except SyntaxFault (Primitive × List Char)
  | [] => .error .badClass
  | '\\' :: rest =>
      match readEscape flags rest with
      | .ok (.assertion _, _) => .error .badEscape
      | answer => answer
  | char :: rest => .ok (.literal char, rest)

/-- The class of an item. -/
def Primitive.toClass : Primitive → CharClass
  | literal char => .range char char
  | characters accepted => accepted
  | assertion _ => .none

/-- A single item, or a range of characters. -/
def readClassRange (flags : Flags) (chars : List Char) :
    Except SyntaxFault (CharClass × List Char) := do
  let (first, rest) ← readClassItem flags chars
  match flags.skip rest with
  | [] => .error .badClass
  | '-' :: after =>
      match flags.skip after with
      | ']' :: _ => .ok (first.toClass, flags.skip rest)
      | '-' :: _ => .ok (first.toClass, flags.skip rest)
      | [] => .error .badClass
      | after => do
          let (last, rest) ← readClassItem flags after
          match first, last with
          | .literal low, .literal high =>
              if low ≤ high then .ok (.range low high, rest) else .error .badClassRange
          | _, _ => .error .badClassRange
  | rest => .ok (first.toClass, rest)

/-- Set operations between the items of a class. -/
inductive SetOperation where
  | intersection
  | difference
  | symmetricDifference

/-- Applies a set operation. -/
def SetOperation.apply (operation : SetOperation) (left right : CharClass) : CharClass :=
  match operation with
  | intersection => .both left right
  | difference => .both left (.except right)
  | symmetricDifference => .either (.both left (.except right)) (.both right (.except left))

/-- What has been read of a class in brackets. -/
structure OpenClass where
  negated : Bool
  /-- The items since the last set operation. -/
  items : CharClass := .none
  /-- The left side of the last set operation. -/
  pending : Option (CharClass × SetOperation) := none

/-- Applies the case mode. -/
def Flags.fold (flags : Flags) (accepted : CharClass) : CharClass :=
  if flags.caseless then .caseless accepted else accepted

/-- Everything read so far, with the last set operation applied. -/
def OpenClass.value (current : OpenClass) (flags : Flags) : CharClass :=
  match current.pending with
  | none => flags.fold current.items
  | some (left, operation) => operation.apply left (flags.fold current.items)

/-- Opens a class behind its bracket: a caret negates it, and hyphens and one closing bracket at the
start are literals. -/
def openClass (flags : Flags) (chars : List Char) : OpenClass × List Char :=
  let (negated, chars) :=
    match flags.skip chars with
    | '^' :: rest => (true, flags.skip rest)
    | chars => (false, chars)
  let hyphens := chars.takeWhile (· = '-')
  let rest := flags.skip (chars.drop hyphens.length)
  if hyphens.isEmpty then
    match rest with
    | ']' :: rest => (⟨negated, .range ']' ']', none⟩, rest)
    | rest => (⟨negated, .none, none⟩, rest)
  else
    (⟨negated, .range '-' '-', none⟩, rest)

/-- Adds an item to a class. -/
def OpenClass.add (current : OpenClass) (item : CharClass) : OpenClass :=
  { current with items := .either current.items item }

/-- Starts the right side of a set operation. -/
def OpenClass.operate (current : OpenClass) (flags : Flags) (operation : SetOperation) :
    OpenClass :=
  { current with items := .none, pending := some (current.value flags, operation) }

/-- Reads classes in brackets, the innermost first, up to the end of the outermost; the number
bounds the tokens. -/
def readClass (flags : Flags) :
    Nat → OpenClass → List OpenClass → List Char → Except SyntaxFault (CharClass × List Char)
  | 0, _, _, _ => .error .badClass
  | tokens + 1, current, outer, chars =>
      match flags.skip chars with
      | [] => .error .badClass
      | '[' :: rest =>
          match readNamedClass? ('[' :: rest) with
          | some (named, rest) => readClass flags tokens (current.add named) outer rest
          | none =>
              let (inner, rest) := openClass flags rest
              readClass flags tokens inner (current :: outer) rest
      | ']' :: rest =>
          let value := current.value flags
          let closed := if current.negated then CharClass.except value else value
          if current.negated && !flags.unicode then
            .error .notText
          else
            match outer with
            | [] => .ok (closed, rest)
            | next :: outer => readClass flags tokens (next.add closed) outer rest
      | '&' :: '&' :: rest =>
          readClass flags tokens (current.operate flags .intersection) outer rest
      | '-' :: '-' :: rest =>
          readClass flags tokens (current.operate flags .difference) outer rest
      | '~' :: '~' :: rest =>
          readClass flags tokens (current.operate flags .symmetricDifference) outer rest
      | chars =>
          match readClassRange flags chars with
          | .ok (item, rest) => readClass flags tokens (current.add item) outer rest
          | .error fault => .error fault

/-- An element of a sequence.  A setting of flags cannot be repeated. -/
inductive Item where
  | pattern (pattern : Pattern)
  | flags

/-- What has been read of a group. -/
structure Level where
  /-- The flags in force around the group. -/
  outerFlags : Flags
  /-- The alternatives before the current one, the latest first. -/
  branches : List Pattern := []
  /-- The elements of the current alternative, the latest first. -/
  items : List Item := []

/-- The elements one after the other. -/
def Level.sequence (level : Level) : Pattern :=
  level.items.foldl
    (fun pattern item =>
      match item with
      | .pattern first => .seq first pattern
      | .flags => pattern)
    .empty

/-- All alternatives. -/
def Level.value (level : Level) : Pattern :=
  level.branches.foldl (fun pattern branch => .alt branch pattern) level.sequence

/-- Adds an element. -/
def Level.push (level : Level) (pattern : Pattern) : Level :=
  { level with items := .pattern pattern :: level.items }

/-- What has been read of a pattern. -/
structure Progress where
  flags : Flags := {}
  level : Level
  /-- The groups around the current one, the innermost first. -/
  outer : List Level := []
  names : List String := []

/-- The name of a group, up to its closing bracket. -/
def readName (names : List String) (chars : List Char) :
    Except SyntaxFault (String × List Char) :=
  let name := chars.takeWhile (· ≠ '>')
  match chars.drop name.length, name with
  | _ :: rest, first :: others =>
      let starts := first = '_' || (Text.isWord first && !Text.isDigit first)
      let continues := others.all fun char =>
        char = '_' || char = '.' || char = '[' || char = ']' || Text.isWord char
      if !(starts && continues) then
        .error .badGroupName
      else if names.contains (String.ofList name) then
        .error .repeatedGroupName
      else
        .ok (String.ofList name, rest)
  | _, _ => .error .badGroupName

/-- Reads flag letters up to a colon or a closing parenthesis, each at most once, with one sign
between them. -/
def readFlags (flags : Flags) (seen : List Char) : List Char →
    Except SyntaxFault (Flags × List Char × List Char)
  | [] => .error .badFlags
  | char :: rest =>
      if char = ':' ∨ char = ')' then
        if seen.head? = some '-' then .error .badFlags else .ok (flags, seen, char :: rest)
      else if seen.contains char then
        .error .badFlags
      else if char = '-' then
        readFlags flags (char :: seen) rest
      else
        match flags.set? char (!seen.contains '-') with
        | some flags => readFlags flags (char :: seen) rest
        | none => .error .badFlags

/-- The depth to which groups may be nested. -/
def nestingLimit : Nat := 250

/-- Opens a group behind its parenthesis, or sets flags. -/
def openGroup (progress : Progress) (chars : List Char) :
    Except SyntaxFault (Progress × List Char) :=
  let descend := fun (flags : Flags) (names : List String) (rest : List Char) =>
    if progress.outer.length ≥ nestingLimit then
      Except.error SyntaxFault.tooDeep
    else
      Except.ok
        ({ flags, level := { outerFlags := progress.flags }
           outer := progress.level :: progress.outer, names }, rest)
  let named := fun rest : List Char => do
    let (name, rest) ← readName progress.names rest
    descend progress.flags (name :: progress.names) rest
  match progress.flags.skip chars with
  | '?' :: '=' :: _ => .error .lookAround
  | '?' :: '!' :: _ => .error .lookAround
  | '?' :: '<' :: '=' :: _ => .error .lookAround
  | '?' :: '<' :: '!' :: _ => .error .lookAround
  | '?' :: 'P' :: '<' :: rest => named rest
  | '?' :: '<' :: rest => named rest
  | '?' :: rest => do
      let (flags, seen, rest) ← readFlags progress.flags [] rest
      match rest with
      | ':' :: rest => descend flags progress.names rest
      | _ :: rest =>
          if seen.isEmpty then
            .error .nothingToRepeat
          else
            let level := { progress.level with items := .flags :: progress.level.items }
            .ok ({ progress with flags, level }, rest)
      | [] => .error .unclosedGroup
  | [] => .error .unclosedGroup
  | rest => descend progress.flags progress.names rest

/-- Closes a group. -/
def closeGroup (progress : Progress) : Except SyntaxFault Progress :=
  match progress.outer with
  | [] => .error .unopenedGroup
  | level :: outer =>
      .ok {
        progress with
        flags := progress.level.outerFlags
        level := level.push progress.level.value
        outer }

/-- Repeats the latest element. -/
def repeatLatest (progress : Progress) (least : Nat) (most : Option Nat) :
    Except SyntaxFault Progress :=
  match progress.level.items with
  | .pattern latest :: items =>
      let level := { progress.level with items := .pattern (.repeated least most latest) :: items }
      .ok { progress with level }
  | _ => .error .nothingToRepeat

/-- Skips the mark of a lazy repetition, which changes nothing about what matches. -/
def skipLazy (flags : Flags) (chars : List Char) : List Char :=
  match flags.skip chars with
  | '?' :: rest => rest
  | rest => rest

/-- A decimal number between blanks. -/
def readNumber (chars : List Char) : Option Nat × List Char :=
  let chars := chars.dropWhile Text.isBlank
  let digits := chars.takeWhile Char.isDigit
  let rest := (chars.drop digits.length).dropWhile Text.isBlank
  ((Text.readUnsigned 10 (UInt32.size - 1) digits).toOption, rest)

/-- Reads a repetition count behind its opening brace. -/
def readCount (flags : Flags) (chars : List Char) :
    Except SyntaxFault (Nat × Option Nat × List Char) :=
  match readNumber (flags.skip chars) with
  | (some least, '\x7d' :: rest) => .ok (least, some least, rest)
  | (some least, ',' :: rest) =>
      match flags.skip rest with
      | '\x7d' :: rest => .ok (least, none, rest)
      | rest =>
          match readNumber rest with
          | (some most, '\x7d' :: rest) =>
              if least ≤ most then .ok (least, some most, rest) else .error .badCount
          | _ => .error .badCount
  | _ => .error .badCount

/-- The pattern of a token. -/
def Primitive.toPattern (flags : Flags) : Primitive → Pattern
  | literal char => .one (flags.fold (.range char char))
  | characters accepted => .one accepted
  | assertion held => .check held

/-- The characters that a point stands for. -/
def pointClass (flags : Flags) : CharClass :=
  if flags.dotAll then
    .except .none
  else if flags.returnLines then
    .except (.either (.range '\n' '\n') (.range '\r' '\r'))
  else
    .except (.range '\n' '\n')

/-- Reads one token, whose first character is given. -/
def readToken (progress : Progress) (char : Char) (rest : List Char) :
    Except SyntaxFault (Progress × List Char) :=
  let flags := progress.flags
  let push := fun (pattern : Pattern) (rest : List Char) =>
    Except.ok ({ progress with level := progress.level.push pattern }, rest)
  match char with
  | '(' => openGroup progress rest
  | ')' => (closeGroup progress).map (·, rest)
  | '|' =>
      let level := { progress.level with
        branches := progress.level.sequence :: progress.level.branches
        items := [] }
      .ok ({ progress with level }, rest)
  | '[' => do
      let (current, rest) := openClass flags rest
      let (accepted, rest) ← readClass flags (rest.length + 1) current [] rest
      push (.one accepted) rest
  | '?' => (repeatLatest progress 0 (some 1)).map (·, skipLazy flags rest)
  | '*' => (repeatLatest progress 0 none).map (·, skipLazy flags rest)
  | '+' => (repeatLatest progress 1 none).map (·, skipLazy flags rest)
  | '\x7b' => do
      let (least, most, rest) ← readCount flags rest
      (repeatLatest progress least most).map (·, skipLazy flags rest)
  | '\\' => do
      let (primitive, rest) ← readEscape flags rest
      push (primitive.toPattern flags) rest
  | '.' => if flags.unicode then push (.one (pointClass flags)) rest else .error .notText
  | '^' =>
      push (.check
        (if !flags.multiLine then .textStart
        else if flags.returnLines then .returnLineStart else .lineStart)) rest
  | '$' =>
      push (.check
        (if !flags.multiLine then .textEnd
        else if flags.returnLines then .returnLineEnd else .lineEnd)) rest
  | char => push (.one (flags.fold (.range char char))) rest

/-- Reads tokens up to the end of the text; the number bounds the tokens. -/
def readTokens : Nat → Progress → List Char → Except SyntaxFault Progress
  | 0, progress, _ => .ok progress
  | tokens + 1, progress, chars =>
      match progress.flags.skip chars with
      | [] => .ok progress
      | char :: rest =>
          match readToken progress char rest with
          | .ok (progress, rest) => readTokens tokens progress rest
          | .error fault => .error fault

/-- How many states an automaton for the pattern has, roughly: one for each literal, although a
character beyond ASCII takes one for each of its bytes, and a fixed number for each class, with
repetitions written out. -/
def size : Pattern → Nat
  | empty => 1
  | check _ => 1
  | one accepted =>
      match accepted with
      | .range _ _ => 1
      | .digit | .blank => 40
      | .word => 400
      | _ => 8
  | seq first second => first.size + second.size
  | alt left right => left.size + right.size + 1
  | repeated least most inner =>
      match most with
      | some most => max 1 most * (inner.size + 1)
      | none => (least + 1) * (inner.size + 1)

/-- The size up to which a pattern is accepted.  The bound proper is ten megabytes for the compiled
automaton; a state takes some 32 bytes of them, so that about as many states fit. -/
def sizeLimit : Nat := 300000

/-- Reads a pattern. -/
def parse (text : String) : Except SyntaxFault Pattern := do
  let chars := text.toList
  let progress ← readTokens (chars.length + 1) { level := { outerFlags := {} } } chars
  match progress.outer with
  | [] =>
      let pattern := progress.level.value
      if pattern.size ≤ sizeLimit then .ok pattern else .error .tooLarge
  | _ => .error .unclosedGroup

end SampleProfile.Pattern
