import SampleProfile.Demangle.Punycode
import SampleProfile.Text.Blank

/-!
# Symbol names with a grammar

In the newer mangling a symbol is `_R` and a path in a small grammar of paths, types and constants,
in which earlier parts can be referred to by their position.  The text is printed while it is read;
from the first fault on only marks for the missing parts are printed.
-/

namespace SampleProfile.Demangle.Grammar

/-- Why reading stopped. -/
inductive Fault where
  | invalid
  | tooDeep
deriving DecidableEq, Repr

/-- What is printed where reading stops. -/
def Fault.mark : Fault → String
  | invalid => "\x7binvalid syntax\x7d"
  | tooDeep => "\x7brecursion limit reached\x7d"

/-- The depth to which paths, types and constants may be nested. -/
def depthLimit : Nat := 500

/-- The number of bytes that are printed at most. -/
def outputLimit : Nat := 1000000

/-- The state of reading and printing. -/
structure Printer where
  symbol : Array Char
  next : Nat := 0
  depth : Nat := 0
  fault : Option Fault := none
  /-- Nothing is printed while parts are skipped. -/
  silent : Bool := false
  output : List Char := []
  /-- The bytes that may still be printed. -/
  remaining : Nat := outputLimit
  /-- How many lifetimes the binders around have introduced. -/
  lifetimes : Nat := 0

/-- Printing ends early when the output is full. -/
abbrev Print := ExceptT Unit (StateM Printer)

/-- The character to be read next. -/
def peek : Print (Option Char) := do
  let printer ← get
  if printer.fault.isSome then pure none else pure printer.symbol[printer.next]?

/-- Prints a text; nothing that does not fit is printed. -/
def print (text : List Char) : Print Unit := do
  let printer ← get
  if printer.silent then
    pure ()
  else
    let bytes := (String.ofList text).utf8ByteSize
    if bytes ≤ printer.remaining then
      set { printer with
        output := text.reverse ++ printer.output
        remaining := printer.remaining - bytes }
    else
      throw ()

/-- Prints a string. -/
def printText (text : String) : Print Unit :=
  print text.toList

/-- Stops reading because of a fault. -/
def fail (fault : Fault) : Print Unit := do
  printText fault.mark
  modify fun printer => { printer with fault := some fault }

/-- Reads with a function and goes on with what it answers.  A fault ends the current part; after an
earlier fault only a question mark is printed. -/
def reading {α : Type} (read : Printer → Except Fault (α × Printer)) (continue_ : α → Print Unit) :
    Print Unit := do
  let printer ← get
  if printer.fault.isSome then
    printText "?"
  else
    match read printer with
    | .error fault => fail fault
    | .ok (value, printer) => do
        set printer
        continue_ value

/-- Reads over one character if it is next. -/
def eat (char : Char) : Print Bool := do
  if (← peek) = some char then
    modify fun printer => { printer with next := printer.next + 1 }
    pure true
  else
    pure false

/-- Reads any character. -/
def anyChar (printer : Printer) : Except Fault (Char × Printer) :=
  match printer.symbol[printer.next]? with
  | some char => .ok (char, { printer with next := printer.next + 1 })
  | none => .error .invalid

/-- Enters a nested part. -/
def enter (printer : Printer) : Except Fault (Unit × Printer) :=
  if printer.depth + 1 > depthLimit then
    .error .tooDeep
  else
    .ok ((), { printer with depth := printer.depth + 1 })

/-- Leaves a nested part. -/
def leave : Print Unit :=
  modify fun printer =>
    if printer.fault.isSome then printer else { printer with depth := printer.depth - 1 }

/-- The characters from a position on. -/
def Printer.rest (printer : Printer) : List Char :=
  (printer.symbol.extract printer.next printer.symbol.size).toList

/-- The value of a digit in base sixty-two. -/
def digit62? (char : Char) : Option Nat :=
  if char.isDigit then some (char.toNat - '0'.toNat)
  else if 'a' ≤ char ∧ char ≤ 'z' then some (10 + (char.toNat - 'a'.toNat))
  else if 'A' ≤ char ∧ char ≤ 'Z' then some (36 + (char.toNat - 'A'.toNat))
  else none

/-- Reads base sixty-two digits onto a value, up to an underscore; answers the rest of the text too.
-/
def digits62? (value : Nat) : List Char → Option (Nat × List Char)
  | [] => none
  | '_' :: rest => some (value, rest)
  | char :: rest => do
      let digit ← digit62? char
      let value := value * 62 + digit
      if value > Punycode.wordLimit then none else digits62? value rest

/-- Reads a number in base sixty-two; a lone underscore is zero, and all others are one more than
their digits say. -/
def integer62 (printer : Printer) : Except Fault (Nat × Printer) :=
  match printer.rest with
  | '_' :: _ => .ok (0, { printer with next := printer.next + 1 })
  | chars =>
      match digits62? 0 chars with
      | some (value, rest) =>
          if value + 1 > Punycode.wordLimit then
            .error .invalid
          else
            .ok (value + 1, { printer with next := printer.symbol.size - rest.length })
      | none => .error .invalid

/-- Reads a number behind a tag; without the tag it is zero, else one more than the number. -/
def taggedInteger (tag : Char) (printer : Printer) : Except Fault (Nat × Printer) :=
  if printer.symbol[printer.next]? = some tag then do
    let (value, printer) ← integer62 { printer with next := printer.next + 1 }
    if value + 1 > Punycode.wordLimit then .error .invalid else .ok (value + 1, printer)
  else
    .ok (0, printer)

/-- Reads a disambiguator. -/
def disambiguator : Printer → Except Fault (Nat × Printer) :=
  taggedInteger 's'

/-- Reads hexadecimal digits up to an underscore. -/
def nibbles (printer : Printer) : Except Fault (List Char × Printer) :=
  let digits := printer.rest.takeWhile fun char => char.isDigit || ('a' ≤ char && char ≤ 'f')
  if printer.symbol[printer.next + digits.length]? = some '_' then
    .ok (digits, { printer with next := printer.next + digits.length + 1 })
  else
    .error .invalid

/-- The value of hexadecimal digits, if it fits in a machine word. -/
def nibblesValue? (digits : List Char) : Option Nat :=
  let digits := digits.dropWhile (· = '0')
  if digits.length > 16 then
    none
  else
    some (digits.foldl (fun value digit => value * 16 + (Text.digit? 16 digit).getD 0) 0)

/-- An identifier: its ASCII characters, and deltas for the others if there are any. -/
structure Ident where
  ascii : List Char
  deltas : List Char

/-- Whether an identifier has no characters. -/
def Ident.isEmpty (ident : Ident) : Bool :=
  ident.ascii.isEmpty && ident.deltas.isEmpty

/-- The characters of an identifier; deltas that cannot be decoded are shown as they are. -/
def Ident.text (ident : Ident) : List Char :=
  match Punycode.decode? ident.ascii ident.deltas with
  | some chars => chars
  | none =>
      if ident.deltas.isEmpty then
        ident.ascii
      else
        "punycode\x7b".toList ++ (if ident.ascii.isEmpty then [] else ident.ascii ++ ['-']) ++
          ident.deltas ++ ['\x7d']

/-- Reads the length of an identifier; a leading zero stands alone. -/
def identLength? : List Char → Option (Nat × List Char)
  | '0' :: rest => some (0, rest)
  | chars =>
      let digits := chars.takeWhile Char.isDigit
      match Text.readUnsigned 10 Punycode.wordLimit digits with
      | .ok length => some (length, chars.drop digits.length)
      | .error _ => none

/-- Reads an identifier. -/
def ident (printer : Printer) : Except Fault (Ident × Printer) :=
  let (isPunycode, chars) :=
    match printer.rest with
    | 'u' :: rest => (true, rest)
    | rest => (false, rest)
  match identLength? (if chars.head?.any Char.isDigit then chars else []) with
  | none => .error .invalid
  | some (length, chars) =>
      let chars := Text.dropStart ['_'] chars
      if chars.length < length then
        .error .invalid
      else
        let text := chars.take length
        let printer := { printer with next := printer.symbol.size - (chars.length - length) }
        if isPunycode then
          let (ascii, deltas) := (Text.cutAtLast '_' text).getD ([], text)
          if deltas.isEmpty then .error .invalid else .ok (⟨ascii, deltas⟩, printer)
        else
          .ok (⟨text, []⟩, printer)

/-- Reads the kind of a nested name: a capital letter for those shown with their kind. -/
def namespace? (printer : Printer) : Except Fault (Option Char × Printer) := do
  let (char, printer) ← anyChar printer
  if 'A' ≤ char ∧ char ≤ 'Z' then .ok (some char, printer)
  else if 'a' ≤ char ∧ char ≤ 'z' then .ok (none, printer)
  else .error .invalid

/-- Reads a reference to an earlier position behind its tag; answers a printer that reads from
there. -/
def reference (printer : Printer) : Except Fault (Printer × Printer) := do
  let start := printer.next - 1
  let (position, printer) ← integer62 printer
  if position ≥ start then
    .error .invalid
  else
    let (_, target) ← enter { printer with next := position }
    .ok (target, printer)

/-- Prints what a reference refers to and reads on behind the reference.  While parts are skipped
its target is left alone. -/
def atReference (target : Print Unit) : Print Unit :=
  reading reference fun targetPrinter => do
    let printer ← get
    if printer.silent then
      pure ()
    else
      set { printer with next := targetPrinter.next, depth := targetPrinter.depth }
      target
      modify fun after =>
        { after with next := printer.next, depth := printer.depth, fault := printer.fault }

/-- The types that are written as one letter. -/
def basicType? (tag : Char) : Option String :=
  match tag with
  | 'b' => some "bool"
  | 'c' => some "char"
  | 'e' => some "str"
  | 'u' => some "()"
  | 'a' => some "i8"
  | 's' => some "i16"
  | 'l' => some "i32"
  | 'x' => some "i64"
  | 'n' => some "i128"
  | 'i' => some "isize"
  | 'h' => some "u8"
  | 't' => some "u16"
  | 'm' => some "u32"
  | 'y' => some "u64"
  | 'o' => some "u128"
  | 'j' => some "usize"
  | 'f' => some "f32"
  | 'd' => some "f64"
  | 'z' => some "!"
  | 'p' => some "_"
  | 'v' => some "..."
  | _ => none

/-- Prints a lifetime: zero is the anonymous one, others count outwards from the innermost binder.
-/
def printLifetime (index : Nat) : Print Unit := do
  let printer ← get
  if printer.silent then
    pure ()
  else
    printText "'"
    if index = 0 then
      printText "_"
    else if printer.lifetimes < index then
      fail .invalid
    else
      let depth := printer.lifetimes - index
      if depth < 26 then
        print [Char.ofNat ('a'.toNat + depth)]
      else
        printText ("_" ++ toString depth)

/-- Introduces the lifetimes of a binder one after the other. -/
def printBinder : Nat → Bool → Print Unit
  | 0, _ => pure ()
  | count + 1, first => do
      if !first then printText ", "
      modify fun printer => { printer with lifetimes := printer.lifetimes + 1 }
      printLifetime 1
      printBinder count false

/-- Prints a part inside a binder that may introduce lifetimes. -/
def inBinder (body : Print Unit) : Print Unit :=
  reading (taggedInteger 'G') fun count => do
    let printer ← get
    if printer.silent then
      body
    else
      if count > 0 then
        printText "for<"
        printBinder (min count (outputLimit + 1)) true
        printText "> "
      body
      modify fun after => { after with lifetimes := after.lifetimes - count }

/-- Prints parts up to the end of a list, with a separator between them; answers how many. -/
def printList (element : Print Unit) (separator : String) : Nat → Nat → Print Nat
  | 0, count => pure count
  | fuel + 1, count => do
      if (← get).fault.isSome then
        pure count
      else if ← eat 'E' then
        pure count
      else
        if count > 0 then printText separator
        element
        printList element separator fuel (count + 1)

/-- How often a list can have a further element. -/
def listFuel : Print Nat := do
  pure ((← get).symbol.size + 1)

/-- Prints parts up to the end of a list. -/
def printAll (element : Print Unit) (separator : String) : Print Nat := do
  printList element separator (← listFuel) 0

/-- Prints a tuple: a single element is followed by a comma. -/
def printTuple (element : Print Unit) : Print Unit := do
  printText "("
  let count ← printAll element ", "
  if count = 1 then printText ","
  printText ")"

/-- Whether a character is shown as its code point in a quoted text. -/
def isHidden (char : Char) : Bool :=
  let code := char.toNat
  code < 0x20 || (0x7F ≤ code && code < 0xA0) || code = 0xAD || (0x300 ≤ code && code < 0x370) ||
    (0x200B ≤ code && code ≤ 0x200F) || (0x2028 ≤ code && code ≤ 0x202E) ||
    (0x2060 ≤ code && code ≤ 0x206F) || code = 0xFEFF || (0xE000 ≤ code && code < 0xF900)

/-- A character of a quoted text. -/
def quotedChar (quote char : Char) : List Char :=
  match char with
  | '\x00' => ['\\', '0']
  | '\t' => ['\\', 't']
  | '\r' => ['\\', 'r']
  | '\n' => ['\\', 'n']
  | '\\' => ['\\', '\\']
  | char =>
      if char = quote then
        ['\\', char]
      else if isHidden char then
        ['\\', 'u', '\x7b'] ++ Nat.toDigits 16 char.toNat ++ ['\x7d']
      else
        [char]

/-- Prints characters in quotes. -/
def printQuoted (quote : Char) (chars : List Char) : Print Unit :=
  print (quote :: (chars.flatMap (quotedChar quote) ++ [quote]))

/-- The bytes of an even number of hexadecimal digits. -/
def nibbleBytes : List Char → List UInt8
  | high :: low :: rest =>
      UInt8.ofNat ((Text.digit? 16 high).getD 0 * 16 + (Text.digit? 16 low).getD 0) ::
        nibbleBytes rest
  | _ => []

/-- Prints a string constant in quotes. -/
def printStringConstant : Print Unit :=
  reading nibbles fun digits =>
    if digits.length % 2 = 1 then
      fail .invalid
    else
      match String.fromUTF8? ⟨(nibbleBytes digits).toArray⟩ with
      | some text => printQuoted '"' text.toList
      | none => fail .invalid

/-- Prints an unsigned constant in decimal, or in hexadecimal if it is longer than a machine word.
-/
def printUnsigned : Print Unit :=
  reading nibbles fun digits =>
    match nibblesValue? digits with
    | some value => printText (toString value)
    | none => print ('0' :: 'x' :: digits)

/-- Prints a part without showing it. -/
def silently (body : Print Unit) : Print Unit := do
  let before := (← get).silent
  modify fun printer => { printer with silent := true }
  body
  modify fun printer => { printer with silent := before }

/-- Prints the calling convention of a function type, whose name has hyphens for underscores. -/
def printConvention (name : List Char) : Print Unit := do
  printText "extern \""
  print (name.map fun char => if char = '_' then '-' else char)
  printText "\" "

mutual

/-- Prints a path; in expressions generic arguments stand behind two colons. -/
def printPath (inValue : Bool) : Nat → Print Unit
  | 0 => fail .tooDeep
  | fuel + 1 =>
      reading enter fun _ => reading anyChar fun tag => do
        match tag with
        | 'C' =>
            reading disambiguator fun _ => reading ident fun name => do
              print name.text
              leave
        | 'N' =>
            reading namespace? fun kind => do
              printPath inValue fuel
              if (← get).fault.isSome then printText "::"
              reading disambiguator fun number => reading ident fun name => do
                match kind with
                | some kind =>
                    printText "::\x7b"
                    if kind = 'C' then printText "closure"
                    else if kind = 'S' then printText "shim"
                    else print [kind]
                    if !name.isEmpty then
                      printText ":"
                      print name.text
                    printText ("#" ++ toString number ++ "\x7d")
                | none =>
                    if !name.isEmpty then
                      printText "::"
                      print name.text
                leave
        | 'M' =>
            reading disambiguator fun _ => do
              silently (printPath false fuel)
              printText "<"
              printType fuel
              printText ">"
              leave
        | 'X' =>
            reading disambiguator fun _ => do
              silently (printPath false fuel)
              printQualified fuel
              leave
        | 'Y' =>
            printQualified fuel
            leave
        | 'I' =>
            printPath inValue fuel
            if inValue then printText "::"
            printText "<"
            let _ ← printAll (printArgument fuel) ", "
            printText ">"
            leave
        | 'B' =>
            atReference (printPath inValue fuel)
            leave
        | _ => fail .invalid

/-- Prints a type and the trait it is seen as. -/
def printQualified : Nat → Print Unit
  | 0 => fail .tooDeep
  | fuel + 1 => do
      printText "<"
      printType fuel
      printText " as "
      printPath false fuel
      printText ">"

/-- Prints a generic argument: a lifetime, a constant or a type. -/
def printArgument : Nat → Print Unit
  | 0 => fail .tooDeep
  | fuel + 1 => do
      if ← eat 'L' then
        reading integer62 printLifetime
      else if ← eat 'K' then
        printConstant false fuel
      else
        printType fuel

/-- Prints a type. -/
def printType : Nat → Print Unit
  | 0 => fail .tooDeep
  | fuel + 1 =>
      reading anyChar fun tag =>
        match basicType? tag with
        | some name => printText name
        | none =>
            reading enter fun _ => do
              match tag with
              | 'R' | 'Q' =>
                  printText "&"
                  let body : Print Unit := do
                    if tag ≠ 'R' then printText "mut "
                    printType fuel
                    leave
                  if ← eat 'L' then
                    reading integer62 fun lifetime => do
                      if lifetime ≠ 0 then
                        printLifetime lifetime
                        printText " "
                      body
                  else
                    body
              | 'P' | 'O' =>
                  printText (if tag = 'P' then "*const " else "*mut ")
                  printType fuel
                  leave
              | 'A' =>
                  printText "["
                  printType fuel
                  printText "; "
                  printConstant true fuel
                  printText "]"
                  leave
              | 'S' =>
                  printText "["
                  printType fuel
                  printText "]"
                  leave
              | 'T' =>
                  printTuple (printType fuel)
                  leave
              | 'F' =>
                  inBinder (printFunction fuel)
                  leave
              | 'D' =>
                  printText "dyn "
                  inBinder (do
                    let _ ← printAll (printTrait fuel) " + ")
                  if ← eat 'L' then
                    reading integer62 fun lifetime => do
                      if lifetime ≠ 0 then
                        printText " + "
                        printLifetime lifetime
                      leave
                  else
                    fail .invalid
              | 'B' =>
                  atReference (printType fuel)
                  leave
              | _ =>
                  modify fun printer => { printer with next := printer.next - 1 }
                  printPath false fuel
                  leave

/-- Prints a function type behind its binder. -/
def printFunction : Nat → Print Unit
  | 0 => fail .tooDeep
  | fuel + 1 => do
      let isUnsafe ← eat 'U'
      let rest : Print Unit := do
        printText "fn("
        let _ ← printAll (printType fuel) ", "
        printText ")"
        if ← eat 'u' then
          pure ()
        else
          printText " -> "
          printType fuel
      let start : Print Unit := if isUnsafe then printText "unsafe " else pure ()
      if ← eat 'K' then
        if ← eat 'C' then
          start
          printConvention ['C']
          rest
        else
          reading ident fun name =>
            if name.ascii.isEmpty || !name.deltas.isEmpty then
              fail .invalid
            else do
              start
              printConvention name.ascii
              rest
      else
        start
        rest

/-- Prints a path whose generic arguments are left open for bindings; answers whether any were
opened. -/
def printOpenPath : Nat → Print Bool
  | 0 => do
      fail .tooDeep
      pure false
  | fuel + 1 => do
      if ← eat 'B' then
        let mut opened := false
        let printer ← get
        if printer.fault.isSome then
          printText "?"
        else
          match reference printer with
          | .error fault => fail fault
          | .ok (target, after) =>
              set after
              if !after.silent then
                set { after with next := target.next, depth := target.depth }
                opened ← printOpenPath fuel
                modify fun final =>
                  { final with next := after.next, depth := after.depth, fault := after.fault }
        pure opened
      else if ← eat 'I' then
        printPath false fuel
        printText "<"
        let _ ← printAll (printArgument fuel) ", "
        pure true
      else
        printPath false fuel
        pure false

/-- Prints a trait of a trait object with its bindings. -/
def printTrait : Nat → Print Unit
  | 0 => fail .tooDeep
  | fuel + 1 => do
      let opened ← printOpenPath fuel
      printBindings opened (printType fuel) (← listFuel)

/-- Prints the bindings of a trait and closes what was opened. -/
def printBindings (opened : Bool) (type : Print Unit) : Nat → Print Unit
  | 0 => pure ()
  | fuel + 1 => do
      if ← eat 'p' then
        printText (if opened then ", " else "<")
        reading ident fun name => do
          print name.text
          printText " = "
          type
          printBindings true type fuel
      else if opened then
        printText ">"

/-- Prints a constant; outside expressions all but plain values are put in braces. -/
def printConstant (inValue : Bool) : Nat → Print Unit
  | 0 => fail .tooDeep
  | fuel + 1 =>
      reading anyChar fun tag => reading enter fun _ => do
        let braced := fun (body : Print Unit → Print Unit) => do
          if !inValue then printText "\x7b"
          body (do
            if !inValue then printText "\x7d"
            leave)
        match tag with
        | 'p' =>
            printText "_"
            leave
        | 'h' | 't' | 'm' | 'y' | 'o' | 'j' =>
            printUnsigned
            leave
        | 'a' | 's' | 'l' | 'x' | 'n' | 'i' =>
            if ← eat 'n' then printText "-"
            printUnsigned
            leave
        | 'b' =>
            reading nibbles fun digits =>
              match nibblesValue? digits with
              | some 0 => do
                  printText "false"
                  leave
              | some 1 => do
                  printText "true"
                  leave
              | _ => fail .invalid
        | 'c' =>
            reading nibbles fun digits =>
              match nibblesValue? digits with
              | some code =>
                  if code.isValidChar then do
                    printQuoted '\'' [Char.ofNat code]
                    leave
                  else
                    fail .invalid
              | none => fail .invalid
        | 'e' =>
            braced fun finish => do
              printText "*"
              printStringConstant
              finish
        | 'R' =>
            if ← eat 'e' then
              printStringConstant
              leave
            else
              braced fun finish => do
                printText "&"
                printConstant true fuel
                finish
        | 'Q' =>
            braced fun finish => do
              printText "&mut "
              printConstant true fuel
              finish
        | 'A' =>
            braced fun finish => do
              printText "["
              let _ ← printAll (printConstant true fuel) ", "
              printText "]"
              finish
        | 'T' =>
            braced fun finish => do
              printTuple (printConstant true fuel)
              finish
        | 'V' =>
            braced fun finish => do
              printPath true fuel
              reading anyChar fun form =>
                match form with
                | 'U' => finish
                | 'T' => do
                    printText "("
                    let _ ← printAll (printConstant true fuel) ", "
                    printText ")"
                    finish
                | 'S' => do
                    printText " \x7b "
                    let _ ← printAll (printField fuel) ", "
                    printText " \x7d"
                    finish
                | _ => fail .invalid
        | 'B' =>
            atReference (printConstant inValue fuel)
            leave
        | _ => fail .invalid

/-- Prints a field of a constant. -/
def printField : Nat → Print Unit
  | 0 => fail .tooDeep
  | fuel + 1 =>
      reading disambiguator fun _ => reading ident fun name => do
        print name.text
        printText ": "
        printConstant true fuel

end

/-- Enough for every nesting within the depth limit. -/
def recursionFuel : Nat := 4 * depthLimit

/-- The text behind the start of a mangled symbol, if it starts like one. -/
def body? (chars : List Char) : Option (List Char) :=
  let body :=
    match chars with
    | '_' :: 'R' :: rest => some rest
    | 'R' :: rest => some rest
    | '_' :: '_' :: 'R' :: rest => some rest
    | _ => none
  body.filter fun body => body.head?.any fun first => 'A' ≤ first && first ≤ 'Z'

/-- Reads a path without printing it; answers the position behind it. -/
def pathEnd? (symbol : Array Char) (start : Nat) : Option Nat :=
  let (_, printer) := (printPath false recursionFuel).run.run
    { symbol, next := start, silent := true }
  if printer.fault.isSome then none else some printer.next

/-- The readable form of a symbol and the text behind its mangled part.  A second path names the
crate that uses the symbol and is not shown. -/
def demangle? (chars : List Char) : Option (List Char × List Char) := do
  let body ← body? chars
  if body.any fun char => char.toNat ≥ 128 then
    none
  else
    let symbol := body.toArray
    let first ← pathEnd? symbol 0
    let last ←
      if symbol[first]?.any fun char => 'A' ≤ char && char ≤ 'Z' then
        pathEnd? symbol first
      else
        some first
    let (outcome, printer) := (printPath true recursionFuel).run.run { symbol }
    let shown := printer.output.reverse
    let mark :=
      match outcome with
      | .ok _ => []
      | .error _ => "\x7bsize limit reached\x7d".toList
    pure (shown ++ mark, (symbol.extract last symbol.size).toList)

end SampleProfile.Demangle.Grammar
