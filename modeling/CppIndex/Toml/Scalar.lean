import CppIndex.Text.Leading
import CppIndex.Toml.Moment
import CppIndex.Toml.Value

/-!
# Scalars and keys

The parts of a configuration text that hold no others: blanks, comments, keys, quoted strings and bare
words such as numbers and truth values. Each reader takes what it recognises from the front of the
characters and returns it with what is left, or answers nothing.

A string is quoted by `"` with escapes or by `'` without, on one line or, between three such signs, on
many. No string holds a control character other than the tab, and on many lines the line feed, which
also stands for a carriage return followed by a line feed.
-/

namespace CppIndex.Toml

/-- A reader takes a value from the front of a text and leaves the rest. -/
abbrev Reader (α : Type) := List Char → Option (α × List Char)

/-! ### Blanks, line ends and comments -/

/-- The blanks inside a line: the space and the tab. -/
def isLineBlank (c : Char) : Bool := c == ' ' || c == '\t'

/-- The text without the blanks at its front. -/
def skipLineBlanks (cs : List Char) : List Char := cs.dropWhile isLineBlank

/-- The characters that may stand in a comment or a literal string: the tab, and all that are no
controls. -/
def isText (c : Char) : Bool := c == '\t' || (0x20 ≤ c.toNat && c.toNat ≠ 0x7F)

/-- The text behind a line end: a line feed, or a carriage return followed by one. -/
def lineEnd? : List Char → Option (List Char)
  | '\n' :: cs => some cs
  | '\r' :: '\n' :: cs => some cs
  | _ => none

/-- The text behind a comment, if one begins it. -/
def skipComment : List Char → List Char
  | '#' :: cs => cs.dropWhile isText
  | cs => cs

/-- **The rest of a line**: blanks, an optional comment, and a line end or the end of the text. -/
def endOfLine? (cs : List Char) : Option (List Char) :=
  match skipComment (skipLineBlanks cs) with
  | [] => some []
  | cs => lineEnd? cs

/-- The text behind blanks, comments and line ends, within a number of lines. -/
def skipLinesUpTo : Nat → List Char → List Char
  | 0, cs => cs
  | n + 1, cs =>
    let cs := skipLineBlanks cs
    match lineEnd? (skipComment cs) with
    | some rest => skipLinesUpTo n rest
    | none => cs

/-- **Over lines**: the text behind any number of blanks, comments and line ends. -/
def skipLines (cs : List Char) : List Char := skipLinesUpTo (cs.length + 1) cs

/-! ### Strings -/

/-- The value of a hexadecimal digit. -/
def hexValue? (c : Char) : Option Nat :=
  if '0' ≤ c ∧ c ≤ '9' then some (c.toNat - '0'.toNat)
  else if 'a' ≤ c ∧ c ≤ 'f' then some (c.toNat - 'a'.toNat + 10)
  else if 'A' ≤ c ∧ c ≤ 'F' then some (c.toNat - 'A'.toNat + 10)
  else none

/-- The character whose code point is written in a given number of hexadecimal digits. -/
def codePoint? (digits : Nat) (cs : List Char) : Option (Char × List Char) :=
  let written := cs.take digits
  if written.length < digits then none
  else
    match written.mapM hexValue? with
    | none => none
    | some values =>
      let n := values.foldl (fun n d => 16 * n + d) 0
      if n < 0xD800 ∨ (0xDFFF < n ∧ n < 0x110000) then some (Char.ofNat n, cs.drop digits)
      else none

/-- **An escape** behind its backslash. -/
def escape? : List Char → Option (Char × List Char)
  | 'b' :: cs => some ('\x08', cs)
  | 't' :: cs => some ('\t', cs)
  | 'n' :: cs => some ('\n', cs)
  | 'f' :: cs => some ('\x0c', cs)
  | 'r' :: cs => some ('\r', cs)
  | '"' :: cs => some ('"', cs)
  | '\\' :: cs => some ('\\', cs)
  | 'u' :: cs => codePoint? 4 cs
  | 'U' :: cs => codePoint? 8 cs
  | _ => none

/-- The characters of a string on one line, up to its closing sign, within a number of characters. -/
def lineStringUpTo (quote : Char) (escapes : Bool) : Nat → List Char → Option (List Char × List Char)
  | 0, _ => none
  | _, [] => none
  | n + 1, c :: cs =>
    if c = quote then some ([], cs)
    else if escapes ∧ c = '\\' then
      match escape? cs with
      | none => none
      | some (d, cs) =>
        (lineStringUpTo quote escapes n cs).map fun (text, rest) => (d :: text, rest)
    else if isText c then
      (lineStringUpTo quote escapes n cs).map fun (text, rest) => (c :: text, rest)
    else none

/-- The text behind any blanks and line ends. A carriage return by itself is neither. -/
def skipBlankLines : List Char → List Char
  | '\n' :: cs => skipBlankLines cs
  | '\r' :: '\n' :: cs => skipBlankLines cs
  | c :: cs => if isLineBlank c then skipBlankLines cs else c :: cs
  | [] => []

/-- The text behind a backslash at the end of a line: the line end and all blanks and line ends
behind it. -/
def joinedLine? (cs : List Char) : Option (List Char) :=
  (lineEnd? (skipLineBlanks cs)).map skipBlankLines

/-- The characters of a string on many lines, up to its closing signs, within a number of steps. Up to
two closing signs may stand inside, and up to two more directly before the closing three. -/
def manyLinesUpTo (quote : Char) (escapes : Bool) : Nat → List Char → Option (List Char × List Char)
  | 0, _ => none
  | _, [] => none
  | n + 1, c :: cs =>
    if c = quote then
      let run := c :: cs.takeWhile (· == quote)
      let rest := cs.dropWhile (· == quote)
      if run.length < 3 then
        (manyLinesUpTo quote escapes n rest).map fun (text, rest) => (run ++ text, rest)
      else if run.length ≤ 5 then some (run.drop 3, rest)
      else none
    else if escapes ∧ c = '\\' then
      match joinedLine? cs with
      | some cs => manyLinesUpTo quote escapes n cs
      | none =>
        match escape? cs with
        | none => none
        | some (d, cs) =>
          (manyLinesUpTo quote escapes n cs).map fun (text, rest) => (d :: text, rest)
    else
      match lineEnd? (c :: cs) with
      | some cs => (manyLinesUpTo quote escapes n cs).map fun (text, rest) => ('\n' :: text, rest)
      | none =>
        if isText c then
          (manyLinesUpTo quote escapes n cs).map fun (text, rest) => (c :: text, rest)
        else none

/-- The sign around strings without escapes. -/
def literalQuote : Char := '\x27'

/-- Whether strings inside a sign have escapes; only two signs quote strings. -/
def quoteEscapes? (c : Char) : Option Bool :=
  if c = '"' then some true else if c = literalQuote then some false else none

/-- A string on one line at the front of a text. -/
def lineString? : Reader String
  | [] => none
  | c :: cs =>
    match quoteEscapes? c with
    | none => none
    | some escapes =>
      (lineStringUpTo c escapes (cs.length + 1) cs).map
        fun (text, rest) => (String.ofList text, rest)

/-- **A string** at the front of a text, on one line or on many. A line end directly behind the three
opening signs is not part of the string. -/
def string? : Reader String
  | [] => none
  | c :: cs =>
    match quoteEscapes? c with
    | none => none
    | some escapes =>
      match Text.behind? [c, c] cs with
      | none => lineString? (c :: cs)
      | some body =>
        (manyLinesUpTo c escapes (body.length + 1) ((lineEnd? body).getD body)).map
          fun (text, rest) => (String.ofList text, rest)

/-! ### Keys -/

/-- The characters of a key without quotes. -/
def isBareKeyChar (c : Char) : Bool := c.isAlphanum || c == '_' || c == '-'

/-- One part of a key: quoted on one line, or bare and not empty. -/
def keyPart? (cs : List Char) : Option (String × List Char) :=
  match lineString? cs with
  | some part => some part
  | none =>
    let bare := cs.takeWhile isBareKeyChar
    if bare.isEmpty then none else some (String.ofList bare, cs.dropWhile isBareKeyChar)

/-- The parts of a key joined by points, with blanks around each, within a number of parts. -/
def keyUpTo : Nat → Reader (List String)
  | 0, _ => none
  | n + 1, cs =>
    match keyPart? (skipLineBlanks cs) with
    | none => none
    | some (part, cs) =>
      match skipLineBlanks cs with
      | '.' :: cs => (keyUpTo n cs).map fun (parts, rest) => (part :: parts, rest)
      | cs => some ([part], cs)

/-- How deeply values may be nested, and how many parts a key may have. -/
def nestingLimit : Nat := 79

/-- **A key**: the parts that lead to its last one, and the last one. -/
def key? (cs : List Char) : Option ((List String × String) × List Char) :=
  match keyUpTo nestingLimit cs with
  | none => none
  | some (parts, rest) => parts.getLast?.map fun last => ((parts.dropLast, last), rest)

/-! ### Bare values -/

/-- The characters of a bare value. -/
def isBareValueChar (c : Char) : Bool :=
  c.isAlphanum || c == '+' || c == '-' || c == '_' || c == '.' || c == ':'

/-- Digits of some class, in groups separated by single underscores; there is at least one. -/
def isDigits (isDigit : Char → Bool) : List Char → Bool
  | [] => false
  | [c] => isDigit c
  | c :: '_' :: cs => isDigit c && isDigits isDigit cs
  | c :: cs => isDigit c && isDigits isDigit cs

/-- The number written in digits of a base. -/
def digitsValue (base : Nat) (cs : List Char) : Nat :=
  (cs.filterMap hexValue?).foldl (fun n d => base * n + d) 0

/-- A word without its sign, and whether the sign is a minus. -/
def splitSign : List Char → Bool × List Char
  | '-' :: cs => (true, cs)
  | '+' :: cs => (false, cs)
  | cs => (false, cs)

/-- Whether a word is a decimal integer without a sign: zero, or digits that do not begin with
one. -/
def isDecimal (cs : List Char) : Bool :=
  cs == ['0'] || (isDigits Char.isDigit cs && cs.head? != some '0')

/-- An integer within the bounds of 64 bits. -/
def boundedInteger (n : Int) : Option Value :=
  if Int64.minValue.toInt ≤ n ∧ n ≤ Int64.maxValue.toInt then some (.integer n) else none

/-- A word as an integer: decimal with an optional sign, or hexadecimal, octal or binary behind its
mark. -/
def integer? (word : List Char) : Option Value :=
  match word with
  | '0' :: 'x' :: cs =>
    if isDigits (fun c => (hexValue? c).isSome) cs then boundedInteger (digitsValue 16 cs) else none
  | '0' :: 'o' :: cs =>
    if isDigits (fun c => '0' ≤ c && c ≤ '7') cs then boundedInteger (digitsValue 8 cs) else none
  | '0' :: 'b' :: cs =>
    if isDigits (fun c => c == '0' || c == '1') cs then boundedInteger (digitsValue 2 cs) else none
  | _ =>
    let (negative, cs) := splitSign word
    if isDecimal cs then
      let n : Int := digitsValue 10 cs
      boundedInteger (if negative then -n else n)
    else none

/-- The exponent of a float behind its mark. -/
def exponent? (cs : List Char) : Option Int :=
  let (negative, digits) := splitSign cs
  if isDigits Char.isDigit digits then
    let n : Int := digitsValue 10 digits
    some (if negative then -n else n)
  else none

/-- A word without its sign as a decimal float with a fraction or an exponent or both: `some (m, e)`
stands for the number `m * 10 ^ e`. -/
def decimalFloat? (cs : List Char) : Option (Nat × Int) :=
  let isMark := fun c : Char => c == 'e' || c == 'E'
  let whole := cs.takeWhile fun c => c != '.' && !isMark c
  if !isDecimal whole then none
  else
    match cs.drop whole.length with
    | '.' :: rest =>
      let fraction := rest.takeWhile (!isMark ·)
      let places := (fraction.filter Char.isDigit).length
      if !isDigits Char.isDigit fraction then none
      else
        match rest.drop fraction.length with
        | [] => some (digitsValue 10 (whole ++ fraction), -places)
        | _ :: exponent =>
          (exponent? exponent).map fun e => (digitsValue 10 (whole ++ fraction), e - places)
    | _ :: exponent => (exponent? exponent).map fun e => (digitsValue 10 whole, e)
    | [] => none

/-- The least number that a float of 64 bits rounds to infinity. -/
def overflowBound : Nat := Nat.pow 2 1024 - Nat.pow 2 970

/-- **Whether `m * 10 ^ e` is beyond all floats** of 64 bits. The number of digits decides it, except
close to the bound, which has 309 digits. -/
def overflows (m : Nat) (e : Int) : Bool :=
  let digits : Int := (Nat.toDigits 10 m).length
  if m = 0 || digits + e < 309 then false
  else if 309 < digits + e then true
  else if 0 ≤ e then overflowBound ≤ m * Nat.pow 10 e.toNat
  else overflowBound * Nat.pow 10 (-e).toNat ≤ m

/-- Whether a word is a float: infinity, no number, or a decimal float. Infinity is written as such:
a number so large that it would round to it is rejected, unless it is negative. -/
def isFloat (word : List Char) : Bool :=
  let (negative, cs) := splitSign word
  cs == ['i', 'n', 'f'] || cs == ['n', 'a', 'n'] ||
    (decimalFloat? cs).any fun (m, e) => negative || !overflows m e

/-- **A bare value**: a moment, or as long as its characters go a truth value, an integer or a
float. -/
def bareValue? (cs : List Char) : Option (Value × List Char) :=
  match behindMoment? cs with
  | some rest => some (.moment (String.ofList (cs.take (cs.length - rest.length))), rest)
  | none =>
    let word := cs.takeWhile isBareValueChar
    let rest := cs.dropWhile isBareValueChar
    if word == "true".toList then some (.boolean true, rest)
    else if word == "false".toList then some (.boolean false, rest)
    else
      match integer? word with
      | some n => some (n, rest)
      | none => if isFloat word then some (.float (String.ofList word), rest) else none

end CppIndex.Toml
