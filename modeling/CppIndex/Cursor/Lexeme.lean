import CppIndex.Cursor.Basic

/-!
# Lexemes

The words and signs that a declaration is made of, each with the rule that says where it ends:

* an **identifier** is an optional `~`, then an ASCII word, which has to end at a word boundary and,
  without the `~`, to begin at one (`Cursor.identifier?`);
* an **access word** is `public`, `protected` or `private` between two word boundaries;
* an **operator sign** is the first entry of `operatorSigns` that stands at the cursor; a pair of
  brackets or parentheses may have blanks inside;
* an **allocation** is `new` or `delete`, with or without a pair of brackets behind it;
* a **literal** is a string or character literal with an optional encoding letter, in which a
  backslash takes the character behind it along;
* an **array bound** is what stands between `[` and the first `]` behind at least one character, on
  one line; brackets around nothing but blanks bound nothing (`Cursor.arrayBound?`).

Each recogniser splits the characters to read into what it takes and what it leaves.
-/

namespace CppIndex

/-! ### Who may see a declaration -/

/-- The access level of a declared object. -/
inductive Visibility
  /-- Open to everyone. -/
  | pub
  /-- Open to derived classes. -/
  | prot
  /-- Open to the class itself. -/
  | priv
  deriving DecidableEq, Repr

namespace Visibility

/-- All access levels. -/
def all : List Visibility := [.pub, .priv, .prot]

/-- The word for an access level. -/
def keyword : Visibility → String
  | .pub => "public"
  | .prot => "protected"
  | .priv => "private"

/-- The access level with a given word. -/
def ofKeyword? (word : String) : Option Visibility := all.find? (·.keyword == word)

/-- Every access level is found by its word. -/
@[simp] theorem ofKeyword?_keyword (v : Visibility) : ofKeyword? v.keyword = some v := by
  cases v <;> decide

end Visibility

namespace Text

/-- The `~` at the front of a text, if there is one, and what follows. -/
def splitTilde : List Char → List Char × List Char
  | '~' :: cs => (['~'], cs)
  | cs => ([], cs)

/-! ### Operator signs -/

/-- **The signs** behind the word `operator`. Where one begins another, the longer comes first, so
that the first entry found at a place is the longest one. -/
def operatorSigns : List String := [
  "->*", "->", "++", "--", "<<=", "<<", ">>=", ">>", "&&", "||",
  "!=", "!", "<=", "<", ">=", ">", "==", "=", "/=", "/", "*=", "*", "%=", "%", "+=", "+",
  "|=", "|", "&=", "&", "^=", "^", "-=", "-", "~", ","]

/-- A pair of signs with nothing but blanks between them: what it takes and what it leaves. -/
def emptyPair? (opening closing : Char) : List Char → Option (List Char × List Char)
  | [] => none
  | c :: cs =>
    if c = opening then
      match dropBlank cs with
      | d :: rest =>
        if d = closing then some (c :: cs.takeWhile isBlank ++ [d], rest) else none
      | [] => none
    else none

/-- The operator sign at the front of a text, with the characters it takes and leaves. The sign of a
pair is written without the blanks between. -/
def operatorSign? (cs : List Char) : Option (String × List Char × List Char) :=
  match emptyPair? '[' ']' cs with
  | some (taken, rest) => some ("[]", taken, rest)
  | none =>
    match emptyPair? '(' ')' cs with
    | some (taken, rest) => some ("()", taken, rest)
    | none =>
      operatorSigns.findSome? fun sign =>
        (behind? sign.toList cs).map fun rest => (sign, sign.toList, rest)

/-! ### Literals -/

/-- The sign around a character literal. -/
def apostrophe : Char := '\x27'

/-- The text up to and including the sign that closes a literal, and what follows it. A backslash
takes the next character along, whatever it is. -/
def closeLiteral? (quote : Char) : List Char → Option (List Char × List Char)
  | [] => none
  | '\\' :: [] => none
  | '\\' :: c :: cs => (closeLiteral? quote cs).map fun (taken, rest) => ('\\' :: c :: taken, rest)
  | c :: cs =>
    if c = quote then some ([c], cs)
    else (closeLiteral? quote cs).map fun (taken, rest) => (c :: taken, rest)

/-- A literal without an encoding letter. -/
def plainLiteral? : List Char → Option (List Char × List Char)
  | [] => none
  | c :: cs =>
    if c = '"' ∨ c = apostrophe then
      (closeLiteral? c cs).map fun (taken, rest) => (c :: taken, rest)
    else none

/-- **A string or character literal** at the front of a text: one of the letters `L`, `u`, `U` and
`8`, if any, and the literal behind it. -/
def literal? (cs : List Char) : Option (List Char × List Char) :=
  match cs with
  | [] => none
  | c :: rest =>
    if c = 'L' ∨ c = 'u' ∨ c = 'U' ∨ c = '8' then
      (plainLiteral? rest).map fun (taken, rest) => (c :: taken, rest)
    else plainLiteral? cs

/-! ### Array bounds -/

/-- The text before the first `]` that closes at least one character on the same line, and what
follows that `]`. Blanks in front of the `]` are not part of the text. -/
def boundText? : List Char → Option (List Char × List Char)
  | [] => none
  | c :: cs =>
    if c = '\n' then none
    else
      match dropBlank cs with
      | ']' :: rest => some ([c], rest)
      | _ => (boundText? cs).map fun (bound, rest) => (c :: bound, rest)

/-- **An array suffix** at the front of a text: its bound, if there is one, and what follows. Where
the text can be read with a bound it is, so a `]` directly behind the opening bracket closes the
suffix only if no later `]` on the line does. -/
def arrayBound? : List Char → Option (Option String × List Char)
  | '[' :: cs =>
    match boundText? (dropBlank cs) with
    | some (bound, rest) => some (some (String.ofList bound), rest)
    | none =>
      match dropBlank cs with
      | ']' :: rest => some (none, rest)
      | _ => none
  | _ => none

end Text

namespace Cursor

variable (c : Cursor)

/-! ### Lexemes at the cursor -/

/-- The cursor moved forward so that `rest` is left. -/
def movedTo (rest : List Char) : Cursor := c.moved (c.rest.take (c.rest.length - rest.length)) rest

/-- **An identifier** at the cursor. -/
def identifier? : Option (String × Cursor) :=
  let (tilde, body) := Text.splitTilde c.rest
  let word := body.takeWhile Text.isAsciiWordChar
  let rest := body.dropWhile Text.isAsciiWordChar
  if !word.head?.any Text.isIdentStart || rest.head?.any Text.isWordChar ||
      (tilde.isEmpty && c.previous?.any Text.isWordChar) then none
  else some (String.ofList (tilde ++ word), c.moved (tilde ++ word) rest)

/-- An access word at the cursor. -/
def visibility? : Option (Visibility × Cursor) :=
  Visibility.all.findSome? fun v =>
    match Text.behind? v.keyword.toList c.rest with
    | none => none
    | some rest =>
      if c.previous?.any Text.isWordChar || rest.head?.any Text.isWordChar then none
      else some (v, c.moved v.keyword.toList rest)

/-- An operator sign at the cursor. -/
def operatorSign? : Option (String × Cursor) :=
  (Text.operatorSign? c.rest).map fun (sign, taken, rest) => (sign, c.moved taken rest)

/-- A string or character literal at the cursor. -/
def literal? : Option (String × Cursor) :=
  (Text.literal? c.rest).map fun (taken, rest) => (String.ofList taken, c.moved taken rest)

/-- An array suffix at the cursor, with its bound if there is one. -/
def arrayBound? : Option (Option String × Cursor) :=
  (Text.arrayBound? c.rest).map fun (bound, rest) => (bound, c.movedTo rest)

/-- **An allocation operator** at the cursor: its name without brackets, or with them if a bracket
is opened behind it, which then has to be closed. -/
def allocation? : Option (Reading String) :=
  [Allocation.new, .delete].findSome? fun allocation =>
    (c.keyword? allocation.keyword).map fun c =>
      match c.skipBlank.skip? "[" with
      | none => .done ("operator " ++ allocation.keyword) c
      | some c =>
        match c.skipBlank.skip? "]" with
        | none => .failed (.expectedClosingBracket allocation) c.skipBlank
        | some c => .done ("operator " ++ allocation.keyword ++ "[]") c

end Cursor

end CppIndex
