import CppIndex.Cursor.Lexeme
import CppIndex.Expr.Render

/-!
# Reading expressions

A type is read in three strides.

1. **Words in front** (`Expr.leadingWords`). `volatile`, `register`, `mutable`, `const` and `typename`
   may stand before any type. `unsigned`, `signed`, `short` and `long` begin a run of built-in words,
   each of which says which words may follow it (`Expr.followers`); such a run is a whole type
   (`Expr.builtin`), with `int` understood where no base type is written. Behind a leading `::`, which
   leaves no trace, no such words are read.
2. **Components** joined by `::`. Template arguments apply to the path read so far, and a component
   `operator` takes a sign, an allocation or a type with it.
3. **Suffixes** `const`, `*`, `[n]` and `&`, each wrapping what stands before it
   (`Expr.suffixStep`).

Types, components and template arguments contain each other, so their readers are mutually recursive.
They share an explicit **budget** of nested calls. Between two calls that read nothing only a fixed
number of others can stand, so a small multiple of the characters left (`Cursor.budget`) is never
exhausted, and `Expr.read` shows no budget.
-/

namespace CppIndex

namespace Expr

/-! ### Words in front of a type -/

/-- What may follow a word in front of a type. -/
inductive WordRule
  /-- Any type, or further words. -/
  | anyType
  /-- Only the given built-in words. -/
  | builtin (followers : List String)

/-- The rule of a word in front of a type; other words have none. -/
def wordRule? (word : String) : Option WordRule :=
  if word ∈ ["volatile", "register", "mutable", "const", "typename"] then some .anyType
  else if word = "unsigned" ∨ word = "signed" then some (.builtin ["char", "short", "int", "long"])
  else if word = "short" then some (.builtin ["int"])
  else if word = "long" then some (.builtin ["int", "long", "double"])
  else none

/-- The words that may follow a built-in word. -/
def followers (word : String) : List String :=
  match wordRule? word with
  | some (.builtin next) => next
  | _ => []

/-- One more word that may stand before any type. -/
def leadingStep (words : List String) (c : Cursor) : Option (List String × Cursor) :=
  match c.skipBlank.identifier? with
  | none => none
  | some (word, c) =>
    match wordRule? word with
    | some .anyType => some (words ++ [word], c)
    | _ => none

/-- **The words** before a type that any type may have; blanks behind them are skipped. -/
def leadingWords (c : Cursor) : List String × Cursor :=
  let (words, c) := c.repeated leadingStep []
  (words, c.skipBlank)

/-- A word at the cursor that begins a built-in type, with the words that may follow it. -/
def builtinStart? (c : Cursor) : Option (String × List String × Cursor) :=
  match c.identifier? with
  | none => none
  | some (word, c) =>
    match wordRule? word with
    | some (.builtin next) => some (word, next, c)
    | _ => none

/-- One more word of a run of built-in words; the second part of the state holds the words that may
come next. -/
def builtinStep (run : List String × List String) (c : Cursor) :
    Option ((List String × List String) × Cursor) :=
  match c.skipBlank.identifier? with
  | none => none
  | some (word, c) =>
    -- each word decides anew which words may follow
    if word ∈ run.2 then some ((run.1 ++ [word], followers word), c) else none

/-- **The base type of a run of built-in words** and the words that remain in front of it: `double`
wherever it stands, else the first `long` without any `int`, else a final `int` or `char`, else an
`int` that is not written. -/
def splitBuiltin (words : List String) : List String × String :=
  if "double" ∈ words then (words.filter (· ≠ "double"), "double")
  -- one `long` is the base, a second one stays in front of it
  else if "long" ∈ words then ((words.erase "long").filter (· ≠ "int"), "long")
  else if words.getLast? = some "int" then (words.dropLast, "int")
  else if words.getLast? = some "char" then (words.dropLast, "char")
  else (words, "int")

/-! ### Suffixes -/

/-- One more suffix behind an expression. -/
def suffixStep (e : Expr) (c : Cursor) : Option (Expr × Cursor) :=
  let c := c.skipBlank
  match c.keyword? "const" with
  | some c => some (.const .after e, c)
  | none =>
    match c.skip? "*" with
    | some c => some (.pointer e, c)
    | none =>
      match c.arrayBound? with
      | some (bound, c) => some (.array e bound, c)
      | none => (c.skip? "&").map fun c => (.reference e, c)

/-- An expression with all its suffixes; blanks behind them are skipped. -/
def withSuffixes (e : Expr) (c : Cursor) : Reading Expr :=
  let (e, c) := c.repeated suffixStep e
  .done e c.skipBlank

/-- **A base with the words in front of it and the suffixes behind it.** One `const` among the words
becomes the innermost wrapper, the other words stay words. -/
def wrapped (words : List String) (base : Expr) (c : Cursor) : Reading Expr :=
  let e := withWords (words.erase "const") base
  withSuffixes (if "const" ∈ words then .const .before e else e) c

/-- A type made of built-in words, from its first such word on. -/
def builtin (words : List String) (first : String) (next : List String) (c : Cursor) :
    Reading Expr :=
  let ((words, _), c) := c.repeated builtinStep (words ++ [first], next)
  let (others, base) := splitBuiltin (words.erase "const")
  let e := withWords others (.name base)
  withSuffixes (if "const" ∈ words then .const .before e else e) c

/-- A type made of components; there has to be at least one. -/
def ofComponents (words : List String) (parts : List Expr) (c : Cursor) : Reading Expr :=
  if parts.isEmpty then .failed .expectedType c else wrapped words (ofParts parts) c

/-! ### Components, template arguments and types -/

/-- Whether the cursor stands at a sign that ends a template argument. -/
def endsArgument (c : Cursor) : Bool := c.current? == some ',' || c.current? == some '>'

/-- Where the next component of a path begins, if there is one: the first anywhere but at the end of
the text, the others behind `::`. -/
def nextPart? (isFirst : Bool) (c : Cursor) : Option Cursor :=
  if isFirst then (if c.atEnd then none else some c) else (c.skip? "::").map Cursor.skipBlank

mutual

/-- A name: an identifier, or behind `operator` a sign, an allocation or the target of a
conversion. -/
def nameUpTo : Nat → Cursor → Reading Expr
  | 0, c => .failed .expectedName c
  | fuel + 1, c =>
    match c.identifier? with
    | none => .failed .expectedName c
    | some (word, c) =>
      if word ≠ "operator" then .done (.name word) c
      else
        -- `operator` is never a name by itself: it takes a sign, an allocation or a type along
        let c := c.skipBlank
        match c.operatorSign? with
        | some (sign, c) => .done (.name ("operator" ++ sign)) c
        | none =>
          match c.allocation? with
          | some reading => reading.map .name
          | none => (typeUpTo fuel false c).map .cast

/-- The components of a path, behind those already read. Inside template arguments a comma or a
closing angle ends the path. -/
def partsUpTo : Nat → Bool → List Expr → Cursor → Reading (List Expr)
  | 0, _, _, c => .failed .expectedName c
  | fuel + 1, inArgs, parts, c =>
    let c := c.skipBlank
    if inArgs && endsArgument c then .done parts c
    else
      match nextPart? parts.isEmpty c with
      | none => .done parts c
      | some c =>
        (nameUpTo fuel c).andThen fun part c =>
          match c.skipBlank.skip? "<" with
          | none => partsUpTo fuel inArgs (parts ++ [part]) c
          | some c =>
            -- the arguments apply to the whole path read so far, which becomes one component
            (argsUpTo fuel [] c).andThen fun args c =>
              partsUpTo fuel inArgs [.template (ofParts (parts ++ [part])) args] c

/-- Template arguments, behind those already read, up to the closing angle. -/
def argsUpTo : Nat → List Expr → Cursor → Reading (List Expr)
  | 0, _, c => .failed .expectedType c
  | fuel + 1, args, c =>
    let c := c.skipBlank
    match c.skip? ">" with
    | some c => .done args c
    | none =>
      match c.nextItem? args.isEmpty with
      | none => .failed .expectedTemplateDelimiter c
      | some c => (typeUpTo fuel true c).andThen fun arg c => argsUpTo fuel (args ++ [arg]) c

/-- A type; `inArgs` tells whether it is a template argument. -/
def typeUpTo : Nat → Bool → Cursor → Reading Expr
  | 0, _, c => .failed .expectedType c
  | fuel + 1, inArgs, c =>
    let c := c.skipBlank
    match c.skip? "::" with
    -- a leading `::` leaves no trace, and no words stand behind it
    | some c => (partsUpTo fuel inArgs [] c).andThen (ofComponents [])
    | none =>
      let (words, c) := leadingWords c
      match builtinStart? c with
      | some (first, next, c) => builtin words first next c
      | none => (partsUpTo fuel inArgs [] c).andThen (ofComponents words)

end

end Expr

namespace Cursor

/-- **The budget of nested calls** at a cursor: four for every character left, because no more than
three calls in a row read nothing. -/
def budget (c : Cursor) : Nat := 4 * c.rest.length + 4

end Cursor

namespace Expr

/-- **A type** at the cursor. -/
def read (c : Cursor) : Reading Expr := typeUpTo c.budget false c

/-- A name at the cursor. -/
def readName (c : Cursor) : Reading Expr := nameUpTo c.budget c

/-- **A text as a type**: the whole text, blanks around it apart, has to be one. -/
def parse (text : String) : Except ParseError Expr := (read (.ofText text)).complete

end Expr

end CppIndex
