import CppIndex.Declaration.Basic
import CppIndex.Expr.Parse

/-!
# Reading declarations

A declaration of each kind begins with an optional access word and an optional `static`, and goes on
with types and names read as expressions:

* a class is one type;
* a type alias is one type or two, of which the last is the declared name;
* a member is a type, a name, and behind an equals sign the rest of the text as its value;
* a function is an optional return type, a name, a parameter list, and optionally `const` and an
  equals sign with a null constant.

A parameter's default value is kept as it is written. It is a single literal, or it runs up to the
first comma or closing parenthesis that stands outside brackets and literals (`Text.splitDefault?`).
-/

namespace CppIndex

/-! ### Default values -/

namespace Text

/-- **The text of a default value and what follows it**: up to the first comma or closing
parenthesis at depth zero, outside literals. `quote` is the sign that closes the literal the text is
inside of, if it is inside one. A closing bracket at depth zero closes nothing and counts as text. -/
def splitDefault? (depth : Nat) (quote : Option Char) : List Char → Option (List Char × List Char)
  | [] => none
  | c :: cs =>
    let keep := Option.map fun (split : List Char × List Char) => (c :: split.1, split.2)
    match quote with
    -- inside a literal only its closing sign counts, and a backslash hides the next character
    | some q =>
      if c = '\\' then
        match cs with
        | [] => none
        | d :: cs =>
          (splitDefault? depth quote cs).map fun split => (c :: d :: split.1, split.2)
      else keep (splitDefault? depth (if c = q then none else some q) cs)
    | none =>
      if c = '"' ∨ c = apostrophe then keep (splitDefault? depth (some c) cs)
      else if c = '(' ∨ c = '[' ∨ c = '\x7b' then keep (splitDefault? (depth + 1) none cs)
      -- the sign that ends the value is left for whoever reads on
      else if depth = 0 ∧ (c = ',' ∨ c = ')') then some ([], c :: cs)
      else if c = ')' ∨ c = ']' ∨ c = '\x7d' then keep (splitDefault? (depth - 1) none cs)
      else keep (splitDefault? depth none cs)

end Text

/-- **A default value**: a literal, or the text up to where it ends, without the blanks at its
end. -/
def Param.readDefault (c : Cursor) : Reading String :=
  let c := c.skipBlank
  match c.literal? with
  | some (value, c) => .done value c
  | none =>
    match Text.splitDefault? 0 none c.rest with
    | some (value, rest) => .done (String.ofList (Text.trimEnd value)) (c.moved value rest)
    | none => .failed .unterminatedDefault c

/-! ### Parameters -/

namespace Param

/-- The default value behind an equals sign, if there is one. -/
def readDefault? (c : Cursor) : Reading (Option String) :=
  match c.skip? "=" with
  | some c => (readDefault c).map some
  | none => .done none c

/-- **A parameter**: three points, or a type with an optional name and an optional default value. -/
def read (c : Cursor) : Reading Param :=
  match c.skip? "..." with
  | some c => .done ⟨none, some (.name "..."), none⟩ c
  | none =>
    (Expr.read c).andThen fun type c =>
      let c := c.skipBlank
      if c.current? = some '=' ∨ c.current? = some ',' ∨ c.current? = some ')' then
        (readDefault? c).map fun value => ⟨some type, none, value⟩
      else
        (Expr.readName c).andThen fun name c =>
          (readDefault? c.skipBlank).map fun value => ⟨some type, some name, value⟩

/-- Parameters behind those already read, up to the closing parenthesis, with a bound on their
number. -/
def readAllUpTo : Nat → List Param → Cursor → Reading (List Param)
  | 0, _, c => .failed .missingClosingParen c
  | n + 1, params, c =>
    let c := c.skipBlank
    if c.atEnd then .failed .missingClosingParen c
    else
      match c.skip? ")" with
      | some c => .done params c
      | none =>
        match c.nextItem? params.isEmpty with
        | none => .failed .expectedComma c
        | some c => (read c).andThen fun param c => readAllUpTo n (params ++ [param]) c

/-- **The parameters** of a function, up to the closing parenthesis. Each takes at least one
character. -/
def readAll (c : Cursor) : Reading (List Param) := readAllUpTo (c.rest.length + 1) [] c

end Param

/-! ### Declarations -/

namespace Declaration

/-- The access level and the word `static` in front of a declaration; without an access word a
declaration is open to everyone. -/
def readLeading (c : Cursor) : Visibility × Bool × Cursor :=
  let c := c.skipBlank
  let (visibility, c) := (c.visibility?).getD (.pub, c)
  let c := c.skipBlank
  match c.keyword? "static" with
  | some c => (visibility, true, c)
  | none => (visibility, false, c)

/-- **A class**: its name. -/
def readClass (c : Cursor) : Reading Declaration :=
  let (visibility, isStatic, c) := readLeading c
  (Expr.read c).map fun name => ⟨name, visibility, isStatic, .classType⟩

/-- **A type**: the type it stands for and its name, or the name alone. -/
def readTypeName (c : Cursor) : Reading Declaration :=
  let (visibility, isStatic, c) := readLeading c
  (Expr.read c).andThen fun first c =>
    let c := c.skipBlank
    -- a single type is the name itself
    if c.atEnd then .done ⟨first, visibility, isStatic, .typeName none⟩ c
    else (Expr.read c).map fun name => ⟨name, visibility, isStatic, .typeName (some first)⟩

/-- **A member**: its type, its name, and behind an equals sign its value, which is all that is
left. -/
def readMember (c : Cursor) : Reading Declaration :=
  let (visibility, isStatic, c) := readLeading c
  (Expr.read c).andThen fun type c =>
    (Expr.read c).andThen fun name c =>
      let c := c.skipBlank
      match c.skip? "=" with
      | some c =>
        let value := String.ofList (Text.trim c.rest)
        .done ⟨name, visibility, isStatic, .member type (some value)⟩ c.toEnd
      | none => .done ⟨name, visibility, isStatic, .member type none⟩ c

/-- One more of the words `explicit` and `virtual`; the state tells which were read. -/
def functionWordStep (words : Bool × Bool) (c : Cursor) : Option ((Bool × Bool) × Cursor) :=
  let c := c.skipBlank
  match c.keyword? "explicit" with
  | some c => some ((true, words.2), c)
  | none => (c.keyword? "virtual").map fun c => ((words.1, true), c)

/-- Whether `const` stands behind the parameter list. -/
def readConst (c : Cursor) : Bool × Cursor :=
  match c.skipBlank.keyword? "const" with
  | some c => (true, c.skipBlank)
  | none => (false, c.skipBlank)

/-- Whether the function is pure virtual: an equals sign behind it has to be followed by a null
constant. -/
def readPure (c : Cursor) : Reading Bool :=
  match c.skip? "=" with
  | none => .done false c
  | some c =>
    let c := c.skipBlank
    match ["0", "NULL", "nullptr"].findSome? c.keyword? with
    | some c => .done true c
    | none => .failed .invalidPureVirtual c

/-- What follows the name of a function: its parameters and the words behind them. -/
def readSignature (name : Expr) (visibility : Visibility) (isStatic isExplicit isVirtual : Bool)
    (returns : Option Expr) (c : Cursor) : Reading Declaration :=
  let c := c.skipBlank
  match c.skip? "(" with
  | none => .failed .expectedParameterList c
  | some c =>
    (Param.readAll c).andThen fun params c =>
      let (isConst, c) := readConst c
      (readPure c).map fun isPure =>
        ⟨name, visibility, isStatic,
          .function ⟨isExplicit, isVirtual, returns, params, isConst, isPure⟩⟩

/-- **A function.** The first expression is the name if the parameter list follows it, and the
return type if it does not. -/
def readFunction (c : Cursor) : Reading Declaration :=
  let (visibility, isStatic, c) := readLeading c
  let ((isExplicit, isVirtual), c) := c.repeated functionWordStep (false, false)
  (Expr.read c).andThen fun first c =>
    let c := c.skipBlank
    -- constructors, destructors and conversion operators have no return type
    if c.current? = some '(' then
      readSignature first visibility isStatic isExplicit isVirtual none c
    else
      (Expr.read c).andThen fun name c =>
        readSignature name visibility isStatic isExplicit isVirtual (some first) c

/-- A declaration of a given kind at the cursor. -/
def read : ObjectKind → Cursor → Reading Declaration
  | .classType => readClass
  | .function => readFunction
  | .member => readMember
  | .typeName => readTypeName

/-- **A text as a declaration** of a given kind: the whole text, blanks around it apart, has to be
one. -/
def parse (kind : ObjectKind) (text : String) : Except ParseError Declaration :=
  (read kind (.ofText text)).complete

end Declaration

end CppIndex
