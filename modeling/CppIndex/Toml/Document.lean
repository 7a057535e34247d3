import CppIndex.Toml.Scalar

/-!
# Configuration documents

A document is a sequence of lines: assignments, headers of tables, and headers that add one more table
to an array of tables. While it is assembled a table remembers how it came about (`Origin`), because
that decides what may still be added to it:

* a table with a **header** of its own takes no further header and no dotted key from outside;
* a table that is only **implied** by a longer header may still get a header of its own;
* a table made by a **dotted** key is closed to headers but open to further dotted keys.

No name is ever assigned twice. `Toml.parse` reads a text, assembles the tables, and forgets how they
came about.
-/

namespace CppIndex.Toml

/-! ### Assembling tables -/

/-- How a table came about. -/
inductive Origin
  /-- By a header of its own, or as the document itself. -/
  | header
  /-- By the header of a table inside it. -/
  | implied
  /-- By a dotted key. -/
  | dotted
  deriving DecidableEq, Repr

/-- What a name stands for while a document is assembled. -/
inductive Node
  /-- A finished value. -/
  | value (v : Value)
  /-- A table. -/
  | table (origin : Origin) (fields : List (String × Node))
  /-- An array of tables, each with a header of its own. -/
  | tables (items : List (List (String × Node)))

/-- The fields of a table that is assembled. -/
abbrev Draft := List (String × Node)

mutual

/-- The finished value of a node. -/
def Node.finish : Node → Value
  | .value v => v
  | .table _ fields => .table (finishFields fields)
  | .tables items => .array (finishItems items)

/-- The finished fields of a table. -/
def finishFields : List (String × Node) → Fields
  | [] => []
  | (name, node) :: fields => (name, node.finish) :: finishFields fields

/-- The finished tables of an array. -/
def finishItems : List (List (String × Node)) → List Value
  | [] => []
  | fields :: items => .table (finishFields fields) :: finishItems items

end

namespace Draft

/-- The fields with a name set to a node: in its place if the name is there, at the end if not. -/
def set (name : String) (node : Node) : Draft → Draft
  | [] => [(name, node)]
  | (n, old) :: fields =>
    if n = name then (n, node) :: fields else (n, old) :: set name node fields

/-- **A change to the table at the end of a path.** Tables missing on the way come about as
`missing` says. An array of tables leads on into its last one; a value leads nowhere. Dotted keys do
not pass through a table with a header of its own. -/
def changeAt (missing : Origin) (change : Origin → Draft → Option Draft) :
    List String → Origin → Draft → Option Draft
  | [], origin, fields => change origin fields
  | name :: path, _, fields =>
    match fields.lookup name with
    | none =>
      (changeAt missing change path missing []).map fun sub => fields.set name (.table missing sub)
    | some (.value _) => none
    | some (.table origin sub) =>
      if missing = .dotted ∧ origin = .header then none
      else
        (changeAt missing change path origin sub).map fun sub => fields.set name (.table origin sub)
    | some (.tables items) =>
      match items.getLast? with
      | none => none
      | some last =>
        (changeAt missing change path .header last).map
          fun sub => fields.set name (.tables (items.dropLast ++ [sub]))

/-- An assignment of a value to a key inside a table: the name must be new, and a dotted key must
lead to a table that dotted keys made. -/
def assign (path : List String) (name : String) (v : Value) (fields : Draft) : Option Draft :=
  changeAt .dotted
    (fun origin fields =>
      if ¬path.isEmpty ∧ origin ≠ .dotted then none
      else if (fields.lookup name).isSome then none
      else some (fields ++ [(name, .value v)]))
    path .header fields

/-- Assignments one after the other. -/
def assignAll (fields : Draft) : List ((List String × String) × Value) → Option Draft
  | [] => some fields
  | ((path, name), v) :: rest =>
    match fields.assign path name v with
    | none => none
    | some fields => assignAll fields rest

end Draft

/-! ### Values -/

/-- The items of an array behind its opening bracket, within a number of items. -/
def arrayItemsUpTo (item : Reader Value) : Nat → Reader (List Value)
  | 0, _ => none
  | n + 1, cs =>
    match skipLines cs with
    | ']' :: rest => some ([], rest)
    | cs =>
      match item cs with
      | none => none
      | some (v, cs) =>
        match skipLines cs with
        | ']' :: rest => some ([v], rest)
        | ',' :: cs => (arrayItemsUpTo item n cs).map fun (vs, rest) => (v :: vs, rest)
        | _ => none

/-- An assignment inside a line: a key, an equals sign and a value. -/
def assignment? (item : Reader Value) (cs : List Char) :
    Option (((List String × String) × Value) × List Char) :=
  match key? cs with
  | some (key, '=' :: cs) => (item (skipLineBlanks cs)).map fun (v, rest) => ((key, v), rest)
  | _ => none

/-- The assignments of a table written in one line, behind its opening brace or a comma, within a
number of assignments. -/
def inlineUpTo (item : Reader Value) : Nat → Reader (List ((List String × String) × Value))
  | 0, _ => none
  | n + 1, cs =>
    match assignment? item cs with
    | none => none
    | some (a, cs) =>
      match skipLineBlanks cs with
      | '\x7d' :: rest => some ([a], rest)
      | ',' :: cs => (inlineUpTo item n cs).map fun (as, rest) => (a :: as, rest)
      | _ => none

/-- A table written in one line, behind its opening brace. -/
def inlineTable? (item : Reader Value) (cs : List Char) : Option (Value × List Char) :=
  match skipLineBlanks cs with
  | '\x7d' :: rest => some (.table [], rest)
  | _ =>
    match inlineUpTo item (cs.length + 1) cs with
    | none => none
    | some (assignments, rest) =>
      (Draft.assignAll [] assignments).map fun fields => (.table (finishFields fields), rest)

/-- A string or a bare value. -/
def scalar? (cs : List Char) : Option (Value × List Char) :=
  if cs.head?.any fun c => (quoteEscapes? c).isSome then
    (string? cs).map fun (text, rest) => (.string text, rest)
  else bareValue? cs

/-- **A value**, with arrays and tables nested no deeper than a given depth. -/
def valueUpTo : Nat → Reader Value
  | 0, cs => scalar? cs
  | depth + 1, cs =>
    match cs with
    | '[' :: cs =>
      (arrayItemsUpTo (valueUpTo depth) (cs.length + 1) cs).map fun (vs, rest) => (.array vs, rest)
    | '\x7b' :: cs => inlineTable? (valueUpTo depth) cs
    | cs => scalar? cs

/-! ### Lines -/

/-- A line of a document that says something. -/
inductive Line
  /-- A value is assigned to a key. -/
  | assignment (key : List String × String) (v : Value)
  /-- The header of a table. -/
  | header (key : List String × String)
  /-- The header of one more table of an array. -/
  | item (key : List String × String)

/-- A line of a document, with what follows its end. -/
def line? (cs : List Char) : Option (Line × List Char) :=
  match cs with
  | '[' :: '[' :: cs =>
    match key? cs with
    | some (key, ']' :: ']' :: cs) => (endOfLine? cs).map fun rest => (.item key, rest)
    | _ => none
  | '[' :: cs =>
    match key? cs with
    | some (key, ']' :: cs) => (endOfLine? cs).map fun rest => (.header key, rest)
    | _ => none
  | cs =>
    match assignment? (valueUpTo nestingLimit) cs with
    | some ((key, v), cs) => (endOfLine? cs).map fun rest => (.assignment key v, rest)
    | none => none

/-- The lines of a document, within a number of lines. A comment needs a line end or the end of the
text behind it, like every line. -/
def linesUpTo : Nat → List Char → Option (List Line)
  | 0, _ => none
  | n + 1, cs =>
    match skipLines cs with
    | [] => some []
    | '#' :: cs => if (cs.dropWhile isText).isEmpty then some [] else none
    | cs =>
      match line? cs with
      | none => none
      | some (line, rest) => (linesUpTo n rest).map (line :: ·)

/-! ### Documents -/

/-- The lines of a document up to its first header, as assignments, and the lines from there on. -/
def splitSection : List Line → List ((List String × String) × Value) × List Line
  | .assignment key v :: lines =>
    let (assignments, rest) := splitSection lines
    ((key, v) :: assignments, rest)
  | lines => ([], lines)

/-- A table with a header of its own, added to a document. -/
def addTable (key : List String × String) (assignments : List ((List String × String) × Value))
    (root : Draft) : Option Draft :=
  Draft.changeAt .implied
    (fun _ fields =>
      let make (base : Draft) : Option Draft :=
        (base.assignAll assignments).map fun sub => fields.set key.2 (.table .header sub)
      match fields.lookup key.2 with
      | none => make []
      | some (.table .implied sub) => make sub
      | _ => none)
    key.1 .header root

/-- One more table of an array, added to a document. -/
def addItem (key : List String × String) (assignments : List ((List String × String) × Value))
    (root : Draft) : Option Draft :=
  Draft.changeAt .implied
    (fun _ fields =>
      let make (items : List Draft) : Option Draft :=
        (Draft.assignAll [] assignments).map fun sub => fields.set key.2 (.tables (items ++ [sub]))
      match fields.lookup key.2 with
      | none => make []
      | some (.tables items) => make items
      | _ => none)
    key.1 .header root

/-- The sections of a document, each a header with the assignments below it, added one after the
other, within a number of sections. -/
def addSections : Nat → List Line → Draft → Option Draft
  | _, [], root => some root
  | 0, _, _ => none
  | n + 1, line :: lines, root =>
    let (assignments, rest) := splitSection lines
    match line with
    | .header key => (addTable key assignments root).bind (addSections n rest)
    | .item key => (addItem key assignments root).bind (addSections n rest)
    | .assignment _ _ => none

/-- The text without a byte order mark at its front. -/
def skipMark : List Char → List Char
  | '\ufeff' :: cs => cs
  | cs => cs

/-- **The fields of a configuration text**, if it is well formed. -/
def parse (text : String) : Option Fields :=
  let cs := skipMark text.toList
  match linesUpTo (cs.length + 1) cs with
  | none => none
  | some lines =>
    let (assignments, rest) := splitSection lines
    match Draft.assignAll [] assignments with
    | none => none
    | some root => (addSections rest.length rest root).map finishFields

end CppIndex.Toml

namespace CppIndex

/-- **A reader of configuration texts** gives the fields of a text that is well formed. -/
abbrev TextReader := String → Option Toml.Fields

end CppIndex
