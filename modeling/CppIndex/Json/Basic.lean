/-!
# JSON text

Reports are printed as JSON in a fixed layout: two blanks of indentation a level, one item or field a
line, a blank behind each colon, and empty arrays and objects without a line of their own. Strings escape
the quote, the backslash and the control characters; every other character stands as it is. Fields
appear in the order given, or sorted by name where `Json.sorted` was applied.
-/

namespace CppIndex

/-- **A JSON value.** Fields keep their order. -/
inductive Json
  /-- Nothing. -/
  | null
  /-- A truth value. -/
  | bool (value : Bool)
  /-- A text. -/
  | str (text : String)
  /-- A sequence. -/
  | arr (items : List Json)
  /-- Values by name. -/
  | obj (fields : List (String × Json))

namespace Json

/-! ### Building values -/

/-- A field that is left out if there is no value. -/
def optional {α : Type} (name : String) (encode : α → Json) : Option α → List (String × Json)
  | none => []
  | some value => [(name, encode value)]

/-- A field put into its place in a list of fields sorted by name. -/
def insertField (field : String × Json) : List (String × Json) → List (String × Json)
  | [] => [field]
  | f :: fields => if field.1 < f.1 then field :: f :: fields else f :: insertField field fields

mutual

/-- **A value with the fields of all its objects sorted by name.** -/
def sorted : Json → Json
  | .null => .null
  | .bool b => .bool b
  | .str s => .str s
  | .arr items => .arr (sortedItems items)
  | .obj fields => .obj (sortedFields fields)

/-- The items of a sequence, each with sorted fields. -/
def sortedItems : List Json → List Json
  | [] => []
  | v :: vs => sorted v :: sortedItems vs

/-- Fields sorted by name, each with sorted fields inside. -/
def sortedFields : List (String × Json) → List (String × Json)
  | [] => []
  | (name, v) :: fields => insertField (name, sorted v) (sortedFields fields)

end

/-! ### Writing values -/

/-- The digits of a code point below 256 as two hexadecimal digits. -/
def hexPair (n : Nat) : List Char :=
  let digits := Nat.toDigits 16 n
  List.replicate (2 - digits.length) '0' ++ digits

/-- One character as it stands in a string. -/
def escaped (c : Char) : List Char :=
  if c = '"' then ['\\', '"']
  else if c = '\\' then ['\\', '\\']
  else if c = '\x08' then ['\\', 'b']
  else if c = '\t' then ['\\', 't']
  else if c = '\n' then ['\\', 'n']
  else if c = '\x0c' then ['\\', 'f']
  else if c = '\r' then ['\\', 'r']
  else if c.toNat < 0x20 then ['\\', 'u', '0', '0'] ++ hexPair c.toNat
  else [c]

/-- A string between quotes. -/
def quotedText (s : String) : String :=
  String.ofList (['"'] ++ s.toList.flatMap escaped ++ ['"'])

/-- The blanks in front of a line at some level. -/
def indent (level : Nat) : String := String.ofList (List.replicate (2 * level) ' ')

/-- Parts between two signs, one a line at the level behind the given one; without parts, the signs
alone. -/
def block (opening closing : String) (level : Nat) (parts : List String) : String :=
  if parts.isEmpty then opening ++ closing
  else
    opening ++ "\n" ++ String.intercalate ",\n" (parts.map (indent (level + 1) ++ ·)) ++ "\n" ++
      indent level ++ closing

mutual

/-- The text of a value whose first line stands at some level. -/
def textAt (level : Nat) : Json → String
  | .null => "null"
  | .bool true => "true"
  | .bool false => "false"
  | .str s => quotedText s
  | .arr items => block "[" "]" level (itemTexts (level + 1) items)
  | .obj fields => block "\x7b" "\x7d" level (fieldTexts (level + 1) fields)

/-- The texts of the items of a sequence. -/
def itemTexts (level : Nat) : List Json → List String
  | [] => []
  | v :: vs => textAt level v :: itemTexts level vs

/-- The texts of the fields of an object. -/
def fieldTexts (level : Nat) : List (String × Json) → List String
  | [] => []
  | (name, v) :: fields => (quotedText name ++ ": " ++ textAt level v) :: fieldTexts level fields

end

/-- **The text of a value.** -/
def text (v : Json) : String := textAt 0 v

end Json

end CppIndex
