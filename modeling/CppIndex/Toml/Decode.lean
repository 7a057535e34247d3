import CppIndex.Toml.Document

/-!
# Reading records from values

A record has named fields in a fixed order. It is written as a table, which may hold no other names, or
as an array, whose items stand for the fields in order; items beyond the last field are ignored. Either
way `recordFields` gives one optional value for each field, and the type of the record decides which of
them may be missing.
-/

namespace CppIndex.Toml

namespace Value

/-- A value as a text. -/
def asString? : Value → Option String
  | .string s => some s
  | _ => none

/-- A value as a truth value. -/
def asBool? : Value → Option Bool
  | .boolean b => some b
  | _ => none

/-- A value as a sequence. -/
def asList? : Value → Option (List Value)
  | .array items => some items
  | _ => none

/-- Whether a value is a table or an array that holds nothing. -/
def isEmptyContainer : Value → Bool
  | .table [] | .array [] => true
  | _ => false

/-- **A value as one of several words**: the word itself, or a table that holds the word alone, with
nothing behind it. -/
def asWord? : Value → Option String
  | .string s => some s
  | .table [(name, v)] => if v.isEmptyContainer then some name else none
  | _ => none

mutual

/-- How deeply a value is nested. -/
def depth : Value → Nat
  | .array items => depthOfItems items + 1
  | .table fields => depthOfFields fields + 1
  | .string _ | .integer _ | .float _ | .boolean _ | .moment _ => 0

/-- How deeply the deepest of some values is nested. -/
def depthOfItems : List Value → Nat
  | [] => 0
  | v :: vs => max (depth v) (depthOfItems vs)

/-- How deeply the deepest of some fields is nested. -/
def depthOfFields : List (String × Value) → Nat
  | [] => 0
  | (_, v) :: fields => max (depth v) (depthOfFields fields)

end

/-- **The fields of a record** with the given names, each missing or present. -/
def recordFields (names : List String) : Value → Option (List (Option Value))
  | .table fields =>
    if fields.all fun field => names.contains field.1 then
      some (names.map fun name => fields.lookup name)
    else none
  | .array items => some (names.mapIdx fun i _ => items[i]?)
  | _ => none

end Value

/-- A field that may be missing: its value is read if it is there. -/
def optionalField {α : Type} (read : Value → Option α) : Option Value → Option (Option α)
  | none => some none
  | some v => (read v).map some

/-- A field that stands for an empty list if it is missing. -/
def listField {α : Type} (read : Value → Option α) : Option Value → Option (List α)
  | none => some []
  | some v => v.asList?.bind (·.mapM read)

/-- A field that has to be there. -/
def requiredField {α : Type} (read : Value → Option α) (field : Option Value) : Option α :=
  field.bind read

end CppIndex.Toml
