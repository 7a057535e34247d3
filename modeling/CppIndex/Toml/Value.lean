/-!
# Configuration values

The values of a configuration text in TOML: strings, integers, floats, truth values, moments, arrays
and tables. A table keeps its fields in the order in which they were written; no name occurs twice in
it. Floats, dates and times are kept as they are written, since no setting is one.
-/

namespace CppIndex.Toml

/-- **A configuration value.** -/
inductive Value
  /-- A text. -/
  | string (text : String)
  /-- An integer of at most 64 bits. -/
  | integer (value : Int)
  /-- A floating-point number, as it is written. -/
  | float (literal : String)
  /-- A truth value. -/
  | boolean (value : Bool)
  /-- A date, a time, or both, as it is written. -/
  | moment (literal : String)
  /-- A sequence of values. -/
  | array (items : List Value)
  /-- Values by name. -/
  | table (fields : List (String × Value))
  deriving Repr

/-- The fields of a table, by name. -/
abbrev Fields := List (String × Value)

end CppIndex.Toml
