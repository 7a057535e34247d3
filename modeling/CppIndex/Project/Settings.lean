import CppIndex.Config
import CppIndex.Toml.Decode

/-!
# Settings files

The settings of an index are written as three optional fields of a configuration text. A missing field
has its default value; a field of another name or type makes the text unreadable.
-/

namespace CppIndex

namespace Config

/-- The names of the settings in a configuration text. -/
def fieldNames : List String :=
  ["collision-policy", "add-function-parentheses", "warn-unresolved"]

/-- **The settings** in the fields of a configuration text. -/
def ofFields? (fields : Toml.Fields) : Option Config :=
  match (Toml.Value.table fields).recordFields fieldNames with
  | some [policy, parens, unresolved] =>
    match Toml.optionalField (fun v => v.asWord?.bind CollisionPolicy.ofLabel?) policy,
        Toml.optionalField Toml.Value.asBool? parens,
        Toml.optionalField Toml.Value.asBool? unresolved with
    | some policy, some parens, some unresolved =>
      some ⟨policy.getD .overwrite, parens.getD true, unresolved.getD false⟩
    | _, _, _ => none
  | _ => none

/-- The settings in a configuration text, with any reader of configuration texts. -/
def parseWith (read : TextReader) (text : String) : Option Config := (read text).bind ofFields?

end Config

end CppIndex
