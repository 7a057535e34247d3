import CppIndex.Declaration.Basic
import CppIndex.Expr.Anchor

/-!
# The anchor of a declaration

The anchor of a declaration is that of its name, followed by what tells namesakes apart: the type of a
member or alias, the types of a function's parameters, and a mark for a function that is `const`.
-/

namespace CppIndex

/-- The anchor of a parameter: that of its type, or `X` if it has none. -/
def Param.anchor (p : Param) : String :=
  match p.type with
  | some type => type.anchor
  | none => "X"

/-- **The anchor** of a declaration. -/
def Declaration.anchor (d : Declaration) : String :=
  match d.body with
  | .classType | .typeName none => d.name.anchor
  | .typeName (some type) | .member type _ => d.name.anchor ++ "__" ++ type.anchor
  | .function f =>
    let params :=
      if f.params.isEmpty then "" else "__" ++ String.intercalate "." (f.params.map Param.anchor)
    d.name.anchor ++ params ++ (if f.isConst then "C" else "")

end CppIndex
