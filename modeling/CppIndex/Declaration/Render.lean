import CppIndex.Declaration.Basic
import CppIndex.Expr.Render

/-!
# The canonical text of a declaration

A declaration is written as words with one blank between them: the words every declaration may begin
with, those of its kind, the type, the name, and what may follow. A function's parameters stand behind
its name without a blank, separated by a comma and a blank; a default value follows its equals sign
directly.
-/

namespace CppIndex

/-- The text of a type and a name of which either may be missing. -/
def Param.typedName : Option String → Option String → String
  | some type, some name => type ++ " " ++ name
  | some type, none => type
  | none, some name => name
  | none, none => ""

/-- The text of a default value behind its parameter. -/
def Param.defaultText : Option String → String
  | some value => "=" ++ value
  | none => ""

/-- **The canonical text** of a parameter. -/
def Param.render (p : Param) : String :=
  Param.typedName (p.type.map Expr.render) (p.name.map Expr.render) ++ Param.defaultText p.default

namespace FunctionInfo

/-- The words in front of a function's return type. -/
def leadingWords (f : FunctionInfo) : List String :=
  (if f.isVirtual then ["virtual"] else []) ++ (if f.isExplicit then ["explicit"] else [])

/-- The words behind a function's parameter list. -/
def trailingWords (f : FunctionInfo) : List String :=
  (if f.isConst then ["const"] else []) ++ (if f.isPure then ["= 0"] else [])

/-- The parameter list with its parentheses. -/
def paramsText (f : FunctionInfo) : String :=
  "(" ++ String.intercalate ", " (f.params.map Param.render) ++ ")"

end FunctionInfo

namespace Declaration

/-- The words of a declaration behind those that every declaration may begin with. -/
def bodyWords (name : Expr) : Body → List String
  | .classType | .typeName none => [name.render]
  | .typeName (some target) => [target.render, name.render]
  | .member type value =>
    (type.render ++ " " ++ name.render) :: value.toList.map ("= " ++ ·)
  | .function f =>
    f.leadingWords ++ (f.returns.map Expr.render).toList ++ [name.render ++ f.paramsText] ++
      f.trailingWords

/-- **The canonical text** of a declaration. -/
def render (d : Declaration) : String :=
  String.intercalate " " (d.leadingWords ++ bodyWords d.name d.body)

end Declaration

end CppIndex
