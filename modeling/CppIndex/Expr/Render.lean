import CppIndex.Expr.Basic

/-!
# The canonical text of an expression

`Expr.render` writes an expression the way it would be declared: components joined by `::`, template
arguments by a comma and a blank, leading words and a leading `const` in front, and the suffixes `*`,
`&`, `[n]` and ` const` behind the type they apply to, in the order in which they apply.
-/

namespace CppIndex

namespace Expr

mutual

/-- **The canonical text** of an expression. -/
def render : Expr → String
  | .name text => text
  | .path parts => String.intercalate "::" (renderAll parts)
  | .template head args => render head ++ "<" ++ String.intercalate ", " (renderAll args) ++ ">"
  | .modified words inner => String.join (words.map (· ++ " ")) ++ render inner
  | .pointer inner => render inner ++ "*"
  | .reference inner => render inner ++ "&"
  | .array inner size => render inner ++ "[" ++ size.getD "" ++ "]"
  | .const .before inner => "const " ++ render inner
  | .const .after inner => render inner ++ " const"
  | .cast target => "operator " ++ render target

/-- The texts of a list of expressions. -/
def renderAll : List Expr → List String
  | [] => []
  | e :: es => render e :: renderAll es

end

/-- The texts of a list are the texts of its members. -/
@[simp] theorem renderAll_eq_map (es : List Expr) : renderAll es = es.map render := by
  induction es with
  | nil => rfl
  | cons e es ih => simp [renderAll, ih]

end Expr

end CppIndex
