import CppIndex.Declaration.Parse

/-!
# Contexts

Declarations are described inside a **context**: a document and the scope that names declared there
are moved into. A namespace directive replaces the scope; the words that stand for nothing (`NULL`,
`0` and `nullptr`) lead back to the global scope.
-/

namespace CppIndex

/-- **Where a declaration is described.** -/
structure Context where
  /-- The name of the document. -/
  docname : String
  /-- The enclosing scope; at the top level there is none. -/
  parent : Option Expr := none
  deriving DecidableEq, Repr

namespace Context

/-- The texts of a namespace directive that lead back to the global scope. -/
def globalWords : List String := ["NULL", "0", "nullptr"]

/-- **A namespace directive**: the context with the scope that the text stands for. -/
def withNamespace (ctx : Context) (text : String) : Except ParseError Context :=
  let text := Text.trimmed text
  if text ∈ globalWords then .ok { ctx with parent := none }
  else (Expr.parse text).map fun scope => { ctx with parent := some scope }

/-- The context of what is declared inside a named object. -/
def nestedIn (ctx : Context) (name : Expr) : Context :=
  { ctx with parent := some name.declaredName }

end Context

end CppIndex
