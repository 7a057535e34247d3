import CppIndex.Declaration.Render

/-!
# Signatures

A **signature** is a declaration laid out for display: words in front, the leading type, the owner and
the leaf of the name, parameters, value, and words behind. Every type in it is a **mention**: the
text of the type together with the text of the scope in which it was written, enough to look the type
up later.

A signature shows the name as it was written, before it is moved into a scope.
-/

namespace CppIndex

/-- A type mentioned in a signature. -/
structure TypeMention where
  /-- The canonical text of the type. -/
  text : String
  /-- The scope in which the type was written. -/
  parent : Option String
  deriving DecidableEq, Repr

/-- The mention of a type inside a scope. -/
def TypeMention.ofExpr (parent : Option Expr) (type : Expr) : TypeMention :=
  ⟨type.render, parent.map Expr.render⟩

/-- The leaf of a displayed name. -/
inductive ShownName
  /-- An ordinary name. -/
  | plain (text : String)
  /-- A conversion operator; its target is a mention of its own. -/
  | cast (target : TypeMention)
  deriving DecidableEq, Repr

/-- A displayed parameter. -/
structure ShownParam where
  /-- The type. -/
  type : Option TypeMention
  /-- The name. -/
  name : Option String
  /-- The default value. -/
  default : Option String
  deriving DecidableEq, Repr

/-- **A declaration laid out for display.** -/
structure Signature where
  /-- The words in front. -/
  annotations : List String
  /-- The return type, the type of a member or the target of an alias. -/
  leadingType : Option TypeMention
  /-- The owner written in front of the leaf. -/
  owner : Option String
  /-- The leaf of the name. -/
  name : ShownName
  /-- The parameters; only functions have them. -/
  params : Option (List ShownParam)
  /-- The value of a member. -/
  value : Option String
  /-- The words behind. -/
  suffixes : List String
  deriving DecidableEq, Repr

namespace Signature

variable (parent : Option Expr)

/-- The displayed form of a leaf. -/
def shownName : Expr → ShownName
  | .cast target => .cast (.ofExpr parent target)
  | e => .plain e.render

/-- The displayed form of a parameter. -/
def shownParam (p : Param) : ShownParam :=
  ⟨p.type.map (.ofExpr parent), p.name.map Expr.render, p.default⟩

/-- The word for the kind, shown for classes and types, and the words of a function. -/
def kindWords : Body → List String
  | .classType => ["class"]
  | .typeName _ => ["type"]
  | .member _ _ => []
  | .function f =>
    (if f.isVirtual then ["virtual"] else []) ++ (if f.isExplicit then ["explicit"] else [])

/-- The type that stands in front of the name. -/
def leadingExpr : Body → Option Expr
  | .classType => none
  | .typeName target => target
  | .member type _ => some type
  | .function f => f.returns

/-- The parameters of a function. -/
def bodyParams : Body → Option (List Param)
  | .function f => some f.params
  | _ => none

/-- The value of a member. -/
def bodyValue : Body → Option String
  | .member _ value => value
  | _ => none

/-- The words behind a function. -/
def bodySuffixes : Body → List String
  | .function f => (if f.isConst then ["const"] else []) ++ (if f.isPure then ["= 0"] else [])
  | _ => []

/-- **The signature of a declaration** written inside a scope. -/
def ofDeclaration (d : Declaration) : Signature where
  annotations := d.leadingWords ++ kindWords d.body
  leadingType := (leadingExpr d.body).map (.ofExpr parent)
  owner := d.name.splitOwner.1.map Expr.render
  name := shownName parent d.name.splitOwner.2
  params := (bodyParams d.body).map (·.map (shownParam parent))
  value := bodyValue d.body
  suffixes := bodySuffixes d.body

end Signature

/-! ### The text of a signature -/

/-- The text of a displayed leaf. -/
def ShownName.render : ShownName → String
  | .plain text => text
  | .cast target => "operator " ++ target.text

/-- The text of a displayed parameter. -/
def ShownParam.render (p : ShownParam) : String :=
  (match p.type, p.name with
    | some type, some name => type.text ++ " " ++ name
    | some type, none => type.text
    | none, some name => name
    | none, none => "") ++
    (match p.default with
      | some value => "=" ++ value
      | none => "")

/-- **The text of a signature**: its parts in order, each with the blank, comma or colons that
separate it from its neighbours. -/
def Signature.render (s : Signature) : String :=
  String.join (s.annotations.map (· ++ " ")) ++
    (match s.leadingType with
      | some type => type.text ++ " "
      | none => "") ++
    (match s.owner with
      | some owner => owner ++ "::"
      | none => "") ++
    s.name.render ++
    (match s.params with
      | some params => "(" ++ String.intercalate ", " (params.map ShownParam.render) ++ ")"
      | none => "") ++
    (match s.value with
      | some value => " = " ++ value
      | none => "") ++
    String.join (s.suffixes.map (" " ++ ·))

end CppIndex
