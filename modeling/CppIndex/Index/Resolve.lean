import CppIndex.Index.Basic
import CppIndex.Text.Quoted

/-!
# Resolving references

A reference names its target as it would be written in some scope. The target is looked up as it
stands, then inside the scope, then inside the owner of the scope (`Index.candidates`); the first
registered name whose kind fits the role is the answer. A name of another kind does not end the search.

Wrappers count for nothing here: what is looked up is the expression that the target names, in the
scope that the scope expression names. A target without a name could not be looked up, but there is none
(`Index.resolve_ne_unnamed`).
-/

namespace CppIndex

/-- Why a reference cannot be looked up. -/
inductive ResolveError
  /-- The target is not a type expression. -/
  | unparseable (error : ParseError)
  /-- The target names nothing. -/
  | unnamed (target : String)
  deriving DecidableEq, Repr

/-- The wording of a failed look-up. -/
def ResolveError.message : ResolveError → String
  | .unparseable error => "unparseable C++ definition: " ++ error.message
  | .unnamed target => "C++ reference target " ++ Text.quoted target ++ " does not name anything"

/-- **The names under which a name is looked up** in a scope, in order. -/
def Expr.candidates (name : Expr) (scope : Option Expr) : List Expr :=
  match scope with
  | none => [name]
  | some scope =>
    name :: scope.qualify name :: (scope.splitOwner.1.map fun owner => owner.qualify name).toList

namespace Index

variable (ix : Index)

/-- The object registered under a name, if its kind fits the role. -/
def lookUp (role : Role) (name : Expr) : Option Record :=
  match ix.get? name.render with
  | none => none
  | some entry => if role.allows entry.kind then some ⟨name.render, entry⟩ else none

/-- **Resolve** a reference in a role to a target written inside a scope. -/
def resolve (role : Role) (target : String) (parent : Option Expr) :
    Except ResolveError (Option Record) :=
  match Expr.parse target with
  | .error e => .error (.unparseable e)
  | .ok e =>
    match e.name? with
    | none => .error (.unnamed target)
    | some name => .ok ((name.candidates (parent.bind Expr.name?)).findSome? (ix.lookUp role))

/-- A target that is not a type expression is told as it was rejected. -/
theorem resolve_of_error {role : Role} {target : String} {error : ParseError}
    (h : Expr.parse target = .error error) (parent : Option Expr) :
    ix.resolve role target parent = .error (.unparseable error) := by
  rw [resolve, h]

/-- **A target that is a type expression is looked up**, for it always names something. -/
theorem resolve_of_ok {role : Role} {target : String} {e : Expr} (h : Expr.parse target = .ok e)
    (parent : Option Expr) : ix.resolve role target parent =
      .ok ((e.declaredName.candidates (parent.map Expr.declaredName)).findSome? (ix.lookUp role)) := by
  have hscope : parent.bind Expr.name? = parent.map Expr.declaredName := by
    cases parent with
    | none => rfl
    | some p => exact p.name?_eq_some
  simp only [resolve, h, e.name?_eq_some, hscope]

/-- **No target is without a name.** -/
theorem resolve_ne_unnamed (role : Role) (target text : String) (parent : Option Expr) :
    ix.resolve role target parent ≠ .error (.unnamed text) := by
  intro h
  cases hparse : Expr.parse target with
  | error e =>
    rw [resolve_of_error ix hparse] at h
    cases h
  | ok e =>
    rw [resolve_of_ok ix hparse] at h
    cases h

end Index

/-! ### One question to a small index -/

/-- Why a question to a small index has no answer. -/
inductive LookupError
  /-- A declaration is rejected. -/
  | describe (error : ParseError)
  /-- The scope is rejected. -/
  | scope (error : ParseError)
  /-- The target is rejected. -/
  | target (error : ResolveError)

/-- The wording of a question without an answer. -/
def LookupError.message : LookupError → String
  | .describe error => "Describe error: " ++ error.message
  | .scope error => "Parse error: " ++ error.message
  | .target error => "Resolve error: " ++ error.message

/-- A text as an optional scope. -/
def Expr.parseScope? : Option String → Except ParseError (Option Expr)
  | none => .ok none
  | some text => (Expr.parse text).map some

namespace Index

/-- Describe declarations one after the other in one context; the first that is rejected ends it. -/
def describeAll (ix : Index) (ctx : Context) :
    List (ObjectKind × String) → Except ParseError Index
  | [] => .ok ix
  | (kind, text) :: rest =>
    match ix.describe ctx kind text with
    | .error e => .error e
    | .ok (_, ix) => describeAll ix ctx rest

/-- **Ask a small index**: describe declarations in one document and resolve one reference. The
answer is the full name that was found. -/
def ask (docname : String) (declarations : List (ObjectKind × String)) (role : Role)
    (target : String) (scope : Option String) : Except LookupError (Option String) :=
  match (empty {}).describeAll ⟨docname, none⟩ declarations with
  | .error e => .error (.describe e)
  | .ok ix =>
    match Expr.parseScope? scope with
    | .error e => .error (.scope e)
    | .ok parent =>
      match ix.resolve role target parent with
      | .error e => .error (.target e)
      | .ok found => .ok (found.map (·.fullname))

end Index

end CppIndex
