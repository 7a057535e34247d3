import CppIndex.Expr.Basic

/-!
# Scopes

A declared name lives in a **scope**, which is itself an expression. Three operations tie the two
together:

* `Expr.name?` looks for what an expression names, from the outside inwards. It is always found
  (`Expr.name?_eq_some`): it is `Expr.declaredName`, the primary expression under all wrappers;
* `Expr.splitOwner` separates a qualified name into the scope written before its last component and
  that component, a template keeping its arguments on the latter;
* `Expr.qualify` moves a name into a scope. Paths are spliced, never nested: the scope contributes
  its components (`Expr.components`), so that qualifying twice is qualifying once by the longer path.
-/

namespace CppIndex

namespace Expr

/-- **The named expression** under all wrappers. -/
def declaredName : Expr → Expr
  | .modified _ e | .pointer e | .reference e | .array e _ | .const _ e => declaredName e
  | .name s => .name s
  | .path ps => .path ps
  | .template h as => .template h as
  | .cast t => .cast t

/-- **What an expression names**, searched from the outside inwards. The search could end without a name
only if there were an expression that neither wraps one nor stands for itself. -/
def name? (e : Expr) : Option Expr :=
  match _h : e.inner? with
  | some inner => inner.name?
  | none => some e
termination_by sizeOf e
decreasing_by
  cases e <;> cases _h <;> simp +arith

/-- **Every expression names something.** -/
theorem name?_eq_some (e : Expr) : e.name? = some e.declaredName := by
  match e with
  | .name _ | .path _ | .template _ _ | .cast _ =>
    rw [name?]
    rfl
  | .modified _ inner | .pointer inner | .reference inner | .array inner _ | .const _ inner =>
    rw [name?]
    exact name?_eq_some inner

/-- A primary expression names itself. -/
theorem declaredName_of_isPrimary {e : Expr} (h : e.isPrimary = true) : e.declaredName = e := by
  cases e <;> simp_all [declaredName, isPrimary]

/-- The components that an expression contributes to a path: its own if it is a path, itself if it
is not. -/
def components : Expr → List Expr
  | .path parts => parts
  | e => [e]

@[simp] theorem components_path (parts : List Expr) : (Expr.path parts).components = parts := rfl

/-- **Owner and leaf** of a qualified name. A path of at least two components splits before its
last; a template splits where its head does; nothing else splits. -/
def splitOwner : Expr → Option Expr × Expr
  | .path parts =>
    match parts.getLast? with
    | some leaf => if 1 < parts.length then (some (.path parts.dropLast), leaf) else (none, .path parts)
    | none => (none, .path parts)
  | .template head args =>
    let (owner, leaf) := splitOwner head
    (owner, .template leaf args)
  | e => (none, e)

/-- **The expression inside a scope.** Names, conversion operators and paths are appended to the
components of the scope; a template and a wrapper pass the scope on to what they stand around. -/
def qualify (scope : Expr) : Expr → Expr
  | .path parts => .path (scope.components ++ parts)
  | .name s => .path (scope.components ++ [.name s])
  | .cast t => .path (scope.components ++ [.cast t])
  | .template head args => .template (qualify scope head) args
  | .modified words e => .modified words (qualify scope e)
  | .pointer e => .pointer (qualify scope e)
  | .reference e => .reference (qualify scope e)
  | .array e size => .array (qualify scope e) size
  | .const side e => .const side (qualify scope e)

/-- What is named inside a scope is what is named, inside the scope. -/
theorem declaredName_qualify (scope : Expr) :
    ∀ e : Expr, (qualify scope e).declaredName = qualify scope e.declaredName
  | .modified _ e | .pointer e | .reference e | .array e _ | .const _ e => by
    simpa [qualify, declaredName] using declaredName_qualify scope e
  | .name _ | .path _ | .template _ _ | .cast _ => by simp [qualify, declaredName]

end Expr

end CppIndex
