/-!
# Expressions

Names and types of a C++ declaration share one kind of tree, `Expr`. Four constructors are
**primary**: they stand for something with a name of its own (`name`, `path`, `template`, `cast`).
The other five are **wrappers** around one inner expression: leading words, pointer, reference,
array and `const`. A `const` remembers on which side of its expression it was written, because the
two spellings print differently though they name the same type.

The type holds every tree that can be built, also those no reader produces, such as a path without
components; which trees are well formed is said elsewhere, by predicates.

A path and a template hold lists of expressions, so functions on expressions come in pairs, one for
an expression and one for a list of them. Equality is decided that way (`Expr.beq`, `Expr.beqList`)
and the instance `DecidableEq Expr` is what the rest of the library uses.
-/

namespace CppIndex

/-- The side of its expression on which a `const` is written. -/
inductive ConstSide
  /-- In front: `const T`. -/
  | before
  /-- Behind: `T const`. -/
  | after
  deriving DecidableEq, Repr

/-- **A name or a type** inside a declaration. -/
inductive Expr
  /-- A bare identifier or operator name: `foo`, `~Foo`, `operator==`, `operator new[]`. -/
  | name (text : String)
  /-- Components joined by `::`. -/
  | path (parts : List Expr)
  /-- A name or path followed by template arguments: `std::vector<int>`. -/
  | template (head : Expr) (args : List Expr)
  /-- Words in front of a type: `unsigned int`, `volatile Foo`. -/
  | modified (words : List String) (inner : Expr)
  /-- A pointer: `T*`. -/
  | pointer (inner : Expr)
  /-- A reference: `T&`. -/
  | reference (inner : Expr)
  /-- An array: `T[n]`, or `T[]` when nothing stands between the brackets. -/
  | array (inner : Expr) (size : Option String)
  /-- A constant: `const T` or `T const`. -/
  | const (side : ConstSide) (inner : Expr)
  /-- A conversion operator: `operator bool`. -/
  | cast (target : Expr)
  deriving Repr

namespace Expr

/-! ### Equality -/

mutual

/-- Whether two expressions are the same tree. -/
def beq : Expr → Expr → Bool
  | .name a, .name b => a == b
  | .path as, .path bs => beqList as bs
  | .template a as, .template b bs => beq a b && beqList as bs
  | .modified ws a, .modified vs b => ws == vs && beq a b
  | .pointer a, .pointer b => beq a b
  | .reference a, .reference b => beq a b
  | .array a m, .array b n => m == n && beq a b
  | .const s a, .const t b => s == t && beq a b
  | .cast a, .cast b => beq a b
  | _, _ => false

/-- Whether two lists hold the same trees in the same order. -/
def beqList : List Expr → List Expr → Bool
  | [], [] => true
  | a :: as, b :: bs => beq a b && beqList as bs
  | _, _ => false

end

mutual

/-- Trees that compare equal are equal. -/
theorem eq_of_beq : ∀ {a b : Expr}, beq a b = true → a = b
  | .name _, b, h => by cases b <;> simp_all [beq]
  | .path as, b, h => by
    cases b <;> simp [beq] at h
    rw [eq_of_beqList h]
  | .template a as, b, h => by
    cases b <;> simp [beq] at h
    rw [eq_of_beq h.1, eq_of_beqList h.2]
  | .modified _ a, b, h => by
    cases b <;> simp [beq] at h
    rw [h.1, eq_of_beq h.2]
  | .pointer a, b, h => by
    cases b <;> simp [beq] at h
    rw [eq_of_beq h]
  | .reference a, b, h => by
    cases b <;> simp [beq] at h
    rw [eq_of_beq h]
  | .array a _, b, h => by
    cases b <;> simp [beq] at h
    rw [h.1, eq_of_beq h.2]
  | .const _ a, b, h => by
    cases b <;> simp [beq] at h
    rw [h.1, eq_of_beq h.2]
  | .cast a, b, h => by
    cases b <;> simp [beq] at h
    rw [eq_of_beq h]

/-- Lists that compare equal are equal. -/
theorem eq_of_beqList : ∀ {as bs : List Expr}, beqList as bs = true → as = bs
  | [], bs, h => by cases bs <;> simp_all [beqList]
  | a :: as, bs, h => by
    cases bs <;> simp [beqList] at h
    rw [eq_of_beq h.1, eq_of_beqList h.2]

end

mutual

/-- A tree compares equal to itself. -/
theorem beq_self : ∀ a : Expr, beq a a = true
  | .name _ => by simp [beq]
  | .path as => by simp [beq, beqList_self as]
  | .template a as => by simp [beq, beq_self a, beqList_self as]
  | .modified _ a => by simp [beq, beq_self a]
  | .pointer a => by simp [beq, beq_self a]
  | .reference a => by simp [beq, beq_self a]
  | .array a _ => by simp [beq, beq_self a]
  | .const _ a => by simp [beq, beq_self a]
  | .cast a => by simp [beq, beq_self a]

/-- A list compares equal to itself. -/
theorem beqList_self : ∀ as : List Expr, beqList as as = true
  | [] => by simp [beqList]
  | a :: as => by simp [beqList, beq_self a, beqList_self as]

end

instance : DecidableEq Expr := fun a b =>
  decidable_of_iff (beq a b = true) ⟨eq_of_beq, fun h => h ▸ beq_self a⟩

/-! ### Building and classifying -/

/-- **The expression of a list of components**: a single component stands for itself, any other
list is a path. -/
def ofParts : List Expr → Expr
  | [e] => e
  | parts => .path parts

/-- An expression under leading words; without words it stays as it is. -/
def withWords (words : List String) (e : Expr) : Expr :=
  if words.isEmpty then e else .modified words e

/-- The type that a wrapper wraps; a primary expression wraps none. -/
def inner? : Expr → Option Expr
  | .modified _ e | .pointer e | .reference e | .array e _ | .const _ e => some e
  | .name _ | .path _ | .template _ _ | .cast _ => none

/-- **Primary expressions** have a name of their own: names, paths, templates and conversion
operators. -/
def isPrimary : Expr → Bool
  | .name _ | .path _ | .template _ _ | .cast _ => true
  | .modified _ _ | .pointer _ | .reference _ | .array _ _ | .const _ _ => false

end Expr

end CppIndex
