import CppIndex.Proofs.Index.Candidates
import CppIndex.Proofs.Index.Log

/-!
# Referring to what was just declared

A declaration is registered under its qualified name, and it is referred to, inside the same scope, by the
name as it was written. The two meet in the candidates of the reference: the written name stands first, and
the name qualified by the scope second (`Expr.exists_candidates_eq`). So the reference leads to the object
that was just described, unless an object of the same kind is registered under the written name itself
(`Index.resolve_described`). An object of another kind under the written name does not stand in the way.

Nothing is asked of the index, for the registration that matters is the last one.
-/

namespace CppIndex

namespace Expr

/-- **The first candidates** for a name: it itself, and in a scope the name qualified by the scope. -/
theorem exists_candidates_eq (name : Expr) (scope : Option Expr) : ∃ later,
    name.candidates scope = name :: (scope.map fun p => p.qualify name).toList ++ later := by
  cases scope with
  | none => exact ⟨[], rfl⟩
  | some p => exact ⟨(p.splitOwner.1.map fun owner => owner.qualify name).toList, rfl⟩

/-- A primary scope, or none, is the scope that it names. -/
theorem map_declaredName_eq_self {parent : Option Expr} (h : ∀ p ∈ parent, p.isPrimary = true) :
    parent.map declaredName = parent := by
  cases parent with
  | none => rfl
  | some p => rw [Option.map_some, declaredName_of_isPrimary (h p rfl)]

end Expr

namespace Index

variable {ix next : Index} {ctx : Context} {kind : ObjectKind} {text : String} {decl : Declaration}
  {d : Described}

/-- **An object that was just registered** has its entry under its full name. -/
theorem get?_of_describe (h : ix.describe ctx kind text = .ok (d, next)) (hd : d.registered = true) :
    next.get? d.fullname = some ⟨ctx.docname, kind, d.anchor⟩ := by
  obtain ⟨decl, -, rfl, rfl⟩ := describe_eq_ok_iff.mp h
  rw [get?_add ctx.docname hd, if_pos rfl]
  rfl

/-- The full name of what is described is that of the declared name, qualified by the scope if there is
one. -/
theorem fullname_of_describe (h : ix.describe ctx kind text = .ok (d, next))
    (hparse : Declaration.parse kind text = .ok decl) :
    d.fullname = ((ctx.parent.map fun p => p.qualify decl.name).getD decl.name).render := by
  obtain ⟨decl', hparse', rfl, -⟩ := describe_eq_ok_iff.mp h
  obtain rfl : decl = decl' := Except.ok.inj (hparse.symm.trans hparse')
  rw [Described.fullname, examine]
  cases ctx.parent <;> rfl

/-- **What was described in a scope is referred to by its written name in that scope.** Let the scope be a
primary expression, or missing, and let the declared name be plain. As soon as the object is registered, the
reference by the written name leads to the object registered under the written name if there is one and it is
of the same kind, and otherwise to the object that was just described. -/
theorem resolve_described (hscope : ∀ p ∈ ctx.parent, p.isPrimary = true)
    (hparse : Declaration.parse kind text = .ok decl) (hname : decl.name.IsPlainPrimary)
    (hdescribe : ix.describe ctx kind text = .ok (d, next)) (hregistered : d.registered = true) :
    (∀ entry, next.get? decl.name.render = some entry → entry.kind = kind →
      next.resolve kind.role decl.name.render ctx.parent =
        .ok (some ⟨decl.name.render, entry⟩)) ∧
    ((∀ entry, next.get? decl.name.render = some entry → entry.kind ≠ kind) →
      next.resolve kind.role decl.name.render ctx.parent =
        .ok (some ⟨d.fullname, ⟨ctx.docname, kind, d.anchor⟩⟩)) := by
  have htype : decl.name.IsPlainType := hname.isPlainType
  have hread : Expr.parse decl.name.render = .ok decl.name :=
    Expr.parse_render_of_typeStands htype.isType (htype.typeStands Expr.clear_nil)
  obtain ⟨later, hcandidates⟩ := decl.name.exists_candidates_eq ctx.parent
  -- neither the name nor the scope has a wrapper that could be stripped off
  rw [next.resolve_of_ok hread, Expr.declaredName_of_isPrimary hname.isPrimary,
    Expr.map_declaredName_eq_self hscope, hcandidates, List.cons_append, List.findSome?_cons]
  constructor
  · -- the written name is looked up first
    intro entry hentry hkind
    have hfound : next.lookUp kind.role decl.name = some ⟨decl.name.render, entry⟩ :=
      lookUp_eq_some_iff_answers.mpr ⟨rfl, hentry, congrArg ObjectKind.role hkind⟩
    rw [hfound]
  · -- it is missed, and the name in the scope is looked up next
    intro hother
    have hmissed : next.lookUp kind.role decl.name = none :=
      lookUp_eq_none_iff.mpr fun entry hentry =>
        hother entry hentry.1 (ObjectKind.role_injective hentry.2)
    have hget := get?_of_describe hdescribe hregistered
    have hfull := fullname_of_describe hdescribe hparse
    cases hparent : ctx.parent with
    | none =>
      -- without a scope the object has the written name, and its own kind
      rw [hparent] at hfull
      rw [hfull] at hget
      exact absurd rfl (hother _ hget)
    | some p =>
      rw [hparent] at hfull
      have hfound : next.lookUp kind.role (p.qualify decl.name) =
          some ⟨d.fullname, ⟨ctx.docname, kind, d.anchor⟩⟩ :=
        lookUp_eq_some_iff_answers.mpr ⟨hfull, hget, rfl⟩
      rw [hmissed, Option.map_some, Option.toList_some, List.singleton_append, List.findSome?_cons,
        hfound]

/-- A function is described in the scope `ns::T<int*>`, and a class has its name outside of it. A reference
from the scope passes by the class. -/
theorem resolve_described_function :
    ∃ (scope : Expr) (decl : Declaration) (d : Described) (next : Index),
      scope = .template (.path [.name "ns", .name "T"]) [.pointer (.name "int")] ∧
      (∀ p ∈ some scope, p.isPrimary = true) ∧
      Declaration.parse .function "void f(int x = 0)" = .ok decl ∧ decl.name.IsPlainPrimary ∧
      ((empty {}).run [.describe ⟨"doc", none⟩ .classType "f"]).describe ⟨"doc", some scope⟩ .function
        "void f(int x = 0)" = .ok (d, next) ∧ d.registered = true ∧
      next.get? "f" = some ⟨"doc", .classType, "f"⟩ ∧
      next.resolve .function "f" (some scope) =
        .ok (some ⟨"ns::T<int*>::f", ⟨"doc", .function, "ns::T:iP:::f__i"⟩⟩) := by
  obtain ⟨scope, hs⟩ : ∃ e, e = Expr.template (.path [.name "ns", .name "T"])
      [.pointer (.name "int")] := ⟨_, rfl⟩
  have hscope : ∀ p ∈ some scope, p.isPrimary = true := by
    rw [hs]
    rintro p ⟨⟩
    rfl
  have hname : Expr.IsPlainPrimary (.name "f") := .name (Expr.isPlainName_of_isWord (by decide))
  obtain ⟨decl, hd⟩ : ∃ decl : Declaration, decl = ⟨.name "f", .pub, false, .function
      ⟨false, false, some (.name "void"), [⟨some (.name "int"), some (.name "x"), some "0"⟩],
        false, false⟩⟩ := ⟨_, rfl⟩
  have hparse : Declaration.parse .function "void f(int x = 0)" = .ok decl := by
    rw [hd]
    decide +kernel
  -- the class stands in the index in which the function is described
  obtain ⟨ix, hix⟩ : ∃ ix, ix = (empty {}).run [.describe ⟨"doc", none⟩ .classType "f"] := ⟨_, rfl⟩
  have hdescribe : ix.describe ⟨"doc", some scope⟩ .function "void f(int x = 0)" =
      .ok (ix.examine ⟨"doc", some scope⟩ .function decl,
        ix.add "doc" (ix.examine ⟨"doc", some scope⟩ .function decl)) :=
    describe_of_ok hparse
  have hregistered : (ix.examine ⟨"doc", some scope⟩ .function decl).registered = true := by
    rw [hix, hs, hd]
    decide +kernel
  have hrow : (ix.examine ⟨"doc", some scope⟩ .function decl).row "doc" =
      ⟨"ns::T<int*>::f", ⟨"doc", .function, "ns::T:iP:::f__i"⟩⟩ := by
    rw [hix, hs, hd]
    decide +kernel
  have hclass : (ix.add "doc" (ix.examine ⟨"doc", some scope⟩ .function decl)).get? "f" =
      some ⟨"doc", .classType, "f"⟩ := by
    rw [hix, hs, hd]
    decide +kernel
  have hname' : decl.name = .name "f" := by rw [hd]
  have htext : decl.name.render = "f" := by
    rw [hname']
    rfl
  have hdeclared : decl.name.IsPlainPrimary := hname' ▸ hname
  -- what has the written name is a class, so it is passed by
  have hresolve := (resolve_described hscope hparse hdeclared hdescribe hregistered).2
    fun entry hentry hkind => by
      rw [htext] at hentry
      obtain rfl := Option.some.inj (hclass.symm.trans hentry)
      cases hkind
  rw [htext] at hresolve
  exact ⟨scope, decl, _, _, hs, hscope, hparse, hdeclared, hix ▸ hdescribe, hregistered, hclass,
    hrow ▸ hresolve⟩

end Index

end CppIndex
