import CppIndex.Proofs.Declaration.Plain
import CppIndex.Proofs.Expr.Named
import CppIndex.Proofs.Index.Run

/-!
# Resolving full names

A registered object is found by its own full name exactly if the full name is read back as a primary
expression (`Index.resolve_fullname_iff`). The full name is the text of the declared name with all its
wrappers, but a reference is looked up without any, so an object under a wrapper, such as `T[3]`, is not
found by its full name. A plain name, which may be that of an operator, is always read back, and the object
found.
-/

namespace CppIndex

namespace Index

variable {ix : Index} {config : Config} {actions : List Action} {r : Record}

/-- **What is found under a name** is the registered object of this name, in a role that fits its
kind. -/
theorem lookUp_eq_some_iff {role : Role} {name : Expr} : ix.lookUp role name = some r ↔
    r.fullname = name.render ∧ ix.get? r.fullname = some r.entry ∧ role.allows r.entry.kind = true := by
  constructor
  · intro h
    -- two ways to miss: no entry, or one whose kind does not have the role
    unfold lookUp at h
    split at h
    next => cases h
    next entry hentry =>
      split at h
      next hallows =>
        obtain rfl := Option.some.inj h
        exact ⟨rfl, hentry, hallows⟩
      next => cases h
  · rintro ⟨hname, hentry, hallows⟩
    simp only [lookUp, ← hname, hentry, hallows, if_true]

/-- Outside of every scope a reference is looked up under what it names, and under nothing else. -/
theorem resolve_eq_ok_iff {role : Role} {target : String} {found : Option Record} :
    ix.resolve role target none = .ok found ↔
      ∃ e, Expr.parse target = .ok e ∧ ix.lookUp role e.declaredName = found := by
  cases hparse : Expr.parse target with
  | error e => simp [resolve_of_error ix hparse]
  | ok e =>
    -- without a scope the name itself is the only candidate
    have hcandidates : e.declaredName.candidates (Option.map Expr.declaredName none) =
        [e.declaredName] := rfl
    have hfind : [e.declaredName].findSome? (ix.lookUp role) = ix.lookUp role e.declaredName := by
      rw [List.findSome?_cons, List.findSome?_nil]
      cases ix.lookUp role e.declaredName <;> rfl
    rw [resolve_of_ok ix hparse, hcandidates, hfind, Except.ok.injEq]
    constructor
    · exact fun h => ⟨e, rfl, h⟩
    · rintro ⟨e', he, h⟩
      obtain rfl := Except.ok.inj he
      exact h

/-- **What a reference resolves to is a registered object**, from whatever scope it was looked up. -/
theorem mem_objects_of_resolve {role : Role} {target : String} {parent : Option Expr}
    (h : ix.resolve role target parent = .ok (some r)) : r ∈ ix.objects := by
  cases hparse : Expr.parse target with
  | error e =>
    rw [resolve_of_error ix hparse] at h
    cases h
  | ok e =>
    rw [resolve_of_ok ix hparse] at h
    obtain ⟨candidate, -, hfound⟩ := List.exists_of_findSome?_eq_some (Except.ok.inj h)
    exact Record.mem_of_find? (lookUp_eq_some_iff.mp hfound).2.1

/-- **What a reference resolves to weighs no more** than its target. -/
theorem weight_le_of_resolve {role : Role} {target : String}
    (h : ix.resolve role target none = .ok (some r)) :
    Text.weight r.fullname.toList ≤ Text.weight target.toList := by
  obtain ⟨e, hparse, hfound⟩ := resolve_eq_ok_iff.mp h
  calc Text.weight r.fullname.toList = Text.weight e.declaredName.chars := by
        rw [(lookUp_eq_some_iff.mp hfound).1, Expr.chars]
    _ ≤ Text.weight e.chars := e.weight_declaredName_le
    _ ≤ Text.weight target.toList := Expr.weight_le_of_parse hparse

/-- **A reference resolves to a registered object** exactly if what its target names has the full name of
the object as its canonical text. -/
theorem resolve_eq_some_iff {role : Role} {target : String}
    (hr : r ∈ ((empty config).run actions).objects) (hrole : role.allows r.entry.kind = true) :
    ((empty config).run actions).resolve role target none = .ok (some r) ↔
      ∃ e, Expr.parse target = .ok e ∧ e.declaredName.render = r.fullname := by
  rw [resolve_eq_ok_iff]
  refine exists_congr fun e => and_congr_right fun _ => ?_
  rw [lookUp_eq_some_iff]
  exact ⟨fun h => h.1.symm, fun h => ⟨h.symm, get?_of_mem_objects hr, hrole⟩⟩

/-- A kind has the role in which it is allowed. -/
theorem allows_role (kind : ObjectKind) : kind.role.allows kind = true := by
  cases kind <;> rfl

/-- **An object is found** by a full name that is parsed as a primary expression and written as it. -/
theorem resolve_of_parse {e : Expr} (hr : r ∈ ((empty config).run actions).objects)
    (hparse : Expr.parse r.fullname = .ok e) (hprimary : e.isPrimary = true)
    (hname : e.render = r.fullname) :
    ((empty config).run actions).resolve r.entry.kind.role r.fullname none = .ok (some r) := by
  have hfound := get?_of_mem_objects hr
  refine resolve_eq_ok_iff.mpr ⟨e, hparse, lookUp_eq_some_iff.mpr ⟨?_, hfound, allows_role _⟩⟩
  rw [Expr.declaredName_of_isPrimary hprimary, hname]

/-- **Which objects are found by their full names**: those whose full name is parsed as a primary
expression of which it is the canonical text. The text of a plain name, be it an ordinary one or that of an
operator, always is, so every object with such a name is found. -/
theorem resolve_fullname_iff (hr : r ∈ ((empty config).run actions).objects) :
    (((empty config).run actions).resolve r.entry.kind.role r.fullname none = .ok (some r) ↔
      ∃ e : Expr, Expr.parse r.fullname = .ok e ∧ e.isPrimary = true ∧ e.render = r.fullname) ∧
    ∀ name : Expr, name.IsPlainFunctionName → r.fullname = name.render →
      ((empty config).run actions).resolve r.entry.kind.role r.fullname none = .ok (some r) := by
  have hfound : (∃ e : Expr, Expr.parse r.fullname = .ok e ∧ e.isPrimary = true ∧
        e.render = r.fullname) →
      ((empty config).run actions).resolve r.entry.kind.role r.fullname none = .ok (some r) := by
    rintro ⟨e, hparse, hprimary, hname⟩
    exact resolve_of_parse hr hparse hprimary hname
  refine ⟨⟨fun h => ?_, hfound⟩, fun name hplain hname => hfound ?_⟩
  · obtain ⟨e, hparse, hlookUp⟩ := resolve_eq_ok_iff.mp h
    have hname := (lookUp_eq_some_iff.mp hlookUp).1
    -- the name that was looked up has the full name as its text, so nothing was stripped off
    have hprimary := Expr.isPrimary_of_parse_declaredName hparse hname.symm
    rw [Expr.declaredName_of_isPrimary hprimary] at hname
    exact ⟨e, hparse, hprimary, hname.symm⟩
  · rw [hname]
    exact ⟨name, hplain.parse_eq_ok, hplain.isPrimary, rfl⟩

/-- A class in a scope is found by its full name, and so is a conversion operator in a class. -/
theorem resolve_fullname_iff_scope :
    (∃ r ∈ ((empty {}).run [.describe ⟨"doc", some (.name "ns")⟩ .classType "T"]).objects,
      ((empty {}).run [.describe ⟨"doc", some (.name "ns")⟩ .classType "T"]).resolve
        r.entry.kind.role r.fullname none = .ok (some r)) ∧
    ∃ r ∈ ((empty {}).run [.describe ⟨"doc", some (.name "T")⟩ .function "operator bool()"]).objects,
      ((empty {}).run [.describe ⟨"doc", some (.name "T")⟩ .function "operator bool()"]).resolve
        r.entry.kind.role r.fullname none = .ok (some r) := by
  have hr : ⟨"ns::T", ⟨"doc", .classType, "ns::T"⟩⟩ ∈
      ((empty {}).run [.describe ⟨"doc", some (.name "ns")⟩ .classType "T"]).objects := by
    decide +kernel
  have hr' : ⟨"T::operator bool", ⟨"doc", .function, "T::castto-b-operator"⟩⟩ ∈
      ((empty {}).run [.describe ⟨"doc", some (.name "T")⟩ .function "operator bool()"]).objects := by
    decide +kernel
  -- the second full name is one of those that are always read back
  have hplain : Expr.IsPlainFunctionName (.path ([.name "T"] ++ [.cast (.name "bool")])) := by
    have hclass : Expr.IsPlainName (.name "T") := Expr.isPlainName_of_isWord (by decide)
    have hbool : Expr.IsPlainPrimary (.name "bool") := .name (Expr.isPlainName_of_isWord (by decide))
    exact .inScope (.names hclass (by simp)) (.cast hbool.isPlainType (by decide))
  exact ⟨⟨_, hr, (resolve_fullname_iff hr).1.mpr
      ⟨.path [.name "ns", .name "T"], by decide +kernel, rfl, by decide +kernel⟩⟩,
    _, hr', (resolve_fullname_iff hr').2 _ hplain (by decide +kernel)⟩

/-- A class under a wrapper is registered, and is not found by its full name. -/
theorem resolve_array_eq_none :
    ((empty {}).run [.describe ⟨"doc", none⟩ .classType "T[3]"]).objects =
        [⟨"T[3]", ⟨"doc", .classType, "TA"⟩⟩] ∧
      ((empty {}).run [.describe ⟨"doc", none⟩ .classType "T[3]"]).resolve
        .classType "T[3]" none = .ok none := by
  decide +kernel

end Index

end CppIndex
