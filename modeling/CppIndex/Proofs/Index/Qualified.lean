import CppIndex.Proofs.Expr.Written
import CppIndex.Proofs.Index.Log

/-!
# Qualified classes

A class can be described inside a namespace, or outside of it under its qualified name. Both descriptions
succeed and give the class the same full name. They also give it the same anchor if its name is the same tree
either way, which it is exactly if no arguments stand inside the name (`Index.describe_qualified`).

The condition is needed for anchors too: the table of abbreviations knows `std::vector`, and this stands in
the tree of `std::vector<int>::iterator` only if that is written as one name
(`Index.describe_qualified_iterator`).
-/

namespace CppIndex.Index

/-- **Describing a plain class** succeeds in every index and every scope. -/
theorem exists_describe_classType {name : Expr} (h : name.IsPlainPrimary) (ix : Index) (ctx : Context) :
    ∃ d next, ix.describe ctx .classType name.render = .ok (d, next) ∧
      d.declaration = (⟨name, .pub, false, .classType⟩ : Declaration).inScope? ctx.parent := by
  have hplain : Declaration.IsPlain .classType ⟨name, .pub, false, .classType⟩ :=
    .classType h.isPlainType
  have hrender : (⟨name, .pub, false, .classType⟩ : Declaration).render = name.render := rfl
  have hparse := hplain.isForm.parse_render_of_stands hplain.stands
  rw [hrender] at hparse
  exact ⟨_, _, describe_of_ok hparse, rfl⟩

/-- **Scoping a name and writing it qualified.** Take two texts in which no reserved word stands and no
bracket is opened, and which are read as primary expressions, a scope and a name. The text of the scope, `::`
and the text of the name are read as a tree with the text of the qualified name. It is the qualified name
exactly if no arguments stand inside the name. A class that is described by its name inside the scope and one
that is described by this text outside of all scopes have the same full name, and if no arguments stand
inside the name they have the same anchor. -/
theorem describe_qualified {p n : String} {scope name : Expr} (hp : Text.IsUnreserved p.toList)
    (hn : Text.IsUnreserved n.toList) (hscope : Expr.parse p = .ok scope)
    (hname : Expr.parse n = .ok name) (hscope' : scope.isPrimary = true)
    (hname' : name.isPrimary = true) :
    ∃ written, Expr.parse (scope.render ++ "::" ++ name.render) = .ok written ∧
      (scope.qualify name).render = written.render ∧
      (scope.qualify name = written ↔ name.hasInnerArguments = false) ∧
      ∀ (ix ix' : Index) (docname docname' : String), ∃ inside outside next next',
        ix.describe ⟨docname, some scope⟩ .classType name.render = .ok (inside, next) ∧
          ix'.describe ⟨docname', none⟩ .classType (scope.render ++ "::" ++ name.render) =
            .ok (outside, next') ∧
          inside.fullname = outside.fullname ∧
          (name.hasInnerArguments = false → inside.anchor = outside.anchor) := by
  have hplain := Expr.isPlainPrimary_of_parse hp hscope hscope'
  have hplain' := Expr.isPlainPrimary_of_parse hn hname hname'
  have hcomponents := hplain.isPlainScope_components.ne_nil
  obtain ⟨hwritten, hbehind⟩ := hplain.writtenIn hplain'
  have hagree := Expr.writtenIn_eq_qualify_iff hcomponents name
  -- Both readings of the name have one text, even where their trees differ.
  have htext : (scope.qualify name).render = (scope.writtenIn name).render := by
    have hqualifiable := Expr.isQualifiable_of_parse hname
    rw [Expr.declaredName_of_isPrimary hname'] at hqualifiable
    rw [Expr.render_qualify hcomponents hqualifiable, hbehind.render_eq]
  refine ⟨scope.writtenIn name, hplain.parse_behind hplain', htext, eq_comm.trans hagree, ?_⟩
  intro ix ix' docname docname'
  obtain ⟨inside, next, hinside, hd⟩ :=
    exists_describe_classType hplain' ix ⟨docname, some scope⟩
  obtain ⟨outside, next', houtside, hd'⟩ :=
    exists_describe_classType hwritten ix' ⟨docname', none⟩
  rw [hbehind.render_eq] at houtside
  refine ⟨inside, outside, next, next', hinside, houtside, ?_, fun hinner => ?_⟩
  · rw [Described.fullname, hd, Described.fullname, hd']
    exact htext
  · rw [Described.anchor, hd, Described.anchor, hd']
    exact congrArg Expr.anchor (hagree.mpr hinner).symm

/-- The class `vector<int>` is described inside of `std`, with an anchor that is abbreviated as that of the
qualified name is. -/
theorem describe_qualified_vector :
    ∃ scope name : Expr, Expr.parse "std" = .ok scope ∧ Expr.parse "vector< int >" = .ok name ∧
      name.hasInnerArguments = false ∧
      Expr.parse "std::vector<int>" = .ok (scope.qualify name) ∧
      (scope.qualify name).anchor = "v:i:" := by
  have hscope : Expr.parse "std" = .ok (.name "std") := by decide +kernel
  have hname : Expr.parse "vector< int >" = .ok (.template (.name "vector") [.name "int"]) := by
    decide +kernel
  have hinner : (Expr.template (.name "vector") [.name "int"]).hasInnerArguments = false := rfl
  obtain ⟨written, hparse, -, hagree, -⟩ := describe_qualified
    (Text.isUnreserved_of_not_infix (by decide +kernel) (by decide +kernel))
    (Text.isUnreserved_of_not_infix (by decide +kernel) (by decide +kernel)) hscope hname rfl rfl
  -- the arguments stand at the end, so the tree that is read is the qualified name
  obtain rfl := hagree.mpr hinner
  exact ⟨_, _, hscope, hname, hinner, hparse, by decide +kernel⟩

/-- The class `vector<int>::iterator` inside of `std` and the class `std::vector<int>::iterator` have the same
full name, but their names are different trees and they have different anchors. -/
theorem describe_qualified_iterator :
    ∃ scope name written : Expr, Expr.parse "std" = .ok scope ∧
      Expr.parse "vector<int>::iterator" = .ok name ∧
      Expr.parse (scope.render ++ "::" ++ name.render) = .ok written ∧
      scope.qualify name ≠ written ∧
      ((empty {}).run [.describe ⟨"doc", some scope⟩ .classType "vector<int>::iterator"]).objects =
        [⟨"std::vector<int>::iterator", ⟨"doc", .classType, "std::vector:i:::iterator"⟩⟩] ∧
      ((empty {}).run [.describe ⟨"doc", none⟩ .classType "std::vector<int>::iterator"]).objects =
        [⟨"std::vector<int>::iterator", ⟨"doc", .classType, "v:i:::iterator"⟩⟩] :=
  ⟨.name "std", .path [.template (.name "vector") [.name "int"], .name "iterator"],
    .path [.template (.path [.name "std", .name "vector"]) [.name "int"], .name "iterator"],
    by decide +kernel, by decide +kernel, by decide +kernel, by decide +kernel, by decide +kernel,
    by decide +kernel⟩

end CppIndex.Index
