import CppIndex.Proofs.Expr.Qualify
import CppIndex.Proofs.Index.Resolve

/-!
# Resolving by texts

A reference is resolved by building trees and looking up their texts. It can be resolved without building
any: the texts that are looked up are the text of what the target names, alone, behind the text of what the
scope names, and behind the text of its owner (`Expr.candidateTexts`). The first of them under which an
object of a fitting kind is registered is the answer, whatever else is registered under the texts before
it (`Index.resolve_texts`).

This holds in every index. All that is asked of the scope is that it does not name the path without
components, which has no text to stand in front of a `::`.
-/

namespace CppIndex

namespace Expr

variable {e : Expr} {parent : Option Expr} {target : String}

/-- **The texts of a scope**: that of what it names, and that of its owner if there is one. -/
def scopeTexts (parent : Option Expr) : List String :=
  match parent with
  | none => []
  | some p => p.declaredName.render :: (p.declaredName.splitOwner.1.map render).toList

/-- **The texts under which a name is looked up**: as it stands, then behind the text of each scope. -/
def candidateTexts (name : String) (scopes : List String) : List String :=
  name :: scopes.map (· ++ "::" ++ name)

/-- **Candidates are looked up under their texts.** -/
theorem render_candidates (hparent : ∀ p ∈ parent, p.declaredName ≠ .path [])
    (htarget : e.declaredName.IsQualifiable) :
    (e.declaredName.candidates (parent.map declaredName)).map render =
      candidateTexts e.declaredName.render (scopeTexts parent) := by
  cases parent with
  | none => rfl
  | some p =>
    have hscope : p.declaredName.components ≠ [] := by
      have hname := hparent p rfl
      cases hp : p.declaredName with
      | path ps =>
        rintro rfl
        exact hname hp
      | _ => exact List.cons_ne_nil _ _
    have hinside := render_qualify hscope htarget
    -- Outside the scope a name is looked for only if the scope has an owner.
    cases howner : p.declaredName.splitOwner with
    | mk owner leaf =>
      cases owner with
      | none =>
        simp only [candidates, Option.map_some, scopeTexts, candidateTexts, howner, hinside,
          Option.map_none, Option.toList_none, List.map_cons, List.map_nil]
      | some owner =>
        have houtside := render_qualify (components_ne_nil_of_splitOwner howner) htarget
        simp only [candidates, Option.map_some, scopeTexts, candidateTexts, howner, hinside,
          houtside, Option.toList_some, List.map_cons, List.map_nil]

end Expr

namespace Index

variable {ix : Index} {role : Role} {target : String} {parent : Option Expr}

/-- **An entry answers a text** in a role if it is registered under the text and its kind has the role. -/
def Answers (ix : Index) (role : Role) (text : String) (entry : Entry) : Prop :=
  ix.get? text = some entry ∧ entry.kind.role = role

/-- What is found under a name is an entry that answers its text. -/
theorem lookUp_eq_some_iff_answers {name : Expr} {r : Record} : ix.lookUp role name = some r ↔
    r.fullname = name.render ∧ ix.Answers role r.fullname r.entry := by
  rw [lookUp_eq_some_iff, Answers, Role.allows, beq_iff_eq]

/-- Nothing is found under a name exactly if no entry answers its text. -/
theorem lookUp_eq_none_iff {name : Expr} : ix.lookUp role name = none ↔
    ∀ entry, ¬ ix.Answers role name.render entry := by
  rw [Option.eq_none_iff_forall_not_mem]
  constructor
  · exact fun h entry hentry => h ⟨name.render, entry⟩ (lookUp_eq_some_iff_answers.mpr ⟨rfl, hentry⟩)
  · intro h r hr
    obtain ⟨hname, hentry⟩ := lookUp_eq_some_iff_answers.mp hr
    exact h r.entry (hname ▸ hentry)

/-- **A reference is resolved by texts.** If its target is rejected, the answer is the error with which it
is; it is never that the target has no name. If the target is not rejected, it names something, and the
answer is the entry under the first text of these that has an entry of a kind with the given role: the text
of what the target names, this text behind that of what the scope names, and behind that of the scope's
owner, which is what stands in front of the scope's leaf. There is no answer exactly if none of the texts has
such an entry. -/
theorem resolve_texts (hparent : ∀ p ∈ parent, p.declaredName ≠ .path []) :
    (∀ error, Expr.parse target = .error error →
      ix.resolve role target parent = .error (.unparseable error)) ∧
    (∀ text, ix.resolve role target parent ≠ .error (.unnamed text)) ∧
    (∀ p ∈ parent, ∀ owner leaf, p.declaredName.splitOwner = (some owner, leaf) →
      p.declaredName.render = owner.render ++ "::" ++ leaf.render) ∧
    ∀ e, Expr.parse target = .ok e → ∃ name, e.name? = some name ∧
      (∀ r, ix.resolve role target parent = .ok (some r) ↔
        ∃ before after,
          Expr.candidateTexts name.render (Expr.scopeTexts parent) =
            before ++ r.fullname :: after ∧
          ix.Answers role r.fullname r.entry ∧
          ∀ text ∈ before, ∀ entry, ¬ ix.Answers role text entry) ∧
      (ix.resolve role target parent = .ok none ↔
        ∀ text ∈ Expr.candidateTexts name.render (Expr.scopeTexts parent),
          ∀ entry, ¬ ix.Answers role text entry) := by
  refine ⟨fun error h => ix.resolve_of_error h parent,
    fun text => ix.resolve_ne_unnamed role target text parent,
    fun _ _ _ _ => Expr.render_splitOwner, fun e h => ?_⟩
  have htexts := Expr.render_candidates hparent (Expr.isQualifiable_of_parse h)
  have hresolve : ix.resolve role target parent = .ok
      ((e.declaredName.candidates (parent.map Expr.declaredName)).findSome? (ix.lookUp role)) :=
    ix.resolve_of_ok h parent
  refine ⟨e.declaredName, e.name?_eq_some, fun r => ?_, ?_⟩
  · rw [hresolve, Except.ok.injEq, List.findSome?_eq_some_iff, ← htexts]
    -- The candidates and their texts are split at the same place.
    constructor
    · rintro ⟨before, candidate, after, hsplit, hfound, hbefore⟩
      obtain ⟨hname, hentry⟩ := lookUp_eq_some_iff_answers.mp hfound
      refine ⟨before.map Expr.render, after.map Expr.render, ?_, hentry, ?_⟩
      · rw [hsplit, List.map_append, List.map_cons, hname]
      · rintro _ htext
        obtain ⟨earlier, hearlier, rfl⟩ := List.mem_map.mp htext
        exact lookUp_eq_none_iff.mp (hbefore earlier hearlier)
    · rintro ⟨before, after, hsplit, hentry, hbefore⟩
      obtain ⟨earlier, rest, hcandidates, rfl, hrest⟩ := List.map_eq_append_iff.mp hsplit
      obtain ⟨candidate, later, rfl, hname, -⟩ := List.map_eq_cons_iff.mp hrest
      refine ⟨earlier, candidate, later, hcandidates,
        lookUp_eq_some_iff_answers.mpr ⟨hname.symm, hentry⟩, fun c hc => ?_⟩
      exact lookUp_eq_none_iff.mpr (hbefore c.render (List.mem_map_of_mem hc))
  · rw [hresolve, Except.ok.injEq, List.findSome?_eq_none_iff, ← htexts]
    simp only [lookUp_eq_none_iff, List.forall_mem_map]

/-- A function is referred to from inside a template of its namespace. A class is registered under the
first text and nothing under the second, so it is the third that leads to the function. -/
theorem resolve_texts_owner :
    ∃ (ix : Index) (parent : Expr) (r : Record),
      ix = (empty {}).run [.describe ⟨"doc", none⟩ .classType "f",
        .describe ⟨"doc", some (.name "ns")⟩ .function "void f()"] ∧
      parent = .template (.path [.name "ns", .name "T"]) [.name "int"] ∧
      r.fullname = "ns::f" ∧
      (∀ p ∈ some parent, p.declaredName ≠ .path []) ∧
      ix.resolve .function "f" (some parent) = .ok (some r) := by
  obtain ⟨ix, hix⟩ : ∃ ix, ix = (empty {}).run [.describe ⟨"doc", none⟩ .classType "f",
      .describe ⟨"doc", some (.name "ns")⟩ .function "void f()"] := ⟨_, rfl⟩
  obtain ⟨parent, hp⟩ : ∃ p, p = Expr.template (.path [.name "ns", .name "T"]) [.name "int"] :=
    ⟨_, rfl⟩
  have hparent : ∀ p ∈ some parent, p.declaredName ≠ .path [] := by
    rw [hp]
    simp [Expr.declaredName]
  -- what the three texts stand for: a class, nothing, and the function
  have hclass : ix.get? "f" = some ⟨"doc", .classType, "f"⟩ := by
    rw [hix]
    decide +kernel
  have hmember : ix.get? "ns::T<int>::f" = none := by
    rw [hix]
    decide +kernel
  have hfunction : ix.get? "ns::f" = some ⟨"doc", .function, "ns::f"⟩ := by
    rw [hix]
    decide +kernel
  have hparse : Expr.parse "f" = .ok (.name "f") := by decide +kernel
  obtain ⟨name, hname, hfound, -⟩ := (resolve_texts hparent).2.2.2 _ hparse
  obtain rfl : Expr.name "f" = name :=
    Option.some.inj ((Expr.name?_eq_some (.name "f")).symm.trans hname)
  have htexts : Expr.candidateTexts (Expr.name "f").render (Expr.scopeTexts (some parent)) =
      ["f", "ns::T<int>::f"] ++ "ns::f" :: [] := by
    rw [hp]
    decide +kernel
  refine ⟨ix, parent, ⟨"ns::f", ⟨"doc", .function, "ns::f"⟩⟩, hix, hp, rfl, hparent, (hfound _).mpr ?_⟩
  refine ⟨["f", "ns::T<int>::f"], [], htexts, ⟨hfunction, rfl⟩, fun text htext entry hentry => ?_⟩
  obtain ⟨hget, hrole⟩ := hentry
  rcases List.mem_cons.mp htext with rfl | htext
  · -- the class is there, but it has another role
    obtain rfl := Option.some.inj (hclass.symm.trans hget)
    cases hrole
  · obtain rfl := List.mem_singleton.mp htext
    cases hmember.symm.trans hget

end Index

end CppIndex
