import CppIndex.Proofs.Declaration.Exprs
import CppIndex.Proofs.Expr.LinkSafe
import CppIndex.Proofs.Index.Log
import Mathlib.Data.List.Basic

/-!
# Anchors are safe in links

An anchor that is claimed is the target of links, so it should be fit for one whatever was described, and
wherever. The words of a declaration that was read are safe in a link, and so are those of a scope: a scope comes
from a text that was parsed, or it is the name of an object that was described before (`Context.Built`). The
anchor puts the anchors of the name, of the type and of the parameters together with link characters, so it is
safe itself (`Index.anchor_isLinkSafe_of_describe`). Nothing of the source reaches it that has a meaning in a
link: no blank, no bracket, no character beyond ASCII, and of the signs of operators nothing but a dash or a `~`,
and these do not come from an operator.
-/

namespace CppIndex

open CppIndex.Expr Text

/-! ### Declarations -/

/-- A parameter whose words are safe in a link has a safe anchor; without a type it is a single letter. -/
theorem Param.anchor_isLinkSafe {p : Param} (h : ∀ e ∈ p.exprs, e.Throughout HasLinkWords) :
    IsLinkSafe p.anchor := by
  obtain ⟨type, name, default⟩ := p
  cases type with
  | none =>
    show IsLinkSafe "X"
    decide
  | some type => exact (h type List.mem_cons_self).anchor_isLinkSafe

namespace Declaration

variable {d : Declaration}

/-- **A declaration whose words are safe in a link has a safe anchor.** -/
theorem anchor_isLinkSafe (h : ∀ e ∈ d.exprs, e.Throughout HasLinkWords) : IsLinkSafe d.anchor := by
  obtain ⟨hname, hbody⟩ := List.forall_mem_cons.mp h
  have hanchor := hname.anchor_isLinkSafe
  unfold anchor
  cases hd : d.body with
  | classType => exact hanchor
  | typeName target =>
    cases target with
    | none => exact hanchor
    | some type =>
      have htype : type.Throughout HasLinkWords := hbody type (by rw [hd]; exact List.mem_singleton_self type)
      exact (hanchor.append (by decide)).append htype.anchor_isLinkSafe.text
  | member type value =>
    have htype : type.Throughout HasLinkWords := hbody type (by rw [hd]; exact List.mem_singleton_self type)
    exact (hanchor.append (by decide)).append htype.anchor_isLinkSafe.text
  | function f =>
    have hparams : ∀ p ∈ f.params, IsLinkText p.anchor := by
      intro p hp
      refine (Param.anchor_isLinkSafe fun e he => hbody e ?_).text
      rw [hd]
      exact List.mem_append_right _ (List.mem_flatMap.mpr ⟨p, hp, he⟩)
    have hlist : IsLinkText (String.intercalate "." (f.params.map Param.anchor)) :=
      .intercalate (by decide) (List.forall_mem_map.mpr hparams)
    -- the parameters and the mark may both be missing
    refine (hanchor.append ?_).append ?_
    · show IsLinkText (if f.params.isEmpty then "" else _)
      split
      · decide
      · exact IsLinkText.append (by decide) hlist
    · split <;> decide

/-- A scope whose words are safe in a link keeps those of a declaration safe. -/
theorem forall_exprs_inScope? {scope : Option Expr} (hscope : ∀ p ∈ scope, p.Throughout HasLinkWords)
    (h : ∀ e ∈ d.exprs, e.Throughout HasLinkWords) :
    ∀ e ∈ (d.inScope? scope).exprs, e.Throughout HasLinkWords := by
  cases scope with
  | none => exact h
  | some p =>
    obtain ⟨hname, hbody⟩ := List.forall_mem_cons.mp h
    exact List.forall_mem_cons.mpr ⟨(hscope p rfl).qualify hname, hbody⟩

end Declaration

/-! ### Contexts -/

/-- **Contexts that are built** from a document and texts: at the top level of the document, by a namespace
directive, or inside of an object that was described in a context of this kind. -/
inductive Context.Built : Context → Prop
  /-- The top level of a document. -/
  | top (docname : String) : Built ⟨docname, none⟩
  /-- A namespace directive. -/
  | withNamespace {ctx inner : Context} {text : String} (h : Built ctx)
    (hinner : ctx.withNamespace text = .ok inner) : Built inner
  /-- What is inside of an object. -/
  | inside {ctx outer : Context} {ix next : Index} {kind : ObjectKind} {text : String} {d : Described}
    (h : Built ctx) (houter : Built outer) (hd : ix.describe outer kind text = .ok (d, next)) :
    Built (d.innerContext ctx)

namespace Index

variable {ix next : Index} {ctx : Context} {kind : ObjectKind} {text : String} {d : Described}

/-- The words of what is described in a scope are safe in a link if those of the scope are. -/
theorem forall_exprs_of_describe (hscope : ∀ p ∈ ctx.parent, p.Throughout HasLinkWords)
    (h : ix.describe ctx kind text = .ok (d, next)) :
    ∀ e ∈ d.declaration.exprs, e.Throughout HasLinkWords := by
  obtain ⟨decl, hparse, rfl, -⟩ := describe_eq_ok_iff.mp h
  have hpoints : HasLinkWords (.name "...") := by
    show IsLinkSafe (nameAnchor "...")
    decide
  exact Declaration.forall_exprs_inScope? hscope
    (Declaration.throughout_of_parse hparse givenByRules_hasLinkWords hpoints)

end Index

/-- **The words of a scope that was built are safe in a link**, by induction on how it was built. -/
theorem Context.Built.forall_parent {ctx : Context} (h : ctx.Built) :
    ∀ p ∈ ctx.parent, p.Throughout HasLinkWords := by
  induction h with
  | top docname => simp
  | @withNamespace ctx inner text h hinner ih =>
    unfold Context.withNamespace at hinner
    dsimp only at hinner
    split at hinner
    next =>
      obtain rfl := Except.ok.inj hinner
      simp
    next =>
      -- the scope is what the text is parsed as
      cases hparse : Expr.parse (trimmed text) with
      | error e => rw [hparse] at hinner; cases hinner
      | ok scope =>
        rw [hparse] at hinner
        obtain rfl := Except.ok.inj hinner
        intro p hp
        obtain rfl := Option.some.inj hp
        exact throughout_of_parse hparse givenByRules_hasLinkWords
  | inside h houter hd ih ihouter =>
    intro p hp
    obtain rfl := Option.some.inj hp
    exact (Index.forall_exprs_of_describe ihouter hd _ List.mem_cons_self).declaredName

namespace Index

variable {ix next : Index} {ctx : Context} {kind : ObjectKind} {text : String} {d : Described}

/-- **Anchors are safe in links.** Whatever is described in a context that was built has an anchor, and all
characters of it are link characters: ASCII, no blanks, and in no sign of an operator other than `-` and `~`.
Nor do these two come from an operator, whose anchor holds small letters and dashes whatever its sign is. -/
theorem anchor_isLinkSafe_of_describe (hctx : ctx.Built) (h : ix.describe ctx kind text = .ok (d, next)) :
    IsLinkSafe d.anchor ∧
      (∀ c ∈ d.anchor.toList, c.toNat < 0x80 ∧ isBlank c = false ∧
        ∀ sign, IsSign sign → c ∈ sign.toList → c = '-' ∨ c = '~') ∧
      ∀ sign, IsSign sign → ∀ c ∈ (Expr.name ("operator" ++ sign)).anchor.toList,
        c.isLower = true ∨ c = '-' := by
  have hsafe : IsLinkSafe d.anchor :=
    Declaration.anchor_isLinkSafe (forall_exprs_of_describe hctx.forall_parent h)
  refine ⟨hsafe, fun c hc => ?_, fun sign => isLower_nameAnchor_of_isSign⟩
  have hlink := hsafe.text c hc
  -- what a sign and an anchor have in common is read off the class of link characters
  obtain ⟨hascii, hblank⟩ := ascii_of_isLinkChar hlink
  exact ⟨hascii, hblank, fun sign hsign hmem => eq_of_isLinkChar_of_isSign hlink hsign hmem⟩

/-- An operator of signs inside of a class, whose name was written as that of a pointer in a namespace with
template arguments. -/
theorem anchor_isLinkSafe_of_describe_operator :
    ∃ (ctx : Context) (d : Described) (next : Index), ctx.Built ∧
      ctx.parent.map Expr.render = some "a::T<const int&>::Grid" ∧
      (empty {}).describe ctx .function
        "bool operator ->*(std::vector<~T[ 3 ]>, unsigned long const x = 0, ...) const" = .ok (d, next) ∧
      d.anchor = "a::T:iCR:::Grid::pointer-by-pointer-operator__v:~TA:.unsigned-lC.XC" ∧
      IsLinkSafe d.anchor := by
  obtain ⟨outer, houter⟩ : ∃ outer : Context, outer = ⟨"api",
      some (.template (.path [.name "a", .name "T"]) [.reference (.const .before (.name "int"))])⟩ := ⟨_, rfl⟩
  have hnamespace : (Context.mk "api" none).withNamespace " a::T<const int&> " = .ok outer := by
    rw [houter]
    decide +kernel
  -- a namespace with arguments, and inside of it a class under a pointer
  have hbuilt : outer.Built := .withNamespace (.top "api") hnamespace
  have hclass : Declaration.parse .classType "Grid*" =
      .ok ⟨.pointer (.name "Grid"), .pub, false, .classType⟩ := by
    decide +kernel
  obtain ⟨inner, hinner⟩ : ∃ inner : Context, inner = ((empty {}).examine outer .classType
      ⟨.pointer (.name "Grid"), .pub, false, .classType⟩).innerContext outer := ⟨_, rfl⟩
  have hinside : inner.Built := hinner ▸ .inside hbuilt hbuilt (describe_of_ok hclass)
  have hparse : Declaration.parse .function
      "bool operator ->*(std::vector<~T[ 3 ]>, unsigned long const x = 0, ...) const" =
      .ok ⟨.name "operator->*", .pub, false, .function ⟨false, false, some (.name "bool"),
        [⟨some (.template (.path [.name "std", .name "vector"]) [.array (.name "~T") (some "3")]), none, none⟩,
          ⟨some (.const .after (.modified ["unsigned"] (.name "long"))), some (.name "x"), some "0"⟩,
          ⟨none, some (.name "..."), none⟩], true, false⟩⟩ := by
    decide +kernel
  have hdescribe : (empty {}).describe inner .function
      "bool operator ->*(std::vector<~T[ 3 ]>, unsigned long const x = 0, ...) const" = .ok (_, _) :=
    describe_of_ok hparse
  refine ⟨inner, _, _, hinside, ?_, hdescribe, ?_, (anchor_isLinkSafe_of_describe hinside hdescribe).1⟩
  · rw [hinner, houter]
    decide +kernel
  · rw [hinner, houter]
    decide +kernel

end Index

end CppIndex
