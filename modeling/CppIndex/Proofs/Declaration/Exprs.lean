import CppIndex.Proofs.Declaration.Outcome
import CppIndex.Proofs.Expr.Nodes

/-!
# The expressions of a declaration

A declaration holds expressions as its name, as its type, return type or target, and as the types and names of
its parameters (`Declaration.exprs`). Each of them is read as a type or a name at a place to which the cursor
leads, the three points of an ellipsis apart (`Declaration.Reads.forall_exprs`). So what holds of whatever is
read as a type or a name in a text holds of all expressions of a declaration in that text, and what the rules of
reading give holds throughout them (`Declaration.throughout_of_parse`).
-/

namespace CppIndex

/-- **The expressions of a parameter**: its type and its name. -/
def Param.exprs (p : Param) : List Expr := p.type.toList ++ p.name.toList

/-- The expressions of a body. -/
def Body.exprs : Body → List Expr
  | .classType => []
  | .function info => info.returns.toList ++ info.params.flatMap Param.exprs
  | .member type _ => [type]
  | .typeName target => target.toList

/-- **The expressions of a declaration.** -/
def Declaration.exprs (d : Declaration) : List Expr := d.name :: d.body.exprs

/-- **An expression that is read from some place on**: as a type or as a name, or it is an ellipsis. -/
inductive Expr.ReadFrom (c : Cursor) (e : Expr) : Prop
  /-- A type. -/
  | type {c₁ c₂ : Cursor} (h : c.Leads c₁) (ht : ReadsType false c₁ e c₂)
  /-- A name. -/
  | name {c₁ c₂ : Cursor} (h : c.Leads c₁) (hn : ReadsName c₁ e c₂)
  /-- Three points. -/
  | ellipsis (he : e = .name "...")

/-- What is read from a later place on is read from an earlier one on. -/
theorem Expr.ReadFrom.of_leads {c c' : Cursor} {e : Expr} (h : e.ReadFrom c') (hc : c.Leads c') :
    e.ReadFrom c := by
  cases h with
  | type h ht => exact .type (hc.trans h) ht
  | name h hn => exact .name (hc.trans h) hn
  | ellipsis he => exact .ellipsis he

/-- What the rules of reading give holds throughout what is read from some place on, if it holds of the three
points. -/
theorem Expr.ReadFrom.throughout {P : Expr → Prop} {c : Cursor} {e : Expr} (h : e.ReadFrom c)
    (hP : GivenByRules P) (hpoints : P (.name "...")) : e.Throughout P := by
  -- what is read has its form, and what the rules give holds throughout a form
  cases h with
  | type _ ht => exact ht.isType.throughout hP
  | name _ hn => exact hn.isComponent.throughout hP
  | ellipsis he =>
    rw [he]
    exact throughout_iff.mpr ⟨hpoints, by simp [parts]⟩

/-! ### Parameters -/

namespace Param

/-- Reading a parameter leads behind it. -/
theorem Reads.leads {c c' : Cursor} {p : Param} (h : Reads c p c') : c.Leads c' := by
  have hread := (continues_read c).leads
  rwa [read_eq_done_iff.mpr h] at hread

/-- Passing parameters leads behind the last of them. -/
theorem Reaches.leads {c c' : Cursor} {ps : List Param} (h : Reaches c ps c') : c.Leads c' := by
  induction h with
  | start => exact .refl _
  | param _ _ hn hp ih =>
    exact ih.trans <| (Cursor.leads_skipBlank _).trans <| (Cursor.leads_of_nextItem? hn).trans hp.leads

/-- The type and the name of a parameter are read where it is. -/
theorem Reads.forall_exprs {c c' : Cursor} {p : Param} (h : Reads c p c') :
    ∀ e ∈ p.exprs, e.ReadFrom c := by
  intro e he
  -- the type is read in front, and the name behind it and the blanks
  cases h with
  | ellipsis _ =>
    obtain rfl := List.mem_singleton.mp he
    exact .ellipsis rfl
  | unnamed _ ht _ _ =>
    obtain rfl := List.mem_singleton.mp he
    exact .type (.refl c) ht
  | named _ ht _ hn _ =>
    rcases List.mem_cons.mp he with rfl | he
    · exact .type (.refl c) ht
    · obtain rfl := List.mem_singleton.mp he
      exact .name (ht.leads.trans (Cursor.leads_skipBlank _)) hn

/-- So it is with parameters, by induction on those that were passed. -/
theorem Reaches.forall_exprs {c c' : Cursor} {ps : List Param} (h : Reaches c ps c') :
    ∀ e ∈ ps.flatMap Param.exprs, e.ReadFrom c := by
  induction h with
  | start => simp
  | param h _ hn hp ih =>
    intro e he
    rw [List.flatMap_append, List.flatMap_singleton] at he
    -- an expression of the parameters before, or one of the last
    rcases List.mem_append.mp he with he | he
    · exact ih e he
    · refine (hp.forall_exprs e he).of_leads (h.leads.trans ?_)
      exact (Cursor.leads_skipBlank _).trans (Cursor.leads_of_nextItem? hn)

end Param

/-! ### Declarations -/

namespace Declaration

variable {c c' : Cursor} {d : Declaration} {kind : ObjectKind}

/-- The expressions of a signature are those of its parameters. -/
theorem ReadsSignature.forall_exprs {ps : List Param} {isConst isPure : Bool}
    (h : ReadsSignature c ps isConst isPure c') : ∀ e ∈ ps.flatMap Param.exprs, e.ReadFrom c := by
  obtain ⟨ho, hp, -, -, -⟩ := h
  intro e he
  exact (hp.forall_exprs e he).of_leads ((Cursor.leads_skipBlank c).trans (Cursor.leads_of_skip? ho))

/-- **Every expression of a declaration is read** from the place of the declaration on. -/
theorem Reads.forall_exprs (h : Reads kind c d c') : ∀ e ∈ d.exprs, e.ReadFrom c := by
  intro e he
  cases h with
  | classType hl hn =>
    obtain rfl := List.mem_singleton.mp he
    exact .type (leads_readLeading hl) hn
  | typeName hl hn _ =>
    obtain rfl := List.mem_singleton.mp he
    exact .type (leads_readLeading hl) hn
  | typeAlias hl ht _ hn =>
    have htarget := leads_readLeading hl
    rcases List.mem_cons.mp he with rfl | he
    · exact .type (htarget.trans (ht.leads.trans (Cursor.leads_skipBlank _))) hn
    · obtain rfl := List.mem_singleton.mp he
      exact .type htarget ht
  | member hl ht hn _ | valued hl ht hn _ =>
    have htype := leads_readLeading hl
    rcases List.mem_cons.mp he with rfl | he
    · exact .type (htype.trans ht.leads) hn
    · obtain rfl := List.mem_singleton.mp he
      exact .type htype ht
  | procedure hl hw hn _ hs =>
    have hname := (leads_readLeading hl).trans (leads_of_repeated_functionWordStep hw)
    rcases List.mem_cons.mp he with rfl | he
    · exact .type hname hn
    · exact (hs.forall_exprs e he).of_leads <|
        hname.trans (hn.leads.trans (Cursor.leads_skipBlank _))
  | function hl hw hr _ hn hs =>
    have hreturns := (leads_readLeading hl).trans (leads_of_repeated_functionWordStep hw)
    have hname := hreturns.trans (hr.leads.trans (Cursor.leads_skipBlank _))
    -- the name, the return type, and the parameters
    rcases List.mem_cons.mp he with rfl | he
    · exact .type hname hn
    · rcases List.mem_cons.mp he with rfl | he
      · exact .type hreturns hr
      · exact (hs.forall_exprs e he).of_leads (hname.trans hn.leads)

/-- What the rules of reading give, and the three points have, holds throughout every expression of a
declaration that a text is parsed as. -/
theorem throughout_of_parse {P : Expr → Prop} {text : String} (h : parse kind text = .ok d)
    (hP : Expr.GivenByRules P) (hpoints : P (.name "...")) : ∀ e ∈ d.exprs, e.Throughout P := by
  obtain ⟨c', hread, -⟩ := parse_eq_ok_iff.mp h
  intro e he
  exact (hread.forall_exprs e he).throughout hP hpoints

end Declaration

end CppIndex
