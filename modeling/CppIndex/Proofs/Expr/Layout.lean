import CppIndex.Proofs.Cursor.Alike
import CppIndex.Proofs.Expr.Outcome

/-!
# Layout does not matter

Two texts with the same chunks are read alike: a type is read from both and it is the same, or reading fails on
both for the same cause (`Expr.parse_alike`). The readers take the two texts in step. Each of them does the same
at alike cursors, by induction on a budget that both runs share (`Expr.alikeUpTo`), and the budgets that the two
texts ask for are as good as a common one (`Expr.typeUpTo_eq`).
-/

namespace CppIndex

open Cursor (AlikeWith)

namespace Expr

variable {c d : Cursor}

/-! ### Steps -/

theorem alike_leadingStep {ws : List String} (h : c.Alike d) :
    Option.Rel AlikeWith (leadingStep ws c) (leadingStep ws d) := by
  refine h.rel (f := leadingStep ws) fun {c d r} h hs => ?_
  obtain ⟨w, hw, hi, hr⟩ := leadingStep_eq_some hs
  obtain ⟨d', hd, halike⟩ := h.skipBlank.exists_identifier? hi
  exact ⟨_, leadingStep_of_mem hw hd, hr, halike⟩

theorem alike_builtinStep {run : List String × List String} (h : c.Alike d) :
    Option.Rel AlikeWith (builtinStep run c) (builtinStep run d) := by
  refine h.rel (f := builtinStep run) fun {c d r} h hs => ?_
  obtain ⟨w, hw, hi, hr⟩ := builtinStep_eq_some hs
  obtain ⟨d', hd, halike⟩ := h.skipBlank.exists_identifier? hi
  exact ⟨_, builtinStep_of_mem hw hd, hr, halike⟩

theorem alike_builtinStart? (h : c.Alike d) : Option.Rel
    (fun p q => p.1 = q.1 ∧ AlikeWith p.2 q.2) (builtinStart? c) (builtinStart? d) := by
  refine h.rel (f := builtinStart?) fun {c d r} h hs => ?_
  obtain ⟨hw, hn, hi⟩ := builtinStart?_eq_some hs
  obtain ⟨d', hd, halike⟩ := h.exists_identifier? hi
  exact ⟨_, builtinStart?_of_mem hw hd, rfl, hn, halike⟩

theorem alike_suffixStep {e : Expr} (h : c.Alike d) :
    Option.Rel AlikeWith (suffixStep e c) (suffixStep e d) := by
  have halike := h.skipBlank
  have hconst := halike.keyword? "const" (by decide)
  have hpointer := halike.skip? "*" (by decide)
  have hreference := halike.skip? "&" (by decide)
  unfold suffixStep
  simp only [halike.arrayBound?_eq_none, halike.symm.arrayBound?_eq_none]
  -- No array bound is found in either text; of the others both sides find the same one first.
  generalize c.skipBlank.keyword? "const" = a, d.skipBlank.keyword? "const" = b at hconst
  cases hconst with
  | some h => exact .some ⟨rfl, h⟩
  | none =>
    generalize c.skipBlank.skip? "*" = a, d.skipBlank.skip? "*" = b at hpointer
    cases hpointer with
    | some h => exact .some ⟨rfl, h⟩
    | none =>
      generalize c.skipBlank.skip? "&" = a, d.skipBlank.skip? "&" = b at hreference
      cases hreference with
      | some h => exact .some ⟨rfl, h⟩
      | none => exact .none

/-! ### What stands around components -/

theorem alike_leadingWords (h : c.Alike d) : AlikeWith (leadingWords c) (leadingWords d) := by
  obtain ⟨hwords, halike⟩ := h.repeated progresses_leadingStep alike_leadingStep []
  exact ⟨hwords, halike.skipBlank⟩

theorem alike_withSuffixes (e : Expr) (h : c.Alike d) : (withSuffixes e c).Alike (withSuffixes e d) := by
  obtain ⟨he, halike⟩ := h.repeated progresses_suffixStep alike_suffixStep e
  simp only [withSuffixes, he]
  exact .done halike.skipBlank

theorem alike_builtin (words : List String) (first : String) (next : List String) (h : c.Alike d) :
    (builtin words first next c).Alike (builtin words first next d) := by
  obtain ⟨hrun, halike⟩ := h.repeated progresses_builtinStep alike_builtinStep (words ++ [first], next)
  simp only [builtin, hrun]
  exact alike_withSuffixes _ halike

theorem alike_ofComponents (words : List String) (parts : List Expr) (h : c.Alike d) :
    (ofComponents words parts c).Alike (ofComponents words parts d) := by
  unfold ofComponents
  split
  · exact .failed h
  · exact alike_withSuffixes _ h

theorem endsArgument_eq (h : c.Alike d) : endsArgument c = endsArgument d := by
  have hsign : ∀ {x : Char}, Text.isBlank x = false →
      (c.current? == some x) = (d.current? == some x) := fun hx => by
    rw [Bool.eq_iff_iff, beq_iff_eq, beq_iff_eq, h.current?_eq_some_iff hx]
  rw [endsArgument, endsArgument, hsign (by decide), hsign (by decide)]

theorem alike_nextPart? (h : c.Alike d) (isFirst : Bool) :
    Option.Rel Cursor.Alike (nextPart? isFirst c) (nextPart? isFirst d) := by
  unfold nextPart?
  cases isFirst with
  | true =>
    rw [if_pos rfl, if_pos rfl, h.atEnd_eq]
    split
    · exact .none
    · exact .some h
  | false =>
    have hskip := h.skip? "::" (by decide)
    rw [if_neg (by decide), if_neg (by decide)]
    -- only the outcome of the step matters from here on, and alike cursors have alike outcomes
    generalize c.skip? "::" = a, d.skip? "::" = b at hskip
    cases hskip with
    | none => exact .none
    | some halike => exact .some halike.skipBlank

/-! ### Names, components, arguments and types -/

/-- **Every reading is the same at alike cursors**, with the same budget. -/
structure AlikeUpTo (n : Nat) : Prop where
  /-- Reading a name. -/
  name : ∀ {c d : Cursor}, c.Alike d → (nameUpTo n c).Alike (nameUpTo n d)
  /-- Reading components. -/
  parts : ∀ {b : Bool} {ps : List Expr} {c d : Cursor}, c.Alike d →
    (partsUpTo n b ps c).Alike (partsUpTo n b ps d)
  /-- Reading arguments. -/
  args : ∀ {as : List Expr} {c d : Cursor}, c.Alike d → (argsUpTo n as c).Alike (argsUpTo n as d)
  /-- Reading a type. -/
  type : ∀ {b : Bool} {c d : Cursor}, c.Alike d → (typeUpTo n b c).Alike (typeUpTo n b d)

namespace AlikeUpTo

variable {n : Nat}

theorem name_succ (h : AlikeUpTo n) (hcd : c.Alike d) :
    (nameUpTo (n + 1) c).Alike (nameUpTo (n + 1) d) := by
  have hi := hcd.identifier?
  rw [nameUpTo, nameUpTo]
  generalize c.identifier? = a, d.identifier? = b at hi
  cases hi with
  | none => exact .failed hcd
  | @some p q hpq =>
    obtain ⟨w, c₁⟩ := p
    obtain ⟨v, d₁⟩ := q
    obtain ⟨rfl, halike⟩ := hpq
    replace halike : c₁.Alike d₁ := halike
    simp only []
    split
    next => exact .done halike
    next =>
      -- behind `operator`, what one text has next the other has too
      have hblank := halike.skipBlank
      have hsign := hblank.operatorSign?
      have hallocation := hblank.allocation?
      generalize c₁.skipBlank.operatorSign? = a, d₁.skipBlank.operatorSign? = b at hsign
      cases hsign with
      | @some p q hpq =>
        obtain ⟨s, c₂⟩ := p
        obtain ⟨t, d₂⟩ := q
        obtain ⟨rfl, halike⟩ := hpq
        exact .done halike
      | none =>
        simp only []
        generalize c₁.skipBlank.allocation? = a, d₁.skipBlank.allocation? = b at hallocation
        cases hallocation with
        | some hr => exact hr.map _
        | none => exact (h.type hblank).map _

theorem parts_succ {b : Bool} {ps : List Expr} (h : AlikeUpTo n) (hcd : c.Alike d) :
    (partsUpTo (n + 1) b ps c).Alike (partsUpTo (n + 1) b ps d) := by
  have hblank := hcd.skipBlank
  have hnext := alike_nextPart? hblank ps.isEmpty
  rw [partsUpTo, partsUpTo]
  simp only [endsArgument_eq hblank]
  split
  next => exact .done hblank
  next =>
    generalize nextPart? ps.isEmpty c.skipBlank = a, nextPart? ps.isEmpty d.skipBlank = b at hnext
    cases hnext with
    | none => exact .done hblank
    | some halike =>
      refine (h.name halike).andThen fun p {c₃ d₃} h₃ => ?_
      have hopen := h₃.skipBlank.skip? "<" (by decide)
      generalize c₃.skipBlank.skip? "<" = a, d₃.skipBlank.skip? "<" = b at hopen
      -- arguments begin in both texts or in neither
      cases hopen with
      | none => exact h.parts h₃
      | some h₄ => exact (h.args h₄).andThen fun args {_ _} h₅ => h.parts h₅

theorem args_succ {as : List Expr} (h : AlikeUpTo n) (hcd : c.Alike d) :
    (argsUpTo (n + 1) as c).Alike (argsUpTo (n + 1) as d) := by
  have hblank := hcd.skipBlank
  have hclose := hblank.skip? ">" (by decide)
  have hnext := hblank.nextItem? as.isEmpty
  rw [argsUpTo, argsUpTo]
  -- both lists are closed, or neither is
  generalize c.skipBlank.skip? ">" = a, d.skipBlank.skip? ">" = b at hclose
  cases hclose with
  | some halike => exact .done halike
  | none =>
    simp only []
    generalize c.skipBlank.nextItem? as.isEmpty = a, d.skipBlank.nextItem? as.isEmpty = b at hnext
    -- both fail for want of a separator, or both go on to an argument
    cases hnext with
    | none => exact .failed hblank
    | some halike => exact (h.type halike).andThen fun a {_ _} h₃ => h.args h₃

theorem type_succ {b : Bool} (h : AlikeUpTo n) (hcd : c.Alike d) :
    (typeUpTo (n + 1) b c).Alike (typeUpTo (n + 1) b d) := by
  have hblank := hcd.skipBlank
  have hroot := hblank.skip? "::" (by decide)
  rw [typeUpTo, typeUpTo]
  simp only []
  generalize c.skipBlank.skip? "::" = a, d.skipBlank.skip? "::" = b at hroot
  cases hroot with
  | some halike => exact (h.parts halike).andThen fun ps {_ _} => alike_ofComponents [] ps
  | none =>
    -- the same words stand in front, and the word behind them is the same
    obtain ⟨hws, halike⟩ := alike_leadingWords hblank
    obtain ⟨⟨ws, c₁⟩, hc⟩ : ∃ r, leadingWords c.skipBlank = r := ⟨_, rfl⟩
    obtain ⟨⟨ws', d₁⟩, hd⟩ : ∃ r, leadingWords d.skipBlank = r := ⟨_, rfl⟩
    rw [hc, hd] at hws halike
    obtain rfl : ws = ws' := hws
    replace halike : c₁.Alike d₁ := halike
    have hstart := alike_builtinStart? halike
    simp only [hc, hd]
    generalize builtinStart? c₁ = a, builtinStart? d₁ = b at hstart
    cases hstart with
    | @some p q hpq =>
      obtain ⟨first, next, c₂⟩ := p
      obtain ⟨first', next', d₂⟩ := q
      obtain ⟨rfl, rfl, halike⟩ := hpq
      exact alike_builtin ws first next halike
    | none => exact (h.parts halike).andThen fun ps {_ _} => alike_ofComponents ws ps

end AlikeUpTo

theorem alikeUpTo (n : Nat) : AlikeUpTo n := by
  induction n with
  | zero => exact ⟨fun h => .failed h, fun h => .failed h, fun h => .failed h, fun h => .failed h⟩
  | succ n ih => exact ⟨ih.name_succ, ih.parts_succ, ih.args_succ, ih.type_succ⟩

/-- **Reading a type is the same at alike cursors.** -/
theorem alike_read (h : c.Alike d) : (read c).Alike (read d) := by
  -- each cursor has a budget of its own, and the larger one serves both
  have hc := typeUpTo_eq (b := false) (Nat.le_max_left c.budget d.budget)
  have hd := typeUpTo_eq (b := false) (Nat.le_max_right c.budget d.budget)
  rw [read, read, ← hc, ← hd]
  exact (alikeUpTo _).type h

end Expr

/-! ### Whole texts -/

/-- **The same kind of cause**: the same cause, or text is left on both sides and it has the same chunks. -/
inductive Cause.SameKind : Cause → Cause → Prop
  /-- The same cause. -/
  | refl (cause : Cause) : SameKind cause cause
  /-- Text is left. -/
  | trailing {rest rest' : String} (h : Text.chunks rest.toList = Text.chunks rest'.toList) :
    SameKind (.trailingInput rest) (.trailingInput rest')

/-- Texts with the same chunks begin with alike cursors, if no bracket is opened in them. -/
theorem Cursor.alike_ofText {s t : String} (hs : '[' ∉ s.toList) (ht : '[' ∉ t.toList)
    (h : Text.chunks s.toList = Text.chunks t.toList) : (ofText s).Alike (ofText t) := by
  have hmem : ∀ {cs : List Char}, '[' ∉ cs → '[' ∉ Text.trim cs := by
    intro cs hcs hm
    obtain ⟨front, back, hsplit, -, -⟩ := Text.exists_blanks_trim cs
    rw [hsplit] at hcs
    exact hcs (List.mem_append_left _ (List.mem_append_right _ hm))
  exact ⟨rfl, Text.squeeze_trim_eq h, hmem hs, hmem ht⟩

/-- **Alike readings are complete alike**: both with the same value, or neither for the same kind of cause. -/
theorem Reading.Alike.complete {α : Type} {r s : Reading α} (h : r.Alike s) :
    (∃ v, r.complete = .ok v ∧ s.complete = .ok v) ∨
      ∃ e f, r.complete = .error e ∧ s.complete = .error f ∧ e.cause.SameKind f.cause := by
  cases h with
  | failed h => exact Or.inr ⟨_, _, rfl, rfl, .refl _⟩
  | @done v c d h =>
    have hend := h.skipBlank.atEnd_eq
    have hdone : ∀ {c : Cursor}, c.skipBlank.atEnd = true → (Reading.done v c).complete = .ok v :=
      fun {c} hc => complete_eq_ok_iff.mpr ⟨c, rfl, List.isEmpty_iff.mp hc⟩
    have hleft : ∀ {c : Cursor}, c.skipBlank.atEnd = false → (Reading.done v c).complete =
        .error ⟨.trailingInput (String.ofList c.skipBlank.rest), .point c.skipBlank.offset,
          c.skipBlank.text⟩ := fun {c} hc => by
      simp only [Reading.complete, Reading.andThen_done, Cursor.finish, hc]
      rfl
    cases hc : c.skipBlank.atEnd with
    | true => exact Or.inl ⟨v, hdone hc, hdone (hend ▸ hc)⟩
    | false =>
      -- What is left over may be laid out differently, but its chunks agree.
      refine Or.inr ⟨_, _, hleft hc, hleft (hend ▸ hc), .trailing ?_⟩
      rw [String.toList_ofList, String.toList_ofList, ← Text.chunks_squeeze, h.skipBlank.rest,
        Text.chunks_squeeze]

/-- **Layout does not matter to the parsing of types.** Two texts in which no bracket is opened and whose chunks
are the same are parsed as the same type, or rejected for the same kind of cause. -/
theorem Expr.parse_alike {s t : String} (hs : '[' ∉ s.toList) (ht : '[' ∉ t.toList)
    (h : Text.chunks s.toList = Text.chunks t.toList) :
    (∃ e, parse s = .ok e ∧ parse t = .ok e) ∨
      ∃ e f, parse s = .error e ∧ parse t = .error f ∧ e.cause.SameKind f.cause :=
  (alike_read (Cursor.alike_ofText hs ht h)).complete

/-- Two layouts of a text that is rejected for what it leaves. -/
theorem Expr.parse_alike_trailing :
    '[' ∉ " const a::b<c , d>&\tx  y".toList ∧ '[' ∉ "const\na::b<c  ,\td>&   x y ".toList ∧
      Text.chunks " const a::b<c , d>&\tx  y".toList =
        Text.chunks "const\na::b<c  ,\td>&   x y ".toList ∧
      ∃ e f, parse " const a::b<c , d>&\tx  y" = .error e ∧
        parse "const\na::b<c  ,\td>&   x y " = .error f ∧ e.cause = .trailingInput "x  y" ∧
        f.cause = .trailingInput "x y" ∧ e.cause.SameKind f.cause := by
  have hs : '[' ∉ " const a::b<c , d>&\tx  y".toList := by decide
  have ht : '[' ∉ "const\na::b<c  ,\td>&   x y ".toList := by decide
  have hchunks : Text.chunks " const a::b<c , d>&\tx  y".toList =
      Text.chunks "const\na::b<c  ,\td>&   x y ".toList := by decide +kernel
  have hcause : ∃ e f, parse " const a::b<c , d>&\tx  y" = .error e ∧
      parse "const\na::b<c  ,\td>&   x y " = .error f ∧ e.cause = .trailingInput "x  y" ∧
      f.cause = .trailingInput "x y" := by
    refine ⟨⟨.trailingInput "x  y", .point 19, "const a::b<c , d>&\tx  y"⟩,
      ⟨.trailingInput "x y", .point 22, "const\na::b<c  ,\td>&   x y"⟩, ?_, ?_, rfl, rfl⟩
    · decide +kernel
    · decide +kernel
  obtain ⟨e, f, he, hf, hce, hcf⟩ := hcause
  refine ⟨hs, ht, hchunks, e, f, he, hf, hce, hcf, ?_⟩
  rcases parse_alike hs ht hchunks with ⟨v, hv, -⟩ | ⟨e', f', he', hf', hkind⟩
  · rw [he] at hv
    cases hv
  · rw [he] at he'
    rw [hf] at hf'
    rwa [Except.error.inj he', Except.error.inj hf']

end CppIndex
