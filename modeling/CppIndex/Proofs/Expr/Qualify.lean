import CppIndex.Proofs.Expr.Closing

/-!
# The text of a qualified name

Qualifying works on trees: a path is spliced into the components of its scope, and a template passes the
scope on to its head. On texts all of this is one thing: the text of the scope, `::`, and the text of the
name (`Expr.render_qualify`). This holds of the names that stand at the beginning of their text
(`Expr.IsQualifiable`), which is what every text names that is parsed (`Expr.isQualifiable_of_parse`), in a
scope of at least one component.

In the other direction the owner of a name is the text in front of the last `::` outside of the template
arguments at its end (`Expr.render_splitOwner`).
-/

namespace CppIndex.Expr

variable {e scope owner leaf : Expr}

/-! ### Components -/

/-- Lists one behind the other are written one behind the other, with a separator between. -/
theorem joined_append (sep : List Char) {es fs : List Expr} (he : es ≠ []) (hf : fs ≠ []) :
    joined sep (es ++ fs) = joined sep es ++ sep ++ joined sep fs := by
  obtain ⟨e, es, rfl⟩ := List.exists_cons_of_ne_nil he
  obtain ⟨f, fs, rfl⟩ := List.exists_cons_of_ne_nil hf
  simp only [joined, List.cons_append, following_append, following_cons, List.append_assoc]

/-- The components of an expression are written as the expression. -/
theorem joined_components (e : Expr) : joined [':', ':'] e.components = e.chars := by
  cases e with
  | path ps => exact (chars_path ps).symm
  | _ => exact joined_singleton _ _

/-! ### Qualifying -/

/-- **An expression can be qualified** if what its text begins with is a component: it is a name, a
conversion, a path with components, or a template of one of these. -/
def IsQualifiable : Expr → Prop
  | .name _ | .cast _ => True
  | .path ps => ps ≠ []
  | .template head _ => head.IsQualifiable
  | .modified _ _ | .pointer _ | .reference _ | .array _ _ | .const _ _ => False

/-- The characters of a qualified name are those of the scope and the name with `::` between. -/
theorem chars_qualify (hscope : scope.components ≠ []) {e : Expr} (he : e.IsQualifiable) :
    (scope.qualify e).chars = scope.chars ++ [':', ':'] ++ e.chars := by
  match e, he with
  | .name s, _ =>
    rw [qualify, chars_path, joined_concat _ _ hscope, joined_components]
  | .cast t, _ =>
    rw [qualify, chars_path, joined_concat _ _ hscope, joined_components]
  | .path ps, hps =>
    rw [qualify, chars_path, joined_append _ hscope hps, joined_components, chars_path]
  | .template head args, hhead =>
    -- The scope goes in front of the innermost head, so the arguments stay behind it.
    have ih : (scope.qualify head).chars = scope.chars ++ [':', ':'] ++ head.chars :=
      chars_qualify hscope hhead
    rw [qualify, chars_template, ih, chars_template]
    simp only [List.append_assoc]

/-- **The text of a qualified name.** -/
theorem render_qualify (hscope : scope.components ≠ []) (he : e.IsQualifiable) :
    (scope.qualify e).render = scope.render ++ "::" ++ e.render := by
  have hchars := chars_qualify hscope he
  apply String.toList_inj.mp
  rw [String.toList_append, String.toList_append]
  exact hchars

/-! ### Splitting off the owner -/

/-- **What splits** is a path of at least two components, or a template whose head splits. -/
theorem splitOwner_cases (h : e.splitOwner = (some owner, leaf)) :
    (∃ ps, ps ≠ [] ∧ owner = .path ps ∧ e = .path (ps ++ [leaf])) ∨
      ∃ head args first, e = .template head args ∧ head.splitOwner = (some owner, first) ∧
        leaf = .template first args := by
  cases e with
  | path ps =>
    rw [splitOwner] at h
    cases hlast : ps.getLast? with
    | none => simp only [hlast] at h; cases h
    | some last =>
      simp only [hlast] at h
      split at h
      next hlength =>
        obtain ⟨howner, rfl⟩ := Prod.mk.inj h
        obtain ⟨qs, rfl⟩ := List.getLast?_eq_some_iff.mp hlast
        rw [List.dropLast_concat] at howner
        -- A path of one component has no owner, so something stands in front of the last.
        refine .inl ⟨qs, ?_, (Option.some.inj howner).symm, rfl⟩
        rintro rfl
        simp at hlength
      next => cases h
  | template head args =>
    rw [splitOwner] at h
    obtain ⟨howner, rfl⟩ := Prod.mk.inj h
    exact .inr ⟨head, args, _, rfl, Prod.ext howner rfl, rfl⟩
  | _ => cases h

/-- **What does not split** is its own leaf. -/
theorem eq_of_splitOwner_eq_none {e leaf : Expr} (h : e.splitOwner = (none, leaf)) : leaf = e := by
  match e, h with
  | .path ps, h =>
    -- a path splits unless it has fewer than two components
    rw [splitOwner] at h
    split at h
    · split at h
      · cases h
      · exact (Prod.mk.inj h).2.symm
    · exact (Prod.mk.inj h).2.symm
  | .template head args, h =>
    rw [splitOwner] at h
    obtain ⟨howner, rfl⟩ := Prod.mk.inj h
    -- a template splits as its head does
    have hhead : head.splitOwner.2 = head := eq_of_splitOwner_eq_none (Prod.ext howner rfl)
    rw [hhead]
  | .name _, h | .modified _ _, h | .pointer _, h | .reference _, h | .array _ _, h | .const _ _, h
  | .cast _, h => exact (Prod.mk.inj h).2.symm

/-- An owner has components. -/
theorem components_ne_nil_of_splitOwner {e leaf : Expr} (h : e.splitOwner = (some owner, leaf)) :
    owner.components ≠ [] := by
  rcases splitOwner_cases h with ⟨ps, hps, rfl, rfl⟩ | ⟨head, args, first, rfl, hhead, rfl⟩
  · exact hps
  · exact components_ne_nil_of_splitOwner hhead

/-- The characters of a name are those of its owner and its leaf with `::` between. -/
theorem chars_splitOwner {e leaf : Expr} (h : e.splitOwner = (some owner, leaf)) :
    e.chars = owner.chars ++ [':', ':'] ++ leaf.chars := by
  rcases splitOwner_cases h with ⟨ps, hps, rfl, rfl⟩ | ⟨head, args, first, rfl, hhead, rfl⟩
  · rw [chars_path, joined_concat _ _ hps, chars_path]
  · -- the arguments stand behind the head, so they stand behind its leaf
    have ih : head.chars = owner.chars ++ [':', ':'] ++ first.chars := chars_splitOwner hhead
    rw [chars_template, ih, chars_template]
    simp only [List.append_assoc]

/-- **The owner of a name is a beginning of its text**: what follows is `::` and the leaf. -/
theorem render_splitOwner (h : e.splitOwner = (some owner, leaf)) :
    e.render = owner.render ++ "::" ++ leaf.render := by
  have hchars := chars_splitOwner h
  apply String.toList_inj.mp
  rw [String.toList_append, String.toList_append]
  exact hchars

/-! ### What is parsed can be qualified -/

theorem IsComponent.isQualifiable (h : IsComponent e) : e.IsQualifiable := by
  cases h <;> exact trivial

/-- A component behind others can be qualified together with them. -/
theorem IsComponent.isQualifiable_ofParts (h : IsComponent e) (ps : List Expr) :
    (ofParts (ps ++ [e])).IsQualifiable := by
  cases ps with
  | nil => exact h.isQualifiable
  | cons p ps =>
    rw [List.cons_append, ofParts_cons (by simp)]
    exact List.cons_ne_nil _ _

/-- Components that were passed make an expression that can be qualified. -/
theorem IsParts.isQualifiable_ofParts {ps : List Expr} (h : IsParts ps) (hn : ps ≠ []) :
    (ofParts ps).IsQualifiable := by
  cases h with
  | nil => exact absurd rfl hn
  | part hp hc => exact hc.isQualifiable_ofParts _
  | template hp hc ha =>
    -- a template can be qualified if its head can
    exact hc.isQualifiable_ofParts _

/-- **What a type names can be qualified.** -/
theorem IsType.isQualifiable_declaredName (h : IsType e) : e.declaredName.IsQualifiable := by
  -- a suffix is not part of the name, so the front decides
  induction h using IsType.induct with
  | front hf =>
    cases hf with
    | parts hw hp hn =>
      rw [fronted, declaredName_underWords, declaredName_of_isPrimary hp.isPrimary_ofParts]
      exact hp.isQualifiable_ofParts hn
    | builtin hw hr =>
      obtain ⟨first, us, others, base, hwritten⟩ := exists_writtenRun hw hr
      rw [builtinFront_append hw hr hwritten.split, declaredName_underWords]
      exact trivial
  | pointer _ ih | reference _ ih | array _ _ ih | const _ ih => exact ih

/-- **What a text names can be qualified.** -/
theorem isQualifiable_of_parse {text : String} (h : parse text = .ok e) :
    e.declaredName.IsQualifiable := by
  obtain ⟨c, hread, -⟩ := parse_eq_ok_iff.mp h
  exact hread.isType.isQualifiable_declaredName

end CppIndex.Expr
