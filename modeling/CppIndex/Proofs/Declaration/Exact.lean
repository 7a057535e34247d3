import CppIndex.Proofs.Declaration.Weight
import CppIndex.Proofs.Expr.ExactPair

/-!
# A declaration that is read back stands

If a declaration is what its canonical text is parsed as, then its text stands: each type in it was read
where it was written, because what is read weighs no less than what is written. With the converse this
says which of the declarations that can be parsed survive being rendered and parsed again
(`Declaration.parse_render_iff_stands`). Not all do: an access level that is open to everyone leaves no word
behind, so a name may come to stand where such a word is read.
-/

namespace CppIndex

open Text (weight)

variable {c c' : Cursor} {k : List Char}

/-! ### Parameters -/

namespace Param

variable {p : Param} {v : Option String}

/-- What stands behind the type or the name of a parameter begins with no `i`. -/
theorem head?_default_ne (hk : Text.EndsValue k) :
    (Text.dropBlank (defaultChars v ++ k)).head? ≠ some 'i' := by
  obtain ⟨-, hblank⟩ := isSeam_of_default (v := v) hk
  obtain ⟨x, cs, hcs, hx⟩ := exists_cons_of_default (v := v) hk
  have hall : ∀ x ∈ ['=', ',', ')'], x ≠ 'i' := by decide
  rw [Text.dropBlank_eq_self hblank, hcs]
  exact fun he => hall x hx (Option.some.inj he)

/-- A default value that was read is the one in the text. -/
theorem eq_moved_of_readDefault? {w : List Char} (hk : Text.EndsValue k)
    (hd : readDefault? ((c.moved w (defaultChars v ++ k)).skipBlank) = .done v c') :
    c' = c.moved (w ++ defaultChars v) k := by
  have hskip : (c.moved w (defaultChars v ++ k)).skipBlank = c.moved w (defaultChars v ++ k) :=
    Cursor.skipBlank_eq_self (isSeam_of_default hk).2
  rw [hskip] at hd
  -- the value in front of `k` is read to its end, and reading has a single outcome
  have hread := readDefault?_append (isDefault_of_readDefault? hd) hk
    (c := c.moved w (defaultChars v ++ k)) rfl
  rw [hd, Cursor.moved_moved] at hread
  simp only [Reading.done.injEq, true_and] at hread
  exact hread

/-- **A parameter that was read stands in the text.** -/
theorem Reads.exact (h : Reads c p c') (hk : Text.EndsValue k) (hc : c.rest = p.chars ++ k)
    (hp : Text.IsSeam c.previous?) : p.Stands k ∧ c' = c.moved p.chars k := by
  cases h with
  | ellipsis he =>
    obtain ⟨hr, hc'⟩ := Cursor.skip?_eq_some he
    rw [chars_ellipsis] at hc ⊢
    have hrest : c'.rest = k := List.append_cancel_left (hr.symm.trans hc)
    exact ⟨trivial, by rw [hc', hrest]⟩
  | @unnamed _ _ t v _ ht _ hd =>
    rw [chars_unnamed, List.append_assoc] at hc
    obtain ⟨hstands, rfl⟩ := (ht.exact hc hp (isSeam_of_default hk).1).resolve_right
      (Expr.not_overrun (head?_default_ne hk))
    rw [Cursor.skipBlank_skipBlank] at hd
    rw [chars_unnamed]
    exact ⟨hstands, eq_moved_of_readDefault? hk hd⟩
  | @named _ _ _ t n v _ ht _ hn hd =>
    rw [chars_named, List.append_assoc, List.cons_append, List.append_assoc] at hc
    obtain ⟨hseam, -⟩ := isSeam_of_default (v := v) hk
    obtain ⟨hstands, rfl⟩ := (ht.exact hc hp (Text.isSeam_of_isBlank (by decide))).resolve_right
      (hn.not_overrun hseam (head?_default_ne hk))
    -- The name is read behind one blank, from where it is written.
    have hspace := Cursor.skipBlank_space
      (c := c.moved t.chars (' ' :: (n.chars ++ (defaultChars v ++ k)))) rfl
      hn.isComponent.opens.not_blank
    rw [Cursor.moved_moved] at hspace
    rw [Cursor.skipBlank_skipBlank, hspace] at hn
    obtain ⟨hname, hc₂⟩ := (hn.exact rfl hseam).resolve_right
      (Expr.not_overrun (head?_default_ne hk))
    rw [hc₂, Cursor.moved_moved] at hd
    refine ⟨⟨hstands, hname⟩, ?_⟩
    rw [eq_moved_of_readDefault? hk hd, chars_named]
    simp

/-- **Parameters that were read stand in the text.** -/
theorem Reaches.exact {ps : List Param} (h : Reaches c ps c') (hk : Text.EndsValue k)
    (hc : c.rest = joined ps ++ k) (hp : Text.IsSeam c.previous?) :
    AllStand ps k ∧ c' = c.moved (joined ps) k := by
  -- over the parameters from the last: those before it stand in front of its comma
  induction h generalizing k with
  | start => exact ⟨trivial, (Cursor.moved_nil_of_rest hc).symm⟩
  | @param c₁ c₂ c₃ ps p hps _ hn hparam ih =>
    have hform := hparam.isForm
    have hhead := hform.head?_chars (k := k)
    by_cases hempty : ps = []
    · -- the first parameter stands at the cursor
      subst hempty
      obtain rfl : c₁ = c := by
        generalize hps' : ([] : List Param) = ps at hps
        cases hps with
        | start => rfl
        | param => simp at hps'
      rw [List.nil_append, joined_singleton] at hc ⊢
      have hskip : c₁.skipBlank = c₁ := Cursor.skipBlank_eq_self fun x hx => by
        rw [hc] at hx
        exact (hhead x hx).1
      obtain rfl := Option.some.inj hn
      rw [hskip] at hparam
      obtain ⟨hstands, hc₃⟩ := hparam.exact hk hc hp
      exact ⟨⟨hstands, trivial⟩, hc₃⟩
    · -- the others stand behind those before them, a comma and a blank
      rw [joined_concat _ hempty, List.append_assoc] at hc
      obtain ⟨hall, rfl⟩ := ih (k := ',' :: ' ' :: p.chars ++ k) (Or.inl rfl) hc
      have hcomma : (c.moved (joined ps) (',' :: ' ' :: p.chars ++ k)).skipBlank =
          c.moved (joined ps) (',' :: ' ' :: p.chars ++ k) :=
        Cursor.skipBlank_eq_self (by simp [Text.isBlank])
      rw [hcomma, List.isEmpty_eq_false_iff.mpr hempty,
        Cursor.nextItem?_comma rfl fun x hx => (hhead x hx).1, Cursor.moved_moved] at hn
      obtain rfl := Option.some.inj hn
      obtain ⟨hstands, rfl⟩ := hparam.exact hk rfl (Expr.isSeam_previous?_separator (Or.inr rfl))
      refine ⟨(allStand_concat ps p).mpr ⟨hall, hstands⟩, ?_⟩
      rw [Cursor.moved_moved, joined_concat _ hempty]
      simp

end Param

/-! ### Declarations -/

namespace Declaration

variable {kind : ObjectKind} {d : Declaration}

/-- **The parameters of a signature that was read stand in the text.** -/
theorem ReadsSignature.allStand {f : FunctionInfo} {ps : List Param} {isConst isPure : Bool}
    (h : ReadsSignature c ps isConst isPure c') (hps : f.params = ps)
    (hc : c.rest = signatureChars f) :
    Param.AllStand f.params (')' :: Expr.spaced f.trailingWords) := by
  subst hps
  obtain ⟨ho, hp, -⟩ := h
  -- the parenthesis stands at the cursor, and the parameters behind it
  have hskip : c.skipBlank = c := Cursor.skipBlank_eq_self (by
    rw [hc]
    simp [signatureChars, Text.isBlank])
  obtain ⟨hr, hc₁⟩ := Cursor.skip?_eq_some ho
  rw [hskip, hc] at hr
  refine (hp.exact (Or.inr rfl) (List.cons.inj hr).2.symm ?_).1
  rw [hc₁, show "(".toList = ['('] from rfl, Cursor.previous?_moved_singleton]
  exact Text.isSeam_some_of_ascii (by decide) (by decide)

/-- Behind the name of a function nothing is skipped. -/
theorem skipBlank_signatureChars {w : List Char} {f : FunctionInfo} :
    (c.moved w (signatureChars f)).skipBlank = c.moved w (signatureChars f) :=
  Cursor.skipBlank_eq_self (by simp [signatureChars, Text.isBlank])

section Bodies

variable {name : Expr} {f : FunctionInfo} {c₁ c₂ : Cursor}

/-- An expression that the text ends with was read where it stands. -/
theorem typeStands_of_last (hn : Expr.ReadsType false c name c') (hr : c.skipBlank.rest = name.chars)
    (hp : Text.IsSeam c.skipBlank.previous?) : name.TypeStands [] := by
  have hread := (Expr.readsType_skipBlank_iff.mpr hn).exact (k := []) (by rw [hr, List.append_nil]) hp Text.isSeam_none
  exact (hread.resolve_right (Expr.not_overrun (by decide))).1

/-- **A function without a return type** that was read stands in the text. -/
theorem bodyStands_procedure {isConst isPure : Bool} (hf : f.returns = none)
    (hn : Expr.ReadsType false c name c₁)
    (hs : ReadsSignature c₁.skipBlank f.params isConst isPure c')
    (hr : c.skipBlank.rest = name.chars ++ signatureChars f)
    (hp : Text.IsSeam c.skipBlank.previous?) : BodyStands name (.function f) := by
  -- a parenthesis follows the name, which no run of words reads over
  have hover : ¬ Expr.Overrun (signatureChars f) c₁ :=
    Expr.not_overrun (by simp [signatureChars, Text.dropBlank, Text.isBlank])
  obtain ⟨hname, rfl⟩ :=
    ((Expr.readsType_skipBlank_iff.mpr hn).exact hr hp (signatureChars_head f).1).resolve_right hover
  rw [skipBlank_signatureChars, skipBlank_signatureChars] at hs
  exact ⟨by simp [hf], hname, hs.allStand rfl rfl⟩

/-- **A function with a return type** that was read stands in the text. -/
theorem bodyStands_function {returns : Expr} (hf : f.returns = some returns)
    (ht : Expr.ReadsType false c returns c₁) (hn : Expr.ReadsType false c₁.skipBlank name c₂)
    (hs : ReadsSignature c₂ f.params f.isConst f.isPure c')
    (hr : c.skipBlank.rest = returns.chars ++ ' ' :: (name.chars ++ signatureChars f))
    (hp : Text.IsSeam c.skipBlank.previous?) : BodyStands name (.function f) := by
  -- what is left behind the name is as heavy as the signature, so nothing of it was taken along
  have hweight := hs.weight_le rfl
  obtain ⟨hreturns, hname, rfl⟩ := Expr.exact_pair ht (Expr.readsType_skipBlank_iff.mp hn) hr hp
    (signatureChars_head f).1 (by simp [signatureChars, Text.dropBlank, Text.isBlank]) (by omega)
  rw [skipBlank_signatureChars] at hs
  exact ⟨by simpa [hf] using hreturns, hname, hs.allStand rfl rfl⟩

end Bodies

/-- **A declaration that is read from its canonical text stands.** -/
theorem Reads.stands (h : Reads kind c d c') (hc : c.rest = d.chars)
    (hp : Text.IsSeam c.previous?) : d.Stands := by
  obtain ⟨hfront, c₁, c₂, hl, hw, hrest, hprev⟩ := h.exists_words hc hp
  refine ⟨hfront, ?_⟩
  have hnil : (Text.dropBlank []).head? ≠ some 'i' := by decide
  -- in each case the words in front are those that were found, so the body is read behind them
  cases h with
  | classType hl' hn =>
    rw [hl'] at hl
    obtain ⟨-, -, rfl⟩ := hl
    obtain rfl : c₂ = _ := hw
    exact typeStands_of_last hn hrest hprev
  | typeName hl' hn _ =>
    rw [hl'] at hl
    obtain ⟨-, -, rfl⟩ := hl
    obtain rfl : c₂ = _ := hw
    exact typeStands_of_last hn hrest hprev
  | @typeAlias _ _ _ _ _ _ target name hl' ht _ hn =>
    rw [hl'] at hl
    obtain ⟨-, -, rfl⟩ := hl
    obtain rfl : c₂ = _ := hw
    have hpair := Expr.exact_pair ht (Expr.readsType_skipBlank_iff.mp hn) (l := [])
      (by rw [hrest, List.append_nil]; rfl) hprev Text.isSeam_none hnil (Nat.zero_le _)
    rw [List.append_nil] at hpair
    exact ⟨hpair.1, hpair.2.1⟩
  | member hl' ht hn _ =>
    rw [hl'] at hl
    obtain ⟨-, -, rfl⟩ := hl
    obtain rfl : c₂ = _ := hw
    have hpair := Expr.exact_pair ht hn hrest hprev Text.isSeam_none hnil (Nat.zero_le _)
    exact ⟨hpair.1, hpair.2.1⟩
  | @valued _ _ _ _ c₄ _ _ _ _ hl' ht hn he =>
    rw [hl'] at hl
    obtain ⟨-, -, rfl⟩ := hl
    obtain rfl : c₂ = _ := hw
    have hsign := Expr.weight_skip? he
    have htrim : weight (String.ofList (Text.trim c₄.rest)).toList = weight c₄.rest := by
      rw [String.toList_ofList, Text.weight_trim]
    have hpair := Expr.exact_pair ht hn hrest hprev (isSeam_valueChars _)
      (by simp [valueChars, Text.dropBlank, Text.isBlank])
      (Nat.le_of_eq (by rw [weight_valueChars, htrim, hsign]))
    exact ⟨hpair.1, hpair.2.1⟩
  | @procedure _ _ _ _ _ _ _ e i isConst isPure _ ps hl' hw' hn _ hs =>
    rw [hl'] at hl
    obtain ⟨-, -, rfl⟩ := hl
    obtain rfl : _ = c₂ := (Prod.mk.inj (hw'.symm.trans hw)).2
    exact bodyStands_procedure (f := ⟨e, i, none, ps, isConst, isPure⟩) rfl hn hs hrest hprev
  | @function _ _ _ _ _ _ _ _ e i isConst isPure returns _ ps hl' hw' hr _ hn hs =>
    rw [hl'] at hl
    obtain ⟨-, -, rfl⟩ := hl
    obtain rfl : _ = c₂ := (Prod.mk.inj (hw'.symm.trans hw)).2
    exact bodyStands_function (f := ⟨e, i, some returns, ps, isConst, isPure⟩) rfl hr hn hs
      (hrest.trans (by simp [restChars, returnsChars])) hprev

/-! ### Parsing what was rendered -/

/-- **When rendering can be undone**: a declaration that some text is parsed as is what its own canonical
text is parsed as exactly if that text stands. -/
theorem parse_render_iff_stands {text : String} (h : parse kind text = .ok d) :
    parse kind d.render = .ok d ↔ d.Stands := by
  obtain ⟨c, hread, -⟩ := parse_eq_ok_iff.mp h
  have hform := hread.isForm
  constructor
  · -- reading the canonical text back shows at each part that it stands
    intro hparse
    obtain ⟨c', hread', -⟩ := parse_eq_ok_iff.mp hparse
    obtain ⟨blanks, htext, hblanks⟩ := d.toList_render
    -- the canonical text is trimmed but for the blanks behind an empty value
    have hcursor : Cursor.ofText d.render = ⟨[], d.chars⟩ := by
      rw [Cursor.ofText, htext, hform.isTrimmed_chars.trim_append hblanks]
    rw [hcursor] at hread'
    exact hread'.stands rfl Text.isSeam_none
  · exact hform.parse_render_of_stands

/-- A declaration that stands, with words, a bound and suffixes. -/
theorem parse_render_iff_stands_names :
    parse .member "static const char* names[4]" = .ok ⟨.array (.name "names") (some "4"), .pub, true,
        .member (.pointer (.const .before (.name "char"))) none⟩ ∧
      (Declaration.mk (.array (.name "names") (some "4")) .pub true
        (.member (.pointer (.const .before (.name "char"))) none)).Stands := by
  have hparse : parse .member "static const char* names[4]" = .ok ⟨.array (.name "names") (some "4"),
      .pub, true, .member (.pointer (.const .before (.name "char"))) none⟩ := by
    decide +kernel
  exact ⟨hparse, (parse_render_iff_stands hparse).mp (by decide +kernel)⟩

/-- **Rendering cannot always be undone**: a class named `public` is parsed from a text in which the word
stands twice, and rendered it stands once. -/
theorem parse_render_public_ne :
    parse .classType "public public" = .ok ⟨.name "public", .pub, false, .classType⟩ ∧
      parse .classType (Declaration.mk (.name "public") .pub false .classType).render ≠
        .ok ⟨.name "public", .pub, false, .classType⟩ := by
  decide +kernel

end Declaration

end CppIndex
