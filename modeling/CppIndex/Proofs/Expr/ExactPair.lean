import CppIndex.Proofs.Expr.Exact
import CppIndex.Proofs.Expr.Weight

/-!
# Two types in a row

In a declaration a type is followed by a blank and a name, which is read as a type too. If both are read
back, both stood in the text (`exact_pair`). It has to be excluded that the type took an `int` along that
the name begins with. Then the name would have been read from the text behind that `int`. By its weight no
`::` stood there, so its first word was read there (`ReadsType.exists_identifier?`), and that is the
`int` again. But behind the first word of a type there stands no further `int` (`Text.Detached`).
-/

namespace CppIndex

namespace Text

/-- **A word stands detached** at the front of a text: unless an `i` follows the text, none follows the
word. -/
def Detached (w cs : List Char) : Prop :=
  ∃ m, cs = w ++ m ∧ ∀ l, (dropBlank l).head? ≠ some 'i' → (dropBlank (m ++ l)).head? ≠ some 'i'

theorem detached_self (w : List Char) : Detached w w := ⟨[], by simp, fun _ h => h⟩

/-- It stays detached in front of a text that does not begin with an `i`. -/
theorem Detached.append {w cs k : List Char} (h : Detached w cs)
    (hk : ∀ l, (dropBlank (k ++ l)).head? ≠ some 'i') : Detached w (cs ++ k) := by
  obtain ⟨m, rfl, hm⟩ := h
  refine ⟨m ++ k, by simp, fun l _ => ?_⟩
  rw [List.append_assoc]
  exact hm _ (hk l)

end Text

namespace Expr

open Text (weight)

/-! ### The first word of a type -/

/-- The first word of a component is the identifier that was read. -/
theorem ReadsName.exists_identifier? {c c' : Cursor} {e : Expr} (h : ReadsName c e c') :
    ∃ c₁, c.identifier? = some (e.opening, c₁) := by
  -- all but a plain word begin with the word `operator`
  cases h with
  | word hi _ => exact ⟨_, by rw [opening_name (Cursor.identifier?_eq_some hi).1, hi]⟩
  | sign hi hs =>
    obtain ⟨taken, ht, -⟩ := Cursor.operatorSign?_eq_some hs
    exact ⟨_, by rw [(opensOperator_sign (Text.operatorSign?_eq_some ht).1).opening, hi]⟩
  | allocation hi _ ha =>
    obtain ⟨a, isArray, -, rfl, -⟩ := Cursor.allocation?_eq_some ha
    exact ⟨_, by rw [(opensOperator_allocation a isArray).opening, hi]⟩
  | cast hi _ _ _ => exact ⟨_, by rw [(opensOperator_cast _).opening, hi]⟩

/-- So is the first word of components. -/
theorem ReachesParts.exists_identifier? {b : Bool} {c c' : Cursor} {ps : List Expr}
    (h : ReachesParts b c ps c') (hn : ps ≠ []) : ∃ c₁, c.skipBlank.identifier? =
      some (String.ofList (Text.leadingWord (joined [':', ':'] ps)), c₁) := by
  -- A further component changes nothing unless it is the first.
  have hconcat : ∀ {ps p c₁ c₂ c₃}, ReachesParts b c ps c₁ →
      (ps ≠ [] → ∃ d, c.skipBlank.identifier? =
        some (String.ofList (Text.leadingWord (joined [':', ':'] ps)), d)) →
      nextPart? ps.isEmpty c₁.skipBlank = some c₂ → ReadsName c₂ p c₃ →
      ∃ d, c.skipBlank.identifier? =
        some (String.ofList (Text.leadingWord (joined [':', ':'] (ps ++ [p]))), d) := by
    intro ps p c₁ c₂ c₃ hps ih hnext hp
    by_cases hempty : ps = []
    · subst hempty
      obtain rfl := hps.eq_of_nil
      rcases nextPart?_eq_some hnext with ⟨-, -, rfl⟩ | ⟨hfirst, -⟩
      · rw [List.nil_append, joined_singleton]
        exact hp.exists_identifier?
      · cases hfirst
    · obtain ⟨d, hd⟩ := ih hempty
      have hlead := (hps.isParts.opens hempty).leadingWord_append
        (k := [':', ':'] ++ p.chars) (isSeam_sign (by simp))
      rw [← List.append_assoc, ← joined_concat _ _ hempty] at hlead
      exact ⟨d, by rw [hlead, hd]⟩
  induction h using ReachesParts.induct with
  | start => exact absurd rfl hn
  | part hps _ hnext hp _ ih => exact hconcat hps ih hnext hp
  | @template _ _ _ _ _ _ ps args p hps _ hnext hp _ _ _ ih =>
    obtain ⟨d, hd⟩ := hconcat hps ih hnext hp
    have hopens := (hps.isParts.part hp.isComponent).opens (by simp)
    have hlead := hopens.leadingWord_append (k := '<' :: joined [',', ' '] args ++ ['>'])
      (isSeam_sign (by simp))
    refine ⟨d, ?_⟩
    rw [hd, joined_singleton, chars_template, chars_ofParts, List.append_assoc, hlead]

/-- Suffixes do not change how a type opens. -/
theorem opening_of_passes_suffixStep {c c' : Cursor} {e₀ e : Expr}
    (h : Cursor.Passes suffixStep e₀ c e c') (h₀ : IsType e₀) : e.opening = e₀.opening := by
  induction h with
  | start => rfl
  | step hp hs ih =>
    have htype := h₀.of_passes hp
    rw [← ih]
    -- a suffix stands behind a seam, so it does not touch the first word
    rcases suffixStep_eq_some hs with ⟨-, rfl⟩ | ⟨-, rfl⟩ | ⟨size, -, rfl⟩ | ⟨-, rfl⟩
    · exact htype.opening_append (chars_const_after _) (isSeam_sign (by simp))
    · exact htype.opening_append (chars_pointer _) (isSeam_sign (by simp))
    · exact htype.opening_append ((chars_array _ _).trans (List.append_assoc ..))
        (isSeam_sign (by simp))
    · exact htype.opening_append (chars_reference _) (isSeam_sign (by simp))

/-- A run opens with a word of a type. -/
theorem opening_builtinFront {ws run : List String} (hw : ∀ w ∈ ws, w ∈ frontWords)
    (hr : IsRun run) : (builtinFront (ws ++ run)).opening ∈ frontWords ++ builtinStarts := by
  obtain ⟨first, us, others, base, h⟩ := exists_writtenRun hw hr
  have htext := h.text
  -- The first word written is a word in front of the run or, without any, the first word of the run.
  cases hfront : frontedWords ws with
  | nil =>
    have hseam : Text.IsSeam (spaced us).head? := by
      cases us with
      | nil => exact Text.isSeam_none
      | cons u us => exact Text.isSeam_of_isBlank (by decide)
    rw [hfront] at htext
    rw [opening_of_chars htext (Or.inl (isWord_of_mem_builtinStarts h.start)) hseam]
    exact List.mem_append_right _ h.start
  | cons w vs =>
    have hmem : w ∈ frontWords := hw w (mem_frontedWords.mp (hfront ▸ List.mem_cons_self ..))
    rw [hfront, wordsText_cons, List.append_assoc] at htext
    rw [opening_of_chars htext (Or.inl (isWord_of_mem_frontWords hmem))
      (Text.isSeam_of_isBlank (by decide))]
    exact List.mem_append_left _ hmem

/-- **The first word of a type** is a word of types, or the identifier that was read. -/
theorem ReadsType.exists_identifier? {b : Bool} {c c' : Cursor} {e : Expr}
    (h : ReadsType b c e c') (hc : c.skipBlank.skip? "::" = none) :
    e.opening ∈ frontWords ++ builtinStarts ∨
      ∃ c₁, c.skipBlank.identifier? = some (e.opening, c₁) := by
  obtain ⟨hf, hs, -⟩ := h
  rw [opening_of_passes_suffixStep hs (.front hf.isFront)]
  cases hf with
  | rooted hc' => rw [hc] at hc'; cases hc'
  | builtin _ hw hb hr =>
    obtain ⟨run, rfl, hrun⟩ := isRun_of_repeated hb hr
    exact Or.inl (opening_builtinFront (forall_mem_of_leadingWords hw) hrun)
  | @parts _ _ c₁ c₂ ws ps _ hw _ hp _ hn =>
    have hfront := forall_mem_of_leadingWords hw
    rcases @opening_underWords (decide ("const" ∈ ws)) (ws.erase "const") (ofParts ps)
      (fun w hm => hfront w (by simpa using mem_frontedWords.mp (by simpa [frontedWords] using hm)))
      with hop | ⟨hconst, hempty, hop⟩
    · exact Or.inl (List.mem_append_left _ hop)
    · refine Or.inr ?_
      -- no word stands in front, so the components begin at the cursor
      obtain rfl : ws = [] := by
        rwa [List.erase_of_not_mem (of_decide_eq_false hconst)] at hempty
      have hpass := (Cursor.passes_repeated progresses_leadingStep [] c.skipBlank).1
      simp only [leadingWords, Prod.mk.injEq] at hw
      rw [eq_of_passes_leadingStep hpass hw.1, Cursor.skipBlank_skipBlank] at hw
      obtain ⟨d, hd⟩ := hp.exists_identifier? hn
      rw [← hw.2, Cursor.skipBlank_skipBlank] at hd
      have htext : (fronted [] (ofParts ps)).opening =
          String.ofList (Text.leadingWord (joined [':', ':'] ps)) := by
        rw [opening, chars_fronted, chars_ofParts]
        rfl
      exact ⟨d, by rw [htext, hd]⟩

/-! ### What stands behind an `int` -/

theorem IsComponent.detached {e : Expr} {w : String} (h : IsComponent e) (hw : e.opening = w)
    (hne : w ≠ "operator") : Text.Detached w.toList e.chars := by
  rcases h.identifier_or_operator with ⟨s, rfl, hs⟩ | hop
  · rw [opening_name hs] at hw
    rw [chars_name, hw]
    exact Text.detached_self _
  · exact absurd (hw.symm.trans hop.opening) hne

theorem IsParts.detached {ps : List Expr} {w : String} (h : IsParts ps) (hn : ps ≠ [])
    (hw : String.ofList (Text.leadingWord (joined [':', ':'] ps)) = w) (hne : w ≠ "operator") :
    Text.Detached w.toList (joined [':', ':'] ps) := by
  -- Behind the first component stands `::`, behind all of them `<`: neither begins with an `i`.
  have hconcat : ∀ {ps p}, IsParts ps → IsComponent p →
      (ps ≠ [] → String.ofList (Text.leadingWord (joined [':', ':'] ps)) = w →
        Text.Detached w.toList (joined [':', ':'] ps)) →
      String.ofList (Text.leadingWord (joined [':', ':'] (ps ++ [p]))) = w →
      Text.Detached w.toList (joined [':', ':'] (ps ++ [p])) := by
    intro ps p hps hp ih hw
    by_cases hempty : ps = []
    · subst hempty
      rw [List.nil_append, joined_singleton] at hw ⊢
      exact hp.detached hw hne
    · rw [joined_concat _ _ hempty, List.append_assoc,
        (hps.opens hempty).leadingWord_append (k := [':', ':'] ++ p.chars)
          (isSeam_sign (by simp))] at hw
      rw [joined_concat _ _ hempty, List.append_assoc]
      exact (ih hempty hw).append fun l => by simp [Text.dropBlank, Text.isBlank]
  induction h using IsParts.induct with
  | nil => exact absurd rfl hn
  | part hps hp ih => exact hconcat hps hp ih hw
  | @template ps args p hps hp _ ih =>
    rw [joined_singleton, chars_template, chars_ofParts, List.append_assoc] at hw ⊢
    rw [((hps.part hp).opens (by simp)).leadingWord_append
      (k := '<' :: joined [',', ' '] args ++ ['>']) (isSeam_sign (by simp))] at hw
    exact (hconcat hps hp ih hw).append fun l => by simp [Text.dropBlank, Text.isBlank]

/-- **The first word of a type stands detached**, if it is no word of types. -/
theorem IsType.detached {e : Expr} {w : String} (h : IsType e) (hw : e.opening = w)
    (hne : w ≠ "operator") (hno : w ∉ frontWords ++ builtinStarts) :
    Text.Detached w.toList e.chars := by
  -- No suffix begins with an `i`, so it keeps the first word detached.
  have hsuffix : ∀ {e e' : Expr} {k : List Char}, IsType e → e'.chars = e.chars ++ k →
      Text.IsSeam k.head? → (∀ l, (Text.dropBlank (k ++ l)).head? ≠ some 'i') →
      (e.opening = w → Text.Detached w.toList e.chars) → e'.opening = w →
      Text.Detached w.toList e'.chars := by
    intro e e' k he htext hk hi ih hw
    rw [he.opening_append htext hk] at hw
    rw [htext]
    exact (ih hw).append hi
  induction h using IsType.induct with
  | front hf =>
    cases hf with
    | builtin hws hr => exact absurd (hw ▸ opening_builtinFront hws hr) hno
    | @parts ws ps hws hp hn =>
      rcases @opening_underWords (decide ("const" ∈ ws)) (ws.erase "const") (ofParts ps)
        (fun w hm => hws w (by simpa using mem_frontedWords.mp (by simpa [frontedWords] using hm)))
        with hop | ⟨hconst, hempty, hop⟩
      · exact absurd (List.mem_append_left _ (hw ▸ hop)) hno
      · obtain rfl : ws = [] := by
          rwa [List.erase_of_not_mem (of_decide_eq_false hconst)] at hempty
        have htext : (fronted [] (ofParts ps)).chars = joined [':', ':'] ps := by
          rw [chars_fronted, chars_ofParts]
          rfl
        rw [opening, htext] at hw
        rw [htext]
        exact hp.detached hn hw hne
  | pointer he ih =>
    exact hsuffix he (chars_pointer _) (isSeam_sign (by simp))
      (fun l => by simp [Text.dropBlank, Text.isBlank]) ih hw
  | reference he ih =>
    exact hsuffix he (chars_reference _) (isSeam_sign (by simp))
      (fun l => by simp [Text.dropBlank, Text.isBlank]) ih hw
  | array he _ ih =>
    exact hsuffix he ((chars_array _ _).trans (List.append_assoc ..)) (isSeam_sign (by simp))
      (fun l => by simp [Text.dropBlank, Text.isBlank]) ih hw
  | const he ih =>
    exact hsuffix he (chars_const_after _) (isSeam_sign (by simp))
      (fun l => by simp [Text.dropBlank, Text.isBlank]) ih hw

/-! ### Both types -/

/-- **A name is not read from behind an `int`** that was taken along, if it begins with the word that is
read there. -/
theorem not_overrun_of_identifier {c : Cursor} {n : Expr} {l : List Char}
    (ho : Text.Opens n.chars) (hd : n.opening = "int" → Text.Detached "int".toList n.chars)
    (hn : n.opening = "int" → weight c.rest = weight (n.chars ++ l) →
      ∃ c₁, c.skipBlank.identifier? = some ("int", c₁))
    (hl : Text.IsSeam l.head?) (hi : (Text.dropBlank l).head? ≠ some 'i') :
    ¬ Overrun (' ' :: (n.chars ++ l)) c := by
  rintro ⟨r, hr, hword, hrest⟩
  rw [Text.dropBlank_space_cons ho.not_blank] at hr
  have hop : n.opening = "int" := by
    have hlead := ho.leadingWord_append hl
    rw [hr, Text.leadingWord_append_of_boundary (Or.inl (by decide)) hword] at hlead
    rw [opening, ← hlead, String.ofList_toList]
  have hweight : weight c.rest = weight (n.chars ++ l) := by
    have hint : weight "int".toList = 0 := by decide
    rw [hr, Text.weight_append, hint, Nat.zero_add, ← Text.weight_dropBlank r, ← hrest,
      Text.weight_dropBlank]
  -- another `int` would stand behind the one that was taken along
  obtain ⟨c₁, hident⟩ := hn hop hweight
  have hhead : (Text.dropBlank r).head? = some 'i' := by
    rw [← hrest, ← Cursor.rest_skipBlank, (Cursor.identifier?_eq_some hident).2.1]
    rfl
  obtain ⟨m, hm, hdetached⟩ := hd hop
  rw [hm, List.append_assoc] at hr
  rw [← List.append_cancel_left hr] at hhead
  exact hdetached l hi hhead

theorem ReadsName.not_overrun {c c' : Cursor} {n : Expr} {l : List Char}
    (h : ReadsName c.skipBlank n c') (hl : Text.IsSeam l.head?)
    (hi : (Text.dropBlank l).head? ≠ some 'i') : ¬ Overrun (' ' :: (n.chars ++ l)) c := by
  refine not_overrun_of_identifier h.isComponent.opens
    (fun hop => h.isComponent.detached hop (by decide)) (fun hop _ => ?_) hl hi
  rw [← hop]
  exact h.exists_identifier?

/-- A name that is read as a type must leave what is left as heavy as it should be, because a leading
`::` would be lost. -/
theorem ReadsType.not_overrun {b : Bool} {c c' : Cursor} {n : Expr} {l : List Char}
    (h : ReadsType b c n c') (hl : Text.IsSeam l.head?) (hi : (Text.dropBlank l).head? ≠ some 'i')
    (hle : weight l ≤ weight c'.rest) : ¬ Overrun (' ' :: (n.chars ++ l)) c := by
  have hno : "int" ∉ frontWords ++ builtinStarts := by decide
  refine not_overrun_of_identifier h.isType.opens
    (fun hop => h.isType.detached hop (by decide) hno) (fun hop hweight => ?_) hl hi
  -- With a `::` in front more would have been read than there is weight for.
  have hroot : c.skipBlank.skip? "::" = none := by
    cases hc : c.skipBlank.skip? "::" with
    | none => rfl
    | some c₁ =>
      have hlt := h.weight_lt_of_rooted hc
      rw [Text.weight_append] at hweight
      omega
  have hident := h.exists_identifier? hroot
  rw [hop] at hident
  exact hident.resolve_left hno

/-- **Two types that were read in a row stand in the text**, and reading stopped behind the second. -/
theorem exact_pair {b : Bool} {c c₁ c₂ : Cursor} {t n : Expr} {l : List Char}
    (ht : ReadsType b c t c₁) (hn : ReadsType b c₁ n c₂)
    (hc : c.skipBlank.rest = t.chars ++ ' ' :: (n.chars ++ l))
    (hp : Text.IsSeam c.skipBlank.previous?) (hl : Text.IsSeam l.head?)
    (hi : (Text.dropBlank l).head? ≠ some 'i') (hle : weight l ≤ weight c₂.rest) :
    TypeStands t (' ' :: (n.chars ++ l)) ∧ TypeStands n l ∧
      c₂ = (c.skipBlank.moved (t.chars ++ ' ' :: n.chars) l).skipBlank := by
  -- Had the type run over its end, the name would have been read too far to the right.
  obtain ⟨hfirst, hc₁⟩ := ((readsType_skipBlank_iff.mpr ht).exact hc hp (isSeam_sign (by simp))).resolve_right
    (hn.not_overrun hl hi hle)
  have hskip : c₁ = c.skipBlank.moved (t.chars ++ [' ']) (n.chars ++ l) := by
    have hspace := Cursor.skipBlank_space (c := c.skipBlank.moved t.chars (' ' :: (n.chars ++ l))) rfl
      hn.isType.opens.not_blank
    rw [Cursor.moved_moved] at hspace
    exact hc₁.trans hspace
  obtain ⟨hsecond, hc₂⟩ := (hn.exact (k := l) (by rw [hskip]; rfl)
    (by rw [hskip]; exact isSeam_previous?_concat (by simp)) hl).resolve_right (not_overrun hi)
  refine ⟨hfirst, hsecond, ?_⟩
  rw [hc₂, hskip, Cursor.moved_moved]
  simp

end Expr

end CppIndex
