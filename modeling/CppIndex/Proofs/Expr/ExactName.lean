import CppIndex.Proofs.Expr.ReadBack

/-!
# Names, components and arguments that were read

If the canonical text of a name, written in front of a text, is read as that name, then it stood there,
and reading stopped behind it. Each lexeme in the text is the one that was read, so the conditions of
standing are what the reader found when it stopped. Components and arguments are read one by one, so
what holds of each of them holds of the list.

There is one exception. A run that ends in `long` takes an `int` that follows along and leaves no trace
of it (`Expr.Overrun`). Inside a list this cannot happen, because a sign follows.
-/

namespace CppIndex.Expr

variable {b : Bool} {c c' : Cursor} {k : List Char} {e : Expr}

/-- **A run takes an `int` along** that stands behind the text of its type. -/
def Overrun (k : List Char) (c' : Cursor) : Prop :=
  ∃ r, Text.dropBlank k = "int".toList ++ r ∧ r.head?.any Text.isWordChar = false ∧
    Text.dropBlank c'.rest = Text.dropBlank r

/-- Nothing is taken along from a text that begins otherwise. -/
theorem not_overrun (h : (Text.dropBlank k).head? ≠ some 'i') : ¬ Overrun k c' := by
  rintro ⟨r, hr, -⟩
  exact h (by rw [hr]; rfl)

/-- Blanks behind the cursor make no difference. -/
theorem Overrun.of_skipBlank (h : Overrun k c) (hc : c'.skipBlank.rest = c.skipBlank.rest) :
    Overrun k c' := by
  obtain ⟨r, hr, hn, hrest⟩ := h
  exact ⟨r, hr, hn, hc.trans hrest⟩

/-! ### Names -/

theorem exact_sign {c₁ : Cursor} {s : String} (hi : c.identifier? = some ("operator", c₁))
    (hs : c₁.skipBlank.operatorSign? = some (s, c'))
    (hc : c.rest = (name ("operator" ++ s)).chars ++ k) :
    Stands (.name ("operator" ++ s)) k ∧ c' = c.moved (name ("operator" ++ s)).chars k := by
  obtain ⟨-, hr, hc₁, -⟩ := Cursor.identifier?_eq_some hi
  obtain ⟨taken, ht, -, hc', -⟩ := Cursor.operatorSign?_eq_some hs
  have hsign := (Text.operatorSign?_eq_some ht).1
  obtain ⟨x, w, hx, -, hblank, -⟩ := Text.exists_cons_of_isSign hsign
  rw [chars_name, String.toList_append] at hc ⊢
  rw [hc, List.append_assoc] at hr
  have hrest : c₁.rest = s.toList ++ k := (List.append_cancel_left hr).symm
  -- A sign begins with no blank, so the sign is sought directly behind the word.
  have hskip : c₁.skipBlank = c₁ := Cursor.skipBlank_eq_self (by
    rw [hrest, hx]
    intro y hy
    obtain rfl := Option.some.inj hy
    exact hblank)
  rw [hskip] at ht hc'
  rw [hrest] at ht
  obtain ⟨hstands, rfl, hk⟩ := Text.signStands_of_operatorSign? hsign ht
  refine ⟨nameStands_sign hsign hstands, ?_⟩
  rw [hc', hc₁, Cursor.moved_moved, hk]

theorem exact_allocation {c₁ : Cursor} {s : String} (hi : c.identifier? = some ("operator", c₁))
    (ha : c₁.skipBlank.allocation? = some (.done s c')) (hc : c.rest = (name s).chars ++ k)
    (hk : Text.IsSeam k.head?) :
    Stands (.name s) k ∧ c' = c.moved (name s).chars k := by
  obtain ⟨-, hr, hc₁, -⟩ := Cursor.identifier?_eq_some hi
  obtain ⟨a, isArray, c₂, rfl, hkey, hb⟩ := Cursor.allocation?_eq_some ha
  obtain ⟨back, hback⟩ : ∃ back, back = if isArray then ['[', ']'] else [] := ⟨_, rfl⟩
  rw [chars_name, Allocation.toList_operatorName, ← hback] at hc ⊢
  rw [hc, List.append_assoc] at hr
  have hrest : c₁.rest = ' ' :: (a.keyword.toList ++ (back ++ k)) := by
    rw [← List.append_cancel_left hr]
    simp
  have hword : Text.IsIdentifier a.keyword.toList := Or.inl a.isWord_keyword
  have hskip : c₁.skipBlank = c₁.moved [' '] (a.keyword.toList ++ (back ++ k)) :=
    Cursor.skipBlank_space hrest hword.opens.not_blank
  -- a bracket behind a name without brackets would have been read
  have hopen : isArray = false → (Text.dropBlank k).head? ≠ some '[' := by
    rintro rfl
    obtain rfl : back = [] := hback
    have hr₂ := (Cursor.keyword?_eq_some hkey).1
    rw [hskip] at hr₂
    have hrest₂ : c₂.rest = k := (List.append_cancel_left hr₂).symm
    have hno := Cursor.head?_ne_of_skip?_eq_none (w := '[') rfl hb.1
    rwa [Cursor.rest_skipBlank, hrest₂] at hno
  have hprev : Text.IsSeam (c₁.moved [' '] (a.keyword.toList ++ (back ++ k))).previous? := by
    rw [Cursor.previous?_moved_singleton]
    exact isSeam_sign (by simp)
  have hfound := Cursor.allocation?_of_seams hback rfl hprev hk hopen
  rw [← hskip, ha] at hfound
  obtain ⟨-, rfl⟩ := Reading.done.inj (Option.some.inj hfound)
  refine ⟨nameStands_allocation hopen, ?_⟩
  rw [hskip, hc₁, Cursor.moved_moved, Cursor.moved_moved]
  simp

/-- The target of a conversion is read from behind the blank. -/
theorem exact_cast {c₁ : Cursor} {t : Expr} (hi : c.identifier? = some ("operator", c₁))
    (hs : c₁.skipBlank.operatorSign? = none) (ha : c₁.skipBlank.allocation? = none)
    (ht : IsType t)
    (ih : ∀ {d}, d = c₁.skipBlank → d.rest = t.chars ++ k → Text.IsSeam d.previous? →
      (TypeStands t k ∧ c' = (d.moved t.chars k).skipBlank) ∨ Overrun k c')
    (hc : c.rest = (cast t).chars ++ k) (hk : Text.IsSeam k.head?) :
    (Stands (.cast t) k ∧ c'.skipBlank = (c.moved (cast t).chars k).skipBlank) ∨ Overrun k c' := by
  obtain ⟨-, hr, hc₁, -⟩ := Cursor.identifier?_eq_some hi
  have hopens := ht.opens
  rw [chars_cast] at hc ⊢
  rw [hc, List.append_assoc] at hr
  -- behind `operator` one blank was written, and the target follows it
  have hrest : c₁.rest = ' ' :: (t.chars ++ k) := (List.append_cancel_left hr).symm
  have hskip : c₁.skipBlank = c₁.moved [' '] (t.chars ++ k) :=
    Cursor.skipBlank_space hrest hopens.not_blank
  have hprev : Text.IsSeam c₁.skipBlank.previous? := by
    rw [hskip, Cursor.previous?_moved_singleton]
    exact isSeam_sign (by simp)
  -- the target is read exactly or overrun; if it overruns, so does the whole
  rcases ih rfl (by rw [hskip]; rfl) hprev with ⟨⟨hbegins, hstands, hends⟩, hc'⟩ | hover
  · refine Or.inl ⟨⟨⟨fun hhead => ?_, fun a hop => ?_⟩, hbegins, hstands, hends⟩, ?_⟩
    · -- the sign `~` would have been read
      obtain ⟨x, tail, hx, -⟩ := hopens.exists_cons
      rw [hx] at hhead
      obtain rfl := Option.some.inj hhead
      rw [Cursor.operatorSign?_eq_none_iff, hskip, Cursor.rest_moved, hx, List.cons_append,
        Text.operatorSign?_tilde] at hs
      cases hs
    · -- the allocation would have been read
      obtain ⟨tail, htail, -, hseam⟩ := (hopens.append hk).exists_tail
      have hlead : Text.leadingWord (t.chars ++ k) = a.keyword.toList := by
        rw [hopens.leadingWord_append hk, ← hop, opening, String.toList_ofList]
      rw [hlead] at htail
      have hfound : c₁.skipBlank.keyword? a.keyword = some (c₁.skipBlank.moved a.keyword.toList tail) :=
        Cursor.keyword?_of_seams (by rw [hskip]; exact htail) hprev hseam
      rw [Cursor.allocation?_eq_none_iff.mp ha a] at hfound
      cases hfound
    · rw [hc', Cursor.skipBlank_skipBlank, hskip, hc₁, hrest, Cursor.moved_moved, Cursor.moved_moved]
      simp
  · exact Or.inr hover

/-! ### Components and arguments -/

/-- Before the first component nothing was passed. -/
theorem ReachesParts.eq_of_nil (h : ReachesParts b c [] c') : c' = c := by
  generalize hps : ([] : List Expr) = ps at h
  cases h with
  | start => rfl
  | part => simp at hps
  | template => cases hps

theorem ReachesArgs.eq_of_nil (h : ReachesArgs c [] c') : c' = c := by
  generalize has : ([] : List Expr) = as at h
  cases h with
  | start => rfl
  | arg => simp at has

/-- **One more component**: where it was read, the text has it. -/
theorem exact_concat {ps : List Expr} {p : Expr} {c₁ c₂ c₃ : Cursor} (hopens : Text.Opens p.chars)
    (hreach : ReachesParts b c ps c₁) (hn : nextPart? ps.isEmpty c₁.skipBlank = some c₂)
    (ihps : ∀ {k}, c.rest = joined [':', ':'] ps ++ k → Text.IsSeam k.head? →
      (Text.dropBlank k).head? ≠ some 'i' →
        PartsStand ps k ∧ c₁.skipBlank = (c.moved (joined [':', ':'] ps) k).skipBlank)
    (ihp : ∀ {k}, c₂.rest = p.chars ++ k → Text.IsSeam c₂.previous? → Text.IsSeam k.head? →
      (Stands p k ∧ c₃.skipBlank = (c₂.moved p.chars k).skipBlank) ∨ Overrun k c₃)
    (hc : c.rest = joined [':', ':'] (ps ++ [p]) ++ k) (hp : Text.IsSeam c.previous?)
    (hk : Text.IsSeam k.head?) :
    (PartsStand (ps ++ [p]) k ∧
      c₃.skipBlank = (c.moved (joined [':', ':'] (ps ++ [p])) k).skipBlank) ∨ Overrun k c₃ := by
  by_cases hempty : ps = []
  · -- the first component stands at the cursor
    subst hempty
    obtain rfl := hreach.eq_of_nil
    rw [List.nil_append, joined_singleton] at hc ⊢
    rw [Cursor.skipBlank_of_opens_append hc hopens] at hn
    obtain rfl : c₂ = c₁ := by
      rcases nextPart?_eq_some hn with ⟨-, -, he⟩ | ⟨hfirst, -⟩
      · exact he
      · cases hfirst
    rcases ihp hc hp hk with ⟨hstands, hc₃⟩ | hover
    · exact Or.inl ⟨⟨hstands, trivial⟩, hc₃⟩
    · exact Or.inr hover
  · -- the others stand behind `::`
    rw [joined_concat _ _ hempty] at hc ⊢
    obtain ⟨hps, hc₁⟩ := ihps (k := [':', ':'] ++ p.chars ++ k) (by rw [hc]; simp)
      (isSeam_sign (by simp)) (by simp [Text.dropBlank, Text.isBlank])
    have hskip : c₁.skipBlank = c.moved (joined [':', ':'] ps) ([':', ':'] ++ p.chars ++ k) := by
      rw [hc₁]
      exact Cursor.skipBlank_eq_self (by simp [Text.isBlank])
    rw [hskip, List.isEmpty_eq_false_iff.mpr hempty, nextPart?_colons rfl hopens.not_blank,
      Cursor.moved_moved] at hn
    obtain rfl := Option.some.inj hn
    rcases ihp rfl (isSeam_previous?_separator (Or.inl rfl)) hk with ⟨hstands, hc₃⟩ | hover
    · refine Or.inl ⟨(partsStand_concat ps p).mpr ⟨hps, hstands⟩, ?_⟩
      rw [hc₃, Cursor.moved_moved]
    · exact Or.inr hover

/-- **One more argument**: where it was read, the text has it. -/
theorem exact_argument {as : List Expr} {a : Expr} {c₁ c₂ : Cursor} (hopens : Text.Opens a.chars)
    (hreach : ReachesArgs c as c₁) (hn : c₁.skipBlank.nextItem? as.isEmpty = some c₂)
    (ihas : ∀ {k}, c.rest = joined [',', ' '] as ++ k → Text.IsSeam k.head? →
      (Text.dropBlank k).head? ≠ some 'i' →
        ArgsStand as k ∧ c₁.skipBlank = (c.moved (joined [',', ' '] as) k).skipBlank)
    (iha : ∀ {k}, c₂.rest = a.chars ++ k → Text.IsSeam c₂.previous? → Text.IsSeam k.head? →
      (TypeStands a k ∧ c' = (c₂.moved a.chars k).skipBlank) ∨ Overrun k c')
    (hc : c.rest = joined [',', ' '] (as ++ [a]) ++ k) (hp : Text.IsSeam c.previous?)
    (hk : Text.IsSeam k.head?) (hi : (Text.dropBlank k).head? ≠ some 'i') :
    ArgsStand (as ++ [a]) k ∧
      c'.skipBlank = (c.moved (joined [',', ' '] (as ++ [a])) k).skipBlank := by
  by_cases hempty : as = []
  · -- the first argument stands at the cursor
    subst hempty
    obtain rfl := hreach.eq_of_nil
    rw [List.nil_append, joined_singleton] at hc ⊢
    rw [Cursor.skipBlank_of_opens_append hc hopens] at hn
    obtain rfl : c₁ = c₂ := Option.some.inj hn
    obtain ⟨hstands, rfl⟩ := (iha hc hp hk).resolve_right (not_overrun hi)
    exact ⟨⟨⟨hstands.begins, hstands.stands, hstands.ends⟩, trivial⟩, Cursor.skipBlank_skipBlank⟩
  · -- the others stand behind a comma and a blank
    rw [joined_concat _ _ hempty] at hc ⊢
    obtain ⟨has, hc₁⟩ := ihas (k := [',', ' '] ++ a.chars ++ k) (by rw [hc]; simp)
      (isSeam_sign (by simp)) (by simp [Text.dropBlank, Text.isBlank])
    have hskip : c₁.skipBlank = c.moved (joined [',', ' '] as) ([',', ' '] ++ a.chars ++ k) := by
      rw [hc₁]
      exact Cursor.skipBlank_eq_self (by simp [Text.isBlank])
    rw [hskip, List.isEmpty_eq_false_iff.mpr hempty, Cursor.nextItem?_comma rfl hopens.not_blank,
      Cursor.moved_moved] at hn
    obtain rfl := Option.some.inj hn
    have hread := iha rfl (isSeam_previous?_separator (Or.inr rfl)) hk
    obtain ⟨hstands, rfl⟩ := hread.resolve_right (not_overrun hi)
    refine ⟨(argsStand_concat as a).mpr ⟨has, hstands⟩, ?_⟩
    rw [Cursor.skipBlank_skipBlank, Cursor.moved_moved]

/-- **Arguments for the components before them**: where they were read, the text has them. -/
theorem exact_template {ps args : List Expr} {p : Expr} {c₃ c₄ c₅ : Cursor}
    (hl : c₃.skipBlank.skip? "<" = some c₄) (hg : c₅.skipBlank.skip? ">" = some c')
    (hc₃ : c₃.skipBlank = (c.moved (joined [':', ':'] (ps ++ [p]))
      ('<' :: (joined [',', ' '] args ++ '>' :: k))).skipBlank)
    (ih : ∀ {k}, c₄.rest = joined [',', ' '] args ++ k → Text.IsSeam c₄.previous? →
      Text.IsSeam k.head? → (Text.dropBlank k).head? ≠ some 'i' →
        ArgsStand args k ∧ c₅.skipBlank = (c₄.moved (joined [',', ' '] args) k).skipBlank) :
    ArgsStand args ('>' :: k) ∧
      c' = c.moved (template (ofParts (ps ++ [p])) args).chars k := by
  have hskip : c₃.skipBlank = c.moved (joined [':', ':'] (ps ++ [p]))
      ('<' :: (joined [',', ' '] args ++ '>' :: k)) := by
    rw [hc₃]
    exact Cursor.skipBlank_eq_self (by simp [Text.isBlank])
  obtain ⟨hr₄, hc₄⟩ := Cursor.skip?_eq_some hl
  rw [hskip, Cursor.rest_moved] at hr₄
  have hrest₄ : c₄.rest = joined [',', ' '] args ++ '>' :: k := (List.cons.inj hr₄).2.symm
  rw [hskip, hrest₄, Cursor.moved_moved, show "<".toList = ['<'] from rfl] at hc₄
  -- The arguments are read up to `>`, which is no `i`, so they cannot have run over it.
  obtain ⟨hargs, hc₅⟩ := ih hrest₄ (by rw [hc₄]; exact isSeam_previous?_concat (by simp))
    (isSeam_sign (by simp)) (by simp [Text.dropBlank, Text.isBlank])
  have hskip₅ : c₅.skipBlank = c₄.moved (joined [',', ' '] args) ('>' :: k) := by
    rw [hc₅]
    exact Cursor.skipBlank_eq_self (by simp [Text.isBlank])
  obtain ⟨hr₆, hc₆⟩ := Cursor.skip?_eq_some hg
  rw [hskip₅, Cursor.rest_moved] at hr₆
  have hrest₆ : c'.rest = k := (List.cons.inj hr₆).2.symm
  refine ⟨hargs, ?_⟩
  rw [hc₆, hskip₅, hrest₆, hc₄, Cursor.moved_moved, Cursor.moved_moved, chars_template,
    chars_ofParts]
  simp

end CppIndex.Expr
