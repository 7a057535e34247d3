import CppIndex.Proofs.Expr.ExactFront

/-!
# A text that is read back stands

The converse of reading back: if the canonical text of a tree, written in front of a text, is read as
that tree, then it stood there, and reading stopped behind it (`ReadsType.exact`). The proof is an
induction on how the tree was read, with one statement for each of the relations.

The one exception is a run that takes an `int` along (`Expr.Overrun`). Whether the rest of a larger text
can then still be read as it was meant is for the larger text to say.
-/

namespace CppIndex.Expr

mutual

/-- **A name that was read stands in the text.** -/
theorem ReadsName.exact {c c' : Cursor} {e : Expr} {k : List Char} (h : ReadsName c e c')
    (hc : c.rest = e.chars ++ k) (hk : Text.IsSeam k.head?) :
    (Stands e k ∧ c'.skipBlank = (c.moved e.chars k).skipBlank) ∨ Overrun k c' := by
  match h with
  | .word hi _ =>
    obtain ⟨hw, hr, hc', -⟩ := Cursor.identifier?_eq_some hi
    rw [chars_name] at hc ⊢
    have hrest : c'.rest = k := List.append_cancel_left (hr.symm.trans hc)
    exact Or.inl ⟨nameStands_of_isIdentifier hw, by rw [hc', hrest]⟩
  | .sign hi hs =>
    obtain ⟨hstands, hc'⟩ := exact_sign hi hs hc
    exact Or.inl ⟨hstands, by rw [hc']⟩
  | .allocation hi _ ha =>
    obtain ⟨hstands, hc'⟩ := exact_allocation hi ha hc hk
    exact Or.inl ⟨hstands, by rw [hc']⟩
  | .cast hi hs ha ht =>
    -- Only the type of a conversion can read beyond the name.
    exact exact_cast hi hs ha ht.isType
      (fun hd hrest hp => by subst hd; exact ReadsType.exact ht hrest hp hk) hc hk

/-- Components that were passed stand in the text. -/
theorem ReachesParts.exact {b : Bool} {c c' : Cursor} {ps : List Expr} {k : List Char}
    (h : ReachesParts b c ps c') (hc : c.rest = joined [':', ':'] ps ++ k)
    (hp : Text.IsSeam c.previous?) (hk : Text.IsSeam k.head?) :
    (PartsStand ps k ∧
      (ps ≠ [] → NoArguments (Text.dropBlank k) ∨ ∃ head args, ps = [.template head args]) ∧
        c'.skipBlank = (c.moved (joined [':', ':'] ps) k).skipBlank) ∨ Overrun k c' := by
  match h with
  | .start =>
    refine Or.inl ⟨trivial, fun hn => absurd rfl hn, ?_⟩
    rw [joined_nil, Cursor.moved_nil_of_rest (k := k) hc]
  | .part hps _ hn hname hl =>
    rcases exact_concat hname.isComponent.opens hps hn
      (fun hc hk hi => ((ReachesParts.exact hps hc hp hk).resolve_right (not_overrun hi)).imp_right
        And.right) (fun hc _ hk => ReadsName.exact hname hc hk) hc hp hk with ⟨hstands, hc'⟩ | hover
    · refine Or.inl ⟨hstands, fun _ => Or.inl ?_, hc'⟩
      rintro ⟨tail, htail⟩
      have hopen : c'.skipBlank.skip? "<" = some (c'.skipBlank.moved ['<'] tail) :=
        Cursor.skip?_of_append (by rw [hc']; exact htail.symm)
      rw [hl] at hopen
      cases hopen
    · exact Or.inr hover
  | @ReachesParts.template _ _ _ _ _ _ _ _ ps args p hps _ hn hname hl ha hg =>
    rw [joined_singleton, chars_template, chars_ofParts] at hc
    have hc₀ : c.rest = joined [':', ':'] (ps ++ [p]) ++
        '<' :: (joined [',', ' '] args ++ '>' :: k) := by
      rw [hc]
      simp
    -- The components end in front of `<`, so nothing beyond them was read.
    obtain ⟨hstands, hc₃⟩ := (exact_concat hname.isComponent.opens hps hn
      (fun hc hk hi => ((ReachesParts.exact hps hc hp hk).resolve_right (not_overrun hi)).imp_right
        And.right) (fun hc _ hk => ReadsName.exact hname hc hk) hc₀ hp (isSeam_sign (by simp))).resolve_right
        (not_overrun (by simp [Text.dropBlank, Text.isBlank]))
    obtain ⟨hargs, hc'⟩ := exact_template hl hg hc₃
      (fun hc hp hk hi => ReachesArgs.exact ha hc hp hk hi)
    refine Or.inl ⟨⟨⟨?_, hargs⟩, trivial⟩, fun _ => Or.inr ⟨_, _, rfl⟩, ?_⟩
    · rw [stands_ofParts]
      simpa using hstands
    · rw [hc', joined_singleton]

/-- Arguments that were passed stand in the text. -/
theorem ReachesArgs.exact {c c' : Cursor} {as : List Expr} {k : List Char} (h : ReachesArgs c as c')
    (hc : c.rest = joined [',', ' '] as ++ k) (hp : Text.IsSeam c.previous?)
    (hk : Text.IsSeam k.head?) (hi : (Text.dropBlank k).head? ≠ some 'i') :
    ArgsStand as k ∧ c'.skipBlank = (c.moved (joined [',', ' '] as) k).skipBlank := by
  match h with
  | .start =>
    refine ⟨trivial, ?_⟩
    rw [joined_nil, Cursor.moved_nil_of_rest (k := k) hc]
  | .arg has _ hn ht =>
    exact exact_argument ht.isType.opens has hn (fun hc hk hi => ReachesArgs.exact has hc hp hk hi)
      (fun hc hp hk => ReadsType.exact ht hc hp hk) hc hp hk hi

/-- What was read before the suffixes stands in the text. -/
theorem ReadsFront.exact {b : Bool} {c c' : Cursor} {e : Expr} {k : List Char}
    (h : ReadsFront b c e c') (hc : c.rest = e.chars ++ k) (hp : Text.IsSeam c.previous?)
    (hk : Text.IsSeam k.head?) :
    (FrontStands e k ∧ c'.skipBlank = (c.moved e.chars k).skipBlank) ∨ Overrun k c' := by
  match h with
  | .rooted hcolon hps _ hn =>
    rw [chars_ofParts] at hc
    -- No canonical text begins with `::`.
    rw [skip?_of_opens hc (hps.isParts.opens hn)] at hcolon
    cases hcolon
  | .builtin _ hw hb hr => exact exact_run hw hb hr hc hp hk
  | .parts _ hw hb hps hend hn =>
    rcases exact_parts hw hb hps.isParts hn hend
      (fun hc hp hk => (ReachesParts.exact hps hc hp hk).imp_left fun h => ⟨h.1, h.2.1 hn, h.2.2⟩)
      hc hp hk with ⟨hstands, hc'⟩ | hover
    · exact Or.inl ⟨hstands, by rw [Cursor.skipBlank_skipBlank, hc']⟩
    · exact Or.inr (hover.of_skipBlank (by rw [Cursor.skipBlank_skipBlank]))

/-- **A type that was read stands in the text**, and reading stopped behind it, unless a run took an
`int` along. -/
theorem ReadsType.exact {b : Bool} {c c' : Cursor} {e : Expr} {k : List Char}
    (h : ReadsType b c e c') (hc : c.rest = e.chars ++ k) (hp : Text.IsSeam c.previous?)
    (hk : Text.IsSeam k.head?) :
    (TypeStands e k ∧ c' = (c.moved e.chars k).skipBlank) ∨ Overrun k c' := by
  match h with
  | .intro hf hs hstop =>
    rcases exact_suffixes hs (fun hc hk => ReadsFront.exact hf hc hp hk) hc hk with
      ⟨hstands, hc'⟩ | hover
    · refine Or.inl ⟨⟨hstands.begins, hstands.stands, ?_, hstands.follow⟩, hc'⟩
      -- A word behind the type stands behind a blank, so `const` would have been found there.
      refine noSuffix_of_stop hstop (by rw [hc']; rfl) fun x w hx hword => ?_
      rw [hc']
      exact Cursor.isSeam_previous?_skipBlank (Or.inr (exists_blank_of_word hk.any_isWordChar hx hword))
    · exact Or.inr (hover.of_skipBlank (by rw [Cursor.skipBlank_skipBlank]))

end

end CppIndex.Expr
