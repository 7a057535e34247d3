import CppIndex.Proofs.Cursor.Leads
import CppIndex.Proofs.Expr.Reads

/-!
# Reading keeps to the text

Whatever is read, the cursor behind it is reached from the cursor in front of it over the characters in
between (`Expr.ReadsType.leads`). So a whole type, with everything inside it, is read from one text.
-/

namespace CppIndex.Expr

variable {c c' : Cursor}

theorem leads_of_leadingStep ⦃ws : List String⦄ ⦃c : Cursor⦄ ⦃ws' : List String⦄ ⦃c' : Cursor⦄
    (h : leadingStep ws c = some (ws', c')) : c.Leads c' := by
  obtain ⟨w, -, hi, -⟩ := leadingStep_eq_some h
  exact (Cursor.leads_skipBlank c).trans (Cursor.leads_of_identifier? hi)

theorem leads_of_leadingWords {ws : List String} (h : leadingWords c = (ws, c')) : c.Leads c' := by
  -- the words are what the repetition passes, and each of them leads on
  have hp := (Cursor.passes_repeated progresses_leadingStep [] c).1
  simp only [leadingWords, Prod.mk.injEq] at h
  obtain ⟨-, rfl⟩ := h
  exact (hp.leads leads_of_leadingStep).trans (Cursor.leads_skipBlank _)

theorem leads_of_repeated_builtinStep {run run' : List String × List String}
    (h : c.repeated builtinStep run = (run', c')) : c.Leads c' := by
  -- the state of the repetition, which words may come next, plays no part in where the cursor goes
  have hp := (Cursor.passes_repeated progresses_builtinStep run c).1
  rw [h] at hp
  refine hp.leads ?_
  intro run c run' c' h
  obtain ⟨w, -, hi, -⟩ := builtinStep_eq_some h
  exact (Cursor.leads_skipBlank c).trans (Cursor.leads_of_identifier? hi)

theorem leads_of_suffixStep ⦃e : Expr⦄ ⦃c : Cursor⦄ ⦃e' : Expr⦄ ⦃c' : Cursor⦄
    (h : suffixStep e c = some (e', c')) : c.Leads c' := by
  refine (Cursor.leads_skipBlank c).trans ?_
  -- a suffix is one lexeme behind the blanks, whichever of the four it is
  rcases suffixStep_eq_some h with ⟨hk, -⟩ | ⟨hp, -⟩ | ⟨size, ha, -⟩ | ⟨hr, -⟩
  · exact Cursor.leads_of_keyword? hk
  · exact Cursor.leads_of_skip? hp
  · exact Cursor.leads_of_arrayBound? ha
  · exact Cursor.leads_of_skip? hr

theorem leads_of_nextPart? {isFirst : Bool} (h : nextPart? isFirst c = some c') : c.Leads c' := by
  rcases nextPart?_eq_some h with ⟨-, -, rfl⟩ | ⟨-, c₁, hskip, rfl⟩
  · exact .refl _
  · exact (Cursor.leads_of_skip? hskip).trans (Cursor.leads_skipBlank c₁)

/-- The place where a component begins is reached from behind those before it. -/
theorem leads_to_part {isFirst : Bool} (h : nextPart? isFirst c.skipBlank = some c') : c.Leads c' :=
  (Cursor.leads_skipBlank c).trans (leads_of_nextPart? h)

mutual

/-- Reading a name leads behind it. -/
theorem ReadsName.leads {c c' : Cursor} {e : Expr} (h : ReadsName c e c') : c.Leads c' := by
  -- the readings are nested in each other, so the five statements are proved together, along the reading:
  -- each step is a lexeme, blanks, or a smaller reading
  match h with
  | .word hi _ => exact Cursor.leads_of_identifier? hi
  | .sign hi hs =>
    exact (Cursor.leads_of_identifier? hi).trans <| (Cursor.leads_skipBlank _).trans
      (Cursor.leads_of_operatorSign? hs)
  | .allocation hi _ ha =>
    exact (Cursor.leads_of_identifier? hi).trans <| (Cursor.leads_skipBlank _).trans
      (Cursor.leads_of_allocation? ha)
  | .cast hi _ _ ht =>
    exact (Cursor.leads_of_identifier? hi).trans <| (Cursor.leads_skipBlank _).trans
      (ReadsType.leads ht)

/-- Passing components leads behind the last of them. -/
theorem ReachesParts.leads {b : Bool} {c c' : Cursor} {ps : List Expr}
    (h : ReachesParts b c ps c') : c.Leads c' := by
  match h with
  | .start => exact .refl c
  | .part h _ hn hp _ =>
    exact (ReachesParts.leads h).trans <| (leads_to_part hn).trans (ReadsName.leads hp)
  | .template h _ hn hp hl ha hg =>
    -- in the order of the text: the components before, the separator, the name, and the arguments
    -- between their angle brackets
    exact (ReachesParts.leads h).trans <| (leads_to_part hn).trans <| (ReadsName.leads hp).trans <|
      (Cursor.leads_skipBlank _).trans <| (Cursor.leads_of_skip? hl).trans <|
      (ReachesArgs.leads ha).trans <| (Cursor.leads_skipBlank _).trans (Cursor.leads_of_skip? hg)

/-- Passing arguments leads behind the last of them. -/
theorem ReachesArgs.leads {c c' : Cursor} {as : List Expr} (h : ReachesArgs c as c') :
    c.Leads c' := by
  match h with
  | .start => exact .refl c
  | .arg h _ hn ht =>
    exact (ReachesArgs.leads h).trans <| (Cursor.leads_skipBlank _).trans <|
      (Cursor.leads_of_nextItem? hn).trans (ReadsType.leads ht)

/-- Reading what stands before the suffixes leads behind it. -/
theorem ReadsFront.leads {b : Bool} {c c' : Cursor} {e : Expr} (h : ReadsFront b c e c') :
    c.Leads c' := by
  match h with
  | .rooted hc hp _ _ =>
    exact (Cursor.leads_skipBlank c).trans <| (Cursor.leads_of_skip? hc).trans <|
      (ReachesParts.leads hp).trans (Cursor.leads_skipBlank _)
  | .builtin _ hw hb hr =>
    -- the first built-in word stands behind the leading words, and the repetition goes on from it
    exact (Cursor.leads_skipBlank c).trans <| (leads_of_leadingWords hw).trans <|
      (Cursor.leads_of_identifier? (builtinStart?_eq_some hb).2.2).trans
        (leads_of_repeated_builtinStep hr)
  | .parts _ hw _ hp _ _ =>
    exact (Cursor.leads_skipBlank c).trans <| (leads_of_leadingWords hw).trans <|
      (ReachesParts.leads hp).trans (Cursor.leads_skipBlank _)

/-- **Reading a type leads behind it.** -/
theorem ReadsType.leads {b : Bool} {c c' : Cursor} {e : Expr} (h : ReadsType b c e c') :
    c.Leads c' := by
  match h with
  | .intro hf hs _ =>
    exact (ReadsFront.leads hf).trans <| (hs.leads leads_of_suffixStep).trans
      (Cursor.leads_skipBlank _)

end

end CppIndex.Expr
