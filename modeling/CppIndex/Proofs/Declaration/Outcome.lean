import CppIndex.Proofs.Declaration.Words
import CppIndex.Proofs.Expr.Outcome

/-!
# Reading a declaration ends and goes forward

A declaration is read by readers that call each other at most once, by two repetitions, of which one is that
of parameters. Parameters have a bound on their number, which hides whether they come to an end; so what comes
of reading them is given by a relation without a bound (`Param.ListOutcome`), and the reader answers with the
one outcome that there is (`Param.listOutcome_iff_readAll_eq`).

Every reader continues, whether or not it succeeds, and a declaration that is read takes at least one
character (`Declaration.advances_read`).
-/

namespace CppIndex

namespace Cursor

variable {c c' : Cursor}

theorem leads_of_visibility? {v : Visibility} (h : c.visibility? = some (v, c')) : c.Leads c' :=
  have ⟨hrest, hc', _⟩ := visibility?_eq_some h
  ⟨_, hrest, hc'⟩

theorem leads_of_literal? {s : String} (h : c.literal? = some (s, c')) : c.Leads c' := by
  obtain ⟨⟨taken, rest⟩, ht, he⟩ := Option.map_eq_some_iff.mp h
  obtain ⟨-, rfl⟩ := Prod.mk.inj he
  exact ⟨taken, (Text.literal?_eq_some ht).1, rfl⟩

theorem leads_toEnd (c : Cursor) : c.Leads c.toEnd := ⟨c.rest, (List.append_nil _).symm, rfl⟩

end Cursor

/-! ### Parameters -/

namespace Param

theorem continues_readDefault (c : Cursor) : (readDefault c).Continues c := by
  have hblank := Cursor.leads_skipBlank c
  unfold readDefault
  simp only []
  -- a literal, or a text up to its end
  split
  next value c₁ hl => exact .done (hblank.trans (Cursor.leads_of_literal? hl))
  next =>
    split
    next value rest hv =>
      exact .done (hblank.trans ⟨value, (Text.scanned_of_splitDefault? hv).2.1, rfl⟩)
    next => exact .failed hblank (by simp)

theorem continues_readDefault? (c : Cursor) : (readDefault? c).Continues c := by
  unfold readDefault?
  split
  next c₁ he => exact ((continues_readDefault c₁).of_leads (Cursor.leads_of_skip? he)).map _
  next => exact .done (.refl c)

/-- Reading a parameter continues, whether or not one is read. -/
theorem continues_read (c : Cursor) : (read c).Continues c := by
  unfold read
  split
  next c₁ he => exact .done (Cursor.leads_of_skip? he)
  next =>
    -- the type comes first; a name may stand behind it, and a value behind both
    refine (Expr.advances_read c).toContinues.andThen fun type c₁ => ?_
    have hblank := Cursor.leads_skipBlank c₁
    simp only []
    split
    · exact ((continues_readDefault? _).of_leads hblank).map _
    · refine ((Expr.advances_readName _).toContinues.of_leads hblank).andThen fun name c₂ => ?_
      exact ((continues_readDefault? _).of_leads (Cursor.leads_skipBlank c₂)).map _

/-- **What comes of reading parameters** behind some that were read. -/
inductive ListOutcome : List Param → Cursor → Reading (List Param) → Prop
  /-- The text is at its end. -/
  | missing {ps : List Param} {c : Cursor} (he : c.skipBlank.atEnd = true) :
    ListOutcome ps c (.failed .missingClosingParen c.skipBlank)
  /-- They are closed. -/
  | close {ps : List Param} {c c₁ : Cursor} (he : c.skipBlank.atEnd = false)
    (hc : c.skipBlank.skip? ")" = some c₁) : ListOutcome ps c (.done ps c₁)
  /-- They are neither closed nor is there a comma. -/
  | undelimited {ps : List Param} {c : Cursor} (he : c.skipBlank.atEnd = false)
    (hc : c.skipBlank.skip? ")" = none) (hn : c.skipBlank.nextItem? ps.isEmpty = none) :
    ListOutcome ps c (.failed .expectedComma c.skipBlank)
  /-- One more has to come and cannot be read. -/
  | unread {ps : List Param} {c c₁ c₂ : Cursor} {cause : Cause} (he : c.skipBlank.atEnd = false)
    (hc : c.skipBlank.skip? ")" = none) (hn : c.skipBlank.nextItem? ps.isEmpty = some c₁)
    (hp : read c₁ = .failed cause c₂) : ListOutcome ps c (.failed cause c₂)
  /-- One more, and what comes of the others. -/
  | param {ps : List Param} {p : Param} {c c₁ c₂ : Cursor} {r : Reading (List Param)}
    (he : c.skipBlank.atEnd = false) (hc : c.skipBlank.skip? ")" = none)
    (hn : c.skipBlank.nextItem? ps.isEmpty = some c₁) (hp : read c₁ = .done p c₂)
    (h : ListOutcome (ps ++ [p]) c₂ r) : ListOutcome ps c r

/-- **Parameters have an outcome**, by induction on their bound: each takes at least one character. -/
theorem listOutcome_readAllUpTo (n : Nat) (ps : List Param) (c : Cursor) (hn : c.rest.length < n) :
    ListOutcome ps c (readAllUpTo n ps c) := by
  -- on the bound, which is more than what is left, so it never ends the list
  induction n generalizing ps c with
  | zero => exact absurd hn (Nat.not_lt_zero _)
  | succ n ih =>
    have hle := Cursor.length_rest_skipBlank_le (c := c)
    rw [readAllUpTo]
    split
    next he => exact .missing he
    next he =>
      replace he := Bool.not_eq_true _ ▸ he
      split
      next c₁ hc => exact .close he hc
      next hc =>
        split
        next hnext => exact .undelimited he hc hnext
        next c₁ hnext =>
          have hle₁ := Expr.length_rest_le_of_nextItem? hnext
          cases hp : read c₁ with
          | failed cause c₂ => exact .unread he hc hnext hp
          | done p c₂ =>
            -- the parameter took something, so less is left for the rest of the list
            have hlt := (read_eq_done_iff.mp hp).length_rest_lt
            exact .param he hc hnext hp (ih _ _ (by omega))

/-- The outcome is what every sufficient bound answers. -/
theorem ListOutcome.readAllUpTo {ps : List Param} {c : Cursor} {r : Reading (List Param)}
    (h : ListOutcome ps c r) (n : Nat) (hn : c.rest.length < n) : Param.readAllUpTo n ps c = r := by
  obtain ⟨m, rfl⟩ : ∃ m, n = m + 1 := ⟨n - 1, by omega⟩
  induction h generalizing m with
  | missing he => simp [Param.readAllUpTo, he]
  | close he hc => simp [Param.readAllUpTo, he, hc]
  | undelimited he hc hnext => simp [Param.readAllUpTo, he, hc, hnext]
  | unread he hc hnext hp => simp [Param.readAllUpTo, he, hc, hnext, hp]
  | @param _ _ c _ _ _ he hc hnext hp _ ih =>
    -- the parameter shortened the text, so one unit less is enough for the others
    have hle := Cursor.length_rest_skipBlank_le (c := c)
    have hle₁ := Expr.length_rest_le_of_nextItem? hnext
    have hlt := (read_eq_done_iff.mp hp).length_rest_lt
    obtain ⟨l, rfl⟩ : ∃ l, m = l + 1 := ⟨m - 1, by omega⟩
    rw [Param.readAllUpTo]
    simp [he, hc, hnext, hp, ih l (by omega)]

/-- **The outcome of reading parameters exists and is unique**: it is the answer of the reader. -/
theorem listOutcome_iff_readAll_eq {c : Cursor} {r : Reading (List Param)} :
    ListOutcome [] c r ↔ readAll c = r := by
  constructor
  · exact fun h => h.readAllUpTo _ (Nat.lt_succ_self _)
  · rintro rfl
    exact listOutcome_readAllUpTo _ [] c (Nat.lt_succ_self _)

/-- Reading parameters continues, whether or not they are read. -/
theorem ListOutcome.continues {ps : List Param} {c : Cursor} {r : Reading (List Param)}
    (h : ListOutcome ps c r) : r.Continues c := by
  -- over the outcome: a list fails at the end of the text, at a missing comma, or in a parameter
  induction h with
  | missing | undelimited => exact .failed (Cursor.leads_skipBlank _) (by simp)
  | close _ hc => exact .done ((Cursor.leads_skipBlank _).trans (Cursor.leads_of_skip? hc))
  | @unread _ _ c₁ _ _ _ _ hn hp =>
    refine .of_leads ?_ ((Cursor.leads_skipBlank _).trans (Cursor.leads_of_nextItem? hn))
    have hread := continues_read c₁
    rw [hp] at hread
    exact .failed hread.leads fun rest hc => hread.trailing rest _ (hc ▸ rfl)
  | @param _ _ _ c₁ _ _ _ _ hn hp _ ih =>
    have hread := (continues_read c₁).leads
    rw [hp] at hread
    exact ih.of_leads <| (Cursor.leads_skipBlank _).trans <| (Cursor.leads_of_nextItem? hn).trans hread

end Param

/-! ### Declarations -/

namespace Declaration

theorem leads_readLeading {c c' : Cursor} {v : Visibility} {s : Bool}
    (h : readLeading c = (v, s, c')) : c.Leads c' := by
  have hvisibility : c.skipBlank.Leads ((c.skipBlank.visibility?).getD (.pub, c.skipBlank)).2 := by
    cases hv : c.skipBlank.visibility? with
    | none => exact .refl _
    | some r => exact Cursor.leads_of_visibility? hv
  have hblank := ((Cursor.leads_skipBlank c).trans hvisibility).trans (Cursor.leads_skipBlank _)
  unfold readLeading at h
  simp only [] at h
  -- Whatever was found, blanks, an access word and `static` were passed, or fewer of them.
  split at h
  next c₁ hk =>
    simp only [Prod.mk.injEq] at h
    obtain ⟨-, -, rfl⟩ := h
    exact hblank.trans (Cursor.leads_of_keyword? hk)
  next =>
    simp only [Prod.mk.injEq] at h
    obtain ⟨-, -, rfl⟩ := h
    exact hblank

theorem leads_of_repeated_functionWordStep {c c' : Cursor} {words words' : Bool × Bool}
    (h : c.repeated functionWordStep words = (words', c')) : c.Leads c' := by
  have hp := (Cursor.passes_repeated progresses_functionWordStep words c).1
  rw [h] at hp
  refine hp.leads ?_
  intro words c words' c' h
  obtain ⟨word, -, hk⟩ := functionWordStep_eq_some h
  exact (Cursor.leads_skipBlank c).trans (Cursor.leads_of_keyword? hk)

theorem leads_readConst (c : Cursor) : c.Leads (readConst c).2 := by
  unfold readConst
  split
  next c₁ hk =>
    exact (Cursor.leads_skipBlank c).trans <| (Cursor.leads_of_keyword? hk).trans
      (Cursor.leads_skipBlank c₁)
  next => exact Cursor.leads_skipBlank c

theorem continues_readPure (c : Cursor) : (readPure c).Continues c := by
  unfold readPure
  split
  next => exact .done (.refl c)
  next c₁ he =>
    have hblank := (Cursor.leads_of_skip? he).trans (Cursor.leads_skipBlank c₁)
    simp only []
    -- behind the sign one of three words must stand
    split
    next c₂ hz =>
      obtain ⟨word, -, hk⟩ := List.exists_of_findSome?_eq_some hz
      exact .done (hblank.trans (Cursor.leads_of_keyword? hk))
    next => exact .failed hblank (by simp)

theorem continues_readSignature (name : Expr) (v : Visibility) (s e i : Bool)
    (returns : Option Expr) (c : Cursor) :
    (readSignature name v s e i returns c).Continues c := by
  have hblank := Cursor.leads_skipBlank c
  unfold readSignature
  simp only []
  split
  next => exact .failed hblank (by simp)
  next c₁ ho =>
    -- the list of parameters has some outcome, and every outcome continues
    have hparams := Param.listOutcome_iff_readAll_eq.mpr (rfl : Param.readAll c₁ = _)
    refine (hparams.continues.of_leads (hblank.trans (Cursor.leads_of_skip? ho))).andThen
      fun params c₂ => ?_
    exact ((continues_readPure _).of_leads (leads_readConst c₂)).map _

/-- **Reading a declaration advances**: its first type or name takes at least one character. -/
theorem advances_read (kind : ObjectKind) (c : Cursor) : (read kind c).Advances c := by
  obtain ⟨⟨v, s, c₁⟩, hl⟩ : ∃ r, readLeading c = r := ⟨_, rfl⟩
  have hleading := leads_readLeading hl
  have hfirst := Expr.advances_read c₁
  -- The first type advances the cursor; from there on it is enough that the reading continues.
  cases kind with
  | classType =>
    simp only [read, readClass, hl]
    exact (hfirst.map _).of_leads hleading
  | typeName =>
    simp only [read, readTypeName, hl]
    refine (hfirst.andThen fun first c₂ => ?_).of_leads hleading
    have hblank := Cursor.leads_skipBlank c₂
    split
    · exact .done hblank
    · exact ((Expr.advances_read _).toContinues.of_leads hblank).map _
  | member =>
    simp only [read, readMember, hl]
    refine (hfirst.andThen fun type c₂ => ?_).of_leads hleading
    refine (Expr.advances_read c₂).toContinues.andThen fun name c₃ => ?_
    have hblank := Cursor.leads_skipBlank c₃
    split
    next c₄ he =>
      exact .done ((hblank.trans (Cursor.leads_of_skip? he)).trans (Cursor.leads_toEnd c₄))
    next => exact .done hblank
  | function =>
    obtain ⟨⟨⟨e, i⟩, c₂⟩, hw⟩ : ∃ r, c₁.repeated functionWordStep (false, false) = r := ⟨_, rfl⟩
    simp only [read, readFunction, hl, hw]
    refine ((Expr.advances_read c₂).andThen fun first c₃ => ?_).of_leads
      (hleading.trans (leads_of_repeated_functionWordStep hw))
    have hblank := Cursor.leads_skipBlank c₃
    split
    · exact (continues_readSignature _ _ _ _ _ _ _).of_leads hblank
    · exact ((Expr.advances_read _).toContinues.of_leads hblank).andThen
        fun name c₄ => continues_readSignature _ _ _ _ _ _ c₄

end Declaration

end CppIndex
