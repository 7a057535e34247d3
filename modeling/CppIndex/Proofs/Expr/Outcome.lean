import CppIndex.Proofs.Expr.Advances

/-!
# Every reading has an outcome

A budget hides whether calls come to an end: a call that is out of budget answers, too. Here the calls of the
readers are given once more as four relations without a budget, between the cursor where a call begins and
what comes of it, a value or a cause: `NameOutcome`, `PartsOutcome`, `ArgsOutcome` and `TypeOutcome`. A
derivation is the tree of the calls below a call, so a call with an outcome is a call that ends.

With a budget that the characters left ask for, the readers answer with an outcome (`outcomeUpTo`): they call
each other three times at most before something is read. And no other answer is an outcome of the call
(`TypeOutcome.upTo`). So the outcome exists, is unique, and is what `Expr.read` answers
(`typeOutcome_iff_read_eq`), and a larger budget answers the same (`typeUpTo_eq`).

`Expr.ReadsType` and the relations beside it are about the readings that succeed. They list what was passed up
to a place, which suits what is proved of the trees; the outcomes go on from a place to the end.
-/

namespace CppIndex.Expr

/-! ### The relations -/

mutual

/-- **What comes of reading a name.** -/
inductive NameOutcome : Cursor → Reading Expr → Prop
  /-- No identifier stands there. -/
  | missing {c : Cursor} (hi : c.identifier? = none) : NameOutcome c (.failed .expectedName c)
  /-- Any word but `operator` is a name. -/
  | word {c c₁ : Cursor} {w : String} (hi : c.identifier? = some (w, c₁)) (hw : w ≠ "operator") :
    NameOutcome c (.done (.name w) c₁)
  /-- The name of an operator. -/
  | sign {c c₁ c₂ : Cursor} {s : String} (hi : c.identifier? = some ("operator", c₁))
    (hs : c₁.skipBlank.operatorSign? = some (s, c₂)) :
    NameOutcome c (.done (.name ("operator" ++ s)) c₂)
  /-- An allocation operator, or one with a bracket that is not closed. -/
  | allocation {c c₁ : Cursor} {r : Reading String} (hi : c.identifier? = some ("operator", c₁))
    (hs : c₁.skipBlank.operatorSign? = none) (ha : c₁.skipBlank.allocation? = some r) :
    NameOutcome c (r.map .name)
  /-- A conversion, if a type comes of its target. -/
  | cast {c c₁ : Cursor} {r : Reading Expr} (hi : c.identifier? = some ("operator", c₁))
    (hs : c₁.skipBlank.operatorSign? = none) (ha : c₁.skipBlank.allocation? = none)
    (ht : TypeOutcome false c₁.skipBlank r) : NameOutcome c (r.map .cast)

/-- **What comes of reading components** behind some that were read. -/
inductive PartsOutcome : Bool → List Expr → Cursor → Reading (List Expr) → Prop
  /-- They end. -/
  | stop {b : Bool} {ps : List Expr} {c : Cursor} (he : PartsEnd b ps c) :
    PartsOutcome b ps c (.done ps c.skipBlank)
  /-- One more has to come and is no name. -/
  | unnamed {b : Bool} {ps : List Expr} {c c₁ c₂ : Cursor} {cause : Cause}
    (he : (b && endsArgument c.skipBlank) = false) (hn : nextPart? ps.isEmpty c.skipBlank = some c₁)
    (hp : NameOutcome c₁ (.failed cause c₂)) : PartsOutcome b ps c (.failed cause c₂)
  /-- One more, and what comes of the others. -/
  | part {b : Bool} {ps : List Expr} {p : Expr} {c c₁ c₂ : Cursor} {r : Reading (List Expr)}
    (he : (b && endsArgument c.skipBlank) = false) (hn : nextPart? ps.isEmpty c.skipBlank = some c₁)
    (hp : NameOutcome c₁ (.done p c₂)) (hl : c₂.skipBlank.skip? "<" = none)
    (h : PartsOutcome b (ps ++ [p]) c₂ r) : PartsOutcome b ps c r
  /-- One more, with arguments that cannot be read. -/
  | unread {b : Bool} {ps : List Expr} {p : Expr} {c c₁ c₂ c₃ c₄ : Cursor} {cause : Cause}
    (he : (b && endsArgument c.skipBlank) = false) (hn : nextPart? ps.isEmpty c.skipBlank = some c₁)
    (hp : NameOutcome c₁ (.done p c₂)) (hl : c₂.skipBlank.skip? "<" = some c₃)
    (ha : ArgsOutcome [] c₃ (.failed cause c₄)) : PartsOutcome b ps c (.failed cause c₄)
  /-- One more with arguments, and what comes of the others. -/
  | template {b : Bool} {ps args : List Expr} {p : Expr} {c c₁ c₂ c₃ c₄ : Cursor}
    {r : Reading (List Expr)} (he : (b && endsArgument c.skipBlank) = false)
    (hn : nextPart? ps.isEmpty c.skipBlank = some c₁) (hp : NameOutcome c₁ (.done p c₂))
    (hl : c₂.skipBlank.skip? "<" = some c₃) (ha : ArgsOutcome [] c₃ (.done args c₄))
    (h : PartsOutcome b [.template (ofParts (ps ++ [p])) args] c₄ r) : PartsOutcome b ps c r

/-- **What comes of reading arguments** behind some that were read. -/
inductive ArgsOutcome : List Expr → Cursor → Reading (List Expr) → Prop
  /-- They are closed. -/
  | close {as : List Expr} {c c₁ : Cursor} (hg : c.skipBlank.skip? ">" = some c₁) :
    ArgsOutcome as c (.done as c₁)
  /-- They are neither closed nor is there a comma. -/
  | undelimited {as : List Expr} {c : Cursor} (hg : c.skipBlank.skip? ">" = none)
    (hn : c.skipBlank.nextItem? as.isEmpty = none) :
    ArgsOutcome as c (.failed .expectedTemplateDelimiter c.skipBlank)
  /-- One more has to come and is no type. -/
  | untyped {as : List Expr} {c c₁ c₂ : Cursor} {cause : Cause}
    (hg : c.skipBlank.skip? ">" = none) (hn : c.skipBlank.nextItem? as.isEmpty = some c₁)
    (ht : TypeOutcome true c₁ (.failed cause c₂)) : ArgsOutcome as c (.failed cause c₂)
  /-- One more, and what comes of the others. -/
  | arg {as : List Expr} {a : Expr} {c c₁ c₂ : Cursor} {r : Reading (List Expr)}
    (hg : c.skipBlank.skip? ">" = none) (hn : c.skipBlank.nextItem? as.isEmpty = some c₁)
    (ht : TypeOutcome true c₁ (.done a c₂)) (h : ArgsOutcome (as ++ [a]) c₂ r) : ArgsOutcome as c r

/-- **What comes of reading a type.** -/
inductive TypeOutcome : Bool → Cursor → Reading Expr → Prop
  /-- Components behind a leading `::`. -/
  | rooted {b : Bool} {c c₁ : Cursor} {r : Reading (List Expr)}
    (hc : c.skipBlank.skip? "::" = some c₁) (hp : PartsOutcome b [] c₁ r) :
    TypeOutcome b c (r.andThen (ofComponents []))
  /-- A run of built-in words. -/
  | builtin {b : Bool} {c c₁ c₂ : Cursor} {ws next : List String} {first : String}
    (hc : c.skipBlank.skip? "::" = none) (hw : leadingWords c.skipBlank = (ws, c₁))
    (hb : builtinStart? c₁ = some (first, next, c₂)) :
    TypeOutcome b c (Expr.builtin ws first next c₂)
  /-- Components, with words in front of them. -/
  | parts {b : Bool} {c c₁ : Cursor} {ws : List String} {r : Reading (List Expr)}
    (hc : c.skipBlank.skip? "::" = none) (hw : leadingWords c.skipBlank = (ws, c₁))
    (hb : builtinStart? c₁ = none) (hp : PartsOutcome b [] c₁ r) :
    TypeOutcome b c (r.andThen (ofComponents ws))

end

/-! ### A sufficient budget reaches an outcome -/

/-- **Every call has an outcome**, if the budget is what the characters left ask for: a call that reads nothing
passes on a budget that is still enough, and one that reads a character has four to spare. -/
structure OutcomeUpTo (n : Nat) : Prop where
  /-- Reading a name. -/
  name : ∀ c : Cursor, 4 * c.rest.length + 2 ≤ n → NameOutcome c (nameUpTo n c)
  /-- Reading components. -/
  parts : ∀ (b : Bool) (ps : List Expr) (c : Cursor), 4 * c.rest.length + 3 ≤ n →
    PartsOutcome b ps c (partsUpTo n b ps c)
  /-- Reading arguments. -/
  args : ∀ (as : List Expr) (c : Cursor), 4 * c.rest.length + 5 ≤ n →
    ArgsOutcome as c (argsUpTo n as c)
  /-- Reading a type. -/
  type : ∀ (b : Bool) (c : Cursor), 4 * c.rest.length + 4 ≤ n → TypeOutcome b c (typeUpTo n b c)

namespace OutcomeUpTo

variable {n : Nat}

theorem name_succ (h : OutcomeUpTo n) (c : Cursor) (hn : 4 * c.rest.length + 2 ≤ n + 1) :
    NameOutcome c (nameUpTo (n + 1) c) := by
  rw [nameUpTo]
  split
  next hi => exact .missing hi
  next w c₁ hi =>
    split
    next hw => exact .word hi hw
    next hw =>
      obtain rfl : w = "operator" := Decidable.not_not.mp hw
      -- the signs are tried first, then the allocations, and what is left is a conversion
      simp only []
      split
      next s c₂ hs => exact .sign hi hs
      next hs =>
        split
        next r ha => exact .allocation hi hs ha
        next ha =>
          have hlt := length_rest_lt_of_identifier? hi
          have hle := Cursor.length_rest_skipBlank_le (c := c₁)
          exact .cast hi hs ha (h.type false _ (by omega))

theorem parts_succ (h : OutcomeUpTo n) (b : Bool) (ps : List Expr) (c : Cursor)
    (hn : 4 * c.rest.length + 3 ≤ n + 1) : PartsOutcome b ps c (partsUpTo (n + 1) b ps c) := by
  have hle := Cursor.length_rest_skipBlank_le (c := c)
  rw [partsUpTo]
  split
  next he => exact .stop (Or.inl he)
  next he =>
    replace he := Bool.not_eq_true _ ▸ he
    split
    next hnext => exact .stop (Or.inr hnext)
    next c₁ hnext =>
      have hle₁ := length_rest_le_of_nextPart? hnext
      have hname := h.name c₁ (by omega)
      cases hp : nameUpTo n c₁ with
      | failed cause c₂ => exact .unnamed he hnext (hp ▸ hname)
      | done p c₂ =>
        -- a name takes a character, so from here on there are four calls to spare
        have hlt := ((readsUpTo n).name hp).upTo.1
        rw [hp] at hname
        simp only [Reading.andThen_done]
        split
        next hl => exact .part he hnext hname hl (h.parts b _ c₂ (by omega))
        next c₃ hl =>
          have hle₂ := Cursor.length_rest_skipBlank_le (c := c₂)
          have hlt₃ := length_rest_lt_of_skip? hl (by decide)
          have hargs := h.args [] c₃ (by omega)
          have hle₄ := ((continuesUpTo n).args [] c₃).leads.length_rest_le
          cases ha : argsUpTo n [] c₃ with
          | failed cause c₄ => exact .unread he hnext hname hl (ha ▸ hargs)
          | done args c₄ =>
            rw [ha] at hargs hle₄
            simp only [Reading.cursor] at hle₄
            exact .template he hnext hname hl hargs (h.parts b _ c₄ (by omega))

theorem args_succ (h : OutcomeUpTo n) (as : List Expr) (c : Cursor)
    (hn : 4 * c.rest.length + 5 ≤ n + 1) : ArgsOutcome as c (argsUpTo (n + 1) as c) := by
  have hle := Cursor.length_rest_skipBlank_le (c := c)
  rw [argsUpTo]
  split
  next c₁ hg => exact .close hg
  next hg =>
    split
    next hnext => exact .undelimited hg hnext
    next c₁ hnext =>
      have hle₁ := length_rest_le_of_nextItem? hnext
      have htype := h.type true c₁ (by omega)
      cases ht : typeUpTo n true c₁ with
      | failed cause c₂ => exact .untyped hg hnext (ht ▸ htype)
      | done a c₂ =>
        -- The argument that was read shortens the text, so the fuel lasts for the others.
        have hlt := ((readsUpTo n).type ht).upTo.1
        rw [ht] at htype
        exact .arg hg hnext htype (h.args _ c₂ (by omega))

theorem type_succ (h : OutcomeUpTo n) (b : Bool) (c : Cursor)
    (hn : 4 * c.rest.length + 4 ≤ n + 1) : TypeOutcome b c (typeUpTo (n + 1) b c) := by
  have hle := Cursor.length_rest_skipBlank_le (c := c)
  rw [typeUpTo]
  simp only []
  split
  next c₁ hc =>
    -- the sign takes two characters, so the budget is enough for the components
    have hlt := length_rest_lt_of_skip? hc (by decide)
    exact .rooted hc (h.parts b [] c₁ (by omega))
  next hc =>
    obtain ⟨⟨ws, c₁⟩, hw⟩ : ∃ r, leadingWords c.skipBlank = r := ⟨_, rfl⟩
    have hle₁ := length_rest_leadingWords_le hw
    rw [hw]
    simp only []
    split
    next first next c₂ hb => exact .builtin hc hw hb
    next hb => exact .parts hc hw hb (h.parts b [] c₁ (by omega))

end OutcomeUpTo

theorem outcomeUpTo (n : Nat) : OutcomeUpTo n := by
  induction n with
  | zero =>
    exact ⟨fun _ h => absurd h (by omega), fun _ _ _ h => absurd h (by omega),
      fun _ _ h => absurd h (by omega), fun _ _ h => absurd h (by omega)⟩
  | succ n ih => exact ⟨ih.name_succ, ih.parts_succ, ih.args_succ, ih.type_succ⟩

/-! ### The outcome is what every sufficient budget answers -/

mutual

/-- What comes of reading a name is answered with every budget that the characters left ask for. -/
theorem NameOutcome.upTo {c : Cursor} {r : Reading Expr} (h : NameOutcome c r) (n : Nat)
    (hn : 4 * c.rest.length + 2 ≤ n) : nameUpTo n c = r := by
  obtain ⟨m, rfl⟩ : ∃ m, n = m + 1 := ⟨n - 1, by omega⟩
  match h with
  | .missing hi => simp only [nameUpTo, hi]
  | .word hi hw => simp only [nameUpTo, hi, if_pos hw]
  | .sign hi hs => simp [nameUpTo, hi, hs]
  | .allocation hi hs ha => simp [nameUpTo, hi, hs, ha]
  | @NameOutcome.cast _ c₁ _ hi hs ha ht =>
    -- the word `operator` was read, so the target has less text and its budget is enough
    have hlt := length_rest_lt_of_identifier? hi
    have hle := Cursor.length_rest_skipBlank_le (c := c₁)
    simp [nameUpTo, hi, hs, ha, TypeOutcome.upTo ht m (by omega)]

theorem PartsOutcome.upTo {b : Bool} {ps : List Expr} {c : Cursor} {r : Reading (List Expr)}
    (h : PartsOutcome b ps c r) (n : Nat) (hn : 4 * c.rest.length + 3 ≤ n) :
    partsUpTo n b ps c = r := by
  obtain ⟨m, rfl⟩ : ∃ m, n = m + 1 := ⟨n - 1, by omega⟩
  have hle := Cursor.length_rest_skipBlank_le (c := c)
  match h with
  | .stop he => exact partsUpTo_of_end he m
  | .unnamed he hnext hp =>
    have hle₁ := length_rest_le_of_nextPart? hnext
    simp [partsUpTo, he, hnext, NameOutcome.upTo hp m (by omega)]
  | .part he hnext hp hl h =>
    have hle₁ := length_rest_le_of_nextPart? hnext
    have hname := NameOutcome.upTo hp m (by omega)
    have hlt := ((readsUpTo m).name hname).upTo.1
    simp [partsUpTo, he, hnext, hname, hl, PartsOutcome.upTo h m (by omega)]
  | @PartsOutcome.unread _ _ _ _ _ c₂ _ _ _ he hnext hp hl ha =>
    have hle₁ := length_rest_le_of_nextPart? hnext
    have hname := NameOutcome.upTo hp m (by omega)
    have hlt := ((readsUpTo m).name hname).upTo.1
    have hle₂ := Cursor.length_rest_skipBlank_le (c := c₂)
    have hlt₃ := length_rest_lt_of_skip? hl (by decide)
    simp [partsUpTo, he, hnext, hname, hl, ArgsOutcome.upTo ha m (by omega)]
  | @PartsOutcome.template _ _ _ _ _ _ c₂ c₃ _ _ he hnext hp hl ha h =>
    have hle₁ := length_rest_le_of_nextPart? hnext
    have hname := NameOutcome.upTo hp m (by omega)
    have hlt := ((readsUpTo m).name hname).upTo.1
    have hle₂ := Cursor.length_rest_skipBlank_le (c := c₂)
    have hlt₃ := length_rest_lt_of_skip? hl (by decide)
    -- A list of arguments never lengthens the text, whatever its outcome.
    have hargs := ArgsOutcome.upTo ha m (by omega)
    have hle₄ := ((continuesUpTo m).args [] c₃).leads.length_rest_le
    rw [hargs] at hle₄
    simp only [Reading.cursor] at hle₄
    simp [partsUpTo, he, hnext, hname, hl, hargs, PartsOutcome.upTo h m (by omega)]

theorem ArgsOutcome.upTo {as : List Expr} {c : Cursor} {r : Reading (List Expr)}
    (h : ArgsOutcome as c r) (n : Nat) (hn : 4 * c.rest.length + 5 ≤ n) :
    argsUpTo n as c = r := by
  obtain ⟨m, rfl⟩ : ∃ m, n = m + 1 := ⟨n - 1, by omega⟩
  have hle := Cursor.length_rest_skipBlank_le (c := c)
  match h with
  | .close hg => simp [argsUpTo, hg]
  | .undelimited hg hnext => simp [argsUpTo, hg, hnext]
  | .untyped hg hnext ht =>
    have hle₁ := length_rest_le_of_nextItem? hnext
    simp [argsUpTo, hg, hnext, TypeOutcome.upTo ht m (by omega)]
  | .arg hg hnext ht h =>
    have hle₁ := length_rest_le_of_nextItem? hnext
    have htype := TypeOutcome.upTo ht m (by omega)
    -- the argument takes at least a character, and with it the list comes back with less text
    have hlt := ((readsUpTo m).type htype).upTo.1
    simp [argsUpTo, hg, hnext, htype, ArgsOutcome.upTo h m (by omega)]

/-- **What comes of reading a type** is answered with every budget that the characters left ask for. -/
theorem TypeOutcome.upTo {b : Bool} {c : Cursor} {r : Reading Expr} (h : TypeOutcome b c r) (n : Nat)
    (hn : 4 * c.rest.length + 4 ≤ n) : typeUpTo n b c = r := by
  obtain ⟨m, rfl⟩ : ∃ m, n = m + 1 := ⟨n - 1, by omega⟩
  have hle := Cursor.length_rest_skipBlank_le (c := c)
  -- along the outcome: what the reader does at each branch is what the constructor says
  match h with
  | .rooted hc hp =>
    have hlt := length_rest_lt_of_skip? hc (by decide)
    simp [typeUpTo, hc, PartsOutcome.upTo hp m (by omega)]
  | .builtin hc hw hb => simp [typeUpTo, hc, hw, hb]
  | .parts hc hw hb hp =>
    have hle₁ := length_rest_leadingWords_le hw
    simp [typeUpTo, hc, hw, hb, PartsOutcome.upTo hp m (by omega)]

end

variable {c : Cursor} {r : Reading Expr}

/-- **The outcome of reading a type exists and is unique**: it is the answer of the reader. -/
theorem typeOutcome_iff_read_eq : TypeOutcome false c r ↔ read c = r := by
  constructor
  · exact fun h => h.upTo _ (Nat.le_refl _)
  · rintro rfl
    exact (outcomeUpTo _).type false c (Nat.le_refl _)

/-- **The outcome of reading a name exists and is unique**: it is the answer of the reader. -/
theorem nameOutcome_iff_readName_eq : NameOutcome c r ↔ readName c = r := by
  have hbudget : 4 * c.rest.length + 2 ≤ c.budget := by
    unfold Cursor.budget
    omega
  constructor
  · exact fun h => h.upTo _ hbudget
  · rintro rfl
    exact (outcomeUpTo _).name c hbudget

/-- **More budget changes nothing.** -/
theorem typeUpTo_eq {b : Bool} {n : Nat} (hn : c.budget ≤ n) :
    typeUpTo n b c = typeUpTo c.budget b c :=
  ((outcomeUpTo c.budget).type b c (Nat.le_refl _)).upTo n hn

end CppIndex.Expr
