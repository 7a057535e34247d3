import CppIndex.Proofs.Cursor.Place
import CppIndex.Proofs.Expr.Leads

/-!
# Reading goes forward

Whether an expression is read or not, the cursor where reading stopped is one that the cursor in front leads
to: nothing is given back, not even where a reader looked ahead in vain. A reading of which this holds
continues (`Reading.Continues`), and so does every reading that is made of some that do
(`Expr.continuesUpTo`). A type or a name that is read takes at least one character besides
(`Reading.Advances`).
-/

namespace CppIndex

namespace Reading

variable {α β : Type} {c c' : Cursor} {r : Reading α} {cause : Cause}

/-! ### Readings that continue -/

/-- **A reading continues** from a cursor: it leads on from it, and where it complains of what is left, it
tells all that is left. -/
structure Continues (c : Cursor) (r : Reading α) : Prop where
  /-- The cursor where reading stopped is one that the cursor leads to. -/
  leads : c.Leads r.cursor
  /-- The text in a complaint is what stands behind that cursor. -/
  trailing : ∀ rest c', r = .failed (.trailingInput rest) c' → rest = String.ofList c'.rest

theorem Continues.done {v : α} (h : c.Leads c') : (done v c' : Reading α).Continues c where
  leads := h
  trailing _ _ hf := by cases hf

theorem Continues.failed (h : c.Leads c')
    (hc : ∀ rest, cause = .trailingInput rest → rest = String.ofList c'.rest) :
    (failed cause c' : Reading α).Continues c where
  leads := h
  trailing rest c₁ hf := by
    simp only [Reading.failed.injEq] at hf
    obtain ⟨hcause, rfl⟩ := hf
    exact hc rest hcause

/-- A reading that continues from a place to which a cursor leads. -/
theorem Continues.of_leads (h : r.Continues c') (hl : c.Leads c') : r.Continues c :=
  ⟨hl.trans h.leads, h.trailing⟩

/-- **A reading and one behind it.** -/
theorem Continues.andThen {f : α → Cursor → Reading β} (h : r.Continues c)
    (hf : ∀ (v : α) (c' : Cursor), (f v c').Continues c') : (r.andThen f).Continues c := by
  -- a failure in front is the failure of the whole, complaint included
  cases r with
  | done v c' => exact (hf v c').of_leads h.leads
  | failed cause c' => exact .failed h.leads fun rest hc => h.trailing rest c' (hc ▸ rfl)

theorem Continues.map (h : r.Continues c) (f : α → β) : (r.map f).Continues c :=
  h.andThen fun _ c' => .done (.refl c')

/-! ### Readings that take something -/

/-- **A reading advances** from a cursor: it continues from it, and if it is done, something was read. -/
structure Advances (c : Cursor) (r : Reading α) : Prop extends r.Continues c where
  /-- Less is left than before. -/
  length_rest_lt : ∀ v c', r = .done v c' → c'.rest.length < c.rest.length

/-- **One part that takes something is enough**: what follows it need only continue. -/
theorem Advances.andThen {f : α → Cursor → Reading β} (h : r.Advances c)
    (hf : ∀ (v : α) (c' : Cursor), (f v c').Continues c') : (r.andThen f).Advances c := by
  refine ⟨h.toContinues.andThen hf, fun v c' hd => ?_⟩
  obtain ⟨a, c₁, ha, hd⟩ := andThen_eq_done.mp hd
  -- what follows gives nothing back, so what the first part took stays taken
  have hrest := (hf a c₁).leads.length_rest_le
  rw [hd] at hrest
  exact Nat.lt_of_le_of_lt hrest (h.length_rest_lt a c₁ ha)

theorem Advances.map (h : r.Advances c) (f : α → β) : (r.map f).Advances c :=
  h.andThen fun _ c' => .done (.refl c')

/-- So is one that takes something behind others. -/
theorem Advances.of_leads (h : r.Advances c') (hl : c.Leads c') : r.Advances c :=
  ⟨h.toContinues.of_leads hl,
    fun v c₁ hd => Nat.lt_of_lt_of_le (h.length_rest_lt v c₁ hd) hl.length_rest_le⟩

end Reading

namespace Cursor

variable {c : Cursor}

/-- An allocation continues, also if its bracket is not closed. -/
theorem continues_allocation? {r : Reading String} (h : c.allocation? = some r) : r.Continues c := by
  obtain ⟨a, -, ha⟩ := List.exists_of_findSome?_eq_some h
  obtain ⟨c₁, hk, rfl⟩ := Option.map_eq_some_iff.mp ha
  have hword := leads_of_keyword? hk
  -- without an opening bracket the keyword is all; behind one the bracket must be closed
  split
  next => exact .done hword
  next c₂ hopen =>
    have hbracket := (hword.trans (leads_skipBlank c₁)).trans (leads_of_skip? hopen)
    split
    next => exact .failed (hbracket.trans (leads_skipBlank c₂)) (by simp)
    next c₃ hclose => exact .done ((hbracket.trans (leads_skipBlank c₂)).trans (leads_of_skip? hclose))

end Cursor

namespace Expr

variable {c : Cursor}

/-! ### What stands around components -/

theorem continues_withSuffixes (e : Expr) (c : Cursor) : (withSuffixes e c).Continues c :=
  .done (((Cursor.passes_repeated progresses_suffixStep e c).1.leads leads_of_suffixStep).trans
    (Cursor.leads_skipBlank _))

theorem continues_builtin (words : List String) (first : String) (next : List String) (c : Cursor) :
    (builtin words first next c).Continues c :=
  (continues_withSuffixes _ _).of_leads (leads_of_repeated_builtinStep rfl)

theorem continues_ofComponents (words : List String) (parts : List Expr) (c : Cursor) :
    (ofComponents words parts c).Continues c := by
  rw [ofComponents]
  split
  · exact .failed (.refl c) (by simp)
  · exact continues_withSuffixes _ _

/-! ### Names, components, arguments and types -/

/-- **Every reading of an expression continues** with a budget, whether or not it is done. -/
structure ContinuesUpTo (n : Nat) : Prop where
  /-- Reading a name. -/
  name : ∀ c : Cursor, (nameUpTo n c).Continues c
  /-- Reading components. -/
  parts : ∀ (b : Bool) (ps : List Expr) (c : Cursor), (partsUpTo n b ps c).Continues c
  /-- Reading arguments. -/
  args : ∀ (as : List Expr) (c : Cursor), (argsUpTo n as c).Continues c
  /-- Reading a type. -/
  type : ∀ (b : Bool) (c : Cursor), (typeUpTo n b c).Continues c

namespace ContinuesUpTo

variable {n : Nat}

theorem name_succ (h : ContinuesUpTo n) (c : Cursor) : (nameUpTo (n + 1) c).Continues c := by
  rw [nameUpTo]
  split
  next => exact .failed (.refl c) (by simp)
  next w c₁ hi =>
    have hword := Cursor.leads_of_identifier? hi
    have hblank := hword.trans (Cursor.leads_skipBlank c₁)
    -- in the order in which the reader tries: a plain word, a sign, an allocation, a conversion
    split
    next => exact .done hword
    next =>
      simp only []
      split
      next s c₂ hs => exact .done (hblank.trans (Cursor.leads_of_operatorSign? hs))
      next =>
        split
        next r ha => exact ((Cursor.continues_allocation? ha).of_leads hblank).map _
        next => exact ((h.type false _).of_leads hblank).map _

theorem parts_succ (h : ContinuesUpTo n) (b : Bool) (ps : List Expr) (c : Cursor) :
    (partsUpTo (n + 1) b ps c).Continues c := by
  have hblank := Cursor.leads_skipBlank c
  rw [partsUpTo]
  split
  next => exact .done hblank
  next =>
    split
    next => exact .done hblank
    next c₂ hn =>
      -- a component moves the cursor on before the reader comes back to its own start
      refine ((h.name c₂).of_leads (leads_to_part hn)).andThen fun p c₃ => ?_
      split
      next => exact h.parts b _ c₃
      next c₄ hl =>
        have hopen := (Cursor.leads_skipBlank c₃).trans (Cursor.leads_of_skip? hl)
        exact ((h.args [] c₄).of_leads hopen).andThen fun args c₅ => h.parts b _ c₅

theorem args_succ (h : ContinuesUpTo n) (as : List Expr) (c : Cursor) :
    (argsUpTo (n + 1) as c).Continues c := by
  have hblank := Cursor.leads_skipBlank c
  rw [argsUpTo]
  -- at the closing angle the list is done, and without a separator it fails in place; else one more is
  -- read
  split
  next c₁ hg => exact .done (hblank.trans (Cursor.leads_of_skip? hg))
  next =>
    split
    next => exact .failed hblank (by simp)
    next c₂ hn =>
      have hitem := hblank.trans (Cursor.leads_of_nextItem? hn)
      exact ((h.type true c₂).of_leads hitem).andThen fun a c₃ => h.args _ c₃

theorem type_succ (h : ContinuesUpTo n) (b : Bool) (c : Cursor) :
    (typeUpTo (n + 1) b c).Continues c := by
  have hblank := Cursor.leads_skipBlank c
  rw [typeUpTo]
  simp only []
  -- Behind a root `::` come components; without one words come first, then a run or components.
  split
  next c₁ hc =>
    have hroot := hblank.trans (Cursor.leads_of_skip? hc)
    exact ((h.parts b [] c₁).of_leads hroot).andThen (continues_ofComponents [])
  next =>
    obtain ⟨⟨ws, c₁⟩, hw⟩ : ∃ r, leadingWords c.skipBlank = r := ⟨_, rfl⟩
    have hwords := hblank.trans (leads_of_leadingWords hw)
    rw [hw]
    simp only []
    split
    next first next c₂ hb =>
      have hfirst := Cursor.leads_of_identifier? (builtinStart?_eq_some hb).2.2
      exact (continues_builtin ws first next c₂).of_leads (hwords.trans hfirst)
    next => exact ((h.parts b [] c₁).of_leads hwords).andThen (continues_ofComponents ws)

end ContinuesUpTo

/-- **Whatever the budget**: a step of the budget is a call of one reader by another. -/
theorem continuesUpTo (n : Nat) : ContinuesUpTo n := by
  induction n with
  | zero =>
    exact ⟨fun c => .failed (.refl c) (by simp), fun _ _ c => .failed (.refl c) (by simp),
      fun _ c => .failed (.refl c) (by simp), fun _ c => .failed (.refl c) (by simp)⟩
  | succ n ih => exact ⟨ih.name_succ, ih.parts_succ, ih.args_succ, ih.type_succ⟩

/-- **Reading a type advances.** -/
theorem advances_read (c : Cursor) : (read c).Advances c :=
  ⟨(continuesUpTo _).type false c, fun _ _ h => (read_eq_done_iff.mp h).upTo.1⟩

/-- **Reading a name advances.** -/
theorem advances_readName (c : Cursor) : (readName c).Advances c :=
  ⟨(continuesUpTo _).name c, fun _ _ h => (readName_eq_done_iff.mp h).upTo.1⟩

end Expr

end CppIndex
