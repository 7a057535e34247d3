import CppIndex.Proofs.Cursor.Operator
import CppIndex.Proofs.Cursor.Repeated
import CppIndex.Proofs.Text.Bound

/-!
# Moves of a cursor

Whatever a recogniser recognises, it moves the cursor over it: a cursor **leads** to another one if some
characters in front of it were taken (`Cursor.Leads`). Then both stand in the same text
(`Cursor.Leads.text_eq`), so what is known of the text at one place is known at all places to which reading
comes.
-/

namespace CppIndex.Cursor

variable {c c' c'' : Cursor} {s : String}

/-- **A cursor leads to another** over the characters that were taken in between. -/
def Leads (c c' : Cursor) : Prop := ∃ taken, c.rest = taken ++ c'.rest ∧ c' = c.moved taken c'.rest

theorem Leads.refl (c : Cursor) : c.Leads c := ⟨[], rfl, moved_nil.symm⟩

theorem Leads.trans (h : c.Leads c') (h' : c'.Leads c'') : c.Leads c'' := by
  obtain ⟨first, hfirst, hc'⟩ := h
  obtain ⟨second, hsecond, hc''⟩ := h'
  refine ⟨first ++ second, ?_, ?_⟩
  · rw [hfirst, hsecond, List.append_assoc]
  · rw [hc'] at hc''
    rwa [moved_moved] at hc''

/-- **Both places are in the same text.** -/
theorem Leads.text_eq (h : c.Leads c') : c'.text = c.text := by
  obtain ⟨taken, hrest, hc'⟩ := h
  rw [hc']
  exact c.text_moved hrest

/-! ### Recognisers -/

theorem leads_skipBlank (c : Cursor) : c.Leads c.skipBlank :=
  ⟨_, List.takeWhile_append_dropWhile.symm, rfl⟩

theorem leads_of_skip? {word : String} (h : c.skip? word = some c') : c.Leads c' :=
  ⟨_, skip?_eq_some h⟩

theorem leads_of_keyword? {word : String} (h : c.keyword? word = some c') : c.Leads c' :=
  have ⟨hrest, hc', _⟩ := keyword?_eq_some h
  ⟨_, hrest, hc'⟩

theorem leads_of_identifier? (h : c.identifier? = some (s, c')) : c.Leads c' :=
  have ⟨_, hrest, hc', _⟩ := identifier?_eq_some h
  ⟨_, hrest, hc'⟩

theorem leads_of_operatorSign? (h : c.operatorSign? = some (s, c')) : c.Leads c' :=
  have ⟨_, _, hrest, hc', _⟩ := operatorSign?_eq_some h
  ⟨_, hrest, hc'⟩

theorem leads_of_allocation? (h : c.allocation? = some (.done s c')) : c.Leads c' := by
  obtain ⟨a, isArray, c₁, -, hk, hend⟩ := allocation?_eq_some h
  cases isArray with
  | false =>
    obtain rfl := hend.2
    exact leads_of_keyword? hk
  | true =>
    -- the word, and the two brackets with the blanks in front of each
    obtain ⟨c₂, hopen, hclose⟩ := hend
    exact (leads_of_keyword? hk).trans <| (leads_skipBlank c₁).trans <|
      (leads_of_skip? hopen).trans <| (leads_skipBlank c₂).trans (leads_of_skip? hclose)

theorem leads_of_arrayBound? {size : Option String} (h : c.arrayBound? = some (size, c')) :
    c.Leads c' :=
  have ⟨_, taken, hrest, hc', _⟩ := arrayBound?_eq_some h
  ⟨taken, hrest, hc'⟩

theorem leads_of_nextItem? {isFirst : Bool} (h : c.nextItem? isFirst = some c') : c.Leads c' := by
  rcases nextItem?_eq_some h with ⟨-, rfl⟩ | ⟨-, c₁, hskip, rfl⟩
  · exact .refl _
  · exact (leads_of_skip? hskip).trans (leads_skipBlank c₁)

/-- Steps that lead on lead on together. -/
theorem Passes.leads {σ : Type} {step : σ → Cursor → Option (σ × Cursor)} {s₀ s : σ} {c₀ : Cursor}
    (hp : Passes step s₀ c₀ s c)
    (h : ∀ ⦃s c s' c'⦄, step s c = some (s', c') → c.Leads c') : c₀.Leads c := by
  induction hp with
  | start => exact .refl _
  | step _ hs ih => exact ih.trans (h hs)

end CppIndex.Cursor
