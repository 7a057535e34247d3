import CppIndex.Cursor.Basic

/-!
# Repetition

`Cursor.repeated` bounds the number of its steps by the number of characters left. For a step that
reads something the bound is never felt: repetition takes one step after the other until none is
possible (`Cursor.repeated_of_some`, `Cursor.repeated_of_none`). The states it passes through are those
of `Cursor.Passes`, and it ends in one of them (`Cursor.passes_repeated`).
-/

namespace CppIndex.Cursor

variable {σ : Type} {step : σ → Cursor → Option (σ × Cursor)} {s s' : σ} {c c' : Cursor}

/-- A step that **reads**: whenever it succeeds, fewer characters are left. -/
def Progresses (step : σ → Cursor → Option (σ × Cursor)) : Prop :=
  ∀ ⦃s c s' c'⦄, step s c = some (s', c') → c'.rest.length < c.rest.length

/-- Any two sufficient bounds lead to the same end. -/
theorem repeatedUpTo_eq (h : Progresses step) : ∀ (n m : Nat) (s : σ) (c : Cursor),
    c.rest.length ≤ n → c.rest.length ≤ m → repeatedUpTo step n s c = repeatedUpTo step m s c := by
  -- At the end of the text no step can progress, so no fuel is needed there.
  have hzero : ∀ (m : Nat) (s : σ) (c : Cursor), c.rest.length ≤ 0 →
      repeatedUpTo step m s c = (s, c) := by
    intro m s c hc
    cases m with
    | zero => rfl
    | succ m =>
      cases hs : step s c with
      | none => simp [repeatedUpTo, hs]
      | some r =>
        obtain ⟨s', c'⟩ := r
        have := h hs
        omega
  intro n
  induction n with
  | zero =>
    intro m s c hn hm
    rw [hzero 0 s c hn, hzero m s c hn]
  | succ n ih =>
    intro m s c hn hm
    cases m with
    | zero => rw [hzero 0 s c hm, hzero (n + 1) s c hm]
    | succ m =>
      cases hs : step s c with
      | none => simp [repeatedUpTo, hs]
      | some r =>
        obtain ⟨s', c'⟩ := r
        -- The step shortens the text, so what is left of either fuel is enough for the rest.
        have hr := h hs
        simp only [repeatedUpTo, hs]
        exact ih m s' c' (by omega) (by omega)

/-- **One step more.** -/
theorem repeated_of_some (h : Progresses step) (hs : step s c = some (s', c')) :
    repeated step s c = repeated step s' c' := by
  have hlt := h hs
  unfold repeated
  cases hc : c.rest.length with
  | zero => omega
  | succ n =>
    simp only [repeatedUpTo, hs]
    exact repeatedUpTo_eq h n _ s' c' (by omega) (Nat.le_refl _)

/-- **No step more.** -/
theorem repeated_of_none (hs : step s c = none) : repeated step s c = (s, c) := by
  unfold repeated
  cases c.rest.length with
  | zero => rfl
  | succ n => simp [repeatedUpTo, hs]

/-- **The states of a repetition**: the first one and those that steps lead to. -/
inductive Passes (step : σ → Cursor → Option (σ × Cursor)) (s₀ : σ) (c₀ : Cursor) :
    σ → Cursor → Prop
  /-- Where the repetition begins. -/
  | start : Passes step s₀ c₀ s₀ c₀
  /-- One step on from a state. -/
  | step {s s' : σ} {c c' : Cursor} (h : Passes step s₀ c₀ s c) (hs : step s c = some (s', c')) :
    Passes step s₀ c₀ s' c'

/-- Going on from a state of a repetition. -/
theorem Passes.trans {s₀ : σ} {c₀ : Cursor} (h : Passes step s₀ c₀ s c)
    (h' : Passes step s c s' c') : Passes step s₀ c₀ s' c' := by
  induction h' with
  | start => exact h
  | step _ hs ih => exact ih.step hs

/-- No state of a repetition has more left to read than the first. -/
theorem Passes.length_rest_le {s₀ : σ} {c₀ : Cursor} (hp : Passes step s₀ c₀ s c)
    (h : Progresses step) : c.rest.length ≤ c₀.rest.length := by
  induction hp with
  | start => exact Nat.le_refl _
  | step _ hs ih => exact Nat.le_trans (Nat.le_of_lt (h hs)) ih

/-- From all its states a repetition goes on to the same end. -/
theorem Passes.repeated_eq {s₀ : σ} {c₀ : Cursor} (hp : Passes step s₀ c₀ s c)
    (h : Progresses step) : repeated step s₀ c₀ = repeated step s c := by
  induction hp with
  | start => rfl
  | step _ hs ih => rw [ih, repeated_of_some h hs]

/-- **A repetition ends in one of its states**, and there it can go no further. -/
theorem passes_repeated (h : Progresses step) (s : σ) (c : Cursor) :
    Passes step s c (repeated step s c).1 (repeated step s c).2 ∧
      step (repeated step s c).1 (repeated step s c).2 = none := by
  -- each pass leaves less of the text, and that is what the induction is on
  induction hn : c.rest.length using Nat.strongRecOn generalizing s c with
  | ind n ih =>
    cases hs : step s c with
    | none =>
      rw [repeated_of_none hs]
      exact ⟨.start, hs⟩
    | some r =>
      obtain ⟨s', c'⟩ := r
      obtain ⟨hp, hstop⟩ := ih c'.rest.length (hn ▸ h hs) s' c' rfl
      rw [repeated_of_some h hs]
      exact ⟨(Passes.start.step hs).trans hp, hstop⟩

end CppIndex.Cursor
