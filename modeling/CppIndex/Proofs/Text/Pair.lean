import CppIndex.Proofs.Text.Bound

/-!
# Brackets around nothing

A bound is looked for before a pair of brackets is accepted, and it may begin with any character of the line,
with a closing bracket too. So brackets around nothing but blanks are a pair exactly if no later `]` can close
them (`Text.arrayBound?_pair_iff`). Where one can (`Text.ClosesLater`), the bracket of the pair becomes the
first character of a bound that reaches up to the later one. This is the only way for a closing bracket to get
into a bound (`Text.close_mem_iff_of_arrayBound?`), because a bound ends at the first one behind its first
character. So none gets there in a text of which every pair closes at its own bracket (`Text.PairsClose`,
`Text.PairsClose.close_not_mem`).
-/

namespace CppIndex.Text

variable {cs rest b blanks : List Char} {x y : Char}

/-- **A bracket that closes later**: a `]` in front of which there is the rest of a line, and behind the line
nothing but blanks. -/
def ClosesLater (rest : List Char) : Prop :=
  ∃ line blanks after, '\n' ∉ line ∧ (∀ x ∈ blanks, isBlank x = true) ∧
    rest = line ++ blanks ++ ']' :: after

/-- A bracket closes where only blanks stand in front of it. -/
theorem closesLater_of_dropBlank (h : dropBlank cs = ']' :: rest) : ClosesLater cs := by
  obtain ⟨blanks, hb, hcs⟩ := exists_blanks_dropBlank cs
  rw [h] at hcs
  exact ⟨[], blanks, rest, List.not_mem_nil, hb, hcs⟩

/-- Blanks in front of a closing bracket are dropped. -/
theorem dropBlank_blanks_close (hb : ∀ x ∈ blanks, isBlank x = true) (rest : List Char) :
    dropBlank (blanks ++ ']' :: rest) = ']' :: rest := by
  rw [dropBlank_append_of_blanks hb]
  exact dropBlank_cons_of_not_blank (by decide)

/-- **One more character of the line** in front of the bracket that closes later. -/
theorem closesLater_cons_iff (h : (dropBlank (y :: cs)).head? ≠ some ']') :
    ClosesLater (y :: cs) ↔ y ≠ '\n' ∧ ClosesLater cs := by
  constructor
  · rintro ⟨line, blanks, after, hline, hb, hcs⟩
    cases line with
    | nil =>
      -- without a line the bracket would come next
      rw [List.nil_append] at hcs
      rw [hcs, dropBlank_blanks_close hb] at h
      exact absurd rfl h
    | cons z line =>
      rw [List.cons_append, List.cons_append] at hcs
      obtain ⟨rfl, htail⟩ := List.cons.inj hcs
      refine ⟨fun hy => hline (hy ▸ List.mem_cons_self ..), line, blanks, after, ?_, hb, htail⟩
      exact fun hn => hline (List.mem_cons_of_mem _ hn)
  · rintro ⟨hy, line, blanks, after, hline, hb, rfl⟩
    refine ⟨y :: line, blanks, after, ?_, hb, rfl⟩
    rintro (_ | ⟨_, hn⟩)
    · exact hy rfl
    · exact hline hn

/-- **A bound is found** where the line goes on and a bracket closes later. -/
theorem isSome_boundText?_cons : (boundText? (x :: cs)).isSome = true ↔ x ≠ '\n' ∧ ClosesLater cs := by
  induction cs generalizing x with
  | nil =>
    -- no bracket is left that could close the bound
    refine iff_of_false (by simp [boundText?]) ?_
    rintro ⟨-, line, blanks, after, -, -, hnil⟩
    exact absurd hnil (by simp)
  | cons y cs ih =>
    by_cases hx : x = '\n'
    · subst hx
      -- a bound does not go over the end of a line
      simp
    by_cases hd : (dropBlank (y :: cs)).head? = some ']'
    · -- the bracket that comes next closes the bound
      obtain ⟨rest, hrest⟩ := List.head?_eq_some_iff.mp hd
      rw [boundText?_cons_close hx hrest]
      exact iff_of_true rfl ⟨hx, closesLater_of_dropBlank hrest⟩
    · -- the bound goes on with the next character, so the question moves on as well
      rw [boundText?_cons_next hx hd, Option.isSome_map, ih, closesLater_cons_iff hd]
      exact ⟨fun h => ⟨hx, h⟩, fun h => h.2⟩

/-- **Behind its first character a bound has no closing bracket**: the first that comes would close it. -/
theorem close_not_mem_tail (h : boundText? cs = some (b, rest)) : ']' ∉ b.tail := by
  induction cs generalizing b rest with
  | nil => cases h
  | cons x cs ih =>
    have hx : x ≠ '\n' := by
      rintro rfl
      rw [boundText?_newline] at h
      cases h
    -- the bound ends here, or its next character is no closing bracket
    by_cases hd : (dropBlank cs).head? = some ']'
    · obtain ⟨r, hr⟩ := List.head?_eq_some_iff.mp hd
      rw [boundText?_cons_close hx hr] at h
      obtain ⟨rfl, rfl⟩ := Prod.mk.inj (Option.some.inj h)
      exact List.not_mem_nil
    · rw [boundText?_cons_next hx hd] at h
      obtain ⟨⟨b', r⟩, hb', he⟩ := Option.map_eq_some_iff.mp h
      obtain ⟨rfl, rfl⟩ := Prod.mk.inj he
      obtain ⟨⟨blanks, -, hcs⟩, -⟩ := boundText?_eq_some hb'
      intro hmem
      cases b' with
      | nil => exact List.not_mem_nil hmem
      | cons y b' =>
        rcases List.mem_cons.mp hmem with rfl | hmem
        · -- the second character is the next one of the text
          rw [hcs] at hd
          exact hd rfl
        · exact ih hb' hmem

/-! ### Array suffixes -/

/-- **Brackets around nothing are a pair** exactly if no bracket closes later; the pair ends at its own
bracket. -/
theorem arrayBound?_pair_iff (hb : ∀ x ∈ blanks, isBlank x = true) :
    arrayBound? ('[' :: blanks ++ ']' :: rest) = some (none, rest) ↔ ¬ ClosesLater rest := by
  -- the bracket of the pair is the first character of a bound that would swallow it
  have hsome : (boundText? (']' :: rest)).isSome = true ↔ ']' ≠ '\n' ∧ ClosesLater rest :=
    isSome_boundText?_cons
  rw [List.cons_append, arrayBound?, dropBlank_blanks_close hb]
  cases hr : boundText? (']' :: rest) with
  | none =>
    rw [hr] at hsome
    refine iff_of_true rfl fun hc => ?_
    exact absurd (hsome.mpr ⟨by decide, hc⟩) (by decide)
  | some r =>
    rw [hr] at hsome
    exact iff_of_false (by simp) fun hn => hn (hsome.mp rfl).2

/-- **A closing bracket gets into a bound** exactly if the brackets were around nothing. -/
theorem close_mem_iff_of_arrayBound? {size : String} (h : arrayBound? cs = some (some size, rest)) :
    ']' ∈ size.toList ↔ ∃ blanks after, (∀ x ∈ blanks, isBlank x = true) ∧
      cs = '[' :: blanks ++ ']' :: after ∧ ClosesLater after := by
  unfold arrayBound? at h
  split at h
  next cs =>
    split at h
    next b r hr =>
      simp only [Option.some.injEq, Prod.mk.injEq] at h
      obtain ⟨rfl, rfl⟩ := h
      rw [String.toList_ofList]
      obtain ⟨⟨back, -, hcs⟩, -⟩ := boundText?_eq_some hr
      obtain ⟨x, hx, -⟩ := (isBound_of_boundText? hr).start
      obtain ⟨b, rfl⟩ := List.head?_eq_some_iff.mp hx
      have htail : ']' ∉ b := close_not_mem_tail hr
      rw [List.cons_append, List.cons_append] at hcs
      constructor
      · intro hmem
        -- it is the first character, in front of which only blanks were dropped
        obtain rfl : ']' = x := (List.mem_cons.mp hmem).resolve_right htail
        obtain ⟨blanks, hb, hsplit⟩ := exists_blanks_dropBlank cs
        refine ⟨blanks, b ++ back ++ ']' :: r, hb, ?_, ?_⟩
        · rw [List.cons_append, ← hcs]
          exact congrArg _ hsplit
        · rw [hcs] at hr
          exact (isSome_boundText?_cons.mp (by rw [hr]; rfl)).2
      · rintro ⟨blanks, after, hb, hpair, -⟩
        have hcs' : cs = blanks ++ ']' :: after := (List.cons.inj hpair).2
        rw [hcs', dropBlank_blanks_close hb] at hcs
        exact List.mem_cons.mpr (Or.inl (List.cons.inj hcs).1)
    next =>
      split at h
      next => simp at h
      next => cases h
  next => cases h

/-! ### Texts whose pairs close -/

/-- **Every pair around nothing closes** at its own bracket: no bracket closes later. -/
def PairsClose (cs : List Char) : Prop :=
  ∀ front blanks rest, (∀ x ∈ blanks, isBlank x = true) → cs = front ++ '[' :: blanks ++ ']' :: rest →
    ¬ ClosesLater rest

/-- A bracket that closes later does so whatever follows it. -/
theorem ClosesLater.append (h : ClosesLater cs) (back : List Char) : ClosesLater (cs ++ back) := by
  obtain ⟨line, blanks, after, hline, hb, rfl⟩ := h
  exact ⟨line, blanks, after ++ back, hline, hb, by simp⟩

/-- Where every pair of a text closes, so it is in each part of the text. -/
theorem PairsClose.of_append {front back : List Char} (h : PairsClose (front ++ cs ++ back)) :
    PairsClose cs := by
  intro first blanks rest hb hcs hlater
  refine h (front ++ first) blanks (rest ++ back) hb ?_ (hlater.append back)
  rw [hcs]
  simp

/-- **No closing bracket gets into a bound** of a text whose pairs close. -/
theorem PairsClose.close_not_mem {size : String} (hcs : PairsClose cs)
    (h : arrayBound? cs = some (some size, rest)) : ']' ∉ size.toList := by
  rw [close_mem_iff_of_arrayBound? h]
  rintro ⟨blanks, after, hb, hpair, hlater⟩
  exact hcs [] blanks after hb hpair hlater

/-- The pairs of a text are one that may begin it and those behind its first character. -/
theorem pairsClose_cons_iff : PairsClose (x :: cs) ↔ PairsClose cs ∧
    (x = '[' → (dropBlank cs).head? = some ']' → ¬ ClosesLater (dropBlank cs).tail) := by
  constructor
  · intro h
    refine ⟨fun front blanks rest hb hcs => ?_, ?_⟩
    · exact h (x :: front) blanks rest hb (by rw [hcs]; rfl)
    · rintro rfl hd
      obtain ⟨rest, hrest⟩ := List.head?_eq_some_iff.mp hd
      obtain ⟨blanks, hb, hcs⟩ := exists_blanks_dropBlank cs
      rw [hrest] at hcs ⊢
      exact h [] blanks rest hb (congrArg ('[' :: ·) hcs)
  · rintro ⟨h, hfirst⟩ front blanks rest hb hcs
    -- the pair begins the text, or it stands behind the first character
    cases front with
    | nil =>
      rw [List.nil_append, List.cons_append] at hcs
      obtain ⟨rfl, rfl⟩ := List.cons.inj hcs
      rw [dropBlank_blanks_close hb] at hfirst
      exact hfirst rfl rfl
    | cons z front =>
      rw [List.cons_append, List.cons_append] at hcs
      exact h front blanks rest hb (List.cons.inj hcs).2

/-- Whether a bracket closes later is seen by looking for a bound. -/
instance decidableClosesLater (rest : List Char) : Decidable (ClosesLater rest) :=
  decidable_of_iff ((boundText? (']' :: rest)).isSome = true)
    (isSome_boundText?_cons.trans (and_iff_right (by decide)))

/-- Whether every pair closes is seen from one character to the next. -/
instance decidablePairsClose : (cs : List Char) → Decidable (PairsClose cs)
  | [] => isTrue fun front blanks rest _ hcs => absurd hcs (by simp)
  | x :: cs =>
    have := decidablePairsClose cs
    decidable_of_iff _ (@pairsClose_cons_iff cs x).symm

end CppIndex.Text
