import CppIndex.Proofs.Text.Seam
import CppIndex.Cursor.Lexeme

/-!
# Operator signs

A sign is read as far as it goes: among the signs that stand at a place the longest is taken. A sign
that was read is therefore read again as the same sign unless the text that follows now makes it a
longer one (`Text.SignStands`, `Text.operatorSign?_append_iff`). The two pairs `[]` and `()` are closed
by themselves and stand before every text.
-/

namespace CppIndex.Text

variable {s : String} {cs taken rest k : List Char}

/-- **A sign** behind the word `operator`, as it is written in a name. -/
def IsSign (s : String) : Prop := s = "[]" ∨ s = "()" ∨ s ∈ operatorSigns

instance (s : String) : Decidable (IsSign s) := inferInstanceAs (Decidable (_ ∨ _ ∨ _))

/-- **A sign stands before a text**: no longer sign begins with it and goes on in the text. -/
def SignStands (s : String) (k : List Char) : Prop :=
  ∀ t ∈ operatorSigns, s.toList <+: t.toList → t.toList <+: s.toList ++ k → t = s

/-! ### The table of signs -/

/-- In the table, no sign begins one that comes later. -/
theorem pairwise_operatorSigns :
    operatorSigns.Pairwise fun s t => ¬ s.toList <+: t.toList := by
  decide +kernel

/-- The first character of a sign makes a seam and is no blank. -/
theorem exists_cons_of_isSign (h : IsSign s) :
    ∃ x w, s.toList = x :: w ∧ isAsciiWordChar x = false ∧ isBlank x = false ∧
      IsSeam (some x) := by
  -- the signs are a table, and the first character of each is looked up in it
  have hall : ∀ s ∈ "[]" :: "()" :: operatorSigns, s.toList ≠ [] ∧ ∀ x ∈ s.toList.take 1,
      isAsciiWordChar x = false ∧ isBlank x = false ∧ x.toNat < 0x80 := by
    decide +kernel
  obtain ⟨hne, hfirst⟩ := hall s (by simpa [IsSign] using h)
  cases hs : s.toList with
  | nil => exact absurd hs hne
  | cons x w =>
    obtain ⟨hw, hb, hlt⟩ := hfirst x (by simp [hs])
    exact ⟨x, w, rfl, hw, hb, isSeam_some_of_ascii hlt hw⟩

/-- No sign of the table begins with an opening bracket or parenthesis. -/
theorem head?_ne_of_mem_operatorSigns (h : s ∈ operatorSigns) :
    s.toList.head? ≠ some '[' ∧ s.toList.head? ≠ some '(' := by
  have hall : ∀ s ∈ operatorSigns, s.toList.head? ≠ some '[' ∧ s.toList.head? ≠ some '(' := by
    decide +kernel
  exact hall s h

/-! ### Pairs -/

/-- **A pair** of signs with blanks between them. -/
theorem emptyPair?_eq_some {a b : Char} (h : emptyPair? a b cs = some (taken, rest)) :
    ∃ blanks, (∀ x ∈ blanks, isBlank x = true) ∧ taken = a :: blanks ++ [b] ∧
      cs = taken ++ rest := by
  cases cs with
  | nil => cases h
  | cons c cs =>
    rw [emptyPair?] at h
    split at h
    next hc =>
      split at h
      next d r hd =>
        split at h
        next hdb =>
          simp only [Option.some.injEq, Prod.mk.injEq] at h
          obtain ⟨rfl, rfl⟩ := h
          -- the blanks are those that were dropped between the two signs
          refine ⟨cs.takeWhile isBlank, List.all_eq_true.mp List.all_takeWhile,
            by rw [hc, hdb], ?_⟩
          rw [List.cons_append, List.cons_append, List.append_assoc, List.singleton_append, ← hd]
          exact congrArg _ List.takeWhile_append_dropWhile.symm
        next => cases h
      next => cases h
    next => cases h

/-- A pair written without blanks. -/
theorem emptyPair?_cons {a b : Char} (hb : isBlank b = false) :
    emptyPair? a b (a :: b :: k) = some ([a, b], k) := by
  simp [emptyPair?, hb]

theorem emptyPair?_eq_none {a b : Char} (h : cs.head? ≠ some a) : emptyPair? a b cs = none := by
  cases cs with
  | nil => rfl
  | cons c cs => exact if_neg fun hc => h (by rw [hc]; rfl)

/-! ### Reading a sign -/

/-- **What is read as a sign** is one. A pair may be written with blanks inside, any other sign is taken
as it is written. -/
theorem operatorSign?_eq_some (h : operatorSign? cs = some (s, taken, rest)) :
    IsSign s ∧ cs = taken ++ rest ∧
      (taken = s.toList ∨ (s = "[]" ∨ s = "()") ∧ ∃ a b blanks, (∀ x ∈ blanks, isBlank x = true) ∧
        s.toList = [a, b] ∧ taken = a :: blanks ++ [b]) := by
  -- the two pairs are tried first, and then the table
  unfold operatorSign? at h
  split at h
  next t r hp =>
    simp only [Option.some.injEq, Prod.mk.injEq] at h
    obtain ⟨rfl, rfl, rfl⟩ := h
    obtain ⟨blanks, hb, ht, hcs⟩ := emptyPair?_eq_some hp
    exact ⟨Or.inl rfl, hcs, Or.inr ⟨Or.inl rfl, '[', ']', blanks, hb, rfl, ht⟩⟩
  next =>
    split at h
    next t r hp =>
      simp only [Option.some.injEq, Prod.mk.injEq] at h
      obtain ⟨rfl, rfl, rfl⟩ := h
      obtain ⟨blanks, hb, ht, hcs⟩ := emptyPair?_eq_some hp
      exact ⟨Or.inr (Or.inl rfl), hcs, Or.inr ⟨Or.inr rfl, '(', ')', blanks, hb, rfl, ht⟩⟩
    next =>
      obtain ⟨t, ht, hf⟩ := List.exists_of_findSome?_eq_some h
      obtain ⟨r, hr, he⟩ := Option.map_eq_some_iff.mp hf
      simp only [Prod.mk.injEq] at he
      obtain ⟨rfl, rfl, rfl⟩ := he
      exact ⟨Or.inr (Or.inr ht), behind?_eq_some_iff.mp hr, Or.inl rfl⟩

/-- A pair is read in front of every text. -/
theorem operatorSign?_pair (h : s = "[]" ∨ s = "()") :
    operatorSign? (s.toList ++ k) = some (s, s.toList, k) := by
  rcases h with rfl | rfl
  · have hp : emptyPair? '[' ']' ("[]".toList ++ k) = some (['[', ']'], k) :=
      emptyPair?_cons (by decide)
    rw [operatorSign?, hp]
    rfl
  · -- the square brackets are asked for first
    have hp : emptyPair? '(' ')' ("()".toList ++ k) = some (['(', ')'], k) :=
      emptyPair?_cons (by decide)
    have hn : emptyPair? '[' ']' ("()".toList ++ k) = none :=
      emptyPair?_eq_none fun h => absurd (Option.some.inj h) (by decide)
    rw [operatorSign?, hn, hp]
    rfl

/-- Where no pair stands, the first sign of the table is read that stands there. -/
theorem operatorSign?_of_head? (h₁ : cs.head? ≠ some '[') (h₂ : cs.head? ≠ some '(') :
    operatorSign? cs = operatorSigns.findSome? fun sign =>
      (behind? sign.toList cs).map fun rest => (sign, sign.toList, rest) := by
  rw [operatorSign?, emptyPair?_eq_none h₁, emptyPair?_eq_none h₂]

/-- **The sign that is found** stands at its place, and it begins no other sign of the table that does. -/
theorem findSome?_operatorSigns (h : (operatorSigns.findSome? fun sign =>
      (behind? sign.toList cs).map fun rest => (sign, sign.toList, rest)) = some (s, taken, rest)) :
    s ∈ operatorSigns ∧ cs = s.toList ++ rest ∧ taken = s.toList ∧
      ∀ t ∈ operatorSigns, s.toList <+: t.toList → t.toList <+: cs → t = s := by
  -- the table in front of the sign that is found, and behind it
  obtain ⟨l₁, u, l₂, hl, hu, hbefore⟩ := List.findSome?_eq_some_iff.mp h
  obtain ⟨r, hr, he⟩ := Option.map_eq_some_iff.mp hu
  simp only [Prod.mk.injEq] at he
  obtain ⟨rfl, rfl, rfl⟩ := he
  refine ⟨by rw [hl]; simp, behind?_eq_some_iff.mp hr, rfl, fun t ht hut htcs => ?_⟩
  have hp := pairwise_operatorSigns
  rw [hl] at ht hp
  rcases List.mem_append.mp ht with ht | ht
  · -- an earlier sign would have been found first
    have hn := hbefore t ht
    obtain ⟨tail, htail⟩ := htcs
    rw [← htail, behind?_append] at hn
    cases hn
  · rcases List.mem_cons.mp ht with ht | ht
    · exact ht
    · -- a later sign does not begin with the one that is found
      exact absurd hut ((List.pairwise_cons.mp (List.pairwise_append.mp hp).2.1).1 t ht)

/-- **A sign of the table is read before a text exactly if it stands before it.** -/
theorem operatorSign?_append_iff (hs : s ∈ operatorSigns) :
    operatorSign? (s.toList ++ k) = some (s, s.toList, k) ↔ SignStands s k := by
  obtain ⟨h₁, h₂⟩ := head?_ne_of_mem_operatorSigns hs
  obtain ⟨x, w, hx, -⟩ := exists_cons_of_isSign (Or.inr (Or.inr hs))
  have hhead : (s.toList ++ k).head? = s.toList.head? := by rw [hx]; rfl
  rw [operatorSign?_of_head? (hhead ▸ h₁) (hhead ▸ h₂)]
  constructor
  · exact fun h => (findSome?_operatorSigns h).2.2.2
  · intro h
    cases hf : operatorSigns.findSome? fun sign =>
        (behind? sign.toList (s.toList ++ k)).map fun rest => (sign, sign.toList, rest) with
    | none =>
      have hn := List.findSome?_eq_none_iff.mp hf s hs
      rw [behind?_append] at hn
      cases hn
    | some found =>
      obtain ⟨u, taken, rest⟩ := found
      obtain ⟨hu, hcs, rfl, hmax⟩ := findSome?_operatorSigns hf
      have hutext : u.toList <+: s.toList ++ k := ⟨rest, hcs.symm⟩
      have hstext : s.toList <+: s.toList ++ k := List.prefix_append _ k
      -- of two signs at one place the shorter begins the longer, and neither begins another
      have hsu : s = u := by
        rcases List.prefix_or_prefix_of_prefix hutext hstext with hprefix | hprefix
        · exact hmax s hs hprefix hstext
        · exact (h u hu hprefix hutext).symm
      subst hsu
      rw [List.append_cancel_left hcs]

/-- A sign that was read is one that stands before what is left of its own text. -/
theorem signStands_of_operatorSign? (hs : IsSign s)
    (h : operatorSign? (s.toList ++ k) = some (s, taken, rest)) :
    (s ∈ operatorSigns → SignStands s k) ∧ taken = s.toList ∧ rest = k := by
  -- a pair is read whatever follows, a sign of the table only where it stands
  rcases hs with hs | hs | hs
  · rw [operatorSign?_pair (Or.inl hs)] at h
    simp only [Option.some.injEq, Prod.mk.injEq, true_and] at h
    exact ⟨fun hm => absurd (hs ▸ hm) (by decide), h.1.symm, h.2.symm⟩
  · rw [operatorSign?_pair (Or.inr hs)] at h
    simp only [Option.some.injEq, Prod.mk.injEq, true_and] at h
    exact ⟨fun hm => absurd (hs ▸ hm) (by decide), h.1.symm, h.2.symm⟩
  · obtain ⟨-, hcs, ht⟩ := operatorSign?_eq_some h
    obtain rfl : taken = s.toList := by
      refine ht.resolve_right ?_
      rintro ⟨hpair, -⟩
      rcases hpair with rfl | rfl <;> exact absurd hs (by decide)
    obtain rfl := List.append_cancel_left hcs
    exact ⟨fun _ => (operatorSign?_append_iff hs).mp h, rfl, rfl⟩

/-- The text of a sign begins as the sign does. -/
theorem head?_of_operatorSign? (h : operatorSign? cs = some (s, taken, rest)) :
    cs.head? = s.toList.head? := by
  obtain ⟨hs, hcs, ht⟩ := operatorSign?_eq_some h
  obtain ⟨x, w, hx, -⟩ := exists_cons_of_isSign hs
  rcases ht with rfl | ⟨-, a, b, blanks, -, hab, rfl⟩
  · rw [hcs, hx]
    rfl
  · rw [hcs, hab]
    rfl

/-- No sign begins like a word. -/
theorem operatorSign?_eq_none (h : ∀ x ∈ cs.head?, isAsciiWordChar x = true) :
    operatorSign? cs = none := by
  cases hs : operatorSign? cs with
  | none => rfl
  | some r =>
    obtain ⟨s, taken, rest⟩ := r
    -- a sign would stand in front of the text, and none begins with a word character
    have hhead := head?_of_operatorSign? hs
    obtain ⟨x, w, hx, hw, -⟩ :=
      exists_cons_of_isSign (operatorSign?_eq_some hs).1
    rw [hx] at hhead
    rw [h x hhead] at hw
    cases hw

/-- A `~` is a sign by itself. -/
theorem operatorSign?_tilde : operatorSign? ('~' :: k) = some ("~", ['~'], k) := by
  have hall : ∀ t ∈ operatorSigns, "~".toList <+: t.toList → t = "~" := by
    decide +kernel
  exact (operatorSign?_append_iff (s := "~") (by decide)).mpr fun t ht hst _ => hall t ht hst

end CppIndex.Text
