import CppIndex.Proofs.Cursor.Lexeme

/-!
# Array bounds

What stands between `[` and the first `]` behind at least one character of the line is the bound of an
array. A text that is found this way is found again wherever it is written between brackets, whatever
follows (`Text.IsBound`, `Text.isBound_of_boundText?`). Without a bound this is not so: `[]` is read as
brackets around nothing only if no `]` follows on the line.
-/

namespace CppIndex

namespace Text

/-- **A bound**: a text that does not begin with a blank and that is read between brackets as it
stands. -/
structure IsBound (b : List Char) : Prop where
  /-- The first character is no blank. -/
  start : ∃ x ∈ b.head?, isBlank x = false
  /-- The first closing bracket behind it closes it. -/
  reads : ∀ k, boundText? (b ++ ']' :: k) = some (b, k)

theorem boundText?_cons_close {x : Char} {cs rest : List Char} (hx : x ≠ '\n')
    (h : dropBlank cs = ']' :: rest) : boundText? (x :: cs) = some ([x], rest) := by
  simp [boundText?, hx, h]

theorem boundText?_cons_next {x : Char} {cs : List Char} (hx : x ≠ '\n')
    (h : (dropBlank cs).head? ≠ some ']') :
    boundText? (x :: cs) = (boundText? cs).map fun (b, rest) => (x :: b, rest) := by
  have hno : ∀ rest, dropBlank cs ≠ ']' :: rest := fun rest hd => h (by rw [hd]; rfl)
  rw [boundText?, if_neg hx]
  split
  next rest hd => exact absurd hd (hno rest)
  next => rfl

@[simp] theorem boundText?_newline (cs : List Char) : boundText? ('\n' :: cs) = none := by
  simp [boundText?]

/-- In front of something that begins with a closing bracket, a text begins otherwise exactly if it holds
more than blanks, of which the first is no bracket. -/
theorem head?_dropBlank_append_ne {cs ds : List Char} (hd : (dropBlank ds).head? = some ']') :
    (dropBlank (cs ++ ds)).head? ≠ some ']' ↔ ∃ x ∈ (dropBlank cs).head?, x ≠ ']' := by
  cases hc : dropBlank cs with
  | nil =>
    rw [dropBlank_append_of_blanks (forall_isBlank_of_dropBlank_eq_nil hc), hd]
    simp
  | cons x xs =>
    rw [dropBlank_append_of_ne_nil (by rw [hc]; exact List.cons_ne_nil x xs), hc]
    simp

theorem head?_dropBlank_close (k : List Char) : (dropBlank (']' :: k)).head? = some ']' := by
  rw [dropBlank_cons_of_not_blank (by decide)]
  rfl

/-- **What is found as a bound**: the text in front of some blanks and a closing bracket. -/
theorem boundText?_eq_some {cs b rest : List Char} (h : boundText? cs = some (b, rest)) :
    (∃ blanks, (∀ x ∈ blanks, isBlank x = true) ∧ cs = b ++ blanks ++ ']' :: rest) ∧
      ∀ k, boundText? (b ++ ']' :: k) = some (b, k) := by
  induction cs generalizing b rest with
  | nil => cases h
  | cons x cs ih =>
    have hx : x ≠ '\n' := by
      rintro rfl
      rw [boundText?_newline] at h
      cases h
    by_cases hd : (dropBlank cs).head? = some ']'
    · -- only blanks stand between the last character of the bound and the bracket
      obtain ⟨r, hr⟩ := List.head?_eq_some_iff.mp hd
      rw [boundText?_cons_close hx hr] at h
      obtain ⟨rfl, rfl⟩ := Prod.mk.inj (Option.some.inj h)
      refine ⟨⟨cs.takeWhile isBlank, List.all_eq_true.mp List.all_takeWhile, ?_⟩, fun k => ?_⟩
      · rw [← hr, List.singleton_append, List.cons_append]
        exact congrArg _ List.takeWhile_append_dropWhile.symm
      · exact boundText?_cons_close hx (dropBlank_cons_of_not_blank (by decide))
    · rw [boundText?_cons_next hx hd] at h
      obtain ⟨⟨b', rest'⟩, hb, he⟩ := Option.map_eq_some_iff.mp h
      obtain ⟨rfl, rfl⟩ := Prod.mk.inj he
      obtain ⟨⟨blanks, hblanks, hcs⟩, hk⟩ := ih hb
      refine ⟨⟨blanks, hblanks, by rw [hcs]; simp⟩, fun k => ?_⟩
      -- the bound holds a character that is no blank, and the first of them is not the bracket
      have hfirst : ∃ y ∈ (dropBlank b').head?, y ≠ ']' := by
        rw [hcs, List.append_assoc] at hd
        refine (head?_dropBlank_append_ne ?_).mp hd
        rw [dropBlank_append_of_blanks hblanks, head?_dropBlank_close]
      have hnext := (head?_dropBlank_append_ne (head?_dropBlank_close k)).mpr hfirst
      rw [List.cons_append, boundText?_cons_next hx hnext, hk]
      rfl

/-- What is found behind an opening bracket is a bound. -/
theorem isBound_of_boundText? {cs b rest : List Char}
    (h : boundText? (dropBlank cs) = some (b, rest)) : IsBound b := by
  obtain ⟨⟨blanks, -, hcs⟩, hk⟩ := boundText?_eq_some h
  refine ⟨?_, hk⟩
  cases b with
  | nil => exact absurd (hk []) (by decide)
  | cons x b =>
    have hx : x ∈ (dropBlank cs).head? := by rw [hcs]; rfl
    exact ⟨x, rfl, isBlank_of_mem_head?_dropBlank hx⟩

/-- A text on one line, without closing brackets and without a blank at its end, is found as it stands. -/
theorem boundText?_append_close {b : List Char} (hn : b ≠ [])
    (hlast : ∀ x ∈ b.getLast?, isBlank x = false) (hall : ∀ x ∈ b, x ≠ ']' ∧ x ≠ '\n')
    (k : List Char) : boundText? (b ++ ']' :: k) = some (b, k) := by
  induction b with
  | nil => exact absurd rfl hn
  | cons x b ih =>
    have hx := (hall x (List.mem_cons_self ..)).2
    by_cases hne : b = []
    · subst hne
      exact boundText?_cons_close hx (dropBlank_cons_of_not_blank (by decide))
    · have hlast' : ∀ z ∈ b.getLast?, isBlank z = false := fun z hz =>
        hlast z (by rw [List.getLast?_cons, hz]; rfl)
      have hk := ih hne hlast' fun z hz => hall z (List.mem_cons_of_mem _ hz)
      -- the last character is no blank, so not all are dropped
      have hfirst : ∃ y ∈ (dropBlank b).head?, y ≠ ']' := by
        cases hd : dropBlank b with
        | nil =>
          have hblank := forall_isBlank_of_dropBlank_eq_nil hd _ (List.getLast_mem hne)
          rw [hlast' _ (List.getLast?_eq_some_getLast hne)] at hblank
          cases hblank
        | cons y ys =>
          have hmem : y ∈ b := (List.dropWhile_suffix isBlank).subset
            (hd ▸ List.mem_cons_self .. : y ∈ dropBlank b)
          exact ⟨y, rfl, (hall y (List.mem_cons_of_mem _ hmem)).1⟩
      have hnext := (head?_dropBlank_append_ne (head?_dropBlank_close k)).mpr hfirst
      rw [List.cons_append, boundText?_cons_next hx hnext, hk]
      rfl

/-- **A text on one line, without closing brackets and without blanks around it, is a bound.** -/
theorem isBound_of_forall {b : List Char} (hn : b ≠ [])
    (hfirst : ∀ x ∈ b.head?, isBlank x = false) (hlast : ∀ x ∈ b.getLast?, isBlank x = false)
    (hall : ∀ x ∈ b, x ≠ ']' ∧ x ≠ '\n') : IsBound b := by
  obtain ⟨x, b', rfl⟩ := List.exists_cons_of_ne_nil hn
  exact ⟨⟨x, rfl, hfirst x rfl⟩, boundText?_append_close hn hlast hall⟩

/-! ### Array suffixes -/

/-- A suffix with a bound is read as far as the bracket that closes it. -/
theorem arrayBound?_bound {b k : List Char} (h : IsBound b) :
    arrayBound? ('[' :: b ++ ']' :: k) = some (some (String.ofList b), k) := by
  obtain ⟨x, hx, hb⟩ := h.start
  have hd : dropBlank (b ++ ']' :: k) = b ++ ']' :: k :=
    dropBlank_eq_self fun y hy => by
      rw [List.head?_append, hx] at hy
      rw [← Option.some.inj hy]
      exact hb
  simp [arrayBound?, hd, h.reads k]

/-- **Brackets around nothing** are read as such exactly if nothing on the line can be their bound. -/
theorem arrayBound?_empty (k : List Char) : arrayBound? ('[' :: ']' :: k) =
    match boundText? (']' :: k) with
    | some (b, rest) => some (some (String.ofList b), rest)
    | none => some (none, k) := by
  have hd : dropBlank (']' :: k) = ']' :: k := dropBlank_cons_of_not_blank (by decide)
  rw [arrayBound?, hd]
  cases boundText? (']' :: k) <;> rfl

/-- **What is read as an array suffix**: brackets around blanks, or around a bound with blanks beside
it. -/
theorem arrayBound?_eq_some {cs rest : List Char} {size : Option String}
    (h : arrayBound? cs = some (size, rest)) :
    (∀ s ∈ size, IsBound s.toList) ∧ ∃ front back,
      (∀ x ∈ front, isBlank x = true) ∧ (∀ x ∈ back, isBlank x = true) ∧
        cs = '[' :: front ++ (size.getD "").toList ++ back ++ ']' :: rest := by
  unfold arrayBound? at h
  split at h
  next cs =>
    have hsplit : cs.takeWhile isBlank ++ dropBlank cs = cs := List.takeWhile_append_dropWhile
    have hfront : ∀ x ∈ cs.takeWhile isBlank, isBlank x = true :=
      List.all_eq_true.mp List.all_takeWhile
    -- brackets around a bound, or around nothing but blanks
    split at h
    next b r hb =>
      simp only [Option.some.injEq, Prod.mk.injEq] at h
      obtain ⟨rfl, rfl⟩ := h
      obtain ⟨⟨blanks, hblanks, hcs⟩, -⟩ := boundText?_eq_some hb
      refine ⟨fun s hs => ?_, _, blanks, hfront, hblanks, ?_⟩
      · rw [← Option.some.inj hs, String.toList_ofList]
        exact isBound_of_boundText? hb
      · rw [Option.getD_some, String.toList_ofList, List.cons_append, List.cons_append,
          List.cons_append, List.append_assoc, List.append_assoc, ← List.append_assoc b, ← hcs, hsplit]
    next =>
      split at h
      next r hr =>
        simp only [Option.some.injEq, Prod.mk.injEq] at h
        obtain ⟨rfl, rfl⟩ := h
        refine ⟨by simp, _, [], hfront, by simp, ?_⟩
        rw [Option.getD_none, String.toList_empty, List.append_nil, List.append_nil,
          List.cons_append, ← hr, hsplit]
      next => cases h
  next => cases h

/-- **A suffix that is read as it is written** ends at the bracket that was written behind its bound. -/
theorem eq_of_arrayBound?_eq_some {size : Option String} {k rest : List Char}
    (h : arrayBound? ('[' :: (size.getD "").toList ++ ']' :: k) = some (size, rest)) :
    rest = k ∧ (size = none → boundText? (']' :: k) = none) := by
  cases size with
  | none =>
    rw [Option.getD_none, String.toList_empty, List.cons_append, List.nil_append,
      arrayBound?_empty] at h
    -- an empty pair is taken only if nothing up to a later bracket would be the bound
    split at h
    next => cases h
    next hnone =>
      simp only [Option.some.injEq, Prod.mk.injEq, true_and] at h
      exact ⟨h.symm, fun _ => hnone⟩
  | some s =>
    -- a bound that was found is one, so the reader stops where it was written
    have hbound : IsBound s.toList := (arrayBound?_eq_some h).1 s rfl
    rw [Option.getD_some, arrayBound?_bound hbound] at h
    simp only [Option.some.injEq, Prod.mk.injEq] at h
    exact ⟨h.2.symm, nofun⟩

/-- No array suffix is read where no bracket opens. -/
theorem arrayBound?_eq_none {cs : List Char} (h : cs.head? ≠ some '[') : arrayBound? cs = none := by
  unfold arrayBound?
  split
  next => exact absurd rfl h
  next => rfl

end Text

namespace Cursor

variable {c c' : Cursor}

/-- Over an array suffix at the cursor. -/
theorem arrayBound?_eq_some {size : Option String} (h : c.arrayBound? = some (size, c')) :
    Text.arrayBound? c.rest = some (size, c'.rest) ∧
      ∃ taken, c.rest = taken ++ c'.rest ∧ c' = c.moved taken c'.rest ∧ taken ≠ [] := by
  obtain ⟨⟨size', rest⟩, hr, he⟩ := Option.map_eq_some_iff.mp h
  obtain ⟨rfl, rfl⟩ := Prod.mk.inj he
  obtain ⟨-, front, back, -, -, hcs⟩ := Text.arrayBound?_eq_some hr
  -- what was taken: the brackets, the blanks inside of them and the bound
  have hsplit : c.rest = ('[' :: front ++ (size'.getD "").toList ++ back ++ [']']) ++ rest := by
    rw [hcs, List.append_assoc _ [']'] rest]
    rfl
  refine ⟨hr, _, hsplit, ?_, by simp⟩
  simp only [movedTo, rest_moved]
  rw [hsplit, List.length_append, Nat.add_sub_cancel, List.take_left]

theorem arrayBound?_of_append {size : Option String} {taken k : List Char}
    (hc : c.rest = taken ++ k) (h : Text.arrayBound? c.rest = some (size, k)) :
    c.arrayBound? = some (size, c.moved taken k) := by
  have ht : c.rest.take (c.rest.length - k.length) = taken := by
    rw [hc, List.length_append, Nat.add_sub_cancel, List.take_left]
  simp only [arrayBound?, h, Option.map_some, movedTo, ht]

/-- No array suffix is read where no bracket opens. -/
theorem arrayBound?_eq_none (h : c.rest.head? ≠ some '[') : c.arrayBound? = none := by
  rw [arrayBound?, Text.arrayBound?_eq_none h]
  rfl

end Cursor

end CppIndex
