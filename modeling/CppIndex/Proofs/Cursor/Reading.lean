import CppIndex.Proofs.Cursor.Lexeme

/-!
# Readings that succeed

When a reading that is made of others succeeds, and what it means that a whole text is read
(`Reading.complete_eq_ok_iff`): behind what was read nothing but blanks is left. A text that neither
begins nor ends with a blank is read from its first character to its last (`Cursor.ofText_ofList`).
-/

namespace CppIndex

namespace Reading

variable {α β : Type} {r : Reading α} {v : β} {c' : Cursor}

/-- Reading on succeeds exactly if both parts do. -/
theorem andThen_eq_done {f : α → Cursor → Reading β} :
    r.andThen f = .done v c' ↔ ∃ a c, r = .done a c ∧ f a c = .done v c' := by
  cases r with
  | done a c =>
    constructor
    · exact fun h => ⟨a, c, rfl, h⟩
    · rintro ⟨a', c₁, he, h⟩
      simp only [Reading.done.injEq] at he
      obtain ⟨rfl, rfl⟩ := he
      exact h
  | failed cause c =>
    constructor
    · intro h
      cases h
    · rintro ⟨a, c₁, he, -⟩
      cases he

theorem map_eq_done {f : α → β} : r.map f = .done v c' ↔ ∃ a, r = .done a c' ∧ f a = v := by
  rw [Reading.map, andThen_eq_done]
  constructor
  · rintro ⟨a, c, rfl, h⟩
    simp only [Reading.done.injEq] at h
    obtain ⟨rfl, rfl⟩ := h
    exact ⟨a, rfl, rfl⟩
  · rintro ⟨a, rfl, rfl⟩
    exact ⟨a, c', rfl, rfl⟩

/-- **A whole text is read** if nothing but blanks is left behind. -/
theorem complete_eq_ok_iff {r : Reading α} {v : α} :
    r.complete = .ok v ↔ ∃ c, r = .done v c ∧ Text.dropBlank c.rest = [] := by
  cases r with
  | failed cause c =>
    constructor
    · intro h
      cases h
    · rintro ⟨c₁, he, -⟩
      cases he
  | done a c =>
    -- A finished reading asks only whether something besides blanks is left.
    have hfinish : (Reading.done a c).complete =
        if Text.dropBlank c.rest = [] then .ok a
        else .error ⟨.trailingInput (String.ofList c.skipBlank.rest), .point c.skipBlank.offset,
          c.skipBlank.text⟩ := by
      unfold Reading.complete Cursor.finish Reading.map
      cases hd : Text.dropBlank c.rest with
      | nil => simp [Cursor.atEnd, hd, Reading.toExcept]
      | cons x xs => simp [Cursor.atEnd, hd, Reading.toExcept]
    rw [hfinish]
    constructor
    · intro h
      split at h
      next hd => exact ⟨c, by rw [Except.ok.inj h], hd⟩
      next => cases h
    · rintro ⟨c₁, he, hd⟩
      simp only [Reading.done.injEq] at he
      obtain ⟨rfl, rfl⟩ := he
      exact if_pos hd

end Reading

namespace Text

/-- **A text without blanks at its ends.** -/
structure IsTrimmed (cs : List Char) : Prop where
  /-- None at the front. -/
  front : ∀ x ∈ cs.head?, isBlank x = false
  /-- None at the back. -/
  back : ∀ x ∈ cs.getLast?, isBlank x = false

/-- Trimming changes nothing in such a text. -/
theorem IsTrimmed.trim_eq {cs : List Char} (h : IsTrimmed cs) : trim cs = cs := by
  have hback : cs.reverse.dropWhile isBlank = cs.reverse := dropBlank_eq_self (by
    rw [List.head?_reverse]
    exact h.back)
  rw [trim, dropBlank_eq_self h.front, trimEnd, hback, List.reverse_reverse]

/-- Blanks behind such a text are all that is trimmed. -/
theorem IsTrimmed.trim_append {cs blanks : List Char} (h : IsTrimmed cs)
    (hb : ∀ x ∈ blanks, isBlank x = true) : trim (cs ++ blanks) = cs := by
  -- The first character keeps the front from being trimmed and the last one stops the trimming behind.
  rcases List.eq_nil_or_concat cs with rfl | ⟨front, x, rfl⟩
  · have hnil : dropBlank blanks = [] := by
      rw [← List.append_nil blanks]
      exact List.dropWhile_append_of_pos hb
    rw [List.nil_append, trim, hnil]
    rfl
  · rw [List.concat_eq_append] at h ⊢
    have hx := h.back x List.getLast?_concat
    have hhead : dropBlank (front ++ [x] ++ blanks) = front ++ [x] ++ blanks := by
      refine dropBlank_eq_self fun y hy => h.front y ?_
      rw [List.head?_append] at hy
      cases front with
      | nil => exact hy
      | cons z front => exact hy
    rw [trim, hhead, trimEnd, List.reverse_append, List.dropWhile_append_of_pos (by simpa using hb)]
    simp [hx]

end Text

namespace Cursor

/-- The cursor at the beginning of a text without blanks at its ends. -/
theorem ofText_of_isTrimmed {text : String} (h : Text.IsTrimmed text.toList) :
    ofText text = ⟨[], text.toList⟩ := by
  rw [ofText, h.trim_eq]

end Cursor

end CppIndex
