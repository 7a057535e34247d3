import CppIndex.Proofs.Cursor.Leads

/-!
# Places in a text

A cursor keeps the characters it has read, and its offset counts their bytes. So the text falls into two
parts at the cursor, what was read and what is left, and the offset is the size of the first
(`Cursor.text_eq_append`). From this it follows that the offset lies between two characters of the text
(`Cursor.isValid_offset`), that it never goes back along a way that a cursor leads (`Cursor.Leads.offset_le`),
and that it goes forward when anything is read (`Cursor.Leads.offset_lt`).

Where reading fails, the error tells the offset of the place, the text and the cause
(`Reading.toExcept_eq_error_iff`).
-/

namespace CppIndex

namespace Cursor

variable {c c' : Cursor}

/-! ### Two parts of a text -/

/-- What was read. -/
def front (c : Cursor) : String := String.ofList c.before.reverse

/-- **The offset** is the size of what was read. -/
theorem offset_eq (c : Cursor) : c.offset = c.front.utf8ByteSize := by
  -- the sum over the reversed text, generalised over what was added up before
  have hfold : ∀ (cs : List Char) (n : Nat), cs.foldl (fun bytes x => bytes + x.utf8Size) n =
      n + (String.ofList cs.reverse).utf8ByteSize := by
    intro cs
    induction cs with
    | nil => exact fun n => rfl
    | cons x cs ih =>
      intro n
      rw [List.foldl_cons, ih, List.reverse_cons, String.ofList_append, String.utf8ByteSize_append]
      have hx : (String.ofList [x]).utf8ByteSize = x.utf8Size := String.utf8ByteSize_singleton
      omega
  rw [offset, hfold, Nat.zero_add]
  rfl

/-- **What was read stands in front of what is left.** -/
theorem text_eq_append (c : Cursor) : c.text = c.front ++ String.ofList c.rest :=
  String.ofList_append

/-- The offset lies between two characters, or at an end of the text. -/
theorem isValid_offset (c : Cursor) : String.Pos.Raw.IsValid c.text ⟨c.offset⟩ := by
  refine String.Pos.Raw.isValid_iff_exists_append.mpr ⟨_, _, c.text_eq_append, ?_⟩
  rw [offset_eq]
  rfl

theorem offset_le (c : Cursor) : c.offset ≤ c.text.utf8ByteSize := c.isValid_offset.le_rawEndPos

/-- At the beginning everything is left of the trimmed text. -/
theorem text_ofText (text : String) : (ofText text).text = Text.trimmed text := rfl

/-! ### Going on -/

theorem Leads.length_rest_le (h : c.Leads c') : c'.rest.length ≤ c.rest.length := by
  obtain ⟨taken, hrest, -⟩ := h
  rw [hrest, List.length_append]
  exact Nat.le_add_left _ _

/-- What was read is read on. -/
theorem Leads.exists_front (h : c.Leads c') : ∃ taken, c.rest = taken ++ c'.rest ∧
    c'.front = c.front ++ String.ofList taken := by
  obtain ⟨taken, hrest, hc'⟩ := h
  refine ⟨taken, hrest, ?_⟩
  rw [front, hc', moved, List.reverse_append, List.reverse_reverse, String.ofList_append]
  rfl

/-- **The offset never goes back.** -/
theorem Leads.offset_le (h : c.Leads c') : c.offset ≤ c'.offset := by
  obtain ⟨taken, -, hfront⟩ := h.exists_front
  rw [offset_eq, offset_eq, hfront, String.utf8ByteSize_append]
  exact Nat.le_add_right _ _

/-- **Where anything is read, the offset goes forward**: every character has at least one byte. -/
theorem Leads.offset_lt (h : c.Leads c') (hlt : c'.rest.length < c.rest.length) :
    c.offset < c'.offset := by
  obtain ⟨taken, hrest, hfront⟩ := h.exists_front
  -- a text of no bytes is empty, and something was taken
  have hpos : 0 < (String.ofList taken).utf8ByteSize := by
    refine Nat.pos_of_ne_zero fun hzero => ?_
    have hempty := congrArg String.toList (String.utf8ByteSize_eq_zero_iff.mp hzero)
    obtain rfl : taken = [] := by rwa [String.toList_ofList] at hempty
    rw [hrest] at hlt
    exact absurd hlt (by simp)
  rw [offset_eq, offset_eq, hfront, String.utf8ByteSize_append]
  omega

end Cursor

/-! ### Where reading fails -/

namespace Reading

variable {α : Type} {r : Reading α} {e : ParseError}

/-- **An error tells where reading stopped**, in which text, and why. -/
theorem toExcept_eq_error_iff : r.toExcept = .error e ↔
    ∃ cause, r = .failed cause r.cursor ∧ e = ⟨cause, .point r.cursor.offset, r.cursor.text⟩ := by
  cases r with
  | done value c => simp [toExcept]
  | failed cause c => simp [toExcept, cursor, eq_comm]

end Reading

end CppIndex
