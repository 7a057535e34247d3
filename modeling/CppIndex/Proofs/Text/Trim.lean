import CppIndex.Proofs.Cursor.Reading

/-!
# Trimming

A text that is trimmed loses the blanks at its two ends and nothing else (`Text.exists_blanks_trim`): what is
left has none there (`Text.isTrimmed_trim`).
-/

namespace CppIndex.Text

/-- Trimming at the end leaves out blanks. -/
theorem trimEnd_append (cs : List Char) :
    ∃ blanks, cs = trimEnd cs ++ blanks ∧ (∀ x ∈ blanks, isBlank x = true) ∧
      ∀ x ∈ (trimEnd cs).getLast?, isBlank x = false := by
  -- the end of a text is the beginning of the reversed one
  refine ⟨(cs.reverse.takeWhile isBlank).reverse, ?_, ?_, ?_⟩
  · rw [trimEnd, ← List.reverse_append, List.takeWhile_append_dropWhile, List.reverse_reverse]
  · intro x hx
    exact List.all_eq_true.mp List.all_takeWhile x (List.mem_reverse.mp hx)
  · intro x hx
    rw [trimEnd, List.getLast?_reverse] at hx
    exact isBlank_of_mem_head?_dropBlank hx

/-- What is left of a text at its end begins as the text does, if anything is left. -/
theorem head?_trimEnd (cs : List Char) : trimEnd cs = [] ∨ (trimEnd cs).head? = cs.head? := by
  obtain ⟨blanks, hcs, -, -⟩ := trimEnd_append cs
  cases hends : trimEnd cs with
  | nil => exact Or.inl rfl
  | cons x xs =>
    refine Or.inr ?_
    rw [hcs, hends]
    rfl

/-- **Two texts in a row** are trimmed at the end of the second one, or, if nothing is left of that, at the end
of the first. -/
theorem trimEnd_append_eq (cs ds : List Char) :
    trimEnd (cs ++ ds) = if trimEnd ds = [] then trimEnd cs else cs ++ trimEnd ds := by
  simp only [trimEnd, List.reverse_append, List.dropWhile_append, List.isEmpty_iff, List.reverse_eq_nil_iff]
  split
  · rfl
  · rw [List.reverse_append, List.reverse_reverse]

/-- A trimmed text has no blanks at its ends. -/
theorem isTrimmed_trim (cs : List Char) : IsTrimmed (trim cs) := by
  obtain ⟨blanks, hcs, -, hlast⟩ := trimEnd_append (dropBlank cs)
  refine ⟨fun x hx => ?_, hlast⟩
  -- what trimming leaves begins like the text behind its first blanks
  have hhead : x ∈ (dropBlank cs).head? := by
    rw [trim, Option.mem_def] at hx
    rw [hcs, List.head?_append, hx]
    rfl
  exact isBlank_of_mem_head?_dropBlank hhead

/-- What is left of a text when it is trimmed stands between blanks. -/
theorem exists_blanks_trim (cs : List Char) : ∃ front back, cs = front ++ trim cs ++ back ∧
    (∀ x ∈ front, isBlank x = true) ∧ ∀ x ∈ back, isBlank x = true := by
  obtain ⟨back, hback, hblank, -⟩ := trimEnd_append (dropBlank cs)
  refine ⟨cs.takeWhile isBlank, back, ?_, List.all_eq_true.mp List.all_takeWhile, hblank⟩
  rw [List.append_assoc, trim, ← hback]
  exact List.takeWhile_append_dropWhile.symm

/-- Trimming makes a text no larger. -/
theorem utf8ByteSize_trimmed_le (text : String) : (trimmed text).utf8ByteSize ≤ text.utf8ByteSize := by
  obtain ⟨front, back, htext, -, -⟩ := exists_blanks_trim text.toList
  have hsplit : text = String.ofList front ++ trimmed text ++ String.ofList back := by
    rw [trimmed, ← String.ofList_append, ← String.ofList_append, ← htext, String.ofList_toList]
  have hsize := congrArg String.utf8ByteSize hsplit
  rw [String.utf8ByteSize_append, String.utf8ByteSize_append] at hsize
  omega

end CppIndex.Text
