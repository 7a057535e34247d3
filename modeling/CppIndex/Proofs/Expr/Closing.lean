import CppIndex.Proofs.Expr.ReadBack

/-!
# How the text of a type ends

The text of a type ends with no blank (`IsType.closes`), so that it is not shortened when it is read as
a text of its own. A type that stands in front of nothing is therefore what its canonical text is parsed
as (`Expr.parse_render_of_typeStands`).
-/

namespace CppIndex

namespace Text

variable {cs k : List Char}

/-- **A text closes** with a character that is no blank. -/
def Closes (cs : List Char) : Prop := ∃ front x, cs = front ++ [x] ∧ isBlank x = false

theorem closes_concat (cs : List Char) {x : Char} (hx : isBlank x = false) : Closes (cs ++ [x]) :=
  ⟨cs, x, rfl, hx⟩

/-- A text closes as its last part does. -/
theorem Closes.append_left (h : Closes k) (cs : List Char) : Closes (cs ++ k) := by
  obtain ⟨front, x, rfl, hx⟩ := h
  exact ⟨cs ++ front, x, by simp, hx⟩

/-- Words close. -/
theorem IsWord.closes (h : IsWord cs) : Closes cs := by
  -- the last character of a word is a word character
  rcases List.eq_nil_or_concat cs with rfl | ⟨front, x, rfl⟩
  · obtain ⟨x, w, hx, -⟩ := h.exists_cons
    cases hx
  · rw [List.concat_eq_append] at h ⊢
    exact closes_concat front (isBlank_of_isAsciiWordChar (h.all x (by simp)))

theorem IsIdentifier.closes (h : IsIdentifier cs) : Closes cs := by
  rcases h with h | ⟨w, rfl, h⟩
  · exact h.closes
  · exact h.closes.append_left ['~']

/-- Signs close. -/
theorem IsSign.closes {s : String} (h : IsSign s) : Closes s.toList := by
  -- the signs are a finite table: each is nonempty and none has a blank
  have hall : ∀ s ∈ "[]" :: "()" :: operatorSigns, s.toList ≠ [] ∧
      ∀ x ∈ s.toList, isBlank x = false := by
    decide +kernel
  obtain ⟨hne, hblank⟩ := hall s (by simpa [IsSign] using h)
  rcases List.eq_nil_or_concat s.toList with hs | ⟨front, x, hs⟩
  · exact absurd hs hne
  · rw [List.concat_eq_append] at hs
    rw [hs]
    exact closes_concat front (hblank x (by simp [hs]))

/-- What opens with a word and closes is trimmed. -/
theorem Opens.isTrimmed (ho : Opens cs) (hc : Closes cs) : IsTrimmed cs := by
  -- no blank in front because it opens with a word, none behind because it closes
  refine ⟨?_, ?_⟩
  · have h := ho.not_blank (k := [])
    rwa [List.append_nil] at h
  · obtain ⟨front, x, rfl, hx⟩ := hc
    intro y hy
    rw [List.getLast?_concat] at hy
    rw [← Option.some.inj hy]
    exact hx

end Text

namespace Expr

mutual

theorem IsComponent.closes {e : Expr} (h : IsComponent e) : Text.Closes e.chars := by
  match h with
  | .word hs _ =>
    rw [chars_name]
    exact hs.closes
  | .sign hs =>
    rw [chars_name, String.toList_append]
    exact hs.closes.append_left _
  | .allocation a isArray =>
    -- the keyword closes by itself when no brackets follow, and the bracket closes it when they do
    have hall : Text.Closes (a.keyword.toList ++ if isArray then ['[', ']'] else []) := by
      cases isArray with
      | false =>
        rw [if_neg (by decide), List.append_nil]
        exact a.isWord_keyword.closes
      | true => exact (Text.closes_concat ['['] (x := ']') (by decide)).append_left _
    rw [chars_name, Allocation.toList_operatorName]
    exact (hall.append_left [' ']).append_left _
  | .cast ht =>
    rw [chars_cast]
    exact ((IsType.closes ht).append_left [' ']).append_left _

theorem IsParts.closes {ps : List Expr} (h : IsParts ps) (hn : ps ≠ []) :
    Text.Closes (joined [':', ':'] ps) := by
  match h with
  | .nil => exact absurd rfl hn
  | @IsParts.part qs q hqs hq =>
    -- a path closes with its last component, which is all there is when nothing stands in front of it
    by_cases hqn : qs = []
    · rw [hqn, List.nil_append, joined_singleton]
      exact IsComponent.closes hq
    · rw [joined_concat _ _ hqn]
      exact (IsComponent.closes hq).append_left _
  | .template _ _ _ =>
    rw [joined_singleton, chars_template]
    exact Text.closes_concat _ (by decide)

theorem IsFront.closes {e : Expr} (h : IsFront e) : Text.Closes e.chars := by
  match h with
  | .parts hw hp hn =>
    rw [chars_fronted, chars_ofParts]
    exact (IsParts.closes hp hn).append_left _
  | .builtin hw hr =>
    -- the base word of a run is written last, whatever words are written before it
    obtain ⟨others, base, hs, hc, -⟩ := hr.canonical
    rw [chars_builtinFront hw hr hs]
    exact (hc.isWord base (by simp)).closes.append_left _

/-- **The text of a type closes.** -/
theorem IsType.closes {e : Expr} (h : IsType e) : Text.Closes e.chars := by
  match h with
  | .front hf => exact IsFront.closes hf
  | .pointer _ =>
    rw [chars_pointer]
    exact Text.closes_concat _ (by decide)
  | .reference _ =>
    rw [chars_reference]
    exact Text.closes_concat _ (by decide)
  | .array _ _ =>
    rw [chars_array]
    exact Text.closes_concat _ (by decide)
  | .const _ =>
    rw [chars_const_after]
    exact ((show Text.IsWord "const".toList by decide).closes.append_left [' ']).append_left _

end

/-- A text is parsed as the type that is read from its beginning to its end. -/
theorem parse_eq_ok_iff {text : String} {e : Expr} : parse text = .ok e ↔
    ∃ c, ReadsType false (.ofText text) e c ∧ Text.dropBlank c.rest = [] := by
  rw [parse, Reading.complete_eq_ok_iff]
  simp only [read_eq_done_iff]

/-- **A type that stands in front of nothing is what its text is parsed as.** -/
theorem parse_render_of_typeStands {e : Expr} (h : IsType e) (hs : TypeStands e []) :
    parse e.render = .ok e := by
  -- the text is not trimmed any further, so the cursor begins in front of the first character that was
  -- written
  rw [parse_eq_ok_iff, Cursor.ofText_of_isTrimmed (h.opens.isTrimmed h.closes)]
  exact ⟨_, h.readsType (k := []) (by simp [chars]) Text.isSeam_none Text.isSeam_none hs, rfl⟩

end Expr

end CppIndex
