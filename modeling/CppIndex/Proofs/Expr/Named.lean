import CppIndex.Proofs.Expr.Closing
import CppIndex.Proofs.Expr.Weight

/-!
# Texts that name themselves

What a text names is the expression under all wrappers of the type it is parsed as. If that expression has
the text as its canonical text, then there is no wrapper (`isPrimary_of_parse_declaredName`): every
wrapper weighs something, and a text is parsed as nothing heavier than itself.
-/

namespace CppIndex.Expr

open Text (weight)

/-! ### What a text is parsed as -/

theorem weight_le_of_parse {text : String} {e : Expr} (h : parse text = .ok e) :
    weight e.chars ≤ weight text.toList := by
  obtain ⟨c, hread, -⟩ := parse_eq_ok_iff.mp h
  have hle := hread.weight_le
  -- trimming takes blanks only, which weigh nothing
  rw [Cursor.ofText, Text.weight_trim] at hle
  omega

/-! ### The weight of a wrapper -/

/-- Every word of types weighs something. -/
theorem weight_word_pos {w : String} (h : w ∈ frontWords ++ builtinStarts) :
    0 < weight w.toList := by
  have hall : ∀ w ∈ frontWords ++ builtinStarts, 0 < weight w.toList := by decide
  exact hall w h

/-- Words in front of a base hold one that weighs something, if there are any. -/
theorem IsType.exists_mem_words {ws : List String} {e : Expr} (h : IsType (.modified ws e)) :
    ∃ w ∈ ws, w ∈ frontWords ++ builtinStarts := by
  -- words are put around a primary base only if there are some, and then they are these
  have hunder : ∀ {isConst : Bool} {vs : List String} {base : Expr},
      base.isPrimary = true → underWords isConst vs base = .modified ws e → ws = vs ∧ vs ≠ [] := by
    intro isConst vs base hbase he
    cases isConst with
    | true => cases he
    | false =>
      cases vs with
      | nil =>
        rw [show underWords false [] base = base from rfl] at he
        rw [he] at hbase
        cases hbase
      | cons v vs =>
        obtain ⟨rfl, -⟩ := Expr.modified.inj he
        exact ⟨rfl, List.cons_ne_nil v vs⟩
  generalize ht : Expr.modified ws e = t at h
  cases h with
  | pointer | reference | array | const => cases ht
  | front hf =>
    cases hf with
    | @parts us ps hu hp hn =>
      obtain ⟨rfl, hne⟩ := hunder hp.isPrimary_ofParts ht.symm
      obtain ⟨w, hw⟩ := List.exists_mem_of_ne_nil _ hne
      exact ⟨w, hw, List.mem_append_left _ (hu w (List.mem_of_mem_erase hw))⟩
    | @builtin us run hu hr =>
      obtain ⟨first, vs, others, base, hwritten⟩ := exists_writtenRun hu hr
      rw [builtinFront_append hu hr hwritten.split] at ht
      obtain ⟨rfl, hne⟩ := hunder rfl ht.symm
      cases hothers : others with
      | nil =>
        -- then the words stand before the run
        rw [hothers] at hne
        rw [List.append_nil] at hne ⊢
        obtain ⟨w, hw⟩ := List.exists_mem_of_ne_nil _ hne
        exact ⟨w, hw, List.mem_append_left _ (hu w (List.mem_of_mem_erase hw))⟩
      | cons other others =>
        have hcons := hwritten.eq_cons
        rw [hothers, List.cons_append] at hcons
        obtain ⟨rfl, -⟩ := List.cons.inj hcons
        -- the first word of the run has become one of the others
        exact ⟨other, by simp, List.mem_append_right _ hwritten.start⟩

/-- What is named weighs no more than the whole. -/
theorem weight_declaredName_le : ∀ e : Expr, weight e.declaredName.chars ≤ weight e.chars
  | .modified ws e => by
    have hle := weight_declaredName_le e
    rw [declaredName, chars_modified, Text.weight_append]
    omega
  | .pointer e => by
    have hle := weight_declaredName_le e
    rw [declaredName, chars_pointer, Text.weight_append]
    omega
  | .reference e => by
    have hle := weight_declaredName_le e
    rw [declaredName, chars_reference, Text.weight_append]
    omega
  | .array e size => by
    have hle := weight_declaredName_le e
    rw [declaredName, chars_array, List.append_assoc, Text.weight_append]
    omega
  | .const .before e => by
    have hle := weight_declaredName_le e
    rw [declaredName, chars_const_before, Text.weight_append]
    omega
  | .const .after e => by
    have hle := weight_declaredName_le e
    rw [declaredName, chars_const_after, Text.weight_append]
    omega
  | .name _ | .path _ | .template _ _ | .cast _ => Nat.le_refl _

/-- **A wrapper weighs something.** -/
theorem IsType.weight_declaredName_lt {e : Expr} (h : IsType e) (hp : e.isPrimary = false) :
    weight e.declaredName.chars < weight e.chars := by
  have hsign : 0 < weight ['*'] ∧ 0 < weight ['&'] ∧ 0 < weight ['['] := by decide
  have hconst : 0 < weight (wordsText ["const"]) ∧ 0 < weight (' ' :: "const".toList) := by decide
  -- each wrapper adds a sign or a word that weighs something; what is under it only loses weight
  cases e with
  | name | path | template | cast => cases hp
  | modified ws e =>
    have hle := weight_declaredName_le e
    obtain ⟨w, hw, hword⟩ := h.exists_mem_words
    have hpos := weight_word_pos hword
    have herase := weight_wordsText_erase hw
    rw [declaredName, chars_modified, Text.weight_append]
    omega
  | pointer e =>
    have hle := weight_declaredName_le e
    rw [declaredName, chars_pointer, Text.weight_append]
    omega
  | reference e =>
    have hle := weight_declaredName_le e
    rw [declaredName, chars_reference, Text.weight_append]
    omega
  | array e size =>
    have hle := weight_declaredName_le e
    rw [declaredName, chars_array, List.append_assoc, Text.weight_append, List.cons_append,
      ← List.singleton_append, Text.weight_append]
    omega
  | const side e =>
    have hle := weight_declaredName_le e
    cases side with
    | before =>
      rw [declaredName, chars_const_before, Text.weight_append]
      omega
    | after =>
      rw [declaredName, chars_const_after, Text.weight_append]
      omega

/-- **A text that is the canonical text of what it names is parsed as that.** -/
theorem isPrimary_of_parse_declaredName {text : String} {e : Expr} (h : parse text = .ok e)
    (he : e.declaredName.render = text) : e.isPrimary = true := by
  obtain ⟨c, hread, -⟩ := parse_eq_ok_iff.mp h
  cases hp : e.isPrimary with
  | true => rfl
  | false =>
    -- else the text would weigh less than the expression it was parsed as
    have hlt := hread.isType.weight_declaredName_lt hp
    have hle := weight_le_of_parse h
    rw [← he] at hle
    exact absurd hlt (Nat.not_lt.mpr hle)

/-- **When a text names itself**: what it names has it as its canonical text exactly if it is parsed as a
primary expression that does. -/
theorem exists_parse_declaredName_iff {text : String} :
    (∃ e, parse text = .ok e ∧ e.declaredName.render = text) ↔
      ∃ e : Expr, parse text = .ok e ∧ e.isPrimary = true ∧ e.render = text := by
  constructor
  · rintro ⟨e, hparse, hname⟩
    have hprimary := isPrimary_of_parse_declaredName hparse hname
    rw [declaredName_of_isPrimary hprimary] at hname
    exact ⟨e, hparse, hprimary, hname⟩
  · rintro ⟨e, hparse, hprimary, hname⟩
    refine ⟨e, hparse, ?_⟩
    rw [declaredName_of_isPrimary hprimary, hname]

end CppIndex.Expr
