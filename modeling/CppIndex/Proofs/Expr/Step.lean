import CppIndex.Expr.Parse
import CppIndex.Proofs.Cursor.Lexeme
import CppIndex.Proofs.Cursor.Repeated
import CppIndex.Proofs.Text.Bound

/-!
# The repeated steps of reading a type

Reading a type repeats three steps: one more word that may stand before any type, one more word of a run
of built-in words, and one more suffix. Each reads something (`Cursor.Progresses`), and for each it is
said here what it found when it succeeds and when it fails.
-/

namespace CppIndex.Expr

variable {c c' : Cursor}

/-! ### The next component -/

/-- **The next component** begins at the cursor if it is the first, and behind `::` else. -/
theorem nextPart?_eq_some {isFirst : Bool} (h : nextPart? isFirst c = some c') :
    (isFirst = true ∧ c.atEnd = false ∧ c' = c) ∨
      (isFirst = false ∧ ∃ d, c.skip? "::" = some d ∧ c' = d.skipBlank) := by
  -- only the components behind the first have a separator in front
  cases isFirst with
  | true =>
    obtain ⟨hend, hc⟩ := Option.ite_none_left_eq_some.mp h
    exact Or.inl ⟨rfl, eq_false_of_ne_true hend, (Option.some.inj hc).symm⟩
  | false =>
    obtain ⟨d, hd, rfl⟩ := Option.map_eq_some_iff.mp h
    exact Or.inr ⟨rfl, d, hd, rfl⟩

/-! ### Words in front of a type -/

/-- The words that may stand before any type. -/
def frontWords : List String := ["volatile", "register", "mutable", "const", "typename"]

/-- The words that begin a run of built-in words. -/
def builtinStarts : List String := ["unsigned", "signed", "short", "long"]

/-- **The three kinds of words**: those before any type, those that begin a run, and all others. -/
theorem wordRule?_cases (w : String) :
    (w ∈ frontWords ∧ wordRule? w = some .anyType) ∨
      (w ∈ builtinStarts ∧ wordRule? w = some (.builtin (followers w)) ∧ followers w ≠ []) ∨
      (w ∉ frontWords ∧ w ∉ builtinStarts ∧ wordRule? w = none ∧ followers w = []) := by
  by_cases hf : w ∈ frontWords
  · exact Or.inl ⟨hf, if_pos hf⟩
  -- The words that begin a run are told apart by what may follow them.
  · by_cases hb : w ∈ builtinStarts
    · refine Or.inr (Or.inl ⟨hb, ?_⟩)
      simp only [builtinStarts, List.mem_cons, List.not_mem_nil, or_false] at hb
      rcases hb with rfl | rfl | rfl | rfl <;> exact ⟨rfl, by decide⟩
    · have hn : wordRule? w = none := by
        simp only [builtinStarts, List.mem_cons, List.not_mem_nil, or_false, not_or] at hb
        obtain ⟨h₁, h₂, h₃, h₄⟩ := hb
        have hf' : ¬ w ∈ ["volatile", "register", "mutable", "const", "typename"] := hf
        rw [wordRule?, if_neg hf', if_neg (not_or.mpr ⟨h₁, h₂⟩), if_neg h₃, if_neg h₄]
      exact Or.inr (Or.inr ⟨hf, hb, hn, by rw [followers, hn]⟩)

theorem wordRule?_eq_anyType_iff {w : String} :
    wordRule? w = some .anyType ↔ w ∈ frontWords := by
  rcases wordRule?_cases w with ⟨hw, hr⟩ | ⟨hw, hr, -⟩ | ⟨hw, -, hr, -⟩
  · exact iff_of_true hr hw
  · refine iff_of_false (by rw [hr]; simp) fun hf => ?_
    have hf' : wordRule? w = some .anyType := if_pos hf
    rw [hf'] at hr
    cases hr
  · exact iff_of_false (by rw [hr]; simp) hw

theorem wordRule?_eq_builtin_iff {w : String} {next : List String} :
    wordRule? w = some (.builtin next) ↔ w ∈ builtinStarts ∧ next = followers w := by
  rcases wordRule?_cases w with ⟨hw, hr⟩ | ⟨hw, hr, -⟩ | ⟨-, hw, hr, -⟩
  · refine iff_of_false (by rw [hr]; simp) ?_
    -- no word is in both tables
    rintro ⟨hb, -⟩
    simp only [builtinStarts, List.mem_cons, List.not_mem_nil, or_false] at hb
    rcases hb with rfl | rfl | rfl | rfl <;> exact absurd hw (by decide)
  · rw [hr]
    simp [hw, eq_comm]
  · exact iff_of_false (by rw [hr]; simp) fun h => hw h.1

theorem wordRule?_eq_none_iff {w : String} :
    wordRule? w = none ↔ w ∉ frontWords ∧ w ∉ builtinStarts := by
  rcases wordRule?_cases w with ⟨hw, hr⟩ | ⟨hw, hr, -⟩ | ⟨hf, hb, hr, -⟩
  · exact iff_of_false (by rw [hr]; simp) fun h => h.1 hw
  · exact iff_of_false (by rw [hr]; simp) fun h => h.2 hw
  · exact iff_of_true hr ⟨hf, hb⟩

/-- Every word of a type is a word of the text. -/
theorem isWord_of_mem_frontWords {w : String} (h : w ∈ frontWords) : Text.IsWord w.toList := by
  have hall : ∀ w ∈ frontWords, Text.IsWord w.toList := by decide
  exact hall w h

theorem isWord_of_mem_builtinStarts {w : String} (h : w ∈ builtinStarts) :
    Text.IsWord w.toList := by
  have hall : ∀ w ∈ builtinStarts, Text.IsWord w.toList := by decide
  exact hall w h

/-- The words that may follow a built-in word are words of the text. -/
theorem isWord_of_mem_followers {v w : String} (h : w ∈ followers v) : Text.IsWord w.toList := by
  rcases wordRule?_cases v with ⟨-, hr⟩ | ⟨hv, -⟩ | ⟨-, -, -, hf⟩
  · rw [followers, hr] at h
    cases h
  · have hall : ∀ v ∈ builtinStarts, ∀ w ∈ followers v, Text.IsWord w.toList := by decide
    exact hall v hv w h
  · rw [hf] at h
    cases h

/-- None of them may stand before any type. -/
theorem not_mem_frontWords_of_mem_followers {v w : String} (h : w ∈ followers v) : w ∉ frontWords := by
  rcases wordRule?_cases v with ⟨-, hr⟩ | ⟨hv, -⟩ | ⟨-, -, -, hf⟩
  · rw [followers, hr] at h
    cases h
  · have hall : ∀ v ∈ builtinStarts, ∀ w ∈ followers v, w ∉ frontWords := by decide
    exact hall v hv w h
  · rw [hf] at h
    cases h

/-! ### One more word before a type -/

/-- One more word is one that may stand before any type. -/
theorem leadingStep_eq_some {ws ws' : List String} (h : leadingStep ws c = some (ws', c')) :
    ∃ w ∈ frontWords, c.skipBlank.identifier? = some (w, c') ∧ ws' = ws ++ [w] := by
  unfold leadingStep at h
  split at h
  next => cases h
  next w c₁ hi =>
    split at h
    next hr =>
      simp only [Option.some.injEq, Prod.mk.injEq] at h
      obtain ⟨rfl, rfl⟩ := h
      exact ⟨w, wordRule?_eq_anyType_iff.mp hr, hi, rfl⟩
    next => cases h

theorem leadingStep_of_mem {ws : List String} {w : String} (hw : w ∈ frontWords)
    (hi : c.skipBlank.identifier? = some (w, c')) : leadingStep ws c = some (ws ++ [w], c') := by
  rw [leadingStep, hi]
  simp only [wordRule?_eq_anyType_iff.mpr hw]

/-- No further word is found exactly where none stands. -/
theorem leadingStep_eq_none_iff {ws : List String} : leadingStep ws c = none ↔
    ∀ w c', c.skipBlank.identifier? = some (w, c') → w ∉ frontWords := by
  constructor
  · intro h w c' hi hw
    rw [leadingStep_of_mem hw hi] at h
    cases h
  · intro h
    -- a step that is made shows the word that was there
    cases hs : leadingStep ws c with
    | none => rfl
    | some r =>
      obtain ⟨ws', c'⟩ := r
      obtain ⟨w, hw, hi, -⟩ := leadingStep_eq_some hs
      exact absurd hw (h w _ hi)

/-! ### One more word of a run -/

/-- The word that begins a run. -/
theorem builtinStart?_eq_some {first : String} {next : List String}
    (h : builtinStart? c = some (first, next, c')) :
    first ∈ builtinStarts ∧ next = followers first ∧ c.identifier? = some (first, c') := by
  unfold builtinStart? at h
  split at h
  next => cases h
  next w c₁ hi =>
    split at h
    next n hr =>
      simp only [Option.some.injEq, Prod.mk.injEq] at h
      obtain ⟨rfl, rfl, rfl⟩ := h
      obtain ⟨hw, hn⟩ := wordRule?_eq_builtin_iff.mp hr
      exact ⟨hw, hn, hi⟩
    next => cases h

theorem builtinStart?_of_mem {first : String} (hw : first ∈ builtinStarts)
    (hi : c.identifier? = some (first, c')) :
    builtinStart? c = some (first, followers first, c') := by
  rw [builtinStart?, hi]
  simp only [wordRule?_eq_builtin_iff.mpr ⟨hw, rfl⟩]

theorem builtinStart?_eq_none_iff : builtinStart? c = none ↔
    ∀ w c', c.identifier? = some (w, c') → w ∉ builtinStarts := by
  constructor
  · intro h w c' hi hw
    rw [builtinStart?_of_mem hw hi] at h
    cases h
  · intro h
    cases hs : builtinStart? c with
    | none => rfl
    | some r =>
      obtain ⟨first, next, c'⟩ := r
      obtain ⟨hw, -, hi⟩ := builtinStart?_eq_some hs
      exact absurd hw (h _ _ hi)

/-- One more word of a run is one that may come next, and it decides what may come then. -/
theorem builtinStep_eq_some {run run' : List String × List String}
    (h : builtinStep run c = some (run', c')) :
    ∃ w ∈ run.2, c.skipBlank.identifier? = some (w, c') ∧ run' = (run.1 ++ [w], followers w) := by
  unfold builtinStep at h
  split at h
  next => cases h
  next w c₁ hi =>
    split at h
    next hw =>
      simp only [Option.some.injEq, Prod.mk.injEq] at h
      obtain ⟨rfl, rfl⟩ := h
      exact ⟨w, hw, hi, rfl⟩
    next => cases h

theorem builtinStep_of_mem {run : List String × List String} {w : String} (hw : w ∈ run.2)
    (hi : c.skipBlank.identifier? = some (w, c')) :
    builtinStep run c = some ((run.1 ++ [w], followers w), c') := by
  rw [builtinStep, hi]
  exact if_pos hw

theorem builtinStep_eq_none_iff {run : List String × List String} : builtinStep run c = none ↔
    ∀ w c', c.skipBlank.identifier? = some (w, c') → w ∉ run.2 := by
  constructor
  · intro h w c' hi hw
    rw [builtinStep_of_mem hw hi] at h
    cases h
  · intro h
    cases hs : builtinStep run c with
    | none => rfl
    | some r =>
      obtain ⟨run', c'⟩ := r
      obtain ⟨w, hw, hi, -⟩ := builtinStep_eq_some hs
      exact absurd hw (h w _ hi)

/-! ### One more suffix -/

/-- **What a suffix is**: `const`, `*`, an array suffix or `&`. -/
theorem suffixStep_eq_some {e e' : Expr} (h : suffixStep e c = some (e', c')) :
    (c.skipBlank.keyword? "const" = some c' ∧ e' = .const .after e) ∨
      (c.skipBlank.skip? "*" = some c' ∧ e' = .pointer e) ∨
      (∃ size, c.skipBlank.arrayBound? = some (size, c') ∧ e' = .array e size) ∨
      (c.skipBlank.skip? "&" = some c' ∧ e' = .reference e) := by
  -- The suffixes in the order in which they are tried.
  unfold suffixStep at h
  simp only [] at h
  split at h
  next c₁ hk =>
    simp only [Option.some.injEq, Prod.mk.injEq] at h
    obtain ⟨rfl, rfl⟩ := h
    exact Or.inl ⟨hk, rfl⟩
  next =>
    split at h
    next c₁ hp =>
      simp only [Option.some.injEq, Prod.mk.injEq] at h
      obtain ⟨rfl, rfl⟩ := h
      exact Or.inr (Or.inl ⟨hp, rfl⟩)
    next =>
      split at h
      next size c₁ ha =>
        simp only [Option.some.injEq, Prod.mk.injEq] at h
        obtain ⟨rfl, rfl⟩ := h
        exact Or.inr (Or.inr (Or.inl ⟨size, ha, rfl⟩))
      next =>
        obtain ⟨c₁, hr, he⟩ := Option.map_eq_some_iff.mp h
        obtain ⟨rfl, rfl⟩ := Prod.mk.inj he
        exact Or.inr (Or.inr (Or.inr ⟨hr, rfl⟩))

/-- A suffix is missing exactly where none of the four stands. -/
theorem suffixStep_eq_none_iff {e : Expr} : suffixStep e c = none ↔
    c.skipBlank.keyword? "const" = none ∧ c.skipBlank.skip? "*" = none ∧
      c.skipBlank.arrayBound? = none ∧ c.skipBlank.skip? "&" = none := by
  unfold suffixStep
  simp only []
  split
  next hk => simp [hk]
  next hk =>
    split
    next hp => simp [hp]
    next hp =>
      split
      next ha => simp [ha]
      next ha => simp [hk, hp, ha]

theorem suffixStep_const {e : Expr} (h : c.skipBlank.keyword? "const" = some c') :
    suffixStep e c = some (.const .after e, c') := by
  rw [suffixStep, h]

theorem suffixStep_pointer {e : Expr} {k : List Char} (h : c.skipBlank.rest = '*' :: k) :
    suffixStep e c = some (.pointer e, c.skipBlank.moved ['*'] k) := by
  have hk : c.skipBlank.keyword? "const" = none :=
    Cursor.keyword?_eq_none (w := 'c') rfl (by rw [h]; simp)
  have hp : c.skipBlank.skip? "*" = some (c.skipBlank.moved ['*'] k) := Cursor.skip?_of_append h
  simp only [suffixStep, hk, hp]

theorem suffixStep_array {e : Expr} {size : Option String} {taken k : List Char}
    (hc : c.skipBlank.rest = taken ++ k) (ht : taken.head? = some '[')
    (h : Text.arrayBound? (taken ++ k) = some (size, k)) :
    suffixStep e c = some (.array e size, c.skipBlank.moved taken k) := by
  have hhead : c.skipBlank.rest.head? = some '[' := by
    rw [hc, List.head?_append, ht]
    rfl
  -- a bracket is neither the `c` of `const` nor a `*`, so the readers tried before it find nothing
  have hk : c.skipBlank.keyword? "const" = none :=
    Cursor.keyword?_eq_none (w := 'c') rfl (by rw [hhead]; simp)
  have hp : c.skipBlank.skip? "*" = none :=
    Cursor.skip?_eq_none (w := '*') rfl (by rw [hhead]; simp)
  simp only [suffixStep, hk, hp, Cursor.arrayBound?_of_append hc (hc ▸ h)]

theorem suffixStep_reference {e : Expr} {k : List Char} (h : c.skipBlank.rest = '&' :: k) :
    suffixStep e c = some (.reference e, c.skipBlank.moved ['&'] k) := by
  -- the ampersand is tried last, when the three others have found nothing
  have hk : c.skipBlank.keyword? "const" = none :=
    Cursor.keyword?_eq_none (w := 'c') rfl (by rw [h]; simp)
  have hp : c.skipBlank.skip? "*" = none := Cursor.skip?_eq_none (w := '*') rfl (by rw [h]; simp)
  have ha : c.skipBlank.arrayBound? = none := Cursor.arrayBound?_eq_none (by rw [h]; simp)
  have hr : c.skipBlank.skip? "&" = some (c.skipBlank.moved ['&'] k) := Cursor.skip?_of_append h
  simp only [suffixStep, hk, hp, ha, hr, Option.map_some]

/-! ### Every step reads something -/

/-- An identifier takes at least one character. -/
theorem length_rest_lt_of_identifier? {w : String} (h : c.identifier? = some (w, c')) :
    c'.rest.length < c.rest.length := by
  obtain ⟨hi, hr, -⟩ := Cursor.identifier?_eq_some h
  obtain ⟨x, v, hx, -⟩ := hi.exists_cons
  rw [hr, hx]
  simp only [List.length_append, List.length_cons]
  omega

theorem progresses_leadingStep : Cursor.Progresses leadingStep := by
  intro ws c ws' c' h
  obtain ⟨w, -, hi, -⟩ := leadingStep_eq_some h
  exact Nat.lt_of_lt_of_le (length_rest_lt_of_identifier? hi) Cursor.length_rest_skipBlank_le

theorem progresses_builtinStep : Cursor.Progresses builtinStep := by
  intro run c run' c' h
  obtain ⟨w, -, hi, -⟩ := builtinStep_eq_some h
  exact Nat.lt_of_lt_of_le (length_rest_lt_of_identifier? hi) Cursor.length_rest_skipBlank_le

theorem progresses_suffixStep : Cursor.Progresses suffixStep := by
  intro e c e' c' h
  refine Nat.lt_of_lt_of_le ?_ (Cursor.length_rest_skipBlank_le (c := c))
  -- each of the four takes at least its sign, and an array its brackets
  rcases suffixStep_eq_some h with ⟨hk, -⟩ | ⟨hp, -⟩ | ⟨size, ha, -⟩ | ⟨hr, -⟩
  · rw [(Cursor.keyword?_eq_some hk).1]
    simp
    omega
  · rw [(Cursor.skip?_eq_some hp).1]
    simp
  · obtain ⟨-, taken, hr, -, hn⟩ := Cursor.arrayBound?_eq_some ha
    rw [hr, List.length_append]
    have := List.length_pos_iff.mpr hn
    omega
  · rw [(Cursor.skip?_eq_some hr).1]
    simp

end CppIndex.Expr
