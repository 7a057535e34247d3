import CppIndex.Proofs.Declaration.Stands

/-!
# Reading back the words of a declaration

The words in front of a declaration and behind a function are read back from the text in which they are
written. In front stand an access word, `static`, and the words of a function; reading stops at the first
expression unless it begins with a word that may stand there (`Declaration.readLeading_eq`,
`Declaration.repeated_functionWordStep_eq`). Behind a function stand `const` and a null constant
(`Declaration.readsTrailing`).
-/

namespace CppIndex

/-! ### Access words -/

namespace Visibility

theorem isWord_keyword (v : Visibility) : Text.IsWord v.keyword.toList := by
  cases v <;> decide

/-- No access word begins another. -/
theorem eq_of_prefix {v w : Visibility} (h : v.keyword.toList <+: w.keyword.toList) : v = w := by
  revert h
  cases v <;> cases w <;> decide

theorem mem_all (v : Visibility) : v ∈ all := by
  cases v <;> decide

end Visibility

namespace Cursor

variable {c c' : Cursor} {v : Visibility} {k : List Char}

/-- **An access word** that is found stands at the cursor and ends at a word boundary. -/
theorem visibility?_eq_some (h : c.visibility? = some (v, c')) :
    c.rest = v.keyword.toList ++ c'.rest ∧ c' = c.moved v.keyword.toList c'.rest ∧
      c'.rest.head?.any Text.isWordChar = false := by
  -- the first of the words that stands there as a whole word
  obtain ⟨w, -, hw⟩ := List.exists_of_findSome?_eq_some h
  split at hw
  next => cases hw
  next rest hr =>
    split at hw
    next => cases hw
    next hn =>
      obtain ⟨rfl, rfl⟩ := Prod.mk.inj (Option.some.inj hw)
      rw [Bool.or_eq_true, not_or, Bool.not_eq_true, Bool.not_eq_true] at hn
      exact ⟨Text.behind?_eq_some_iff.mp hr, rfl, hn.2⟩

/-- An access word between two seams is found. -/
theorem visibility?_of_seams (h : c.rest = v.keyword.toList ++ k) (hb : Text.IsSeam c.previous?)
    (hk : Text.IsSeam k.head?) : c.visibility? = some (v, c.moved v.keyword.toList k) := by
  have hfound : c.visibility? ≠ none := by
    rw [visibility?, Ne, List.findSome?_eq_none_iff]
    intro hall
    have hv := hall v v.mem_all
    rw [h, Text.behind?_append] at hv
    simp [hb.any_isWordChar, hk.any_isWordChar] at hv
  obtain ⟨⟨w, c'⟩, hw⟩ := Option.ne_none_iff_exists'.mp hfound
  obtain ⟨hr, hc, -⟩ := visibility?_eq_some hw
  -- of two access words at one place the shorter begins the longer
  have hvw : v = w := by
    rcases List.prefix_or_prefix_of_prefix (show v.keyword.toList <+: c.rest from ⟨k, h.symm⟩)
      (show w.keyword.toList <+: c.rest from ⟨_, hr.symm⟩) with hp | hp
    · exact Visibility.eq_of_prefix hp
    · exact (Visibility.eq_of_prefix hp).symm
  subst hvw
  have hrest : c'.rest = k := List.append_cancel_left (hr.symm.trans h)
  rw [hw, hc, hrest]

/-- **Another word is no access word.** -/
theorem visibility?_eq_none {cs : List Char} (h : c.rest = cs)
    (hne : String.ofList (Text.leadingWord cs) ∉ Visibility.all.map Visibility.keyword) :
    c.visibility? = none := by
  cases hs : c.visibility? with
  | none => rfl
  | some r =>
    obtain ⟨v, c'⟩ := r
    obtain ⟨hr, -, hn⟩ := visibility?_eq_some hs
    refine absurd (List.mem_map.mpr ⟨v, v.mem_all, ?_⟩) hne
    -- An access word that is found ends at a word boundary, so it is the leading word.
    rw [← h, hr, Text.leadingWord_append_of_boundary (Or.inl v.isWord_keyword) hn, String.ofList_toList]

/-- **Another word is no keyword**, said of a text by its first word. -/
theorem keyword?_eq_none_of_opens {cs : List Char} {word : String} (h : c.rest = cs)
    (ho : Text.Opens cs) (hword : Text.IsWord word.toList)
    (hne : String.ofList (Text.leadingWord cs) ≠ word) : c.keyword? word = none := by
  obtain ⟨tail, htail, hi, hseam⟩ := ho.exists_tail
  refine keyword?_eq_none_of_ne (h.trans htail) hi hword (fun he => hne ?_) hseam
  rw [he, String.ofList_toList]

/-- Over a word and the blank behind it. -/
theorem skipBlank_moved_word {w : List Char} (h : Text.Opens k) :
    (c.moved w (' ' :: k)).skipBlank = c.moved (w ++ [' ']) k := by
  have hk := h.not_blank (k := [])
  rw [List.append_nil] at hk
  rw [Cursor.skipBlank_space rfl hk, Cursor.moved_moved]

end Cursor

namespace Declaration

open CppIndex.Expr (wordsText)

variable {c d : Cursor} {k : List Char}

/-! ### The words of every declaration -/

/-- The word of an access level, if it is written. -/
def accessWords (v : Visibility) : List String := if v = .pub then [] else [v.keyword]

/-- The word `static`, if it is written. -/
def staticWords (s : Bool) : List String := if s then ["static"] else []

/-- The words in front of a declaration are words. -/
theorem isWord_of_mem_leadingWords {v : Visibility} {s : Bool} {w : String}
    (h : w ∈ accessWords v ++ staticWords s) : Text.IsWord w.toList := by
  -- each of the two may be missing
  rcases List.mem_append.mp h with h | h
  · unfold accessWords at h
    split at h
    · cases h
    · rw [List.mem_singleton.mp h]
      exact v.isWord_keyword
  · unfold staticWords at h
    split at h
    · rw [List.mem_singleton.mp h]
      decide
    · cases h

/-- **An access level is read back**, if no other word is taken for one. -/
theorem exists_visibility? {v : Visibility} (hc : c.rest = wordsText (accessWords v) ++ k)
    (hp : Text.IsSeam c.previous?) (ho : Text.Opens k)
    (hne : v = .pub → String.ofList (Text.leadingWord k) ∉ Visibility.all.map Visibility.keyword) :
    ∃ c', (c.visibility?).getD (.pub, c) = (v, c') ∧
      c'.skipBlank = c.moved (wordsText (accessWords v)) k := by
  -- Public access is not written, so then nothing may be found.
  by_cases hv : v = .pub
  · subst hv
    have hk : c.rest = k := by simpa [accessWords] using hc
    refine ⟨c, by rw [Cursor.visibility?_eq_none hk (hne rfl)]; rfl, ?_⟩
    exact (Cursor.skipBlank_of_opens hk ho).trans (Cursor.moved_nil_of_rest hk).symm
  · have htext : wordsText (accessWords v) = v.keyword.toList ++ [' '] := by
      simp [accessWords, hv]
    rw [htext, List.append_assoc] at hc
    refine ⟨_, by rw [Cursor.visibility?_of_seams hc hp (Text.isSeam_of_isBlank (by decide))]; rfl, ?_⟩
    rw [htext]
    exact Cursor.skipBlank_moved_word ho

/-- The first word behind the place of an access word is none: it is `static`, or it stands behind the
place of `static`. -/
theorem leadingWord_static_not_mem {s : Bool} (hne : s = false →
      String.ofList (Text.leadingWord k) ∉ Visibility.all.map Visibility.keyword) :
    String.ofList (Text.leadingWord (wordsText (staticWords s) ++ k)) ∉
      Visibility.all.map Visibility.keyword := by
  -- `static` is no word of access, and stands in front of the rest if it is written
  cases s with
  | true =>
    rw [staticWords, if_pos rfl, Expr.leadingWord_wordsText (by decide)]
    decide
  | false => exact hne rfl

/-- **The word `static` is read back**, and so is that it is not written. -/
theorem exists_static {s : Bool} (hc : c.rest = wordsText (staticWords s) ++ k)
    (hp : Text.IsSeam c.previous?) (ho : Text.Opens k)
    (hne : s = false → String.ofList (Text.leadingWord k) ≠ "static") :
    ∃ c', (match c.keyword? "static" with
        | some c' => (true, c')
        | none => (false, c)) = (s, c') ∧
      c'.skipBlank = c.moved (wordsText (staticWords s)) k := by
  cases s with
  | true =>
    have hkey : c.keyword? "static" = some (c.moved "static".toList (' ' :: k)) :=
      Cursor.keyword?_of_seams (by rw [hc]; simp [staticWords]) hp (Text.isSeam_of_isBlank (by decide))
    refine ⟨_, by rw [hkey], ?_⟩
    rw [Cursor.skipBlank_moved_word ho]
    simp [staticWords]
  | false =>
    have hk : c.rest = k := hc
    -- the rest opens with another word, so no keyword is found
    have hkey : c.keyword? "static" = none :=
      Cursor.keyword?_eq_none_of_opens hk ho (by decide) (hne rfl)
    refine ⟨c, by rw [hkey], ?_⟩
    exact (Cursor.skipBlank_of_opens hk ho).trans (Cursor.moved_nil_of_rest hk).symm

/-- **The leading words are read back**, if the text behind them begins with none that is not
written. -/
theorem readLeading_eq {v : Visibility} {s : Bool}
    (hc : c.rest = wordsText (accessWords v ++ staticWords s) ++ k)
    (hp : Text.IsSeam c.previous?) (ho : Text.Opens k)
    (hne : s = false → String.ofList (Text.leadingWord k) ∉
      "static" :: if v = .pub then Visibility.all.map Visibility.keyword else []) :
    ∃ c', readLeading c = (v, s, c') ∧
      c'.skipBlank = c.moved (wordsText (accessWords v ++ staticWords s)) k := by
  rw [Expr.wordsText_append, List.append_assoc] at hc
  have hwords : ∀ w ∈ accessWords v ++ staticWords s, Text.IsWord w.toList := fun _ =>
    isWord_of_mem_leadingWords
  have hopens : Text.Opens (wordsText (staticWords s) ++ k) :=
    Expr.opens_wordsText (fun w hw => hwords w (List.mem_append_right _ hw)) ho
  have hskip : c.skipBlank = c := by
    have hall := (Expr.opens_wordsText (fun w hw => hwords w (List.mem_append_left _ hw))
      hopens).not_blank (k := [])
    rw [List.append_nil, ← hc] at hall
    exact Cursor.skipBlank_eq_self hall
  -- no access word is read where none is written
  have hpub : v = .pub → String.ofList (Text.leadingWord (wordsText (staticWords s) ++ k)) ∉
      Visibility.all.map Visibility.keyword := by
    rintro rfl
    exact leadingWord_static_not_mem fun hs hm =>
      hne hs (List.mem_cons_of_mem _ (by rwa [if_pos rfl]))
  obtain ⟨c₁, hv, hc₁⟩ := exists_visibility? hc hp hopens hpub
  obtain ⟨c₂, hs, hc₂⟩ := exists_static (c := c₁.skipBlank) (s := s) (by rw [hc₁]; rfl)
    (by rw [hc₁]; exact Expr.isSeam_previous?_wordsText hp) ho
    (fun hs he => hne hs (he ▸ List.mem_cons_self ..))
  refine ⟨c₂, ?_, by rw [hc₂, hc₁, Cursor.moved_moved, Expr.wordsText_append]⟩
  simp only [readLeading, hskip, hv]
  cases hkey : c₁.skipBlank.keyword? "static" with
  | some c' =>
    rw [hkey] at hs
    obtain ⟨rfl, rfl⟩ := Prod.mk.inj hs
    rfl
  | none =>
    rw [hkey] at hs
    obtain ⟨rfl, rfl⟩ := Prod.mk.inj hs
    rfl

/-! ### The words of functions -/

theorem functionWordStep_virtual {words : Bool × Bool} (hc : c.skipBlank = d)
    (hr : d.rest = "virtual".toList ++ ' ' :: k) (hp : Text.IsSeam d.previous?) :
    functionWordStep words c = some ((words.1, true), d.moved "virtual".toList (' ' :: k)) := by
  have hnone : d.keyword? "explicit" = none :=
    Cursor.keyword?_eq_none (w := 'e') rfl (by rw [hr]; simp)
  simp only [functionWordStep, hc, hnone,
    Cursor.keyword?_of_seams hr hp (Text.isSeam_of_isBlank (by decide)), Option.map_some]

theorem functionWordStep_explicit {words : Bool × Bool} (hc : c.skipBlank = d)
    (hr : d.rest = "explicit".toList ++ ' ' :: k) (hp : Text.IsSeam d.previous?) :
    functionWordStep words c = some ((true, words.2), d.moved "explicit".toList (' ' :: k)) := by
  simp only [functionWordStep, hc,
    Cursor.keyword?_of_seams hr hp (Text.isSeam_of_isBlank (by decide))]

/-- No word of a function is read where another word stands. -/
theorem functionWordStep_eq_none {words : Bool × Bool} (hc : c.skipBlank.rest = k)
    (ho : Text.Opens k) (hne : String.ofList (Text.leadingWord k) ∉ ["explicit", "virtual"]) :
    functionWordStep words c = none := by
  -- both words are looked for, each as the first word of what is left
  have hexplicit : c.skipBlank.keyword? "explicit" = none :=
    Cursor.keyword?_eq_none_of_opens hc ho (by decide) (fun he => hne (he ▸ by simp))
  have hvirtual : c.skipBlank.keyword? "virtual" = none :=
    Cursor.keyword?_eq_none_of_opens hc ho (by decide) (fun he => hne (he ▸ by simp))
  simp only [functionWordStep, hexplicit, hvirtual, Option.map_none]

/-- What is read as a word of a function is one. -/
theorem functionWordStep_eq_some {words words' : Bool × Bool} {c' : Cursor}
    (h : functionWordStep words c = some (words', c')) :
    ∃ word ∈ ["explicit", "virtual"], c.skipBlank.keyword? word = some c' := by
  unfold functionWordStep at h
  simp only [] at h
  split at h
  next c₁ hk =>
    simp only [Option.some.injEq, Prod.mk.injEq] at h
    obtain ⟨-, rfl⟩ := h
    exact ⟨"explicit", by simp, hk⟩
  next =>
    obtain ⟨c₁, hk, he⟩ := Option.map_eq_some_iff.mp h
    obtain ⟨-, rfl⟩ := Prod.mk.inj he
    exact ⟨"virtual", by simp, hk⟩

/-- A word of a function takes at least one character. -/
theorem progresses_functionWordStep : Cursor.Progresses functionWordStep := by
  intro words c words' c' h
  obtain ⟨word, hmem, hk⟩ := functionWordStep_eq_some h
  have hword : ∀ w ∈ ["explicit", "virtual"], 0 < w.toList.length := by decide
  -- the word is not empty
  have hlen := hword word hmem
  have hle := Cursor.length_rest_skipBlank_le (c := c)
  rw [(Cursor.keyword?_eq_some hk).1, List.length_append] at hle
  omega

/-- Over a word of a function that is written or not, and marked accordingly. -/
theorem exists_passes_optional {word : String} {written : Bool} {words : Bool × Bool}
    (words' : Bool × Bool) (hc : c.skipBlank = d)
    (hr : d.rest = wordsText (if written then [word] else []) ++ k)
    (ho : Text.Opens k) (hsame : written = false → words = words')
    (hstep : written = true → d.rest = word.toList ++ ' ' :: k →
      functionWordStep words c = some (words', d.moved word.toList (' ' :: k))) :
    ∃ c', Cursor.Passes functionWordStep words c words' c' ∧
      c'.skipBlank = d.moved (wordsText (if written then [word] else [])) k := by
  cases written with
  | false =>
    rw [← hsame rfl]
    exact ⟨c, .start, hc.trans (Cursor.moved_nil_of_rest hr).symm⟩
  | true =>
    refine ⟨_, Cursor.Passes.start.step (hstep rfl (by rw [hr]; simp)), ?_⟩
    rw [Cursor.skipBlank_moved_word ho]
    simp

/-- **Over the words of a function**, as they are written. -/
theorem exists_passes_functionWordStep {f : FunctionInfo} (hc : c.skipBlank = d)
    (hr : d.rest = wordsText f.leadingWords ++ k) (hp : Text.IsSeam d.previous?)
    (ho : Text.Opens k) :
    ∃ c', Cursor.Passes functionWordStep (false, false) c (f.isExplicit, f.isVirtual) c' ∧
      c'.skipBlank = d.moved (wordsText f.leadingWords) k := by
  rw [FunctionInfo.leadingWords, Expr.wordsText_append, List.append_assoc] at hr
  have hopens : Text.Opens (wordsText (if f.isExplicit then ["explicit"] else []) ++ k) :=
    Expr.opens_wordsText (by split <;> decide) ho
  -- `virtual` stands in front of `explicit`
  obtain ⟨c₁, hpass₁, hc₁⟩ := exists_passes_optional (false, f.isVirtual) hc hr hopens
    (fun h => by rw [h]) (fun h hr' => (functionWordStep_virtual hc hr' hp).trans (by rw [h]))
  obtain ⟨c₂, hpass₂, hc₂⟩ := exists_passes_optional (f.isExplicit, f.isVirtual) hc₁ rfl ho
    (fun h => by rw [h]) (fun h hr' =>
      (functionWordStep_explicit hc₁ hr' (Expr.isSeam_previous?_wordsText hp)).trans (by rw [h]))
  refine ⟨c₂, hpass₁.trans hpass₂, ?_⟩
  rw [hc₂, Cursor.moved_moved, FunctionInfo.leadingWords, Expr.wordsText_append]

/-- **The words of a function are read back**, if the text behind them begins with none. -/
theorem repeated_functionWordStep_eq {f : FunctionInfo} (hc : c.skipBlank = d)
    (hr : d.rest = wordsText f.leadingWords ++ k) (hp : Text.IsSeam d.previous?) (ho : Text.Opens k)
    (hne : String.ofList (Text.leadingWord k) ∉ ["explicit", "virtual"]) :
    ∃ c', c.repeated functionWordStep (false, false) = ((f.isExplicit, f.isVirtual), c') ∧
      c'.skipBlank = d.moved (wordsText f.leadingWords) k := by
  obtain ⟨c', hpass, hc'⟩ := exists_passes_functionWordStep hc hr hp ho
  -- behind the words that were written the repetition stops
  have hnone : functionWordStep (f.isExplicit, f.isVirtual) c' = none :=
    functionWordStep_eq_none (by rw [hc']; rfl) ho hne
  exact ⟨c', (hpass.repeated_eq progresses_functionWordStep).trans (Cursor.repeated_of_none hnone),
    hc'⟩

/-! ### The words behind a function -/

/-- **The words behind a function are read back**, up to the end of the text. -/
theorem readsTrailing {f : FunctionInfo} (hc : c.rest = Expr.spaced f.trailingWords) :
    ∃ c₁ c', readConst c = (f.isConst, c₁) ∧ readPure c₁ = .done f.isPure c' ∧ c'.rest = [] := by
  obtain ⟨before, rest⟩ := c
  obtain ⟨_, _, _, _, isConst, isPure⟩ := f
  obtain rfl : rest = _ := hc
  -- four texts, of which each is read by computing
  cases isConst with
  | false =>
    cases isPure with
    | false => exact ⟨_, _, rfl, rfl, rfl⟩
    | true => exact ⟨_, _, rfl, rfl, rfl⟩
  | true =>
    cases isPure with
    | false => exact ⟨_, _, rfl, rfl, rfl⟩
    | true => exact ⟨_, _, rfl, rfl, rfl⟩

end Declaration

end CppIndex
