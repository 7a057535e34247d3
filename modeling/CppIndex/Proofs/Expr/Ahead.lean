import CppIndex.Proofs.Expr.Closing
import CppIndex.Proofs.Expr.ExactFront
import CppIndex.Proofs.Text.Layout

/-!
# Words ahead of the cursor

The words of a type need not be written the way the canonical text writes them: any blanks may stand between
them, and a run of built-in words may spell what it leaves out. Here words are read whatever their layout. A
cursor has words **ahead** if what is left is some text with these words as its chunks, and then a further text
(`Expr.Ahead`). One reading of an identifier takes the first of the words (`Ahead.step`), so the words that may
stand before any type are passed one by one, and so are those of a run.

A run ends in front of the further text if the first word of that, which may stand behind blanks, is none that
its last word lets follow (`Ahead.readsFront`). Behind what stands before the suffixes, a text is parsed by its
suffixes alone (`parse_eq_ok_iff_of_readsFront`).
-/

namespace CppIndex

namespace Text

variable {w k : List Char}

/-- **The first word** of a text, if nothing but blanks stands in front of it. -/
def firstWord (k : List Char) : List Char := (dropBlank k).takeWhile isWordChar

/-- Where no word goes on, none is taken. -/
theorem takeWhile_isWordChar_eq_nil (h : k.head?.any isWordChar = false) : k.takeWhile isWordChar = [] := by
  cases k with
  | nil => rfl
  | cons x k =>
    have hx : isWordChar x = false := h
    simp [hx]

/-- A word at the front of a text is its first word, if it ends at a word boundary. -/
theorem firstWord_eq {r : List Char} (hk : dropBlank k = w ++ r) (hw : ∀ x ∈ w, isAsciiWordChar x = true)
    (hr : r.head?.any isWordChar = false) : firstWord k = w := by
  rw [firstWord, hk, List.takeWhile_append_of_pos fun x hx => isWordChar_of_isAsciiWordChar (hw x hx),
    takeWhile_isWordChar_eq_nil hr, List.append_nil]

/-- No word goes on in a text whose last blanks are gone if none does with them. -/
theorem any_isWordChar_trimEnd (h : k.head?.any isWordChar = false) :
    (trimEnd k).head?.any isWordChar = false := by
  rcases head?_trimEnd k with hnil | hhead
  · rw [hnil]
    rfl
  · rwa [hhead]

/-- Blanks at the end of a text belong to no word. -/
theorem firstWord_trimEnd (k : List Char) : firstWord (trimEnd k) = firstWord k := by
  obtain ⟨blanks, hk, hblank, -⟩ := trimEnd_append k
  have hword : blanks.takeWhile isWordChar = [] := by
    refine takeWhile_isWordChar_eq_nil ?_
    cases blanks with
    | nil => rfl
    | cons x blanks => exact (isSeam_of_isBlank (hblank x (List.mem_cons_self ..))).any_isWordChar
  have hdrop : dropBlank (trimEnd k ++ blanks) =
      if dropBlank (trimEnd k) = [] then [] else dropBlank (trimEnd k) ++ blanks := by
    rw [dropBlank, List.dropWhile_append, List.dropWhile_eq_nil_iff.mpr hblank]
    simp only [List.isEmpty_iff]
    rfl
  rw [← hk] at hdrop
  -- a text of blanks has no word, and in any other the blanks at the end stand behind its first word
  rw [firstWord, firstWord, hdrop]
  split
  next hnil => rw [hnil]
  next =>
    rw [List.takeWhile_append, hword, List.append_nil]
    split
    next hall => exact (List.takeWhile_prefix _).eq_of_length hall
    next => rfl

end Text

namespace Expr

variable {c : Cursor} {k : List Char} {w first v : String} {ws us vs : List String}

/-! ### Words one by one -/

/-- **Words ahead**: what is left at the cursor is the words, with any blanks between and around them, and then
the text `k`. -/
def Ahead (ws : List String) (k : List Char) (c : Cursor) : Prop :=
  ∃ cs, c.rest = cs ++ k ∧ Text.chunks cs = ws.map String.toList ∧
    (Text.IsSeam c.previous? ∨ ∀ x ∈ cs.head?, Text.isBlank x = true)

/-- **The first word ahead**: behind the blanks in front of it the cursor stands at a seam, and what follows the
word begins with a blank if it does not begin with the further text. -/
theorem Ahead.exists_rest (h : Ahead (w :: ws) k c) :
    ∃ cs, c.skipBlank.rest = w.toList ++ (cs ++ k) ∧ Text.IsSeam c.skipBlank.previous? ∧
      Text.chunks cs = ws.map String.toList ∧ ∀ x ∈ cs.head?, Text.isBlank x = true := by
  obtain ⟨cs, hc, hchunks, hp⟩ := h
  obtain ⟨ds, hds, hrest, hblank⟩ := Text.exists_of_chunks_eq_cons hchunks
  obtain ⟨x, xs, rfl⟩ : ∃ x xs, cs = x :: xs := by
    cases cs with
    | nil => cases hchunks
    | cons x xs => exact ⟨x, xs, rfl⟩
  refine ⟨ds, ?_, ?_, hrest, hblank⟩
  · rw [Cursor.rest_skipBlank, hc, Text.dropBlank_append_of_chunks (by rw [hchunks]; simp), hds,
      List.append_assoc]
  · -- behind the blanks a seam stands if one stood before, or if a blank was skipped
    refine Cursor.isSeam_previous?_skipBlank (hp.imp_right fun hx => ⟨x, ?_, hx x rfl⟩)
    rw [hc]
    rfl

/-- **One word** is read as an identifier, and the others are ahead behind it. -/
theorem Ahead.step (h : Ahead (w :: ws) k c) (hw : Text.IsWord w.toList)
    (hk : k.head?.any Text.isWordChar = false) :
    ∃ c', c.skipBlank.identifier? = some (w, c') ∧ Ahead ws k c' := by
  obtain ⟨cs, hc, hp, hchunks, hblank⟩ := h.exists_rest
  -- what follows the word is a blank, or the further text
  have hend : (cs ++ k).head?.any Text.isWordChar = false := by
    cases cs with
    | nil => exact hk
    | cons x cs => exact (Text.isSeam_of_isBlank (hblank x rfl)).any_isWordChar
  exact ⟨_, Cursor.identifier?_of_boundary hc (Or.inl hw) hp hend, cs, rfl, hchunks, Or.inr hblank⟩

/-! ### The words of a type -/

/-- **Words that may stand before any type** are passed one by one. -/
theorem Ahead.passes_leadingStep (us : List String) (h : Ahead (ws ++ vs) k c)
    (hw : ∀ w ∈ ws, w ∈ frontWords) (hk : k.head?.any Text.isWordChar = false) :
    ∃ c', Cursor.Passes leadingStep us c (us ++ ws) c' ∧ Ahead vs k c' := by
  -- over the words that are ahead, each of which the step finds at once
  induction ws generalizing us c with
  | nil => exact ⟨c, by simpa using .start, h⟩
  | cons w ws ih =>
    have hmem := hw w (List.mem_cons_self ..)
    obtain ⟨c₁, hi, hrest⟩ := h.step (isWord_of_mem_frontWords hmem) hk
    obtain ⟨c', hpass, hvs⟩ := ih (us ++ [w]) hrest fun v hv => hw v (List.mem_cons_of_mem _ hv)
    rw [List.append_assoc, List.singleton_append] at hpass
    exact ⟨c', (Cursor.Passes.start.step (leadingStep_of_mem hmem hi)).trans hpass, hvs⟩

/-- **Words that follow a word of a run** are passed one by one. -/
theorem Ahead.passes_builtinStep (ws : List String) (h : Ahead us k c) (hs : Follows v us)
    (hk : k.head?.any Text.isWordChar = false) :
    ∃ c', Cursor.Passes builtinStep (ws, followers v) c (ws ++ us, followers (us.getLastD v)) c' ∧
      Ahead [] k c' := by
  -- over the words that follow: each may come next behind the one before it
  induction hs generalizing ws c with
  | nil => exact ⟨c, by simpa using .start, h⟩
  | @cons v w us hw _ ih =>
    obtain ⟨c₁, hi, hrest⟩ := h.step (isWord_of_mem_followers hw) hk
    obtain ⟨c', hpass, hend⟩ := ih (ws ++ [w]) hrest
    rw [List.append_assoc, List.singleton_append] at hpass
    rw [List.getLastD_cons]
    exact ⟨c', (Cursor.Passes.start.step (builtinStep_of_mem hw hi)).trans hpass, hend⟩

/-- Where no words are ahead any more, the first word is that of the further text. -/
theorem Ahead.rest_skipBlank_nil (h : Ahead [] k c) : c.skipBlank.rest = Text.dropBlank k := by
  obtain ⟨cs, hc, hchunks, -⟩ := h
  rw [Cursor.rest_skipBlank, hc,
    Text.dropBlank_append_of_blanks (Text.forall_isBlank_of_chunks_eq_nil hchunks)]

/-- Blanks at the front of the further text make a seam. -/
theorem Ahead.isSeam_skipBlank (h : Ahead [] k c) (hk : ∃ x ∈ k.head?, Text.isBlank x = true) :
    Text.IsSeam c.skipBlank.previous? := by
  obtain ⟨cs, hc, hchunks, -⟩ := h
  refine Cursor.isSeam_previous?_skipBlank (Or.inr ?_)
  rw [hc]
  cases cs with
  | nil => exact hk
  | cons x cs => exact ⟨x, rfl, Text.forall_isBlank_of_chunks_eq_nil hchunks x (List.mem_cons_self ..)⟩

/-- **A run ends** in front of a first word that may not come next. -/
theorem Ahead.builtinStep_eq_none (h : Ahead [] k c)
    (hn : String.ofList (Text.firstWord k) ∉ followers v) : builtinStep (ws, followers v) c = none := by
  refine builtinStep_eq_none_iff.mpr fun w c' hi hw => hn ?_
  obtain ⟨-, hr, -, hend⟩ := Cursor.identifier?_eq_some hi
  rw [h.rest_skipBlank_nil] at hr
  rwa [Text.firstWord_eq hr (isWord_of_mem_followers hw).all hend, String.ofList_toList]

/-- Blanks in front of the words ahead make no difference. -/
theorem Ahead.skipBlank (h : Ahead ws k c) (hn : ws ≠ []) : Ahead ws k c.skipBlank := by
  obtain ⟨w, vs, rfl⟩ := List.exists_cons_of_ne_nil hn
  obtain ⟨cs, hc, hchunks, -⟩ := id h
  obtain ⟨-, -, hp, -⟩ := h.exists_rest
  refine ⟨Text.dropBlank cs, ?_, by rw [Text.chunks_dropBlank, hchunks], Or.inl hp⟩
  rw [Cursor.rest_skipBlank, hc, Text.dropBlank_append_of_chunks (by rw [hchunks]; simp)]

/-- A word ahead is no `::`. -/
theorem Ahead.skip?_root (h : Ahead (w :: ws) k c) (hw : Text.IsWord w.toList) :
    c.skipBlank.skip? "::" = none := by
  obtain ⟨cs, hc, -⟩ := h.exists_rest
  refine Cursor.skip?_eq_none (w := ':') rfl ?_
  rw [hc]
  exact hw.opens.head?_ne (by decide) (by decide)

/-- **The words before a run**, and the word that begins it. -/
theorem Ahead.exists_leadingWords (h : Ahead (ws ++ first :: us) k c) (hw : ∀ w ∈ ws, w ∈ frontWords)
    (hf : first ∈ builtinStarts) (hk : k.head?.any Text.isWordChar = false) :
    ∃ d d', leadingWords c = (ws, d) ∧ builtinStart? d = some (first, followers first, d') ∧
      Ahead us k d' := by
  obtain ⟨d, hpass, hrun⟩ := h.passes_leadingStep [] hw hk
  obtain ⟨d', hi, hus⟩ := hrun.step (isWord_of_mem_builtinStarts hf) hk
  -- the word that begins a run stands before no other type, so the words before it end there
  have hstop : leadingStep ([] ++ ws) d = none := leadingStep_eq_none_iff.mpr fun w c' hi' => by
    rw [hi] at hi'
    obtain ⟨rfl, -⟩ := Prod.mk.inj (Option.some.inj hi')
    exact (IsRun.intro hf .nil).not_mem_frontWords (List.mem_cons_self ..)
  have hrep : c.repeated leadingStep [] = (ws, d) := by
    rw [hpass.repeated_eq progresses_leadingStep, Cursor.repeated_of_none hstop, List.nil_append]
  exact ⟨d.skipBlank, d', by simp only [leadingWords, hrep], builtinStart?_of_mem hf hi, hus⟩

/-- **A run behind words that may stand before any type is read**, whatever the layout, up to where a first word
ends it. -/
theorem Ahead.readsFront {b : Bool} (h : Ahead (ws ++ first :: us) k c) (hw : ∀ w ∈ ws, w ∈ frontWords)
    (hf : first ∈ builtinStarts) (hs : Follows first us) (hk : k.head?.any Text.isWordChar = false)
    (hn : String.ofList (Text.firstWord k) ∉ followers (us.getLastD first)) :
    ∃ c', ReadsFront b c (builtinFront (ws ++ first :: us)) c' ∧ Ahead [] k c' := by
  have hroot : c.skipBlank.skip? "::" = none := by
    cases ws with
    | nil => exact h.skip?_root (isWord_of_mem_builtinStarts hf)
    | cons w ws => exact h.skip?_root (isWord_of_mem_frontWords (hw w (List.mem_cons_self ..)))
  obtain ⟨d, d', hlead, hstart, hus⟩ := (h.skipBlank (by simp)).exists_leadingWords hw hf hk
  obtain ⟨c', hpass, hend⟩ := hus.passes_builtinStep (ws ++ [first]) hs hk
  -- The first word of what follows lengthens no run, so the run ends with the words ahead.
  have hrep := (hpass.repeated_eq progresses_builtinStep).trans
    (Cursor.repeated_of_none (hend.builtinStep_eq_none hn))
  rw [List.append_assoc, List.singleton_append] at hrep
  exact ⟨c', .builtin hroot hlead hstart hrep, hend⟩

/-! ### Whole texts -/

/-- **What a text is parsed as**, once it is known what stands before the suffixes. -/
theorem parse_eq_ok_iff_of_readsFront {text : String} {e₀ e : Expr}
    (h : ReadsFront false (.ofText text) e₀ c) : parse text = .ok e ↔
      ∃ c', Cursor.Passes suffixStep e₀ c e c' ∧ suffixStep e c' = none ∧ Text.dropBlank c'.rest = [] := by
  -- reading has a single outcome, so what stands before the suffixes is settled
  have hread : read (.ofText text) = withSuffixes e₀ c := h.upTo.2 _ (Nat.le_refl _)
  rw [parse, Reading.complete_eq_ok_iff, hread]
  constructor
  · rintro ⟨c₁, hc₁, hend⟩
    obtain ⟨c', hpass, hstop, rfl⟩ := withSuffixes_eq_done.mp hc₁
    exact ⟨c', hpass, hstop, by rwa [Cursor.rest_skipBlank, Text.dropBlank_dropBlank] at hend⟩
  · rintro ⟨c', hpass, hstop, hend⟩
    refine ⟨c'.skipBlank, withSuffixes_eq_done.mpr ⟨c', hpass, hstop, rfl⟩, ?_⟩
    rwa [Cursor.rest_skipBlank, Text.dropBlank_dropBlank]

/-- **A run in front of a text** is read from the beginning, whatever its layout. -/
theorem exists_readsFront_ofText {run : List String} {last : String} {s t : String}
    (hw : ∀ w ∈ ws, w ∈ frontWords) (hr : IsRun run) (hl : run.getLast? = some last)
    (hs : Text.chunks s.toList = (ws ++ run).map String.toList) (ht : t.toList.head?.any Text.isWordChar = false)
    (hn : String.ofList (Text.firstWord t.toList) ∉ followers last) :
    ∃ c, ReadsFront false (.ofText (s ++ t)) (builtinFront (ws ++ run)) c ∧
      Ahead [] (Text.trimEnd t.toList) c := by
  obtain ⟨hf, hus⟩ := hr
  rename_i first us
  rw [List.getLast?_cons, Option.some.injEq] at hl
  have hne : Text.chunks s.toList ≠ [] := by
    rw [hs]
    simp
  obtain ⟨cs, htrim, hchunks⟩ := Text.exists_trim_append hne t.toList
  -- Nothing stands in front of the text, so its first word stands at a seam.
  have hahead : Ahead (ws ++ first :: us) (Text.trimEnd t.toList) (.ofText (s ++ t)) :=
    ⟨cs, by rw [Cursor.ofText, String.toList_append, htrim], hchunks.trans hs, Or.inl Text.isSeam_none⟩
  refine hahead.readsFront hw hf hus (Text.any_isWordChar_trimEnd ht) ?_
  rwa [Text.firstWord_trimEnd, List.getLastD_eq_getLast?, hl]

end Expr

end CppIndex
