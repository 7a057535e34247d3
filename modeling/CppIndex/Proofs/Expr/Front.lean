import CppIndex.Proofs.Expr.Opening

/-!
# Reading back the words of a type

The words in front of a type, and a run of built-in words, are read back from the text in which they are
written. Each word is followed by a blank or by the end of the run, so each is read alone, and reading
stops where no further word may stand. For a run that is a condition on the following text only behind
`long`, the one word that may be a base and still have followers (`Expr.readsFront_builtin`).
-/

namespace CppIndex.Expr

variable {c d : Cursor} {k : List Char}

/-! ### Words -/

/-- Over words that may stand before any type. -/
theorem passes_leadingStep {u ws : List String} (hw : ∀ w ∈ ws, w ∈ frontWords)
    (hd : c.skipBlank = d) (hr : d.rest = wordsText ws ++ k) (hp : Text.IsSeam d.previous?)
    (hk : ∀ x ∈ k.head?, Text.isBlank x = false) :
    ∃ c', Cursor.Passes leadingStep u c (u ++ ws) c' ∧
      c'.skipBlank = d.moved (wordsText ws) k := by
  induction ws generalizing u c d with
  | nil =>
    refine ⟨c, by simpa using .start, ?_⟩
    rw [hd]
    exact (Cursor.moved_nil_of_rest hr).symm
  | cons w ws ih =>
    have hword := isWord_of_mem_frontWords (hw w (List.mem_cons_self ..))
    rw [wordsText_cons, List.append_assoc] at hr
    have hi : c.skipBlank.identifier? = some (w, d.moved w.toList (' ' :: (wordsText ws ++ k))) := by
      rw [hd]
      exact Cursor.identifier?_of_seams hr (Or.inl hword) hp (Text.isSeam_of_isBlank (by decide))
    have hstep : leadingStep u c = some (u ++ [w], _) :=
      leadingStep_of_mem (hw w (List.mem_cons_self ..)) hi
    have hnext := not_blank_wordsText
      (fun v hv => isWord_of_mem_frontWords (hw v (List.mem_cons_of_mem _ hv))) hk
    -- The next word is found behind one blank, which is a seam in front of it.
    obtain ⟨c', hpass, hc'⟩ := ih (u := u ++ [w]) (fun v hv => hw v (List.mem_cons_of_mem _ hv))
      (Cursor.skipBlank_space (c := d.moved w.toList (' ' :: (wordsText ws ++ k))) rfl hnext) rfl
      (by simpa using Text.isSeam_of_isBlank (show Text.isBlank ' ' = true by decide))
    refine ⟨c', ?_, ?_⟩
    · rw [List.append_assoc, List.singleton_append] at hpass
      exact (Cursor.Passes.start.step hstep).trans hpass
    · rw [hc', Cursor.moved_moved, Cursor.moved_moved, wordsText_cons]
      simp

/-- Behind words there is a seam. -/
theorem isSeam_previous?_wordsText {ws : List String} (hp : Text.IsSeam c.previous?) :
    Text.IsSeam (c.moved (wordsText ws) k).previous? := by
  rcases List.eq_nil_or_concat ws with rfl | ⟨vs, v, rfl⟩
  · exact hp
  · rw [List.concat_eq_append, wordsText_append, wordsText_cons, wordsText_nil, ← List.append_assoc,
      Cursor.previous?_moved_concat]
    exact Text.isSeam_of_isBlank (by decide)

/-- **The words in front of a type** are read up to where no further one stands. -/
theorem leadingWords_eq {ws : List String} (hw : ∀ w ∈ ws, w ∈ frontWords)
    (hr : c.rest = wordsText ws ++ k) (hp : Text.IsSeam c.previous?)
    (hk : ∀ x ∈ k.head?, Text.isBlank x = false)
    (hstop : ∀ w c', (c.moved (wordsText ws) k).identifier? = some (w, c') → w ∉ frontWords) :
    leadingWords c = (ws, c.moved (wordsText ws) k) := by
  have hc : c.skipBlank = c := Cursor.skipBlank_eq_self <| by
    rw [hr]
    exact not_blank_wordsText (fun w hm => isWord_of_mem_frontWords (hw w hm)) hk
  obtain ⟨c', hpass, hc'⟩ := passes_leadingStep (u := []) hw hc hr hp hk
  -- The word behind is none of them, so the reading stops where the words end.
  have hnone : leadingStep ([] ++ ws) c' = none :=
    leadingStep_eq_none_iff.mpr (by rw [hc']; exact hstop)
  have hrep : c.repeated leadingStep [] = (ws, c') := by
    rw [hpass.repeated_eq progresses_leadingStep, Cursor.repeated_of_none hnone, List.nil_append]
  simp only [leadingWords, hrep, hc']

/-- The words of a run behind the first, each behind a blank. -/
def spaced (ws : List String) : List Char := ws.flatMap fun w => ' ' :: w.toList

theorem spaced_concat (ws : List String) (w : String) :
    spaced (ws ++ [w]) = ' ' :: (wordsText ws ++ w.toList) := by
  induction ws with
  | nil => simp [spaced]
  | cons v ws ih =>
    -- each word has its blank in front here, and behind it in a text of words
    have hcons : spaced (v :: (ws ++ [w])) = ' ' :: v.toList ++ spaced (ws ++ [w]) := by
      simp [spaced]
    rw [List.cons_append, hcons, ih]
    simp

/-- Over the words of a run. -/
theorem passes_builtinStep {v : String} {u ws : List String} (hf : Follows v ws)
    (hr : c.rest = spaced ws ++ k) (hk : Text.IsSeam k.head?) :
    Cursor.Passes builtinStep (u, followers v) c
      (u ++ ws, followers (ws.getLastD v)) (c.moved (spaced ws) k) := by
  induction hf generalizing u c with
  | nil =>
    have hc : c.moved (spaced []) k = c := Cursor.moved_nil_of_rest hr
    rw [hc]
    simpa using .start
  | @cons v w ws hw hs ih =>
    have hcons : spaced (w :: ws) = ' ' :: (w.toList ++ spaced ws) := by simp [spaced]
    have hword := isWord_of_mem_followers hw
    rw [hcons, List.cons_append, List.append_assoc] at hr
    have hseam : Text.IsSeam (spaced ws ++ k).head? := by
      cases ws with
      | nil => exact hk
      | cons u us => exact Text.isSeam_of_isBlank (by decide)
    have hskip : c.skipBlank = c.moved [' '] (w.toList ++ (spaced ws ++ k)) :=
      Cursor.skipBlank_space hr hword.opens.not_blank
    have hi : c.skipBlank.identifier? = some (w, c.moved (' ' :: w.toList) (spaced ws ++ k)) := by
      rw [hskip]
      have hfound := Cursor.identifier?_of_seams (c := c.moved [' '] (w.toList ++ (spaced ws ++ k)))
        rfl (Or.inl hword) (by simpa using Text.isSeam_of_isBlank (show Text.isBlank ' ' = true by decide))
        hseam
      rwa [Cursor.moved_moved] at hfound
    have hstep : builtinStep (u, followers v) c = some ((u ++ [w], followers w), _) :=
      builtinStep_of_mem hw hi
    -- From here on only the words may follow that follow the word just read.
    have hpass := ih (u := u ++ [w]) (c := c.moved (' ' :: w.toList) (spaced ws ++ k)) rfl
    rw [Cursor.moved_moved, List.append_assoc, List.singleton_append] at hpass
    rw [List.getLastD_cons, hcons]
    exact (Cursor.Passes.start.step hstep).trans hpass

/-! ### What stands before the suffixes -/

/-- A run ends in front of a text that cannot go on with it. -/
theorem builtinStep_eq_none {u : List String} {base : String}
    (hb : base = "long" ∨ followers base = []) (hk : base = "long" → NoLonger c.skipBlank.rest) :
    builtinStep (u, followers base) c = none := by
  refine builtinStep_eq_none_iff.mpr fun w c' hi hw => ?_
  -- behind `long` it is the text that rules a longer run out, behind any other base the table
  rcases hb with rfl | hb
  · obtain ⟨-, hr, -, hn⟩ := Cursor.identifier?_eq_some hi
    have hany := hk rfl w hw _ hr
    rw [hn] at hany
    cases hany
  · rw [hb] at hw
    cases hw

/-- A text that opens with a word begins with no `::`. -/
theorem skip?_of_opens {cs : List Char} (hc : c.rest = cs ++ k) (h : Text.Opens cs) :
    c.skipBlank.skip? "::" = none := by
  rw [Cursor.skipBlank_of_opens_append hc h]
  exact Cursor.skip?_eq_none (w := ':') rfl (hc ▸ h.head?_ne (by decide) (by decide))

/-- Over words and a run, up to where the run cannot go on. -/
theorem readsFront_run {b : Bool} {ws us : List String} {first : String}
    (hw : ∀ w ∈ ws, w ∈ frontWords) (hf : first ∈ builtinStarts) (hs : Follows first us)
    (hc : c.rest = wordsText ws ++ (first.toList ++ spaced us ++ k))
    (hp : Text.IsSeam c.previous?) (hk : Text.IsSeam k.head?)
    (hb : us.getLastD first = "long" ∨ followers (us.getLastD first) = [])
    (hl : us.getLastD first = "long" → NoLonger (Text.dropBlank k)) :
    ReadsFront b c (builtinFront (ws ++ first :: us))
      (c.moved (wordsText ws ++ (first.toList ++ spaced us)) k) := by
  have hword : Text.IsIdentifier first.toList := Or.inl (isWord_of_mem_builtinStarts hf)
  have hseam : Text.IsSeam (spaced us ++ k).head? := by
    cases us with
    | nil => exact hk
    | cons u us => exact Text.isSeam_of_isBlank (by decide)
  have hopens : Text.Opens (wordsText ws ++ first.toList) :=
    opens_wordsText (fun w hm => isWord_of_mem_frontWords (hw w hm)) hword.opens
  have hc' : c.rest = wordsText ws ++ first.toList ++ (spaced us ++ k) := by rw [hc]; simp
  rw [List.append_assoc] at hc
  -- the cursor between the words and the run
  obtain ⟨d, hd⟩ : ∃ d, d = c.moved (wordsText ws) (first.toList ++ (spaced us ++ k)) := ⟨_, rfl⟩
  have hi : d.identifier? = some (first, d.moved first.toList (spaced us ++ k)) :=
    Cursor.identifier?_of_seams (by rw [hd]; rfl) hword (hd ▸ isSeam_previous?_wordsText hp) hseam
  have hlead : leadingWords c.skipBlank = (ws, d) := by
    rw [Cursor.skipBlank_of_opens_append hc' hopens, hd]
    refine leadingWords_eq hw hc hp hword.opens.not_blank fun w c' hw' => ?_
    rw [← hd, hi] at hw'
    obtain ⟨rfl, -⟩ := Prod.mk.inj (Option.some.inj hw')
    exact (IsRun.intro hf hs).not_mem_frontWords (List.mem_cons_self ..)
  have hpass := passes_builtinStep (u := ws ++ [first])
    (c := d.moved first.toList (spaced us ++ k)) hs rfl hk
  have hend : (d.moved first.toList (spaced us ++ k)).moved (spaced us) k =
      c.moved (wordsText ws ++ (first.toList ++ spaced us)) k := by
    rw [hd, Cursor.moved_moved, Cursor.moved_moved]
  rw [hend, List.append_assoc, List.singleton_append] at hpass
  have hrep := (hpass.repeated_eq progresses_builtinStep).trans
    (Cursor.repeated_of_none (builtinStep_eq_none hb hl))
  exact .builtin (skip?_of_opens hc' hopens) hlead (builtinStart?_of_mem hf hi) hrep

/-- **The written words of a run**: the words in front, and a run with the base last. -/
structure WrittenRun (ws run : List String) (first : String) (us others : List String)
    (base : String) : Prop where
  /-- How the run is split. -/
  split : splitBuiltin run = (others, base)
  /-- The written run is split in the same way. -/
  again : splitBuiltin (others ++ [base]) = (others, base)
  /-- The written run is a run. -/
  isRun : IsRun (others ++ [base])
  /-- It has a first word. -/
  eq_cons : others ++ [base] = first :: us
  /-- The first word begins a run. -/
  start : first ∈ builtinStarts
  /-- The others follow it. -/
  follows : Follows first us
  /-- Only behind `long` could it go on. -/
  stop : base = "long" ∨ followers base = []
  /-- The text. -/
  text : (builtinFront (ws ++ run)).chars =
    wordsText (frontedWords ws) ++ (first.toList ++ spaced us)

theorem exists_writtenRun {ws run : List String} (hw : ∀ w ∈ ws, w ∈ frontWords) (hr : IsRun run) :
    ∃ first us others base, WrittenRun ws run first us others base := by
  obtain ⟨others, base, hs, hcanon, hscanon, hbase⟩ := hr.canonical
  obtain ⟨first, us, hrun, hfirst, hfollows⟩ :
      ∃ first us, others ++ [base] = first :: us ∧ first ∈ builtinStarts ∧ Follows first us := by
    cases hcanon' : others ++ [base] with
    | nil => simp at hcanon'
    | cons first us =>
      rw [hcanon'] at hcanon
      obtain ⟨hf, hs⟩ := hcanon
      exact ⟨first, us, rfl, hf, hs⟩
  refine ⟨first, us, others, base, hs, hscanon, hcanon, hrun, hfirst, hfollows, hbase, ?_⟩
  have h := spaced_concat others base
  rw [hrun] at h
  -- Written in a row, the words stand behind a blank each but for the first.
  have hcons : spaced (first :: us) = ' ' :: (first.toList ++ spaced us) := by simp [spaced]
  rw [hcons] at h
  rw [chars_builtinFront hw hr hs, wordsText_append, List.append_assoc, (List.cons.inj h).2]

/-- The last word of a written run is its base. -/
theorem WrittenRun.getLastD {ws run us others : List String} {first base : String}
    (h : WrittenRun ws run first us others base) : us.getLastD first = base :=
  getLastD_of_concat_eq_cons h.eq_cons

/-- **A run of built-in words is read back.** -/
theorem readsFront_builtin {b : Bool} {ws run : List String} (hw : ∀ w ∈ ws, w ∈ frontWords)
    (hr : IsRun run) (hc : c.rest = (builtinFront (ws ++ run)).chars ++ k)
    (hp : Text.IsSeam c.previous?) (hk : Text.IsSeam k.head?)
    (hend : Follow (builtinFront (ws ++ run)) (Text.dropBlank k)) :
    ReadsFront b c (builtinFront (ws ++ run)) (c.moved (builtinFront (ws ++ run)).chars k) := by
  obtain ⟨first, us, others, base, h⟩ := exists_writtenRun hw hr
  have hlast := h.getLastD
  have hwords : ∀ w ∈ frontedWords ws, w ∈ frontWords := fun w hm => hw w (mem_frontedWords.mp hm)
  -- The words are read in another order than they were, which makes no difference to the type.
  have hsame : builtinFront (frontedWords ws ++ first :: us) = builtinFront (ws ++ run) := by
    rw [← h.eq_cons]
    exact builtinFront_frontedWords hw hr h.split h.isRun h.again
  rw [h.text, List.append_assoc] at hc
  rw [h.text, ← hsame]
  refine readsFront_run hwords h.start h.follows hc hp hk (hlast ▸ h.stop) fun hlong => ?_
  rw [builtinFront_append hw hr h.split, ← hlast, hlong] at hend
  exact follow_underWords_long_iff.mp hend

end CppIndex.Expr
