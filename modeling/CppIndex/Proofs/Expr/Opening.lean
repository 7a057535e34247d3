import CppIndex.Proofs.Expr.Run
import CppIndex.Proofs.Expr.Stands

/-!
# How the text of a type begins

The text of every type begins with an identifier that ends at a seam (`Text.Opens`), and that identifier
is what is found when the text is read (`Cursor.identifier?_of_opens`). In front of the base stand the
words of a type in the order in which they are written (`Expr.frontedWords`), which need not be the
order in which they were read: a `const` comes first, the base of a run last. In that order they are
read as the same type.
-/

namespace CppIndex

namespace Text

variable {cs k w : List Char}

/-- **A text opens with a word**: an identifier stands at its front and ends at a seam. -/
def Opens (cs : List Char) : Prop :=
  ∃ w tail, cs = w ++ tail ∧ IsIdentifier w ∧ IsSeam tail.head?

/-- An identifier at the front of a text that ends at a word boundary is the leading word. -/
theorem leadingWord_append_of_boundary (hw : IsIdentifier w) (hk : k.head?.any isWordChar = false) :
    leadingWord (w ++ k) = w := by
  have hcut := isAsciiWordChar_eq_false_of_boundary hk
  -- the `~` of an identifier is set aside before its word is taken
  rcases hw with hw | ⟨v, rfl, hv⟩
  · rw [leadingWord, splitTilde_word_append hw]
    exact takeWhile_word_append hw.all hcut
  · exact congrArg (List.cons '~') (takeWhile_word_append hv.all hcut)

/-- The word at the front of a text is found there. -/
theorem leadingWord_append (hw : IsIdentifier w) (hk : IsSeam k.head?) :
    leadingWord (w ++ k) = w :=
  leadingWord_append_of_boundary hw hk.any_isWordChar

/-- What opens with a word is its leading word and then something behind a seam. -/
theorem Opens.exists_tail (h : Opens cs) :
    ∃ tail, cs = leadingWord cs ++ tail ∧ IsIdentifier (leadingWord cs) ∧ IsSeam tail.head? := by
  obtain ⟨w, tail, rfl, hw, ht⟩ := h
  rw [leadingWord_append hw ht]
  exact ⟨tail, rfl, hw, ht⟩

/-- An identifier opens with itself. -/
theorem IsIdentifier.opens (hw : IsIdentifier w) : Opens w := ⟨w, [], by simp, hw, isSeam_none⟩

/-- So does a word. -/
theorem IsWord.opens (hw : IsWord w) : Opens w := IsIdentifier.opens (Or.inl hw)

/-- What stands behind a seam changes nothing. -/
theorem Opens.append (h : Opens cs) (hk : IsSeam k.head?) : Opens (cs ++ k) := by
  obtain ⟨w, tail, rfl, hw, ht⟩ := h
  refine ⟨w, tail ++ k, by simp, hw, ?_⟩
  -- if the word is all of the text, it is `k` that comes next to it
  cases tail with
  | nil => exact hk
  | cons x tail => exact ht

theorem Opens.leadingWord_append (h : Opens cs) (hk : IsSeam k.head?) :
    leadingWord (cs ++ k) = leadingWord cs := by
  obtain ⟨w, tail, rfl, hw, ht⟩ := h
  have ht' : IsSeam (tail ++ k).head? := by
    cases tail with
    | nil => exact hk
    | cons x tail => exact ht
  -- both texts have the same word at their front, behind which a seam follows
  rw [List.append_assoc, Text.leadingWord_append hw ht', Text.leadingWord_append hw ht]

/-- The first character of a text that opens with a word. -/
theorem Opens.exists_cons (h : Opens cs) :
    ∃ x tail, cs = x :: tail ∧ (x = '~' ∨ isAsciiWordChar x = true) := by
  obtain ⟨w, tail, rfl, hw, -⟩ := h
  obtain ⟨x, v, rfl, hx⟩ := hw.exists_cons
  exact ⟨x, v ++ tail, rfl, hx⟩

/-- A text that opens with a word begins with no blank. -/
theorem Opens.not_blank (h : Opens cs) : ∀ x ∈ (cs ++ k).head?, isBlank x = false := by
  obtain ⟨x, tail, rfl, hx⟩ := h.exists_cons
  intro y hy
  obtain rfl := Option.some.inj hy
  -- the first character is a `~` or a word character, and neither is a blank
  rcases hx with rfl | hx
  · decide
  · exact isBlank_of_isAsciiWordChar hx

/-- Nor does it begin with any sign but `~`. -/
theorem Opens.head?_ne (h : Opens cs) {s : Char} (hs : s ≠ '~')
    (hw : isAsciiWordChar s = false) : (cs ++ k).head? ≠ some s := by
  obtain ⟨x, tail, rfl, hx⟩ := h.exists_cons
  intro hh
  obtain rfl := Option.some.inj hh
  rcases hx with rfl | hx
  · exact hs rfl
  · rw [hw] at hx
    cases hx

end Text

namespace Cursor

variable {c : Cursor} {cs k : List Char}

/-- In front of a text that opens with a word no blank is skipped. -/
theorem skipBlank_of_opens_append (hc : c.rest = cs ++ k) (h : Text.Opens cs) : c.skipBlank = c :=
  skipBlank_eq_self (hc ▸ h.not_blank)

theorem skipBlank_of_opens (hc : c.rest = cs) (h : Text.Opens cs) : c.skipBlank = c :=
  skipBlank_of_opens_append (k := []) (by rw [hc, List.append_nil]) h

/-- **The word at the front of a text is what is read there.** -/
theorem identifier?_of_opens (hc : c.rest = cs ++ k) (h : Text.Opens cs)
    (hb : Text.IsSeam c.previous?) (hk : Text.IsSeam k.head?) :
    ∃ c', c.identifier? = some (String.ofList (Text.leadingWord cs), c') := by
  -- the word found at the front of the longer text is that of the shorter one
  obtain ⟨tail, ht, hi, -⟩ := (h.append hk).exists_tail
  rw [h.leadingWord_append hk] at ht hi
  have hi' : Text.IsIdentifier (String.ofList (Text.leadingWord cs)).toList := by
    rwa [String.toList_ofList]
  obtain ⟨tail', ht', -, hs'⟩ := (h.append hk).exists_tail
  rw [h.leadingWord_append hk] at ht'
  exact ⟨_, identifier?_of_seams (k := tail') (by rw [hc, ht', String.toList_ofList]) hi' hb hs'⟩

end Cursor

namespace Expr

/-! ### Words in the order in which they are written -/

/-- The words in front of a base as they are written: one `const` comes first. -/
def frontedWords (ws : List String) : List String :=
  (if "const" ∈ ws then ["const"] else []) ++ ws.erase "const"

theorem chars_underWords (isConst : Bool) (ws : List String) (e : Expr) :
    (underWords isConst ws e).chars =
      wordsText ((if isConst then ["const"] else []) ++ ws) ++ e.chars := by
  cases isConst <;> simp [underWords]

theorem chars_fronted (ws : List String) (e : Expr) :
    (fronted ws e).chars = wordsText (frontedWords ws) ++ e.chars := by
  rw [fronted, chars_underWords]
  simp [frontedWords]

/-- The written words are the words that were read, in another order. -/
theorem mem_frontedWords {ws : List String} {w : String} : w ∈ frontedWords ws ↔ w ∈ ws := by
  unfold frontedWords
  -- one `const` is moved to the front, if there is one
  by_cases hc : "const" ∈ ws
  · rw [if_pos hc, List.singleton_append]
    exact (List.perm_cons_erase hc).symm.mem_iff
  · rw [if_neg hc, List.nil_append, List.erase_of_not_mem hc]

/-- Behind the `const` the words keep their order. -/
theorem erase_frontedWords (ws : List String) :
    (frontedWords ws).erase "const" = ws.erase "const" := by
  unfold frontedWords
  by_cases hc : "const" ∈ ws
  · rw [if_pos hc, List.singleton_append, List.erase_cons_head]
  · rw [if_neg hc, List.nil_append, List.erase_of_not_mem hc, List.erase_of_not_mem hc]

/-- **The written words give the same type.** -/
theorem fronted_frontedWords (ws : List String) (e : Expr) :
    fronted (frontedWords ws) e = fronted ws e := by
  simp only [fronted, erase_frontedWords, mem_frontedWords]

/-- No word of a run stands before any type. -/
theorem IsRun.not_mem_frontWords {run : List String} (h : IsRun run) {w : String} (hw : w ∈ run) :
    w ∉ frontWords := by
  -- the tables of words before a type and of words of a run have nothing in common
  have hstart : ∀ v ∈ builtinStarts, v ∉ frontWords := by decide
  have hfollow : ∀ {v ws}, Follows v ws → ∀ w ∈ ws, w ∉ frontWords := by
    intro v ws hs
    induction hs with
    | nil => simp
    | @cons v u us hu _ ih =>
      intro w hw
      rcases List.mem_cons.mp hw with rfl | hw
      · exact not_mem_frontWords_of_mem_followers hu
      · exact ih w hw
  obtain ⟨hf, hs⟩ := h
  rcases List.mem_cons.mp hw with rfl | hw
  · exact hstart w hf
  · exact hfollow hs w hw

theorem IsRun.ne_nil {run : List String} (h : IsRun run) : run ≠ [] := by
  obtain ⟨-, -⟩ := h
  simp

/-- **The type of a run** with words in front of it, by how the run is split. -/
theorem builtinFront_append {ws run others : List String} {base : String}
    (hw : ∀ w ∈ ws, w ∈ frontWords) (hr : IsRun run) (hs : splitBuiltin run = (others, base)) :
    builtinFront (ws ++ run) =
      underWords (decide ("const" ∈ ws)) (ws.erase "const" ++ others) (.name base) := by
  have hconst : "const" ∉ run := fun hm => hr.not_mem_frontWords hm (by decide)
  have hmem : ("const" ∈ ws ++ run) = ("const" ∈ ws) := by simp [hconst]
  -- the `const` that is taken out stands among the words in front, since a run has none
  have herase : (ws ++ run).erase "const" = ws.erase "const" ++ run := by
    by_cases hc : "const" ∈ ws
    · rw [List.erase_append_left _ hc]
    · rw [List.erase_append_right _ hc, List.erase_of_not_mem hconst, List.erase_of_not_mem hc]
  have hsub : ∀ w ∈ ws.erase "const", w ∈ frontWords := fun w hm => hw w (List.mem_of_mem_erase hm)
  simp only [builtinFront, hmem, herase, splitBuiltin_append hsub hr.ne_nil, hs]

theorem chars_builtinFront {ws run others : List String} {base : String}
    (hw : ∀ w ∈ ws, w ∈ frontWords) (hr : IsRun run) (hs : splitBuiltin run = (others, base)) :
    (builtinFront (ws ++ run)).chars = wordsText (frontedWords ws ++ others) ++ base.toList := by
  rw [builtinFront_append hw hr hs, chars_underWords, chars_name, ← List.append_assoc]
  simp [frontedWords]

/-- The written words of a run give the same type. -/
theorem builtinFront_frontedWords {ws run others : List String} {base : String}
    (hw : ∀ w ∈ ws, w ∈ frontWords) (hr : IsRun run) (hs : splitBuiltin run = (others, base))
    (hc : IsRun (others ++ [base])) (hsc : splitBuiltin (others ++ [base]) = (others, base)) :
    builtinFront (frontedWords ws ++ (others ++ [base])) = builtinFront (ws ++ run) := by
  rw [builtinFront_append hw hr hs,
    builtinFront_append (fun w hm => hw w (mem_frontedWords.mp hm)) hc hsc]
  simp only [erase_frontedWords, mem_frontedWords]

/-! ### Every type opens with a word -/

/-- The word `operator` is one. -/
theorem isWord_operator : Text.IsWord "operator".toList := by decide

/-- **A name of an operator or a conversion**: its text begins with the word `operator`. -/
def OpensOperator (e : Expr) : Prop :=
  ∃ tail, e.chars = "operator".toList ++ tail ∧ Text.IsSeam tail.head?

theorem opensOperator_sign {s : String} (hs : Text.IsSign s) :
    OpensOperator (name ("operator" ++ s)) := by
  obtain ⟨x, w, hx, -, -, hseam⟩ := Text.exists_cons_of_isSign hs
  exact ⟨x :: w, by rw [chars_name, String.toList_append, hx], hseam⟩

theorem opensOperator_allocation (a : Allocation) (isArray : Bool) :
    OpensOperator (name (a.operatorName isArray)) :=
  ⟨' ' :: _, by rw [chars_name, Allocation.toList_operatorName], Text.isSeam_of_isBlank (by decide)⟩

theorem opensOperator_cast (t : Expr) : OpensOperator (cast t) :=
  ⟨' ' :: _, chars_cast t, Text.isSeam_of_isBlank (by decide)⟩

theorem OpensOperator.opens {e : Expr} (h : OpensOperator e) : Text.Opens e.chars := by
  obtain ⟨tail, he, ht⟩ := h
  exact ⟨_, tail, he, Or.inl isWord_operator, ht⟩

/-- A component is an identifier of its own or the name of an operator or a conversion. -/
theorem IsComponent.identifier_or_operator {e : Expr} (h : IsComponent e) :
    (∃ s, e = name s ∧ Text.IsIdentifier s.toList) ∨ OpensOperator e := by
  cases h with
  | word hs _ => exact Or.inl ⟨_, rfl, hs⟩
  | sign hs => exact Or.inr (opensOperator_sign hs)
  | allocation a isArray => exact Or.inr (opensOperator_allocation a isArray)
  | cast _ => exact Or.inr (opensOperator_cast _)

theorem IsComponent.opens {e : Expr} (h : IsComponent e) : Text.Opens e.chars := by
  -- an identifier is all of its text; in front of anything else stands `operator`
  rcases h.identifier_or_operator with ⟨s, rfl, hs⟩ | hop
  · rw [chars_name]
    exact hs.opens
  · exact hop.opens

/-- The text of components opens with the first of them. -/
theorem IsParts.opens {ps : List Expr} (h : IsParts ps) (hn : ps ≠ []) :
    Text.Opens (joined [':', ':'] ps) := by
  -- A component opens the list only if it is the first.
  have hconcat : ∀ {ps p}, (ps ≠ [] → Text.Opens (joined [':', ':'] ps)) → IsComponent p →
      Text.Opens (joined [':', ':'] (ps ++ [p])) := by
    intro ps p hps hp
    by_cases hn : ps = []
    · rw [hn, List.nil_append, joined_singleton]
      exact hp.opens
    · rw [joined_concat _ _ hn, List.append_assoc]
      exact (hps hn).append (Text.isSeam_some_of_ascii (by decide) (by decide))
  -- over the components, added at the end, with arguments for all of them now and then
  induction h using IsParts.induct with
  | nil => exact absurd rfl hn
  | part _ hp ih => exact hconcat ih hp
  | template _ hp _ ih =>
    rw [joined_singleton, chars_template, chars_ofParts, List.append_assoc]
    exact (hconcat ih hp).append (Text.isSeam_some_of_ascii (by decide) (by decide))

/-- Words in front of a text open it. -/
theorem opens_wordsText {ws : List String} {cs : List Char}
    (hw : ∀ w ∈ ws, Text.IsWord w.toList) (hcs : Text.Opens cs) :
    Text.Opens (wordsText ws ++ cs) := by
  cases ws with
  | nil => exact hcs
  | cons w ws =>
    rw [wordsText_cons, List.append_assoc]
    exact ⟨_, _, rfl, Or.inl (hw w (List.mem_cons_self ..)), Text.isSeam_of_isBlank (by decide)⟩

/-- Words do not begin with a blank, so nor does a text with words in front of it. -/
theorem not_blank_wordsText {ws : List String} {cs : List Char}
    (hw : ∀ w ∈ ws, Text.IsWord w.toList) (hcs : ∀ x ∈ cs.head?, Text.isBlank x = false) :
    ∀ x ∈ (wordsText ws ++ cs).head?, Text.isBlank x = false := by
  cases ws with
  | nil => exact hcs
  | cons w ws =>
    rw [wordsText_cons, List.append_assoc]
    exact (hw w (List.mem_cons_self ..)).opens.not_blank

/-- The first of them is the leading word. -/
theorem leadingWord_wordsText {w : String} {ws : List String} {cs : List Char}
    (hw : Text.IsWord w.toList) : Text.leadingWord (wordsText (w :: ws) ++ cs) = w.toList := by
  rw [wordsText_cons, List.append_assoc]
  exact Text.leadingWord_append (Or.inl hw) (Text.isSeam_of_isBlank (by decide))

theorem IsFront.opens {e : Expr} (h : IsFront e) : Text.Opens e.chars := by
  match h with
  | .parts hw hp hn =>
    rw [chars_fronted, chars_ofParts]
    exact opens_wordsText (fun w hm => isWord_of_mem_frontWords (hw w (mem_frontedWords.mp hm)))
      (hp.opens hn)
  | .builtin hw hr =>
    obtain ⟨others, base, hs, hc, -⟩ := hr.canonical
    rw [chars_builtinFront hw hr hs]
    have hword := hc.isWord
    have hbase : Text.IsIdentifier base.toList := Or.inl (hword base (by simp))
    -- the words of a run are those in front of its base
    refine opens_wordsText (fun w hm => ?_) hbase.opens
    rcases List.mem_append.mp hm with hm | hm
    · exact isWord_of_mem_frontWords (hw w (mem_frontedWords.mp hm))
    · exact hword w (by simp [hm])

/-- **The text of a type opens with a word.** -/
theorem IsType.opens {e : Expr} (h : IsType e) : Text.Opens e.chars := by
  -- a suffix stands behind a seam, so the type opens as what it is put on
  match h with
  | .front hf => exact hf.opens
  | .pointer he =>
    rw [chars_pointer]
    exact (IsType.opens he).append (Text.isSeam_some_of_ascii (by decide) (by decide))
  | .reference he =>
    rw [chars_reference]
    exact (IsType.opens he).append (Text.isSeam_some_of_ascii (by decide) (by decide))
  | .array he _ =>
    rw [chars_array, List.append_assoc]
    exact (IsType.opens he).append (Text.isSeam_some_of_ascii (by decide) (by decide))
  | .const he =>
    rw [chars_const_after]
    exact (IsType.opens he).append (Text.isSeam_of_isBlank (by decide))

/-! ### The first word -/

/-- What begins with an identifier in front of a seam opens with it. -/
theorem opening_of_chars {e : Expr} {s : String} {k : List Char} (he : e.chars = s.toList ++ k)
    (hs : Text.IsIdentifier s.toList) (hk : Text.IsSeam k.head?) : e.opening = s := by
  rw [opening, he, Text.leadingWord_append hs hk, String.ofList_toList]

/-- An identifier opens with itself. -/
theorem opening_name {s : String} (hs : Text.IsIdentifier s.toList) : (name s).opening = s :=
  opening_of_chars (k := []) (by rw [chars_name, List.append_nil]) hs Text.isSeam_none

theorem OpensOperator.opening {e : Expr} (h : OpensOperator e) : e.opening = "operator" := by
  obtain ⟨tail, he, ht⟩ := h
  exact opening_of_chars he (Or.inl isWord_operator) ht

/-- Words in front of a base open it, the `const` first. -/
theorem opening_underWords {isConst : Bool} {words : List String} {e : Expr}
    (hw : ∀ w ∈ (if isConst then ["const"] else []) ++ words, w ∈ frontWords) :
    (underWords isConst words e).opening ∈ frontWords ∨
      isConst = false ∧ words = [] ∧ (underWords isConst words e).opening = e.opening := by
  have hchars := chars_underWords isConst words e
  -- With no word at all the base opens it.
  cases hws : (if isConst then ["const"] else []) ++ words with
  | nil =>
    obtain ⟨hconst, rfl⟩ := List.append_eq_nil_iff.mp hws
    have hfalse : isConst = false := by
      cases isConst with
      | false => rfl
      | true => cases hconst
    refine Or.inr ⟨hfalse, rfl, ?_⟩
    rw [opening, opening, hchars, hws, wordsText_nil, List.nil_append]
  | cons w ws =>
    have hw' := hw w (hws ▸ List.mem_cons_self ..)
    refine Or.inl ?_
    rw [opening, hchars, hws, leadingWord_wordsText (isWord_of_mem_frontWords hw'),
      String.ofList_toList]
    exact hw'

/-- A suffix does not change how a type opens. -/
theorem IsType.opening_append {e e' : Expr} {k : List Char} (h : IsType e)
    (he : e'.chars = e.chars ++ k) (hk : Text.IsSeam k.head?) : e'.opening = e.opening := by
  rw [opening, opening, he, h.opens.leadingWord_append hk]

end Expr

end CppIndex
