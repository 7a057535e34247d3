import CppIndex.Cursor.Lexeme
import CppIndex.Proofs.Text.Seam

/-!
# What the recognisers of lexemes recognise

One statement for each recogniser says what it takes from the text and where it leaves the cursor, and
one says when it succeeds on a text that begins with the lexeme. Only the two recognisers of words look
at the character before the cursor. They find a word that stands between two seams
(`Cursor.identifier?_of_seams`, `Cursor.keyword?_of_seams`), and whatever they find is a word of the
text (`Cursor.identifier?_eq_some`, `Cursor.keyword?_eq_some`).

The character before the cursor makes a seam at the beginning of a text, behind a sign and behind
blanks (`Cursor.isSeam_previous?_skipBlank`).
-/

namespace CppIndex

namespace Text

/-- A leading `~` is split off or there is none. -/
theorem splitTilde_cases (cs : List Char) :
    (splitTilde cs).1 = [] ∨ (splitTilde cs).1 = ['~'] := by
  unfold splitTilde
  split
  · exact Or.inr rfl
  · exact Or.inl rfl

/-- Splitting off a `~` loses nothing. -/
theorem splitTilde_append (cs : List Char) : (splitTilde cs).1 ++ (splitTilde cs).2 = cs := by
  unfold splitTilde
  split <;> rfl

theorem splitTilde_of_ne {x : Char} {cs : List Char} (h : x ≠ '~') :
    splitTilde (x :: cs) = ([], x :: cs) := by
  unfold splitTilde
  split
  next heq => exact absurd (List.cons.inj heq).1 h
  next => rfl

/-- A word begins with no `~`. -/
theorem splitTilde_word_append {w : List Char} (hw : IsWord w) (k : List Char) :
    splitTilde (w ++ k) = ([], w ++ k) := by
  obtain ⟨x, v, rfl, -, hxw⟩ := hw.exists_cons
  refine splitTilde_of_ne ?_
  rintro rfl
  exact absurd hxw (by decide)

/-- So nothing is split off a word. -/
theorem splitTilde_of_isWord {w : List Char} (hw : IsWord w) : splitTilde w = ([], w) := by
  have happend := splitTilde_word_append hw []
  rwa [List.append_nil] at happend

end Text

namespace Cursor

variable {c c' : Cursor}

/-! ### Moves -/

@[simp] theorem moved_moved (a b x y : List Char) :
    (c.moved a b).moved x y = c.moved (a ++ x) y := by
  simp [moved]

/-- Moving over nothing leaves the cursor where it is. -/
theorem moved_nil : c.moved [] c.rest = c := by
  simp [moved]

theorem moved_nil_of_rest {k : List Char} (h : c.rest = k) : c.moved [] k = c := h ▸ moved_nil

/-- A cursor that does not stand at a blank skips none. -/
theorem skipBlank_eq_self (h : ∀ x ∈ c.rest.head?, Text.isBlank x = false) : c.skipBlank = c := by
  have hd : Text.dropBlank c.rest = c.rest := Text.dropBlank_eq_self h
  have ht : c.rest.takeWhile Text.isBlank = [] := by
    cases hc : c.rest with
    | nil => rfl
    | cons x cs => simp [h x (by rw [hc]; rfl)]
  rw [skipBlank, hd, ht, moved_nil]

@[simp] theorem skipBlank_skipBlank : c.skipBlank.skipBlank = c.skipBlank :=
  skipBlank_eq_self fun _ hx => Text.isBlank_of_mem_head?_dropBlank hx

/-- A cursor at a single blank skips just that one. -/
theorem skipBlank_space {cs : List Char} (hc : c.rest = ' ' :: cs)
    (h : ∀ x ∈ cs.head?, Text.isBlank x = false) : c.skipBlank = c.moved [' '] cs := by
  have ht : cs.takeWhile Text.isBlank = [] := by
    cases hcs : cs with
    | nil => rfl
    | cons x xs => simp [h x (by rw [hcs]; rfl)]
  rw [skipBlank, hc, Text.dropBlank_space_cons h, List.takeWhile_cons, if_pos (by decide), ht]

/-- Behind a text the character before the cursor is the last one of the text. -/
@[simp] theorem previous?_moved_concat (xs : List Char) (x : Char) (rest : List Char) :
    (c.moved (xs ++ [x]) rest).previous? = some x := by
  simp [previous?, moved]

/-- Over a single character. -/
@[simp] theorem previous?_moved_singleton (x : Char) (rest : List Char) :
    (c.moved [x] rest).previous? = some x := by
  simp [previous?, moved]

/-- **Behind blanks there is a seam.** -/
theorem isSeam_previous?_skipBlank
    (h : Text.IsSeam c.previous? ∨ ∃ x ∈ c.rest.head?, Text.isBlank x = true) :
    Text.IsSeam c.skipBlank.previous? := by
  -- Where no blank is skipped the seam is the one that was there; else the last blank is the seam.
  rcases List.eq_nil_or_concat (c.rest.takeWhile Text.isBlank) with ht | ⟨xs, x, ht⟩
  · have hs : c.skipBlank.previous? = c.previous? := by simp [skipBlank, moved, previous?, ht]
    rw [hs]
    refine h.resolve_right ?_
    rintro ⟨y, hy, hb⟩
    cases hc : c.rest with
    | nil => rw [hc] at hy; cases hy
    | cons z cs =>
      rw [hc] at hy ht
      obtain rfl : z = y := Option.some.inj hy
      rw [List.takeWhile_cons, if_pos hb] at ht
      cases ht
  · have hx : x ∈ c.rest.takeWhile Text.isBlank := by rw [ht]; simp
    rw [skipBlank, ht, List.concat_eq_append, previous?_moved_concat]
    exact Text.isSeam_of_isBlank (List.all_eq_true.mp List.all_takeWhile x hx)

/-- Blanks that are skipped make what is left no longer. -/
theorem length_rest_skipBlank_le : c.skipBlank.rest.length ≤ c.rest.length :=
  Text.length_dropBlank_le _

/-! ### Fixed texts and keywords -/

/-- **A fixed text** is skipped exactly if it stands at the cursor. -/
theorem skip?_eq_some {word : String} (h : c.skip? word = some c') :
    c.rest = word.toList ++ c'.rest ∧ c' = c.moved word.toList c'.rest := by
  obtain ⟨rest, hr, rfl⟩ := Option.map_eq_some_iff.mp h
  exact ⟨Text.behind?_eq_some_iff.mp hr, rfl⟩

theorem skip?_of_append {word : String} {k : List Char} (h : c.rest = word.toList ++ k) :
    c.skip? word = some (c.moved word.toList k) := by
  rw [skip?, h, Text.behind?_append]
  rfl

/-- A text that begins otherwise is not skipped. -/
theorem skip?_eq_none {word : String} {w : Char} (hw : word.toList.head? = some w)
    (h : c.rest.head? ≠ some w) : c.skip? word = none := by
  cases hs : c.skip? word with
  | none => rfl
  | some c' =>
    refine absurd ?_ h
    rw [(skip?_eq_some hs).1, List.head?_append, hw]
    rfl

/-- A sign that is not skipped does not stand at the cursor. -/
theorem head?_ne_of_skip?_eq_none {word : String} {w : Char} (hw : word.toList = [w])
    (h : c.skip? word = none) : c.rest.head? ≠ some w := by
  intro hhead
  cases hc : c.rest with
  | nil =>
    rw [hc] at hhead
    cases hhead
  | cons x k =>
    rw [hc] at hhead
    obtain rfl := Option.some.inj hhead
    -- the word is this one character, so it would have been skipped
    rw [skip?_of_append (k := k) (by rw [hc, hw]; rfl)] at h
    cases h

/-- Where a fixed text stands at the cursor, no blanks are skipped in front of it. -/
theorem skip?_skipBlank {word : String} {w : Char} {k : List Char} (hw : word.toList.head? = some w)
    (hb : Text.isBlank w = false) (h : c.rest = word.toList ++ k) :
    c.skipBlank.skip? word = some (c.moved word.toList k) := by
  have hself : c.skipBlank = c := skipBlank_eq_self fun x hx => by
    rw [h, List.head?_append, hw] at hx
    obtain rfl := Option.some.inj hx
    exact hb
  rw [hself, skip?_of_append h]

/-- **The next item** begins at the cursor if it is the first, and behind a comma else. -/
theorem nextItem?_eq_some {isFirst : Bool} (h : c.nextItem? isFirst = some c') :
    (isFirst = true ∧ c' = c) ∨ (isFirst = false ∧ ∃ d, c.skip? "," = some d ∧ c' = d.skipBlank) := by
  cases isFirst with
  | true => exact Or.inl ⟨rfl, (Option.some.inj h).symm⟩
  | false =>
    obtain ⟨d, hd, rfl⟩ := Option.map_eq_some_iff.mp h
    exact Or.inr ⟨rfl, d, hd, rfl⟩

/-- Over the comma and the blank in front of a further item. -/
theorem nextItem?_comma {cs : List Char} (hc : c.rest = ',' :: ' ' :: cs)
    (h : ∀ x ∈ cs.head?, Text.isBlank x = false) :
    c.nextItem? false = some (c.moved [',', ' '] cs) := by
  have hcomma : c.skip? "," = some (c.moved [','] (' ' :: cs)) := skip?_of_append hc
  rw [nextItem?, if_neg (by decide), hcomma, Option.map_some, skipBlank_space rfl h, moved_moved]
  rfl

/-- **A keyword** that is found is a text between two neighbours that are no keyword characters. -/
theorem keyword?_eq_some {word : String} (h : c.keyword? word = some c') :
    c.rest = word.toList ++ c'.rest ∧ c' = c.moved word.toList c'.rest ∧
      c'.rest.head?.any Text.isKeywordChar = false := by
  unfold keyword? at h
  split at h
  next => cases h
  next rest hr =>
    split at h
    next => cases h
    next hn =>
      obtain rfl := Option.some.inj h
      -- neither end of the word touches a keyword character; only the end behind it is told here
      rw [Bool.or_eq_true, not_or, Bool.not_eq_true, Bool.not_eq_true] at hn
      exact ⟨Text.behind?_eq_some_iff.mp hr, rfl, hn.2⟩

/-- A keyword between two seams is found. -/
theorem keyword?_of_seams {word : String} {k : List Char} (h : c.rest = word.toList ++ k)
    (hb : Text.IsSeam c.previous?) (hk : Text.IsSeam k.head?) :
    c.keyword? word = some (c.moved word.toList k) := by
  unfold keyword?
  rw [h, Text.behind?_append]
  exact if_neg (by simp [hb.any_isKeywordChar, hk.any_isKeywordChar])

/-- No keyword is found in a text that begins otherwise. -/
theorem keyword?_eq_none {word : String} {w : Char} (hw : word.toList.head? = some w)
    (h : c.rest.head? ≠ some w) : c.keyword? word = none := by
  cases hs : c.keyword? word with
  | none => rfl
  | some c' =>
    refine absurd ?_ h
    rw [(keyword?_eq_some hs).1, List.head?_append, hw]
    rfl

/-- **Another word is no keyword.** -/
theorem keyword?_eq_none_of_ne {word : String} {w k : List Char} (h : c.rest = w ++ k)
    (hw : Text.IsIdentifier w) (hword : Text.IsWord word.toList) (hne : w ≠ word.toList)
    (hk : Text.IsSeam k.head?) : c.keyword? word = none := by
  cases hs : c.keyword? word with
  | none => rfl
  | some c' =>
    exfalso
    obtain ⟨hr, -, hn⟩ := keyword?_eq_some hs
    rw [h] at hr
    rcases hw with hw | ⟨v, rfl, -⟩
    · -- both are cut off from the text at their ends, so they are the same word
      have ht := Text.takeWhile_word_append hw.all
        (Text.isAsciiWordChar_eq_false_of_boundary hk.any_isWordChar)
      rw [hr, Text.takeWhile_word_append hword.all (Text.isAsciiWordChar_eq_false_of_any
        (fun _ => Text.isKeywordChar_of_isAsciiWordChar) hn)] at ht
      exact hne ht.symm
    · -- the identifier begins with a `~`, and the word does not
      obtain ⟨x, xs, hx, -, hxw⟩ := hword.exists_cons
      rw [hx] at hr
      obtain rfl : '~' = x := (List.cons.inj hr).1
      exact absurd hxw (by decide)

/-! ### Identifiers -/

/-- **An identifier** that is found is one, and it ends at a word boundary. -/
theorem identifier?_eq_some {s : String} (h : c.identifier? = some (s, c')) :
    Text.IsIdentifier s.toList ∧ c.rest = s.toList ++ c'.rest ∧
      c' = c.moved s.toList c'.rest ∧ c'.rest.head?.any Text.isWordChar = false := by
  unfold identifier? at h
  simp only [] at h
  split at h
  next => cases h
  next hn =>
    obtain ⟨rfl, rfl⟩ := Prod.mk.inj (Option.some.inj h)
    simp only [Bool.or_eq_true, not_or, Bool.not_eq_true, Bool.not_eq_true'] at hn
    obtain ⟨⟨hs, he⟩, -⟩ := hn
    -- What was not refused is a word behind an optional tilde.
    have hword : Text.IsWord ((Text.splitTilde c.rest).2.takeWhile Text.isAsciiWordChar) :=
      ⟨by simpa using hs, List.all_eq_true.mp List.all_takeWhile⟩
    have hsplit := List.takeWhile_append_dropWhile (p := Text.isAsciiWordChar)
      (l := (Text.splitTilde c.rest).2)
    refine ⟨?_, ?_, by simp, he⟩
    · rcases Text.splitTilde_cases c.rest with ht | ht
      · rw [String.toList_ofList, ht]
        exact Or.inl hword
      · rw [String.toList_ofList, ht]
        exact Or.inr ⟨_, rfl, hword⟩
    · rw [String.toList_ofList, rest_moved, List.append_assoc, hsplit, Text.splitTilde_append]

/-- An identifier behind a seam that ends at a word boundary is found. -/
theorem identifier?_of_boundary {s : String} {k : List Char} (h : c.rest = s.toList ++ k)
    (hs : Text.IsIdentifier s.toList) (hb : Text.IsSeam c.previous?)
    (hk : k.head?.any Text.isWordChar = false) :
    c.identifier? = some (s, c.moved s.toList k) := by
  have hcut := Text.isAsciiWordChar_eq_false_of_boundary hk
  -- Both forms of an identifier are found alike once the tilde is split off.
  have hfound : ∀ tilde w, s.toList = tilde ++ w → Text.IsWord w →
      Text.splitTilde c.rest = (tilde, w ++ k) →
      c.identifier? = some (s, c.moved s.toList k) := by
    intro tilde w hsw hw hsplit
    unfold identifier?
    simp only [hsplit, Text.takeWhile_word_append hw.all hcut,
      Text.dropWhile_word_append hw.all hcut, hw.start, hk, hb.any_isWordChar, ← hsw,
      String.ofList_toList]
    simp
  rcases hs with hs | ⟨w, hw, hword⟩
  · exact hfound [] s.toList rfl hs (h ▸ Text.splitTilde_word_append hs k)
  · exact hfound ['~'] w hw hword (by rw [h, hw]; rfl)

/-- So is one between two seams. -/
theorem identifier?_of_seams {s : String} {k : List Char} (h : c.rest = s.toList ++ k)
    (hs : Text.IsIdentifier s.toList) (hb : Text.IsSeam c.previous?) (hk : Text.IsSeam k.head?) :
    c.identifier? = some (s, c.moved s.toList k) :=
  identifier?_of_boundary h hs hb hk.any_isWordChar

end Cursor

end CppIndex
