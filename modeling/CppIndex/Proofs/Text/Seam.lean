import CppIndex.Text.Blank
import CppIndex.Text.WordChar

/-!
# Seams between lexemes

Where one lexeme ends and the next begins, a reader looks at the character on the other side: an
identifier goes on as long as it can, and a keyword counts only if it stands alone. A **seam** is a
place where neither can happen, because the character there belongs to no word of either kind
(`Text.IsSeam`). Every sign of a declaration makes a seam, and so does a blank.

`Text.IsIdentifier` is the form of an identifier: an optional `~`, then an ASCII word that begins with
no digit. Such a word is cut off from a text where none of its characters follows
(`Text.takeWhile_word_append`), and at a seam none does.
-/

namespace CppIndex.Text

/-- **A seam**: there is no character, or one that belongs neither to a word nor to a keyword. -/
def IsSeam (c : Option Char) : Prop := ∀ x ∈ c, isWordChar x = false ∧ isKeywordChar x = false

@[simp] theorem isSeam_none : IsSeam none := by simp [IsSeam]

/-- ASCII word characters are ASCII characters. -/
theorem toNat_lt_of_isAsciiWordChar {x : Char} (h : isAsciiWordChar x = true) : x.toNat < 0x80 := by
  delta isAsciiWordChar Char.isAlphanum Char.isAlpha Char.isUpper Char.isLower Char.isDigit at h
  simp only [Bool.or_eq_true, Bool.and_eq_true, decide_eq_true_eq, beq_iff_eq,
    UInt32.le_iff_toNat_le] at h
  rcases h with ((h | h) | h) | rfl
  · exact Nat.lt_of_le_of_lt h.2 (by decide)
  · exact Nat.lt_of_le_of_lt h.2 (by decide)
  · exact Nat.lt_of_le_of_lt h.2 (by decide)
  · decide

/-- An ASCII word character is a word character. -/
theorem isWordChar_of_isAsciiWordChar {x : Char} (h : isAsciiWordChar x = true) :
    isWordChar x = true := by
  rw [isWordChar_of_ascii (toNat_lt_of_isAsciiWordChar h), h]

/-- An ASCII word character is a keyword character. -/
theorem isKeywordChar_of_isAsciiWordChar {x : Char} (h : isAsciiWordChar x = true) :
    isKeywordChar x = true := by
  rw [isKeywordChar_of_ascii (toNat_lt_of_isAsciiWordChar h), h]

/-- An ASCII character that can stand in no identifier makes a seam. -/
theorem isSeam_some_of_ascii {x : Char} (hx : x.toNat < 0x80) (h : isAsciiWordChar x = false) :
    IsSeam (some x) := by
  intro y hy
  obtain rfl : x = y := Option.some.inj hy
  exact ⟨by rw [isWordChar_of_ascii hx, h], by rw [isKeywordChar_of_ascii hx, h]⟩

/-- A character of neither kind of word, in whichever sense it is meant, is no ASCII word character. -/
theorem isAsciiWordChar_eq_false_of_any {p : Char → Bool} {c : Option Char}
    (hp : ∀ x, isAsciiWordChar x = true → p x = true) (h : c.any p = false) :
    ∀ x ∈ c, isAsciiWordChar x = false := by
  rintro x ⟨⟩
  cases hw : isAsciiWordChar x with
  | false => rfl
  | true => exact absurd (hp x hw) (by simpa using h)

/-- At a word boundary stands no ASCII word character. -/
theorem isAsciiWordChar_eq_false_of_boundary {c : Option Char} (h : c.any isWordChar = false) :
    ∀ x ∈ c, isAsciiWordChar x = false :=
  isAsciiWordChar_eq_false_of_any (fun _ => isWordChar_of_isAsciiWordChar) h

theorem IsSeam.any_isWordChar {c : Option Char} (h : IsSeam c) : c.any isWordChar = false := by
  cases c with
  | none => rfl
  | some x => exact (h x rfl).1

theorem IsSeam.any_isKeywordChar {c : Option Char} (h : IsSeam c) : c.any isKeywordChar = false := by
  cases c with
  | none => rfl
  | some x => exact (h x rfl).2

/-- An ASCII word character is no blank. -/
theorem isBlank_of_isAsciiWordChar {x : Char} (h : isAsciiWordChar x = true) :
    isBlank x = false := by
  -- both are decided character by character, because only ASCII matters
  have hb : ∀ n : Fin 128, isAsciiWordChar (Char.ofNat n) = true → isBlank (Char.ofNat n) = false := by
    decide
  have hx := hb ⟨x.toNat, toNat_lt_of_isAsciiWordChar h⟩
  simp only [Char.ofNat_toNat] at hx
  exact hx h

/-- The code points of the blanks. -/
def blankCodes : List Nat := [
  0x9, 0xA, 0xB, 0xC, 0xD, 0x20, 0x85, 0xA0, 0x1680, 0x2000, 0x2001, 0x2002, 0x2003, 0x2004,
  0x2005, 0x2006, 0x2007, 0x2008, 0x2009, 0x200A, 0x2028, 0x2029, 0x202F, 0x205F, 0x3000]

/-- A blank has one of the listed code points. -/
theorem toNat_mem_blankCodes {x : Char} (h : isBlank x = true) : x.toNat ∈ blankCodes := by
  simp only [isBlank, Bool.or_eq_true, Bool.and_eq_true, decide_eq_true_eq, beq_iff_eq] at h
  simp only [blankCodes, List.mem_cons, List.not_mem_nil, or_false]
  omega

/-- **Blanks make seams.** -/
theorem isSeam_of_isBlank {x : Char} (h : isBlank x = true) : IsSeam (some x) := by
  -- the blanks are few, so each is looked up in the tables of word characters
  have hall : ∀ n ∈ blankCodes,
      isWordChar (Char.ofNat n) = false ∧ isKeywordChar (Char.ofNat n) = false := by
    decide +kernel
  intro y hy
  obtain rfl : x = y := Option.some.inj hy
  have hx := hall x.toNat (toNat_mem_blankCodes h)
  rwa [Char.ofNat_toNat] at hx

/-! ### Dropping blanks -/

/-- Nothing is dropped from a text that does not begin with a blank. -/
theorem dropBlank_eq_self {cs : List Char} (h : ∀ x ∈ cs.head?, isBlank x = false) :
    dropBlank cs = cs := by
  cases cs with
  | nil => rfl
  | cons x cs => exact dropBlank_cons_of_not_blank (h x rfl)

/-- What is left begins with no blank. -/
theorem isBlank_of_mem_head?_dropBlank {cs : List Char} {x : Char} (h : x ∈ (dropBlank cs).head?) :
    isBlank x = false := by
  have hd := List.head?_dropWhile_not isBlank cs
  rw [dropBlank, Option.mem_def] at h
  rw [h] at hd
  exact hd

/-- Blanks in front of a text are dropped, and what follows is treated as if it stood alone. -/
theorem dropBlank_append_of_blanks {blanks : List Char} (hb : ∀ x ∈ blanks, isBlank x = true)
    (cs : List Char) : dropBlank (blanks ++ cs) = dropBlank cs :=
  List.dropWhile_append_of_pos hb

/-- Behind a text that holds more than blanks nothing is dropped. -/
theorem dropBlank_append_of_ne_nil {cs : List Char} (h : dropBlank cs ≠ []) (ds : List Char) :
    dropBlank (cs ++ ds) = dropBlank cs ++ ds := by
  rw [dropBlank, List.dropWhile_append, if_neg (by rwa [List.isEmpty_iff])]
  rfl

/-- A text of which nothing is left consists of blanks. -/
theorem forall_isBlank_of_dropBlank_eq_nil {cs : List Char} (h : dropBlank cs = []) :
    ∀ x ∈ cs, isBlank x = true := by
  have ht := List.takeWhile_append_dropWhile (p := isBlank) (l := cs)
  rw [show cs.dropWhile isBlank = [] from h, List.append_nil] at ht
  rw [← ht]
  exact List.all_eq_true.mp List.all_takeWhile

/-- What is dropped are blanks. -/
theorem exists_blanks_dropBlank (cs : List Char) :
    ∃ blanks, (∀ x ∈ blanks, isBlank x = true) ∧ cs = blanks ++ dropBlank cs :=
  ⟨_, List.all_eq_true.mp List.all_takeWhile, List.takeWhile_append_dropWhile.symm⟩

/-- A blank in front of a text that begins with none is all that is dropped. -/
theorem dropBlank_space_cons {cs : List Char} (h : ∀ x ∈ cs.head?, isBlank x = false) :
    dropBlank (' ' :: cs) = cs := by
  rw [dropBlank_cons_of_blank (by decide), dropBlank_eq_self h]

/-! ### Identifiers -/

/-- What is said of the characters of a text is decided on these characters, and not on all there are. -/
instance (priority := 1100) decidableForallMem {p : Char → Prop} [DecidablePred p] (cs : List Char) :
    Decidable (∀ x ∈ cs, p x) :=
  List.decidableBAll p cs

/-- So is what is said of the character at one end of a text. -/
instance (priority := 1100) decidableForallMem? {p : Char → Prop} [DecidablePred p]
    (x? : Option Char) : Decidable (∀ x ∈ x?, p x) :=
  Option.decidableForallMem x?

/-- **A word**: ASCII word characters, of which the first is no digit. -/
structure IsWord (cs : List Char) : Prop where
  /-- The first character can begin an identifier. -/
  start : cs.head?.any isIdentStart = true
  /-- Every character can stand in an identifier. -/
  all : ∀ x ∈ cs, isAsciiWordChar x = true

/-- **An identifier**: a word, or a `~` and a word. -/
def IsIdentifier (cs : List Char) : Prop := IsWord cs ∨ ∃ w, cs = '~' :: w ∧ IsWord w

instance (cs : List Char) : Decidable (IsWord cs) :=
  decidable_of_iff (cs.head?.any isIdentStart = true ∧ ∀ x ∈ cs, isAsciiWordChar x = true)
    ⟨fun h => ⟨h.1, h.2⟩, fun h => ⟨h.start, h.all⟩⟩

/-- A word has a first character. -/
theorem IsWord.exists_cons {cs : List Char} (h : IsWord cs) :
    ∃ x w, cs = x :: w ∧ isIdentStart x = true ∧ isAsciiWordChar x = true := by
  obtain ⟨hs, ha⟩ := h
  cases cs with
  | nil => exact absurd hs (by simp)
  | cons x w => exact ⟨x, w, rfl, hs, ha x (List.mem_cons_self ..)⟩

/-- The first character of an identifier is a `~` or a word character. -/
theorem IsIdentifier.exists_cons {cs : List Char} (h : IsIdentifier cs) :
    ∃ x w, cs = x :: w ∧ (x = '~' ∨ isAsciiWordChar x = true) := by
  rcases h with h | ⟨w, rfl, -⟩
  · obtain ⟨x, w, rfl, -, hx⟩ := h.exists_cons
    exact ⟨x, w, rfl, Or.inr hx⟩
  · exact ⟨'~', w, rfl, Or.inl rfl⟩

/-- **A word is cut off** where none of its characters follows. -/
theorem takeWhile_word_append {w k : List Char} (hw : ∀ x ∈ w, isAsciiWordChar x = true)
    (hk : ∀ x ∈ k.head?, isAsciiWordChar x = false) : (w ++ k).takeWhile isAsciiWordChar = w := by
  rw [List.takeWhile_append_of_pos hw]
  cases k with
  | nil => simp
  | cons x k => simp [hk x rfl]

/-- What is left behind a word that is cut off. -/
theorem dropWhile_word_append {w k : List Char} (hw : ∀ x ∈ w, isAsciiWordChar x = true)
    (hk : ∀ x ∈ k.head?, isAsciiWordChar x = false) : (w ++ k).dropWhile isAsciiWordChar = k := by
  rw [List.dropWhile_append_of_pos hw]
  cases k with
  | nil => simp
  | cons x k => simp [hk x rfl]

end CppIndex.Text
