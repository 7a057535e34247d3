/-!
# Blanks

A **blank** is a character with the Unicode property `White_Space`: twenty-five characters, from the
tab to the ideographic space. Blanks separate the words of a declaration and carry no meaning of
their own, so a reader drops them wherever a word may end (`dropBlank`) and an outer text is trimmed
of them on both sides (`trim`).

Everything is said on lists of characters, where the laws are those of `List.dropWhile`; the last
section lifts trimming to `String`.
-/

namespace CppIndex.Text

/-- **A blank** is one of the twenty-five characters of the Unicode property `White_Space`. -/
def isBlank (c : Char) : Bool :=
  let n := c.toNat
  (9 ≤ n && n ≤ 13) || n == 0x20 || n == 0x85 || n == 0xA0 || n == 0x1680 ||
    (0x2000 ≤ n && n ≤ 0x200A) || n == 0x2028 || n == 0x2029 || n == 0x202F || n == 0x205F ||
    n == 0x3000

/-! ### Dropping blanks on lists of characters -/

/-- The text from its first character that is not a blank. -/
def dropBlank (cs : List Char) : List Char := cs.dropWhile isBlank

/-- The text up to its last character that is not a blank. -/
def trimEnd (cs : List Char) : List Char := (cs.reverse.dropWhile isBlank).reverse

/-- The text between its first and its last character that is not a blank. -/
def trim (cs : List Char) : List Char := trimEnd (dropBlank cs)

@[simp] theorem dropBlank_nil : dropBlank [] = [] := rfl

@[simp] theorem dropBlank_cons_of_blank {c : Char} {cs : List Char} (h : isBlank c = true) :
    dropBlank (c :: cs) = dropBlank cs := by
  simp [dropBlank, h]

@[simp] theorem dropBlank_cons_of_not_blank {c : Char} {cs : List Char} (h : isBlank c = false) :
    dropBlank (c :: cs) = c :: cs := by
  simp [dropBlank, h]

/-- Dropping blanks a second time changes nothing. -/
@[simp] theorem dropBlank_dropBlank (cs : List Char) : dropBlank (dropBlank cs) = dropBlank cs := by
  induction cs with
  | nil => rfl
  | cons c cs ih => by_cases h : isBlank c = true <;> simp_all [dropBlank]

/-- Dropping blanks never makes a text longer. -/
theorem length_dropBlank_le (cs : List Char) : (dropBlank cs).length ≤ cs.length :=
  (List.dropWhile_sublist _).length_le

/-! ### Trimming strings -/

/-- A string without the blanks at its two ends. -/
def trimmed (s : String) : String := String.ofList (trim s.toList)

end CppIndex.Text
