/-!
# Leading text

`behind? word cs` is what follows `word` at the front of `cs`, if the word stands there. It is the one
way in which fixed words and signs are recognised, and `behind?_eq_some_iff` says all there is to know
about it.
-/

namespace CppIndex.Text

/-- **The text behind a word** that stands at its front. -/
def behind? : List Char → List Char → Option (List Char)
  | [], cs => some cs
  | _ :: _, [] => none
  | w :: word, c :: cs => if w = c then behind? word cs else none

@[simp] theorem behind?_nil (cs : List Char) : behind? [] cs = some cs := by
  cases cs <;> rfl

/-- A word stands at the front of a text, and `rest` follows it, exactly if the text is the word and
then `rest`. -/
theorem behind?_eq_some_iff {word cs rest : List Char} :
    behind? word cs = some rest ↔ cs = word ++ rest := by
  induction word generalizing cs with
  | nil => simp
  | cons w word ih =>
    cases cs with
    | nil => simp [behind?]
    | cons c cs =>
      by_cases h : w = c
      · simp [behind?, h, ih]
      · simp [behind?, h, Ne.symm h]

/-- What follows a word is found behind it. -/
@[simp] theorem behind?_append (word rest : List Char) : behind? word (word ++ rest) = some rest :=
  behind?_eq_some_iff.mpr rfl

end CppIndex.Text
