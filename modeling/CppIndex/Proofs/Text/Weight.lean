import CppIndex.Proofs.Text.Seam

/-!
# The weight of a text

A reader drops blanks, and it drops or adds the word `int` where a type means the same without it. The
**weight** of a text counts the characters that are neither blanks nor letters of that word, so it does
not see the difference. Nothing that is read comes out heavier than it went in, and the words that are
read without leaving a trace, such as `public`, have a weight of their own.
-/

namespace CppIndex.Text

/-- Whether a character counts: it is no blank, and no letter of the word `int`. -/
def counts (x : Char) : Bool := !isBlank x && !"int".toList.contains x

/-- **The weight** of a text. -/
def weight (cs : List Char) : Nat := cs.countP counts

@[simp] theorem weight_nil : weight [] = 0 := rfl

@[simp] theorem weight_append (cs ds : List Char) : weight (cs ++ ds) = weight cs + weight ds :=
  List.countP_append

@[simp] theorem weight_cons_of_counts {x : Char} {cs : List Char} (h : counts x = true) :
    weight (x :: cs) = weight cs + 1 :=
  List.countP_cons_of_pos h

@[simp] theorem weight_space_cons (cs : List Char) : weight (' ' :: cs) = weight cs :=
  List.countP_cons_of_neg (by decide)

/-- Blanks weigh nothing. -/
theorem weight_of_blanks {cs : List Char} (h : ∀ x ∈ cs, isBlank x = true) : weight cs = 0 :=
  List.countP_eq_zero.mpr fun x hx => by simp [counts, h x hx]

@[simp] theorem weight_dropBlank (cs : List Char) : weight (dropBlank cs) = weight cs := by
  have hsplit := congrArg weight (List.takeWhile_append_dropWhile (p := isBlank) (l := cs))
  have hblank : weight (cs.takeWhile isBlank) = 0 :=
    weight_of_blanks (List.all_eq_true.mp List.all_takeWhile)
  rw [weight_append, hblank, Nat.zero_add] at hsplit
  exact hsplit

/-- Part of a text weighs no more than the text. -/
theorem weight_le_of_sublist {cs ds : List Char} (h : cs.Sublist ds) : weight cs ≤ weight ds :=
  h.countP_le

@[simp] theorem weight_trimEnd (cs : List Char) : weight (trimEnd cs) = weight cs := by
  -- the weight does not depend on the order, so the end may be treated like the front
  have hreverse : ∀ cs : List Char, weight cs.reverse = weight cs := fun cs =>
    (List.reverse_perm cs).countP_eq _
  rw [trimEnd, hreverse, show cs.reverse.dropWhile isBlank = dropBlank cs.reverse from rfl,
    weight_dropBlank, hreverse]

@[simp] theorem weight_trim (cs : List Char) : weight (trim cs) = weight cs := by
  rw [trim, weight_trimEnd, weight_dropBlank]

end CppIndex.Text
