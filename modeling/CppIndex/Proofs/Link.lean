import CppIndex.Link
import CppIndex.Proofs.Text.Weight

/-!
# What a link leaves of its target

A link without a title drops a pair `()` from the end of its target, if its style fixes parentheses, and
every `~` from its front. A target with neither stays as it is (`LinkStyle.target_link_eq_self`). Any other
loses a parenthesis or a `~`, and both weigh something, so what is left is lighter than the target was
(`LinkStyle.weight_target_link_lt`): it cannot be read as a name that the target is the text of.
-/

namespace CppIndex

namespace Text

variable {cs : List Char}

/-- A text that does not end in a pair of parentheses keeps its end. -/
theorem dropParens_eq_self (h : ¬ ['(', ')'] <:+ cs) : dropParens cs = cs :=
  if_neg fun hs => h (List.isSuffixOf_iff_suffix.mp hs)

/-- A pair of parentheses at the end is dropped. -/
theorem dropParens_append (cs : List Char) : dropParens (cs ++ ['(', ')']) = cs := by
  have hsuffix : ['(', ')'].isSuffixOf (cs ++ ['(', ')']) = true :=
    List.isSuffixOf_iff_suffix.mpr (List.suffix_append ..)
  rw [dropParens, if_pos hsuffix, List.length_append]
  exact List.take_left' rfl

/-- Dropping characters from the front makes no text heavier. -/
theorem weight_dropWhile_le (p : Char → Bool) (cs : List Char) :
    weight (cs.dropWhile p) ≤ weight cs :=
  weight_le_of_sublist (List.dropWhile_sublist p)

end Text

namespace LinkStyle

open Text (weight)

variable {style : LinkStyle} {title target : String}

/-- What is left of the target of a link without a title. -/
theorem toList_target_link (style : LinkStyle) (title target : String) :
    (style.link title target false).target.toList =
      (style.fixTarget target.toList).dropWhile (· == '~') :=
  String.toList_ofList

/-- **A target stays as it is** if no `~` stands in front of it and no parentheses behind it. -/
theorem target_link_eq_self (htilde : ¬ ['~'] <+: target.toList)
    (hparens : ¬ ['(', ')'] <:+ target.toList) : (style.link title target false).target = target := by
  have hfix : style.fixTarget target.toList = target.toList := by
    rw [fixTarget, Text.dropParens_eq_self hparens, ite_self]
  refine String.toList_injective ?_
  rw [toList_target_link, hfix]
  -- all that is left to do is to strip the `~` in front, and there is none
  cases hcs : target.toList with
  | nil => rfl
  | cons x cs =>
    have hx : ¬ (x == '~') = true := fun he =>
      htilde (hcs ▸ List.cons_prefix_cons.mpr ⟨(beq_iff_eq.mp he).symm, List.nil_prefix⟩)
    exact List.dropWhile_cons_of_neg hx

/-- **A target with a `~` in front or parentheses behind gets lighter** in a style that fixes
parentheses. -/
theorem weight_target_link_lt (hfix : style.fixParens = true)
    (h : ['~'] <+: target.toList ∨ ['(', ')'] <:+ target.toList) :
    weight (style.link title target false).target.toList < weight target.toList := by
  rw [toList_target_link, fixTarget, if_pos hfix]
  -- the parentheses are dropped first; what they leave may begin with a `~` or not
  by_cases hparens : ['(', ')'] <:+ target.toList
  · obtain ⟨cs, hcs⟩ := hparens
    have hpair : weight ['(', ')'] = 2 := by decide
    have hle := Text.weight_dropWhile_le (· == '~') cs
    rw [← hcs, Text.dropParens_append, Text.weight_append, hpair]
    omega
  · obtain ⟨cs, hcs⟩ := h.resolve_right hparens
    have hsign : weight ['~'] = 1 := by decide
    have hle := Text.weight_dropWhile_le (· == '~') cs
    rw [Text.dropParens_eq_self hparens, ← hcs, Text.weight_append, hsign, List.singleton_append,
      List.dropWhile_cons_of_pos (by decide)]
    omega

end LinkStyle

end CppIndex
