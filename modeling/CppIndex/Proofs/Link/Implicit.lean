import CppIndex.Proofs.Link
import Mathlib.Data.List.Infix

/-!
# Links without a title

A link without a title is written with one text, from which both what is shown and what is looked up are taken.
The two should keep in step (`LinkStyle.Implicit`): without its parentheses the text is the target, and the
title too; a `~` in front of it is dropped from both, and then the title is the last component of the target
(`Text.IsLastComponent`). The parentheses that the style adds come last, behind the title alone.

The title always comes out like this. The target does not if two `~` stand in front of it: the title loses the
first of them, the target loses both (`LinkStyle.link_implicit_iff`).
-/

namespace CppIndex

namespace Text

variable {cs rest component tail : List Char}

/-- **The last component** of a text is what stands behind its last `::`, and without one it is the text. In
`:::` the last `::` begins at the second sign. -/
inductive IsLastComponent : List Char → List Char → Prop
  /-- There is no `::`. -/
  | whole {cs : List Char} (h : ¬ [':', ':'] <:+: cs) : IsLastComponent cs cs
  /-- No `::` begins behind the first sign of this one. -/
  | behind (front : List Char) {rest : List Char} (h : ¬ [':', ':'] <:+: ':' :: rest) :
    IsLastComponent rest (front ++ ':' :: ':' :: rest)

/-- Nothing is found in a text without `::`. -/
theorem afterLastColons?_eq_none (h : ¬ [':', ':'] <:+: cs) : afterLastColons? cs = none := by
  induction cs with
  | nil => rfl
  | cons c cs ih =>
    obtain ⟨hhere, hlater⟩ := not_or.mp fun hor => h (List.infix_cons_iff.mpr hor)
    have hprefix : [':', ':'].isPrefixOf (c :: cs) ≠ true :=
      fun hp => hhere (List.isPrefixOf_iff_prefix.mp hp)
    rw [afterLastColons?, ih hlater]
    exact if_neg hprefix

/-- **The last `::` is found**, whatever stands in front of it. -/
theorem afterLastColons?_append (front : List Char) (h : ¬ [':', ':'] <:+: ':' :: rest) :
    afterLastColons? (front ++ ':' :: ':' :: rest) = some rest := by
  induction front with
  | nil =>
    rw [List.nil_append, afterLastColons?, afterLastColons?_eq_none h]
    rfl
  | cons c front ih => rw [List.cons_append, afterLastColons?, ih]

/-- **The last component is what is found**, or the text if nothing is. -/
theorem IsLastComponent.eq (h : IsLastComponent component cs) :
    (afterLastColons? cs).getD cs = component := by
  cases h with
  | whole h => rw [afterLastColons?_eq_none h, Option.getD_none]
  | behind front h => rw [afterLastColons?_append front h, Option.getD_some]

/-- Every text has a last component. -/
theorem exists_isLastComponent (cs : List Char) : ∃ component, IsLastComponent component cs := by
  induction cs with
  | nil => exact ⟨[], .whole (by simp)⟩
  | cons c cs ih =>
    obtain ⟨component, ih⟩ := ih
    cases ih with
    | behind front h => exact ⟨component, .behind (c :: front) h⟩
    | whole h =>
      -- the only `::` can be the one at the front
      by_cases hhere : [':', ':'] <+: c :: cs
      · obtain ⟨rest, hrest⟩ := hhere
        obtain ⟨rfl, rfl⟩ := List.cons.inj hrest
        exact ⟨rest, .behind [] h⟩
      · exact ⟨c :: cs, .whole fun hin => (List.infix_cons_iff.mp hin).elim hhere h⟩

/-- A text that ends without `:` has a `::` only in front of its end. -/
theorem colons_infix_of_append (htail : ':' ∉ tail) (h : [':', ':'] <:+: cs ++ tail) :
    [':', ':'] <:+: cs := by
  rcases List.infix_append_iff.mp h with h | h | ⟨front, back, hsplit, hfront, hback⟩
  · exact h
  · exact absurd (h.subset (List.mem_cons_self ..)) htail
  · cases back with
    | nil =>
      rw [List.append_nil] at hsplit
      exact hsplit ▸ hfront.isInfix
    | cons x back =>
      -- the end would begin with a sign
      have hx : x ∈ [':', ':'] := hsplit ▸ List.mem_append_right front (List.mem_cons_self ..)
      have hsign : x = ':' := by simpa using hx
      exact absurd (hback.subset (List.mem_cons_self ..)) (hsign ▸ htail)

/-- **An end without `:`** belongs to the last component. -/
theorem IsLastComponent.append (h : IsLastComponent component cs) (htail : ':' ∉ tail) :
    IsLastComponent (component ++ tail) (cs ++ tail) := by
  cases h with
  | whole h => exact .whole fun hin => h (colons_infix_of_append htail hin)
  | behind front h =>
    rw [List.append_assoc, List.cons_append, List.cons_append]
    exact .behind front fun hin => h (colons_infix_of_append htail hin)

end Text

namespace LinkStyle

open Text (IsLastComponent)

variable {style : LinkStyle} {text bare : List Char}

/-- **A text is bare** if it is the written one without one pair of parentheses at its end. Where the style
does not fix parentheses, it is the written one. -/
inductive IsBare (style : LinkStyle) : List Char → List Char → Prop
  /-- Parentheses are left alone. -/
  | kept {text : List Char} (hfix : style.fixParens = false) : IsBare style text text
  /-- There are none. -/
  | without {text : List Char} (hfix : style.fixParens = true) (h : ¬ ['(', ')'] <:+ text) :
    IsBare style text text
  /-- One pair is dropped. -/
  | dropped {bare : List Char} (hfix : style.fixParens = true) :
    IsBare style (bare ++ ['(', ')']) bare

/-- The parentheses that a style adds to a title. -/
def addedParens (style : LinkStyle) : List Char :=
  if style.fixParens && style.addParens then ['(', ')'] else []

/-- **What a link without a title should show and look up**: title and target that are in step. -/
inductive Implicit (style : LinkStyle) (text : List Char) : List Char → List Char → Prop
  /-- Without a `~` in front the bare text is both. -/
  | plain {bare : List Char} (hbare : style.IsBare text bare) (h : ¬ ['~'] <+: bare) :
    Implicit style text (bare ++ style.addedParens) bare
  /-- One `~` is dropped from both, and the title is the last component of the target. -/
  | short {target component : List Char} (hbare : style.IsBare text ('~' :: target))
    (h : IsLastComponent component target) :
    Implicit style text (component ++ style.addedParens) target

/-- Fixing the parentheses of a target makes it bare. -/
theorem isBare_iff : style.IsBare text bare ↔ style.fixTarget text = bare := by
  rw [fixTarget]
  constructor
  · rintro (hfix | ⟨hfix, h⟩ | hfix)
    · rw [hfix, if_neg Bool.false_ne_true]
    · rw [if_pos hfix, Text.dropParens_eq_self h]
    · rw [if_pos hfix, Text.dropParens_append]
  · rintro rfl
    -- Parentheses are only dropped if the style adds them, and only where a pair stands.
    split
    next hfix =>
      by_cases h : ['(', ')'] <:+ text
      · obtain ⟨bare, rfl⟩ := h
        rw [Text.dropParens_append]
        exact .dropped hfix
      · rw [Text.dropParens_eq_self h]
        exact .without hfix h
    next hfix => exact .kept (eq_false_of_ne_true hfix)

/-- A title is fixed like a target, with the added parentheses behind. -/
theorem fixTitle_eq (style : LinkStyle) (text : List Char) :
    style.fixTitle text = style.fixTarget text ++ style.addedParens := by
  rw [fixTitle, fixTarget, addedParens]
  cases style.fixParens <;> simp

/-- The added parentheses hold no sign of a scope. -/
theorem colon_not_mem_addedParens (style : LinkStyle) : ':' ∉ style.addedParens := by
  rw [addedParens]
  split <;> decide

/-- **A `~` in front shortens a title** to the last component of what follows, parentheses included. -/
theorem shortTitle_tilde {target component : List Char} (h : IsLastComponent component target) :
    shortTitle ('~' :: target ++ style.addedParens) = component ++ style.addedParens :=
  (h.append style.colon_not_mem_addedParens).eq

/-- A title without a `~` in front stays as it is. -/
theorem shortTitle_eq_self {title : List Char} (h : ¬ ['~'] <+: title) : shortTitle title = title := by
  cases title with
  | nil => rfl
  | cons c title =>
    have hc : c ≠ '~' := by
      rintro rfl
      exact h ⟨title, rfl⟩
    rw [shortTitle]
    rintro cs ⟨⟩
    exact hc rfl

/-- A bare text without a `~` in front is what a link should look up and, with the added parentheses, show. -/
theorem implicit_iff_of_not_tilde {title target : List Char} (h : ¬ ['~'] <+: style.fixTarget text) :
    style.Implicit text title target ↔
      title = shortTitle (style.fixTitle text) ∧ target = style.fixTarget text := by
  -- Adding parentheses puts no tilde in front of the text.
  have hplain : ¬ ['~'] <+: style.fixTarget text ++ style.addedParens := by
    intro hp
    cases hbare : style.fixTarget text with
    | nil =>
      rw [hbare, List.nil_append, addedParens] at hp
      revert hp
      split <;> decide
    | cons c cs =>
      rw [hbare, List.cons_append, List.cons_prefix_cons] at hp
      exact h (hbare ▸ List.cons_prefix_cons.mpr ⟨hp.1, List.nil_prefix⟩)
  rw [fixTitle_eq, shortTitle_eq_self hplain]
  constructor
  · rintro (⟨hbare, -⟩ | ⟨hbare, -⟩)
    · rw [isBare_iff.mp hbare]
      exact ⟨rfl, rfl⟩
    · rw [isBare_iff.mp hbare] at h
      exact absurd ⟨_, rfl⟩ h
  · rintro ⟨rfl, rfl⟩
    exact .plain (isBare_iff.mpr rfl) h

/-- From a bare text with a `~` in front this one is to be dropped. -/
theorem implicit_iff_of_tilde {title target rest : List Char} (h : style.fixTarget text = '~' :: rest) :
    style.Implicit text title target ↔
      title = shortTitle (style.fixTitle text) ∧ target = rest := by
  obtain ⟨component, hcomponent⟩ := Text.exists_isLastComponent rest
  rw [fixTitle_eq, h, shortTitle_tilde hcomponent]
  constructor
  · rintro (⟨hbare, htilde⟩ | ⟨hbare, hlast⟩)
    · -- the first form is for targets without a `~` in front
      rw [← isBare_iff.mp hbare, h] at htilde
      exact absurd ⟨rest, rfl⟩ htilde
    · -- the last component is only one, so the title is determined
      obtain ⟨-, rfl⟩ := List.cons.inj (h.symm.trans (isBare_iff.mp hbare))
      exact ⟨by rw [← hlast.eq, hcomponent.eq], rfl⟩
  · rintro ⟨rfl, rfl⟩
    exact .short (isBare_iff.mpr h) hcomponent

/-- Nothing is dropped from a text exactly if no `~` stands in front of it. -/
theorem dropWhile_tilde_eq_self_iff {cs : List Char} :
    cs.dropWhile (· == '~') = cs ↔ ¬ ['~'] <+: cs := by
  cases cs with
  | nil => exact iff_of_true rfl (by simp)
  | cons c cs =>
    by_cases hc : c = '~'
    · subst hc
      -- what is left of the text is shorter, so it is another one
      rw [List.dropWhile_cons_of_pos (by simp)]
      refine iff_of_false (fun he => ?_) (not_not_intro ⟨cs, rfl⟩)
      have hle := (List.dropWhile_sublist (· == '~') (l := cs)).length_le
      rw [he, List.length_cons] at hle
      omega
    · rw [List.dropWhile_cons_of_neg (by simpa using hc)]
      exact iff_of_true rfl fun hp => hc (List.cons_prefix_cons.mp hp).1.symm

/-- **Title and target keep in step** exactly if no two `~` stand in front of the bare text. The title is
right in any case: there is a target with which it is in step. -/
theorem link_implicit_iff (style : LinkStyle) (text : String) :
    (∃ target, style.Implicit text.toList (style.link text text false).title.toList target) ∧
      (style.Implicit text.toList (style.link text text false).title.toList
          (style.link text text false).target.toList ↔
        ∀ bare, style.IsBare text.toList bare → ¬ ['~', '~'] <+: bare) := by
  have htitle : (style.link text text false).title.toList =
      shortTitle (style.fixTitle text.toList) := String.toList_ofList
  have hbare : (∀ bare, style.IsBare text.toList bare → ¬ ['~', '~'] <+: bare) ↔
      ¬ ['~', '~'] <+: style.fixTarget text.toList := by
    simp only [isBare_iff, forall_eq']
  rw [toList_target_link, htitle, hbare]
  by_cases htilde : ['~'] <+: style.fixTarget text.toList
  · obtain ⟨rest, hrest⟩ := htilde
    rw [List.singleton_append] at hrest
    -- the title loses this `~`, the target all that follow it as well
    have hdrop : ('~' :: rest).dropWhile (· == '~') = rest.dropWhile (· == '~') :=
      List.dropWhile_cons_of_pos (by decide)
    have hsecond : ['~', '~'] <+: '~' :: rest ↔ ['~'] <+: rest := by
      rw [List.cons_prefix_cons, and_iff_right rfl]
    simp only [implicit_iff_of_tilde hrest.symm, true_and, exists_eq]
    rw [← hrest, hdrop, hsecond, dropWhile_tilde_eq_self_iff]
  · have hsecond : ¬ ['~', '~'] <+: style.fixTarget text.toList :=
      fun hp => htilde ((List.cons_prefix_cons.mpr ⟨rfl, List.nil_prefix⟩).trans hp)
    simp only [implicit_iff_of_not_tilde htilde, true_and, exists_eq]
    exact iff_of_true (dropWhile_tilde_eq_self_iff.mpr htilde) hsecond

/-- Of two `~` in front of a class the title keeps one and the target none, so the link shows what it does not
look up. -/
theorem not_implicit_link_tildes :
    (ofRole .classType).link "~~T" "~~T" false = ⟨"~T", "T"⟩ ∧
      ¬ (ofRole .classType).Implicit "~~T".toList
        ((ofRole .classType).link "~~T" "~~T" false).title.toList
        ((ofRole .classType).link "~~T" "~~T" false).target.toList := by
  have hlink : (ofRole .classType).link "~~T" "~~T" false = ⟨"~T", "T"⟩ := by decide
  -- the title keeps one `~` of the two, the target none
  have hbare : (ofRole .classType).fixTarget "~~T".toList = '~' :: ['~', 'T'] := by decide
  refine ⟨hlink, ?_⟩
  rw [hlink, implicit_iff_of_tilde hbare]
  decide

end LinkStyle

end CppIndex
