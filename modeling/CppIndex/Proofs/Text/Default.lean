import CppIndex.Declaration.Parse
import CppIndex.Proofs.Text.Trim

/-!
# Default values

A default value is a literal that is taken as a whole, or what stands in front of the first comma or
closing parenthesis that is neither inside brackets nor inside a literal. Read again in front of such a
sign, it is found again (`Param.readDefault_append`). For the second kind that is so because a value that
was scanned to its end leaves the scanner outside of everything (`Text.Scanned`), so that only the
following sign can end it; and because a literal that begins the value ends inside it.
-/

namespace CppIndex

namespace Text

variable {depth : Nat} {quote : Option Char} {cs k : List Char}

/-- **A text that is scanned** from a depth and a quote to the outside of everything, without meeting a
sign that ends a value. -/
inductive Scanned : Nat → Option Char → List Char → Prop
  /-- Outside of everything. -/
  | nil : Scanned 0 none []
  /-- Inside a literal a backslash takes a character along. -/
  | escape {depth : Nat} {q d : Char} {cs : List Char} (h : Scanned depth (some q) cs) :
    Scanned depth (some q) ('\\' :: d :: cs)
  /-- Inside a literal only its closing sign counts. -/
  | inside {depth : Nat} {q c : Char} {cs : List Char} (hc : c ≠ '\\')
    (h : Scanned depth (if c = q then none else some q) cs) : Scanned depth (some q) (c :: cs)
  /-- A literal is opened. -/
  | quote {depth : Nat} {c : Char} {cs : List Char} (hc : c = '"' ∨ c = apostrophe)
    (h : Scanned depth (some c) cs) : Scanned depth none (c :: cs)
  /-- A bracket is opened. -/
  | opening {depth : Nat} {c : Char} {cs : List Char} (hq : ¬ (c = '"' ∨ c = apostrophe))
    (hc : c = '(' ∨ c = '[' ∨ c = '\x7b') (h : Scanned (depth + 1) none cs) :
    Scanned depth none (c :: cs)
  /-- A bracket is closed. -/
  | closing {depth : Nat} {c : Char} {cs : List Char} (hq : ¬ (c = '"' ∨ c = apostrophe))
    (ho : ¬ (c = '(' ∨ c = '[' ∨ c = '\x7b')) (hn : ¬ (depth = 0 ∧ (c = ',' ∨ c = ')')))
    (hc : c = ')' ∨ c = ']' ∨ c = '\x7d') (h : Scanned (depth - 1) none cs) :
    Scanned depth none (c :: cs)
  /-- Any other character. -/
  | other {depth : Nat} {c : Char} {cs : List Char} (hq : ¬ (c = '"' ∨ c = apostrophe))
    (ho : ¬ (c = '(' ∨ c = '[' ∨ c = '\x7b')) (hn : ¬ (depth = 0 ∧ (c = ',' ∨ c = ')')))
    (hc : ¬ (c = ')' ∨ c = ']' ∨ c = '\x7d')) (h : Scanned depth none cs) :
    Scanned depth none (c :: cs)

/-- **A sign that ends a value** stands at the front of a text. -/
def EndsValue (k : List Char) : Prop := k.head? = some ',' ∨ k.head? = some ')'

/-- Inside a literal any character but a backslash is kept. -/
theorem splitDefault?_inside {q c : Char} (hc : c ≠ '\\') :
    splitDefault? depth (some q) (c :: cs) =
      (splitDefault? depth (if c = q then none else some q) cs).map
        fun split => (c :: split.1, split.2) := by
  cases cs <;> simp [splitDefault?, hc]

/-- **A scanned text is split off** in front of a sign that ends it. -/
theorem Scanned.splitDefault?_append (h : Scanned depth quote cs) (hk : EndsValue k) :
    splitDefault? depth quote (cs ++ k) = some (cs, k) := by
  induction h with
  | nil =>
    -- the sign that follows is met outside of everything
    cases k with
    | nil => rcases hk with hk | hk <;> cases hk
    | cons x k =>
      rcases hk with hk | hk
      · obtain rfl := Option.some.inj hk
        rfl
      · obtain rfl := Option.some.inj hk
        rfl
  | escape _ ih => simp [splitDefault?, ih]
  | inside hc _ ih => simp [splitDefault?_inside hc, ih]
  | quote hc _ ih => simp [splitDefault?, hc, ih]
  | opening hq hc _ ih => simp [splitDefault?, hq, hc, ih]
  | closing hq ho hn hc _ ih => simp [splitDefault?, hq, ho, hn, hc, ih]
  | other hq ho hn hc _ ih => simp [splitDefault?, hq, ho, hn, hc, ih]

/-- What is split off behind a character that is kept. -/
theorem scanned_cons_of_map {depth' : Nat} {quote' : Option Char} {c : Char} {value rest : List Char}
    (ih : ∀ {value}, splitDefault? depth' quote' cs = some (value, rest) →
      Scanned depth' quote' value ∧ cs = value ++ rest ∧ EndsValue rest)
    (hkeep : ∀ {value}, Scanned depth' quote' value → Scanned depth quote (c :: value))
    (h : (splitDefault? depth' quote' cs).map (fun split => (c :: split.1, split.2)) =
      some (value, rest)) :
    Scanned depth quote value ∧ c :: cs = value ++ rest ∧ EndsValue rest := by
  obtain ⟨⟨v, r⟩, hv, he⟩ := Option.map_eq_some_iff.mp h
  obtain ⟨rfl, rfl⟩ := Prod.mk.inj he
  -- the split of the rest, with the character put back in front of the value
  obtain ⟨hs, rfl, hr⟩ := ih hv
  exact ⟨hkeep hs, rfl, hr⟩

/-- **What is split off was scanned**, and a sign that ends it follows. -/
theorem scanned_of_splitDefault? {value rest : List Char}
    (h : splitDefault? depth quote cs = some (value, rest)) :
    Scanned depth quote value ∧ cs = value ++ rest ∧ EndsValue rest := by
  induction depth, quote, cs using splitDefault?.induct generalizing value with
  | case1 => simp [splitDefault?] at h
  | case2 => simp [splitDefault?] at h
  | case3 depth q d cs ih =>
    simp only [splitDefault?, if_true] at h
    obtain ⟨⟨v, r⟩, hv, he⟩ := Option.map_eq_some_iff.mp h
    obtain ⟨rfl, rfl⟩ := Prod.mk.inj he
    obtain ⟨hs, rfl, hr⟩ := ih hv
    exact ⟨.escape hs, rfl, hr⟩
  | case4 depth c cs q hc ih =>
    rw [splitDefault?_inside hc] at h
    exact scanned_cons_of_map ih (.inside hc) h
  | case5 depth c cs hq ih =>
    rw [splitDefault?, if_pos hq] at h
    exact scanned_cons_of_map ih (.quote hq) h
  | case6 depth c cs hq ho ih =>
    rw [splitDefault?, if_neg hq, if_pos ho] at h
    exact scanned_cons_of_map ih (.opening hq ho) h
  | case7 depth c cs hq ho hn =>
    -- the sign that ends the value
    rw [splitDefault?, if_neg hq, if_neg ho, if_pos hn] at h
    simp only [Option.some.injEq, Prod.mk.injEq] at h
    obtain ⟨rfl, rfl⟩ := h
    obtain ⟨rfl, hc⟩ := hn
    exact ⟨.nil, rfl, hc.imp (congrArg some) (congrArg some)⟩
  | case8 depth c cs hq ho hn hc ih =>
    rw [splitDefault?, if_neg hq, if_neg ho, if_neg hn, if_pos hc] at h
    exact scanned_cons_of_map ih (.closing hq ho hn hc) h
  | case9 depth c cs hq ho hn hc ih =>
    rw [splitDefault?, if_neg hq, if_neg ho, if_neg hn, if_neg hc] at h
    exact scanned_cons_of_map ih (.other hq ho hn hc) h

/-- A blank is no sign of a value. -/
theorem not_sign_of_isBlank {c : Char} (h : isBlank c = true) :
    c ≠ '\\' ∧ ¬ (c = '"' ∨ c = apostrophe) ∧ ¬ (c = '(' ∨ c = '[' ∨ c = '\x7b') ∧
      ¬ (c = ')' ∨ c = ']' ∨ c = '\x7d') := by
  -- no sign is blank, so it is enough to know the sign
  have hne : ∀ d, isBlank d = false → c ≠ d := by
    rintro d hd rfl
    rw [hd] at h
    cases h
  refine ⟨hne _ (by decide), ?_, ?_, ?_⟩
  · rintro (rfl | rfl)
    · exact hne _ (by decide) rfl
    · exact hne _ (by decide) rfl
  · rintro (rfl | rfl | rfl)
    · exact hne _ (by decide) rfl
    · exact hne _ (by decide) rfl
    · exact hne _ (by decide) rfl
  · rintro (rfl | rfl | rfl)
    · exact hne _ (by decide) rfl
    · exact hne _ (by decide) rfl
    · exact hne _ (by decide) rfl

/-- Blanks are scanned only outside of everything, unless they are inside a literal that they cannot
close. -/
theorem Scanned.eq_of_blanks {blanks : List Char} (h : Scanned depth quote blanks)
    (hb : ∀ x ∈ blanks, isBlank x = true) (hq : ∀ q ∈ quote, isBlank q = false) :
    depth = 0 ∧ quote = none := by
  induction h with
  | nil => exact ⟨rfl, rfl⟩
  | escape _ _ =>
    exact absurd rfl (not_sign_of_isBlank (hb '\\' (List.mem_cons_self ..))).1
  | @inside depth q c cs hc _ ih =>
    -- a blank does not close the literal
    have hcq : c ≠ q := by
      rintro rfl
      have hx := hb c (List.mem_cons_self ..)
      rw [hq c rfl] at hx
      cases hx
    rw [if_neg hcq] at ih
    exact ih (fun x hx => hb x (List.mem_cons_of_mem _ hx)) hq
  | quote hc _ _ => exact absurd hc (not_sign_of_isBlank (hb _ (List.mem_cons_self ..))).2.1
  | opening _ hc _ _ => exact absurd hc (not_sign_of_isBlank (hb _ (List.mem_cons_self ..))).2.2.1
  | closing _ _ _ hc _ _ => exact absurd hc (not_sign_of_isBlank (hb _ (List.mem_cons_self ..))).2.2.2
  | other _ _ _ _ _ ih => exact ih (fun x hx => hb x (List.mem_cons_of_mem _ hx)) hq

/-- **Blanks at the end** of a scanned text can be left out. -/
theorem Scanned.of_append_blanks {blanks : List Char} (hb : ∀ x ∈ blanks, isBlank x = true)
    {depth : Nat} {quote : Option Char} {cs : List Char} (h : Scanned depth quote (cs ++ blanks))
    (hq : ∀ q ∈ quote, isBlank q = false) : Scanned depth quote cs := by
  match cs with
  | [] =>
    obtain ⟨rfl, rfl⟩ := h.eq_of_blanks hb hq
    exact .nil
  | x :: cs =>
    rw [List.cons_append] at h
    generalize ht : cs ++ blanks = tail at h
    cases h with
    | @escape _ q d rest h =>
      cases cs with
      | nil =>
        -- the literal would not be closed, because only blanks follow
        obtain rfl : blanks = d :: rest := ht
        obtain ⟨-, hnone⟩ := h.eq_of_blanks (fun z hz => hb z (List.mem_cons_of_mem _ hz)) hq
        cases hnone
      | cons y cs =>
        obtain ⟨rfl, rfl⟩ := List.cons.inj ht
        exact .escape (h.of_append_blanks hb hq)
    | inside hc h =>
      subst ht
      refine .inside hc (h.of_append_blanks hb ?_)
      split
      · simp
      · exact hq
    | quote hc h =>
      subst ht
      refine .quote hc (h.of_append_blanks hb fun q hq => ?_)
      obtain rfl := Option.some.inj hq
      rcases hc with rfl | rfl <;> decide
    | opening hn hc h =>
      subst ht
      exact .opening hn hc (h.of_append_blanks hb hq)
    | closing hn ho he hc h =>
      subst ht
      exact .closing hn ho he hc (h.of_append_blanks hb hq)
    | other hn ho he hc h =>
      subst ht
      exact .other hn ho he hc (h.of_append_blanks hb hq)

/-! ### Literals -/

/-- Inside a literal any character but a backslash closes it or is kept. -/
theorem closeLiteral?_cons {q c : Char} (hc : c ≠ '\\') : closeLiteral? q (c :: cs) =
    if c = q then some ([c], cs)
    else (closeLiteral? q cs).map fun (taken, rest) => (c :: taken, rest) := by
  cases cs <;> simp [closeLiteral?, hc]

/-- **A literal is closed** by its own text, whatever follows it. -/
theorem closeLiteral?_eq_some {q : Char} {taken rest : List Char}
    (h : closeLiteral? q cs = some (taken, rest)) :
    cs = taken ++ rest ∧ ∀ k, closeLiteral? q (taken ++ k) = some (taken, k) := by
  induction cs using closeLiteral?.induct q generalizing taken with
  | case1 => cases h
  | case2 => cases h
  | case3 c cs ih =>
    rw [closeLiteral?] at h
    obtain ⟨⟨t, r⟩, ht, he⟩ := Option.map_eq_some_iff.mp h
    obtain ⟨rfl, rfl⟩ := Prod.mk.inj he
    obtain ⟨rfl, hk⟩ := ih ht
    exact ⟨rfl, fun k => by simp [closeLiteral?, hk]⟩
  | case4 cs h₁ h₂ =>
    -- a backslash would have taken the next character along
    have hq : q ≠ '\\' := by
      intro hq
      cases cs with
      | nil => exact h₁ hq rfl
      | cons d cs => exact h₂ d cs hq rfl
    rw [closeLiteral?_cons hq, if_pos rfl] at h
    simp only [Option.some.injEq, Prod.mk.injEq] at h
    obtain ⟨rfl, rfl⟩ := h
    exact ⟨rfl, fun k => by rw [List.singleton_append, closeLiteral?_cons hq, if_pos rfl]⟩
  | case5 c cs h₁ h₂ hcq ih =>
    have hc : c ≠ '\\' := by
      intro hc
      cases cs with
      | nil => exact h₁ hc rfl
      | cons d cs => exact h₂ d cs hc rfl
    rw [closeLiteral?_cons hc, if_neg hcq] at h
    obtain ⟨⟨t, r⟩, ht, he⟩ := Option.map_eq_some_iff.mp h
    obtain ⟨rfl, rfl⟩ := Prod.mk.inj he
    obtain ⟨rfl, hk⟩ := ih ht
    exact ⟨rfl, fun k => by rw [List.cons_append, closeLiteral?_cons hc, if_neg hcq, hk]; rfl⟩

/-- What is scanned from inside a literal closes it. -/
theorem Scanned.closeLiteral? {q : Char} (h : Scanned depth (some q) cs) :
    ∃ taken rest, closeLiteral? q cs = some (taken, rest) := by
  generalize hq : some q = quote at h
  induction h with
  | nil => cases hq
  | escape _ ih =>
    obtain ⟨taken, rest, ht⟩ := ih hq
    exact ⟨_, _, by rw [Text.closeLiteral?, ht]; rfl⟩
  | @inside depth p c cs hc _ ih =>
    obtain rfl := Option.some.inj hq
    rw [closeLiteral?_cons hc]
    -- the character closes the literal, or the rest of the text does
    by_cases hcq : c = q
    · exact ⟨_, _, if_pos hcq⟩
    · rw [if_neg hcq] at ih ⊢
      obtain ⟨taken, rest, ht⟩ := ih rfl
      exact ⟨_, _, by rw [ht]; rfl⟩
  | quote | opening | closing | other => cases hq

/-- A literal without an encoding letter is found by its own text. -/
theorem plainLiteral?_eq_some {taken rest : List Char}
    (h : plainLiteral? cs = some (taken, rest)) :
    cs = taken ++ rest ∧ ∀ k, plainLiteral? (taken ++ k) = some (taken, k) := by
  cases cs with
  | nil => cases h
  | cons c cs =>
    rw [plainLiteral?] at h
    split at h
    next hc =>
      obtain ⟨⟨t, r⟩, ht, he⟩ := Option.map_eq_some_iff.mp h
      obtain ⟨rfl, rfl⟩ := Prod.mk.inj he
      -- the opening quote says which quote closes the literal, whatever follows
      obtain ⟨rfl, hk⟩ := closeLiteral?_eq_some ht
      refine ⟨rfl, fun k => ?_⟩
      rw [List.cons_append, plainLiteral?, if_pos hc, hk]
      rfl
    next => cases h

/-- **A literal is found by its own text**, whatever follows it. -/
theorem literal?_eq_some {taken rest : List Char} (h : literal? cs = some (taken, rest)) :
    cs = taken ++ rest ∧ ∀ k, literal? (taken ++ k) = some (taken, k) := by
  cases cs with
  | nil => cases h
  | cons c cs =>
    rw [literal?] at h
    split at h
    next hc =>
      obtain ⟨⟨t, r⟩, ht, he⟩ := Option.map_eq_some_iff.mp h
      obtain ⟨rfl, rfl⟩ := Prod.mk.inj he
      obtain ⟨rfl, hk⟩ := plainLiteral?_eq_some ht
      refine ⟨rfl, fun k => ?_⟩
      rw [List.cons_append, literal?, if_pos hc, hk]
      rfl
    next hc =>
      obtain ⟨hcs, hk⟩ := plainLiteral?_eq_some h
      refine ⟨hcs, fun k => ?_⟩
      -- without an encoding letter the literal begins with the character itself
      cases taken with
      | nil => cases hk []
      | cons d taken =>
        obtain rfl : c = d := by simpa using congrArg List.head? hcs
        rw [List.cons_append, literal?, if_neg hc, ← List.cons_append]
        exact hk k

/-- What ends a value begins with one of the two signs. -/
theorem EndsValue.exists_cons (hk : EndsValue k) : ∃ x cs, k = x :: cs ∧ (x = ',' ∨ x = ')') := by
  cases k with
  | nil => rcases hk with hk | hk <;> cases hk
  | cons x cs => exact ⟨x, cs, rfl, hk.imp Option.some.inj Option.some.inj⟩

/-- A scanned text that is no literal begins with none, whatever sign ends it. -/
theorem Scanned.plainLiteral?_append (h : Scanned 0 none cs) (hn : plainLiteral? cs = none)
    (hk : EndsValue k) : plainLiteral? (cs ++ k) = none := by
  cases cs with
  | nil =>
    -- what ends a value is a comma or a parenthesis, and neither opens a literal
    obtain ⟨x, ks, rfl, rfl | rfl⟩ := hk.exists_cons
    · rfl
    · rfl
  | cons c cs =>
    rw [List.cons_append, plainLiteral?]
    by_cases hc : c = '"' ∨ c = apostrophe
    · -- the literal would be closed inside the text
      have hclosed : ∃ taken rest, Text.closeLiteral? c cs = some (taken, rest) := by
        cases h with
        | quote _ h => exact h.closeLiteral?
        | opening hq => exact absurd hc hq
        | closing hq => exact absurd hc hq
        | other hq => exact absurd hc hq
      obtain ⟨taken, rest, ht⟩ := hclosed
      rw [plainLiteral?, if_pos hc, ht] at hn
      cases hn
    · exact if_neg hc

theorem Scanned.literal?_append (h : Scanned 0 none cs) (hn : literal? cs = none)
    (hk : EndsValue k) : literal? (cs ++ k) = none := by
  cases cs with
  | nil =>
    -- what ends a value is no encoding letter either
    obtain ⟨x, ks, rfl, rfl | rfl⟩ := hk.exists_cons
    · rfl
    · rfl
  | cons c cs =>
    rw [List.cons_append, literal?]
    by_cases hc : c = 'L' ∨ c = 'u' ∨ c = 'U' ∨ c = '8'
    · -- behind an encoding letter the text goes on outside of everything
      have hrest : Scanned 0 none cs := by
        cases h with
        | quote hq => rcases hc with rfl | rfl | rfl | rfl <;> exact absurd hq (by decide)
        | opening _ ho => rcases hc with rfl | rfl | rfl | rfl <;> exact absurd ho (by decide)
        | closing _ _ _ he => rcases hc with rfl | rfl | rfl | rfl <;> exact absurd he (by decide)
        | other _ _ _ _ h => exact h
      rw [literal?, if_pos hc, Option.map_eq_none_iff] at hn
      rw [if_pos hc, hrest.plainLiteral?_append hn hk]
      rfl
    · -- without an encoding letter the literal is a plain one
      rw [literal?, if_neg hc] at hn
      rw [if_neg hc, ← List.cons_append]
      exact h.plainLiteral?_append hn hk

/-! ### The texts of default values -/

/-- **The text of a default value**: a literal, or a text that is scanned from its beginning to its
end, is no literal and has no blanks at its ends. -/
inductive IsDefault (cs : List Char) : Prop
  /-- A literal. -/
  | literal (h : literal? cs = some (cs, []))
  /-- Any other value. -/
  | scanned (h : Scanned 0 none cs) (hn : literal? cs = none) (ht : IsTrimmed cs)

/-- No blank begins a literal. -/
theorem isBlank_of_literal? {taken rest : List Char} (h : literal? cs = some (taken, rest)) :
    ∃ x cs', cs = x :: cs' ∧ isBlank x = false := by
  cases cs with
  | nil => cases h
  | cons c cs =>
    refine ⟨c, cs, rfl, ?_⟩
    rw [literal?] at h
    split at h
    -- a literal begins with an encoding letter or with a quote
    next hc => rcases hc with rfl | rfl | rfl | rfl <;> decide
    next =>
      rw [plainLiteral?] at h
      split at h
      next hc => rcases hc with rfl | rfl <;> decide
      next => cases h

/-- What is split off from a text that no literal begins is the text of a default value, once the blanks
at its end are left out. -/
theorem isDefault_trimEnd {value rest : List Char} (h : splitDefault? 0 none cs = some (value, rest))
    (hl : literal? cs = none) (hb : ∀ x ∈ cs.head?, isBlank x = false) : IsDefault (trimEnd value) := by
  obtain ⟨hs, hcs, -⟩ := scanned_of_splitDefault? h
  obtain ⟨blanks, hvalue, hblanks, hlast⟩ := trimEnd_append value
  have htext : cs = trimEnd value ++ (blanks ++ rest) := by
    rw [hcs, ← List.append_assoc, ← hvalue]
  refine .scanned (Scanned.of_append_blanks hblanks (hvalue ▸ hs) (by simp)) ?_
    ⟨fun x hx => ?_, hlast⟩
  · -- a literal at the front would have been taken as a whole
    cases hlit : literal? (trimEnd value) with
    | none => rfl
    | some r =>
      obtain ⟨taken, tail⟩ := r
      obtain ⟨ht, hk⟩ := literal?_eq_some hlit
      rw [htext, ht, List.append_assoc, hk] at hl
      cases hl
  · -- what is trimmed off stands at the end, so the first character is that of the text
    rw [Option.mem_def] at hx
    exact hb x (by rw [htext, List.head?_append, hx]; rfl)

/-- No blank begins the text of a default value, and none begins what follows it. -/
theorem IsDefault.not_blank (h : IsDefault cs) (hk : EndsValue k) :
    ∀ x ∈ (cs ++ k).head?, isBlank x = false := by
  have hend : ∀ x ∈ k.head?, isBlank x = false := by
    obtain ⟨y, ks, rfl, hy⟩ := hk.exists_cons
    intro x hx
    obtain rfl := Option.some.inj hx
    rcases hy with rfl | rfl <;> decide
  cases h with
  | literal h =>
    obtain ⟨y, cs', rfl, hy⟩ := isBlank_of_literal? h
    intro x hx
    obtain rfl := Option.some.inj hx
    exact hy
  | scanned _ _ ht =>
    -- an empty value begins like what follows it
    cases cs with
    | nil => exact hend
    | cons y cs => exact ht.front

end Text

/-! ### Reading a default value -/

namespace Param

variable {c c' : Cursor} {s : String} {k : List Char}

/-- **A default value that is read** is a literal that was taken as a whole, or what was scanned without
the blanks at its end. -/
theorem readDefault_eq_done (h : readDefault c = .done s c') :
    ∃ taken, c' = c.skipBlank.moved taken c'.rest ∧
      ((s.toList = taken ∧ Text.literal? c.skipBlank.rest = some (taken, c'.rest)) ∨
        (s.toList = Text.trimEnd taken ∧ Text.literal? c.skipBlank.rest = none ∧
          Text.splitDefault? 0 none c.skipBlank.rest = some (taken, c'.rest))) := by
  unfold readDefault at h
  simp only [] at h
  split at h
  -- a literal is taken as it is
  next value c₁ hl =>
    simp only [Reading.done.injEq] at h
    obtain ⟨rfl, rfl⟩ := h
    obtain ⟨⟨taken, rest⟩, ht, he⟩ := Option.map_eq_some_iff.mp hl
    obtain ⟨rfl, rfl⟩ := Prod.mk.inj he
    exact ⟨taken, rfl, Or.inl ⟨String.toList_ofList, ht⟩⟩
  -- everything else goes up to the end of the value, and is trimmed
  next hl =>
    split at h
    next value rest hv =>
      simp only [Reading.done.injEq] at h
      obtain ⟨rfl, rfl⟩ := h
      exact ⟨value, rfl, Or.inr ⟨String.toList_ofList, Option.map_eq_none_iff.mp hl, hv⟩⟩
    next => cases h

/-- What was taken for it stands at the cursor. -/
theorem exists_rest_of_readDefault (h : readDefault c = .done s c') :
    ∃ taken, c.skipBlank.rest = taken ++ c'.rest ∧ (s.toList = taken ∨ s.toList = Text.trimEnd taken) := by
  obtain ⟨taken, -, ⟨hs, hl⟩ | ⟨hs, -, hv⟩⟩ := readDefault_eq_done h
  · exact ⟨taken, (Text.literal?_eq_some hl).1, Or.inl hs⟩
  · exact ⟨taken, (Text.scanned_of_splitDefault? hv).2.1, Or.inr hs⟩

/-- **What is read as a default value is the text of one.** -/
theorem isDefault_of_readDefault (h : readDefault c = .done s c') : Text.IsDefault s.toList := by
  obtain ⟨taken, -, ⟨rfl, hl⟩ | ⟨hs, hl, hv⟩⟩ := readDefault_eq_done h
  · have hk := (Text.literal?_eq_some hl).2 []
    rw [List.append_nil] at hk
    exact .literal hk
  · rw [hs]
    exact Text.isDefault_trimEnd hv hl fun x hx => Text.isBlank_of_mem_head?_dropBlank hx

/-- **A default value is read back** in front of a sign that ends it. -/
theorem readDefault_append (h : Text.IsDefault s.toList) (hc : c.rest = s.toList ++ k)
    (hk : Text.EndsValue k) : readDefault c = .done s (c.moved s.toList k) := by
  have hskip : c.skipBlank = c := Cursor.skipBlank_eq_self (hc ▸ h.not_blank hk)
  cases h with
  | literal hl =>
    have hread : c.literal? = some (s, c.moved s.toList k) := by
      simp only [Cursor.literal?, hc, (Text.literal?_eq_some hl).2 k, Option.map_some,
        String.ofList_toList]
    simp only [readDefault, hskip, hread]
  | scanned hs hn ht =>
    -- no literal begins here, so the value is scanned up to the sign that follows
    have hnone : c.literal? = none := by
      rw [Cursor.literal?, hc, hs.literal?_append hn hk]
      rfl
    have htrim : Text.trimEnd s.toList = s.toList := by
      have h := ht.trim_eq
      rwa [Text.trim, Text.dropBlank_eq_self ht.front] at h
    simp only [readDefault, hskip, hnone, hc, hs.splitDefault?_append hk, htrim, String.ofList_toList]

end Param

end CppIndex
