import CppIndex.Proofs.Text.Default

/-!
# Where a default value ends

Every place in a text has a nesting: the number of brackets that are open there, the literal that is, and whether
a backslash takes the next character along (`Text.Nesting`). A value ends at the first comma or closing
parenthesis outside of all of them (`Text.EndsAt`). The scanner of default values splits a text exactly there
(`Text.splitDefault?_eq_some_iff`), and finds no value exactly if there is no such sign. Blanks in front make no
difference to it, and a literal is passed as a whole (`Text.scanned_append_of_literal?`).
-/

namespace CppIndex

namespace Text

/-! ### Nesting -/

/-- **The nesting** of a place in a text. -/
structure Nesting where
  /-- How many brackets are open. -/
  depth : Nat
  /-- The sign that closes the literal around the place. -/
  quote : Option Char
  /-- Whether a backslash takes the next character along. -/
  escaped : Bool
  deriving DecidableEq, Repr

namespace Nesting

/-- Outside of brackets and literals. -/
def outside : Nesting := ⟨0, none, false⟩

/-- **Behind one more character.** Inside a literal only its closing sign counts; outside of literals a bracket
of any kind closes the last one, and closes nothing where none is open. -/
def after (n : Nesting) (c : Char) : Nesting :=
  match n.quote with
  | some q =>
    -- inside a literal only the backslash and its own quote mean something
    if n.escaped then { n with escaped := false }
    else if c = '\\' then { n with escaped := true }
    else if c = q then { n with quote := none }
    else n
  | none =>
    if c = '"' ∨ c = apostrophe then { n with quote := some c }
    else if c = '(' ∨ c = '[' ∨ c = '\x7b' then { n with depth := n.depth + 1 }
    else if c = ')' ∨ c = ']' ∨ c = '\x7d' then { n with depth := n.depth - 1 }
    else n

/-- Behind some characters. -/
def behind (n : Nesting) (cs : List Char) : Nesting := cs.foldl after n

variable {n : Nesting} {d : Nat} {q c : Char} {cs cs' : List Char}

@[simp] theorem behind_cons : n.behind (c :: cs) = (n.after c).behind cs := rfl

theorem after_escaped : after ⟨d, some q, true⟩ c = ⟨d, some q, false⟩ := rfl

theorem after_backslash : after ⟨d, some q, false⟩ '\\' = ⟨d, some q, true⟩ := rfl

theorem after_inside (hc : c ≠ '\\') :
    after ⟨d, some q, false⟩ c = ⟨d, if c = q then none else some q, false⟩ := by
  by_cases hq : c = q
  · subst hq
    simp [after, hc]
  · simp [after, hc, hq]

theorem after_quote (hq : c = '"' ∨ c = apostrophe) :
    after ⟨d, none, false⟩ c = ⟨d, some c, false⟩ :=
  if_pos hq

theorem after_opening (hq : ¬ (c = '"' ∨ c = apostrophe)) (hc : c = '(' ∨ c = '[' ∨ c = '\x7b') :
    after ⟨d, none, false⟩ c = ⟨d + 1, none, false⟩ :=
  (if_neg hq).trans (if_pos hc)

theorem after_closing (hq : ¬ (c = '"' ∨ c = apostrophe)) (ho : ¬ (c = '(' ∨ c = '[' ∨ c = '\x7b'))
    (hc : c = ')' ∨ c = ']' ∨ c = '\x7d') : after ⟨d, none, false⟩ c = ⟨d - 1, none, false⟩ :=
  (if_neg hq).trans ((if_neg ho).trans (if_pos hc))

theorem after_other (hq : ¬ (c = '"' ∨ c = apostrophe)) (ho : ¬ (c = '(' ∨ c = '[' ∨ c = '\x7b'))
    (hc : ¬ (c = ')' ∨ c = ']' ∨ c = '\x7d')) : after ⟨d, none, false⟩ c = ⟨d, none, false⟩ :=
  (if_neg hq).trans ((if_neg ho).trans (if_neg hc))

/-- **No sign in a text ends a value** that begins at a nesting: none stands outside of everything. -/
def Unended (n : Nesting) (cs : List Char) : Prop :=
  ∀ v k, cs = v ++ k → EndsValue k → n.behind v ≠ outside

theorem unended_nil : n.Unended [] := by
  intro v k h hk
  obtain ⟨x, ks, rfl, -⟩ := hk.exists_cons
  exact absurd h (by simp)

/-- One more character in front is no such sign, and behind it there is none. -/
theorem unended_cons_iff :
    n.Unended (c :: cs) ↔ ¬ (n = outside ∧ (c = ',' ∨ c = ')')) ∧ (n.after c).Unended cs := by
  constructor
  · -- the empty front of the text is its first split; all others begin with `c`
    intro h
    refine ⟨fun ⟨hn, hc⟩ => h [] (c :: cs) rfl ?_ hn, fun v k hcs hk => ?_⟩
    · exact hc.imp (congrArg some) (congrArg some)
    · exact h (c :: v) k (by rw [hcs]; rfl) hk
  · rintro ⟨hc, h⟩ v k hcs hk
    cases v with
    | nil =>
      -- nothing was read yet, so the sign would be `c` itself
      obtain rfl : c :: cs = k := hcs
      exact fun hn => hc ⟨hn, hk.imp Option.some.inj Option.some.inj⟩
    | cons x v =>
      obtain ⟨rfl, htail⟩ := List.cons.inj hcs
      exact h v k htail hk

end Nesting

open Nesting

variable {depth : Nat} {quote : Option Char} {cs v k : List Char}

/-- What is scanned leads outside of everything, and no sign in it ends a value. -/
theorem Scanned.unended (h : Scanned depth quote cs) :
    Nesting.behind ⟨depth, quote, false⟩ cs = outside ∧ Nesting.Unended ⟨depth, quote, false⟩ cs := by
  -- no sign that stands inside a literal or inside brackets ends a value
  have hinside : ∀ {q : Char} {d : Nat} {b : Bool}, (⟨d, some q, b⟩ : Nesting) ≠ outside := by
    intro q d b h
    cases congrArg Nesting.quote h
  have hdepth : ∀ {d : Nat}, (⟨d, none, false⟩ : Nesting) = outside → d = 0 := congrArg Nesting.depth
  induction h with
  | nil => exact ⟨rfl, unended_nil⟩
  | escape _ ih =>
    rw [behind_cons, behind_cons, unended_cons_iff, unended_cons_iff, after_backslash, after_escaped]
    exact ⟨ih.1, fun h => hinside h.1, fun h => hinside h.1, ih.2⟩
  | inside hc _ ih =>
    rw [behind_cons, unended_cons_iff, after_inside hc]
    exact ⟨ih.1, fun h => hinside h.1, ih.2⟩
  | quote hq _ ih =>
    rw [behind_cons, unended_cons_iff, after_quote hq]
    refine ⟨ih.1, ?_, ih.2⟩
    rintro ⟨-, rfl | rfl⟩
    · exact absurd hq (by decide)
    · exact absurd hq (by decide)
  | opening hq hc _ ih =>
    rw [behind_cons, unended_cons_iff, after_opening hq hc]
    refine ⟨ih.1, ?_, ih.2⟩
    rintro ⟨-, rfl | rfl⟩
    · exact absurd hc (by decide)
    · exact absurd hc (by decide)
  | closing hq ho hn hc _ ih =>
    rw [behind_cons, unended_cons_iff, after_closing hq ho hc]
    exact ⟨ih.1, fun h => hn ⟨hdepth h.1, h.2⟩, ih.2⟩
  | other hq ho hn hc _ ih =>
    rw [behind_cons, unended_cons_iff, after_other hq ho hc]
    exact ⟨ih.1, fun h => hn ⟨hdepth h.1, h.2⟩, ih.2⟩

/-- **What leads outside of everything is scanned** unless a sign in it ends a value. -/
theorem scanned_of_unended : ∀ {cs : List Char} {depth : Nat} {quote : Option Char},
    Nesting.behind ⟨depth, quote, false⟩ cs = outside → Nesting.Unended ⟨depth, quote, false⟩ cs →
      Scanned depth quote cs
  | [], depth, quote, h, _ => by
    -- the text ends outside of everything, where it began
    obtain ⟨rfl, rfl, -⟩ := Nesting.mk.inj (h : (⟨depth, quote, false⟩ : Nesting) = ⟨0, none, false⟩)
    exact .nil
  | c :: cs, depth, some q, h, hr => by
    rw [behind_cons] at h
    rw [unended_cons_iff] at hr
    by_cases hc : c = '\\'
    · -- the backslash takes the next character along, which there has to be
      subst hc
      rw [after_backslash] at h hr
      cases cs with
      | nil => cases congrArg Nesting.quote h
      | cons x cs =>
        rw [behind_cons, after_escaped] at h
        rw [unended_cons_iff, after_escaped] at hr
        exact .escape (scanned_of_unended h hr.2.2)
    · -- any other character stays inside the literal, or is the quote that closes it
      rw [after_inside hc] at h hr
      exact .inside hc (scanned_of_unended h hr.2)
  | c :: cs, depth, none, h, hr => by
    rw [behind_cons] at h
    rw [unended_cons_iff] at hr
    -- a comma or a closing parenthesis would end the value here
    have hn : ¬ (depth = 0 ∧ (c = ',' ∨ c = ')')) := by
      rintro ⟨rfl, hc⟩
      exact hr.1 ⟨rfl, hc⟩
    -- the rules outside of literals, in their order
    by_cases hq : c = '"' ∨ c = apostrophe
    · rw [after_quote hq] at h hr
      exact .quote hq (scanned_of_unended h hr.2)
    by_cases ho : c = '(' ∨ c = '[' ∨ c = '\x7b'
    · rw [after_opening hq ho] at h hr
      exact .opening hq ho (scanned_of_unended h hr.2)
    by_cases hc : c = ')' ∨ c = ']' ∨ c = '\x7d'
    · rw [after_closing hq ho hc] at h hr
      exact .closing hq ho hn hc (scanned_of_unended h hr.2)
    · rw [after_other hq ho hc] at h hr
      exact .other hq ho hn hc (scanned_of_unended h hr.2)

/-! ### The end of a value -/

/-- **Where a value ends**: the text falls into the value and what begins with the first comma or closing
parenthesis outside of brackets and literals. -/
structure EndsAt (cs v k : List Char) : Prop where
  /-- The value stands in front. -/
  split : cs = v ++ k
  /-- A comma or a closing parenthesis follows. -/
  sign : EndsValue k
  /-- It stands outside of everything. -/
  outer : outside.behind v = outside
  /-- None does so before. -/
  first : ∀ v' k', cs = v' ++ k' → EndsValue k' → outside.behind v' = outside → v.length ≤ v'.length

/-- The first sign is the one up to which the text is scanned. -/
theorem endsAt_iff_scanned : EndsAt cs v k ↔ Scanned 0 none v ∧ cs = v ++ k ∧ EndsValue k := by
  constructor
  · rintro ⟨hsplit, hsign, houter, hfirst⟩
    refine ⟨scanned_of_unended houter fun v' k' hv hk' houter' => ?_, hsplit, hsign⟩
    obtain ⟨x, ks, rfl, hx⟩ := hk'.exists_cons
    -- a sign inside the value would come before the first
    have hle := hfirst v' (x :: ks ++ k) (by rw [hsplit, hv, List.append_assoc])
      (hx.imp (congrArg some) (congrArg some)) houter'
    rw [hv, List.length_append, List.length_cons] at hle
    omega
  · rintro ⟨hscan, hsplit, hsign⟩
    obtain ⟨houter, hunended⟩ := hscan.unended
    refine ⟨hsplit, hsign, houter, fun v' k' hcs hk' houter' => ?_⟩
    rw [hsplit] at hcs
    rcases List.append_eq_append_iff.mp hcs with ⟨between, rfl, -⟩ | ⟨between, rfl, hk⟩
    · rw [List.length_append]
      exact Nat.le_add_right _ _
    · -- what lies between begins with the same sign, and no sign ends the value inside
      cases between with
      | nil => exact Nat.le_of_eq (by rw [List.append_nil])
      | cons x between =>
        rw [hk] at hk'
        exact absurd houter' (hunended v' _ rfl hk')

/-- **The scanner splits a text where the value ends.** -/
theorem splitDefault?_eq_some_iff : splitDefault? 0 none cs = some (v, k) ↔ EndsAt cs v k := by
  rw [endsAt_iff_scanned]
  constructor
  · exact scanned_of_splitDefault?
  · rintro ⟨hscan, rfl, hk⟩
    exact hscan.splitDefault?_append hk

/-- It finds no value exactly if there is no such sign. -/
theorem splitDefault?_eq_none_iff : splitDefault? 0 none cs = none ↔ ¬ ∃ v k, EndsAt cs v k := by
  constructor
  · rintro h ⟨v, k, hend⟩
    rw [splitDefault?_eq_some_iff.mpr hend] at h
    cases h
  · intro h
    cases hs : splitDefault? 0 none cs with
    | none => rfl
    | some split => exact absurd ⟨split.1, split.2, splitDefault?_eq_some_iff.mp hs⟩ h

/-- **A value ends at one place.** -/
theorem EndsAt.unique {v' k' : List Char} (h : EndsAt cs v k) (h' : EndsAt cs v' k') :
    v = v' ∧ k = k' := by
  have hsame := splitDefault?_eq_some_iff.mpr h
  rw [splitDefault?_eq_some_iff.mpr h'] at hsame
  obtain ⟨rfl, rfl⟩ := Prod.mk.inj (Option.some.inj hsame)
  exact ⟨rfl, rfl⟩

/-! ### Blanks -/

/-- A sign that ends a value is no blank. -/
theorem EndsValue.dropBlank_eq (hk : EndsValue k) : dropBlank k = k := by
  obtain ⟨x, ks, rfl, rfl | rfl⟩ := hk.exists_cons
  · exact dropBlank_cons_of_not_blank (by decide)
  · exact dropBlank_cons_of_not_blank (by decide)

/-- Outside of literals a blank is scanned like any other character. -/
theorem scanned_blank_cons {x : Char} (hx : isBlank x = true) :
    Scanned depth none (x :: cs) ↔ Scanned depth none cs := by
  obtain ⟨-, hq, ho, hc⟩ := not_sign_of_isBlank hx
  constructor
  · -- a blank is none of the signs, so only the rule for other characters applies
    intro h
    cases h with
    | quote h _ => exact absurd h hq
    | opening _ h _ => exact absurd h ho
    | closing _ _ _ h _ => exact absurd h hc
    | other _ _ _ _ h => exact h
  · refine .other hq ho ?_ hc
    rintro ⟨-, rfl | rfl⟩
    · exact absurd hx (by decide)
    · exact hc (Or.inl rfl)

/-- Blanks in front of a value make no difference. -/
theorem scanned_dropBlank_iff : Scanned depth none (dropBlank cs) ↔ Scanned depth none cs := by
  induction cs with
  | nil => rfl
  | cons x cs ih =>
    by_cases hx : isBlank x = true
    · rw [dropBlank_cons_of_blank hx, scanned_blank_cons hx, ih]
    · rw [dropBlank_cons_of_not_blank (eq_false_of_ne_true hx)]

theorem scanned_of_blanks {blanks : List Char} (hb : ∀ x ∈ blanks, isBlank x = true) :
    Scanned 0 none blanks := by
  have hnil : dropBlank blanks = [] := by
    rw [← List.append_nil blanks, dropBlank_append_of_blanks hb, dropBlank_nil]
  rw [← scanned_dropBlank_iff, hnil]
  exact .nil

/-- The value ends at the same sign without the blanks in front. -/
theorem EndsAt.dropBlank (h : EndsAt cs v k) : EndsAt (dropBlank cs) (dropBlank v) k := by
  obtain ⟨hscan, rfl, hk⟩ := endsAt_iff_scanned.mp h
  refine endsAt_iff_scanned.mpr ⟨scanned_dropBlank_iff.mpr hscan, ?_, hk⟩
  have hblank : List.dropWhile isBlank k = k := hk.dropBlank_eq
  unfold Text.dropBlank
  rw [List.dropWhile_append]
  -- if all of the value is dropped, the blanks in front of the sign are
  split
  next hv => rw [List.isEmpty_iff.mp hv, List.nil_append, hblank]
  next => rfl

/-- Behind blanks a value ends where it ends without them. -/
theorem EndsAt.of_dropBlank (h : EndsAt (Text.dropBlank cs) v k) : ∃ v', EndsAt cs v' k := by
  obtain ⟨hscan, hcs, hk⟩ := endsAt_iff_scanned.mp h
  obtain ⟨blanks, hb, hsplit⟩ := exists_blanks_dropBlank cs
  refine ⟨blanks ++ v, endsAt_iff_scanned.mpr ⟨?_, ?_, hk⟩⟩
  · rwa [← scanned_dropBlank_iff, dropBlank_append_of_blanks hb, scanned_dropBlank_iff]
  · rw [List.append_assoc, ← hcs]
    exact hsplit

/-! ### Literals -/

/-- **The rest of a literal is scanned**, together with whatever is scanned behind it; it ends in its closing
sign. -/
theorem scanned_append_of_closeLiteral? {q : Char} {taken rest tail : List Char}
    (hq : q = '"' ∨ q = apostrophe) (h : closeLiteral? q cs = some (taken, rest))
    (ht : Scanned depth none tail) :
    Scanned depth (some q) (taken ++ tail) ∧ taken.getLast? = some q := by
  have hesc : q ≠ '\\' := by
    rintro rfl
    exact absurd hq (by decide)
  induction cs using closeLiteral?.induct q generalizing taken with
  | case1 => cases h
  | case2 => cases h
  | case3 c cs ih =>
    rw [closeLiteral?] at h
    obtain ⟨⟨t, r⟩, hclose, he⟩ := Option.map_eq_some_iff.mp h
    obtain ⟨rfl, rfl⟩ := Prod.mk.inj he
    obtain ⟨hscan, hlast⟩ := ih hclose
    refine ⟨.escape hscan, ?_⟩
    rw [List.getLast?_cons, List.getLast?_cons, hlast]
    rfl
  | case4 cs h₁ h₂ =>
    rw [closeLiteral?_cons hesc, if_pos rfl] at h
    obtain ⟨rfl, rfl⟩ := Prod.mk.inj (Option.some.inj h)
    exact ⟨.inside hesc (by rwa [if_pos rfl]), rfl⟩
  | case5 c cs h₁ h₂ hcq ih =>
    -- a backslash would have taken the next character along
    have hc : c ≠ '\\' := by
      intro hc
      cases cs with
      | nil => exact h₁ hc rfl
      | cons d cs => exact h₂ d cs hc rfl
    rw [closeLiteral?_cons hc, if_neg hcq] at h
    obtain ⟨⟨t, r⟩, hclose, he⟩ := Option.map_eq_some_iff.mp h
    obtain ⟨rfl, rfl⟩ := Prod.mk.inj he
    obtain ⟨hscan, hlast⟩ := ih hclose
    refine ⟨.inside hc (by rwa [if_neg hcq]), ?_⟩
    rw [List.getLast?_cons, hlast]
    rfl

/-- So is a literal without an encoding letter. -/
theorem scanned_append_of_plainLiteral? {taken rest tail : List Char}
    (h : plainLiteral? cs = some (taken, rest)) (ht : Scanned depth none tail) :
    Scanned depth none (taken ++ tail) ∧ ∀ x ∈ taken.getLast?, isBlank x = false := by
  cases cs with
  | nil => cases h
  | cons c cs =>
    rw [plainLiteral?] at h
    split at h
    next hc =>
      obtain ⟨⟨t, r⟩, hclose, he⟩ := Option.map_eq_some_iff.mp h
      obtain ⟨rfl, rfl⟩ := Prod.mk.inj he
      -- the closing sign of the literal is its last character
      obtain ⟨hscan, hlast⟩ := scanned_append_of_closeLiteral? hc hclose ht
      refine ⟨.quote hc hscan, fun x hx => ?_⟩
      rw [List.getLast?_cons, hlast] at hx
      obtain rfl : c = x := Option.some.inj hx
      rcases hc with rfl | rfl
      · decide
      · decide
    next => cases h

/-- **A literal is scanned as a whole**, and has no blanks at its ends. -/
theorem scanned_append_of_literal? {lit rest tail : List Char} (h : literal? cs = some (lit, rest))
    (ht : Scanned depth none tail) : Scanned depth none (lit ++ tail) ∧ IsTrimmed lit := by
  have hfront : ∀ x ∈ lit.head?, isBlank x = false := by
    have hlit := (literal?_eq_some h).2 []
    rw [List.append_nil] at hlit
    obtain ⟨x, lit', rfl, hx⟩ := isBlank_of_literal? hlit
    intro y hy
    obtain rfl : x = y := Option.some.inj hy
    exact hx
  cases cs with
  | nil => cases h
  | cons c cs =>
    rw [literal?] at h
    split at h
    next hc =>
      obtain ⟨⟨t, r⟩, hplain, he⟩ := Option.map_eq_some_iff.mp h
      obtain ⟨rfl, rfl⟩ := Prod.mk.inj he
      obtain ⟨hscan, hlast⟩ := scanned_append_of_plainLiteral? hplain ht
      -- the encoding letter is a character like any other
      refine ⟨?_, hfront, fun x hx => ?_⟩
      · refine .other ?_ ?_ ?_ ?_ hscan <;> rcases hc with rfl | rfl | rfl | rfl <;> simp [apostrophe]
      · rw [List.getLast?_cons] at hx
        cases hl : t.getLast? with
        | none =>
          rw [hl] at hx
          exact hfront x hx
        | some y =>
          rw [hl] at hx
          exact hlast x (hl ▸ hx)
    next =>
      obtain ⟨hscan, hlast⟩ := scanned_append_of_plainLiteral? h ht
      exact ⟨hscan, hfront, hlast⟩

/-- **A value that is a literal with blanks behind it** ends in front of the sign that follows. -/
theorem endsAt_of_literal? {lit rest : List Char} (h : literal? cs = some (lit, rest))
    (hk : EndsValue (dropBlank rest)) : ∃ blanks, (∀ x ∈ blanks, isBlank x = true) ∧
      rest = blanks ++ dropBlank rest ∧ EndsAt cs (lit ++ blanks) (dropBlank rest) ∧ IsTrimmed lit := by
  obtain ⟨blanks, hb, hrest⟩ := exists_blanks_dropBlank rest
  obtain ⟨hscan, htrimmed⟩ := scanned_append_of_literal? h (scanned_of_blanks hb)
  refine ⟨blanks, hb, hrest, endsAt_iff_scanned.mpr ⟨hscan, ?_, hk⟩, htrimmed⟩
  rw [List.append_assoc, ← hrest]
  exact (literal?_eq_some h).1

end Text

end CppIndex
