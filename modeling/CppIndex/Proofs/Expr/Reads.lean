import CppIndex.Proofs.Cursor.Operator
import CppIndex.Proofs.Cursor.Reading
import CppIndex.Proofs.Expr.Step

/-!
# The reading relation

The readers of names, components, arguments and types call each other with a budget. Here the same
grammar is given once more as five relations without a budget, each between the cursor before, what is
read, and the cursor behind:

* `ReadsName`, one component of a path;
* `ReachesParts` and `ReachesArgs`, the components and the arguments passed so far, so that a list ends
  with what was read last;
* `ReadsFront`, a type without its suffixes, and `ReadsType`, a type.

The budget of a cursor is never exhausted, so the readers and the relations agree
(`Expr.read_eq_done_iff`, `Expr.readName_eq_done_iff`). Everything about what is read and what is read
back is proved of the relations.
-/

namespace CppIndex

namespace Expr

/-! ### The relations -/

/-- **Words and a prefix `const` before a base.** -/
def underWords (isConst : Bool) (words : List String) (base : Expr) : Expr :=
  if isConst then .const .before (withWords words base) else withWords words base

/-- A base with words in front of it, of which one `const` becomes the innermost wrapper. -/
def fronted (words : List String) (base : Expr) : Expr :=
  underWords (decide ("const" ∈ words)) (words.erase "const") base

/-- A type of built-in words. -/
def builtinFront (words : List String) : Expr :=
  underWords (decide ("const" ∈ words)) (splitBuiltin (words.erase "const")).1
    (.name (splitBuiltin (words.erase "const")).2)

/-- **Components end** at a sign that ends the argument they stand in, or where no further one
begins. -/
def PartsEnd (inArgs : Bool) (parts : List Expr) (c : Cursor) : Prop :=
  (inArgs && endsArgument c.skipBlank) = true ∨ nextPart? parts.isEmpty c.skipBlank = none

mutual

/-- **One component**: a word, or `operator` with a sign, an allocation or a type. -/
inductive ReadsName : Cursor → Expr → Cursor → Prop
  /-- Any word but `operator` is a name. -/
  | word {c c' : Cursor} {w : String} (hi : c.identifier? = some (w, c')) (hw : w ≠ "operator") :
    ReadsName c (.name w) c'
  /-- The name of an operator. -/
  | sign {c c₁ c' : Cursor} {s : String} (hi : c.identifier? = some ("operator", c₁))
    (hs : c₁.skipBlank.operatorSign? = some (s, c')) : ReadsName c (.name ("operator" ++ s)) c'
  /-- The name of an allocation operator. -/
  | allocation {c c₁ c' : Cursor} {s : String} (hi : c.identifier? = some ("operator", c₁))
    (hs : c₁.skipBlank.operatorSign? = none)
    (ha : c₁.skipBlank.allocation? = some (.done s c')) : ReadsName c (.name s) c'
  /-- A conversion. -/
  | cast {c c₁ c' : Cursor} {t : Expr} (hi : c.identifier? = some ("operator", c₁))
    (hs : c₁.skipBlank.operatorSign? = none) (ha : c₁.skipBlank.allocation? = none)
    (ht : ReadsType false c₁.skipBlank t c') : ReadsName c (.cast t) c'

/-- **Components passed**: those read between two cursors. -/
inductive ReachesParts : Bool → Cursor → List Expr → Cursor → Prop
  /-- None yet. -/
  | start {b : Bool} {c : Cursor} : ReachesParts b c [] c
  /-- One more. -/
  | part {b : Bool} {c c₁ c₂ c₃ : Cursor} {ps : List Expr} {p : Expr}
    (h : ReachesParts b c ps c₁) (he : (b && endsArgument c₁.skipBlank) = false)
    (hn : nextPart? ps.isEmpty c₁.skipBlank = some c₂) (hp : ReadsName c₂ p c₃)
    (hl : c₃.skipBlank.skip? "<" = none) : ReachesParts b c (ps ++ [p]) c₃
  /-- One more, with arguments for all of them. -/
  | template {b : Bool} {c c₁ c₂ c₃ c₄ c₅ c₆ : Cursor} {ps args : List Expr} {p : Expr}
    (h : ReachesParts b c ps c₁) (he : (b && endsArgument c₁.skipBlank) = false)
    (hn : nextPart? ps.isEmpty c₁.skipBlank = some c₂) (hp : ReadsName c₂ p c₃)
    (hl : c₃.skipBlank.skip? "<" = some c₄) (ha : ReachesArgs c₄ args c₅)
    (hg : c₅.skipBlank.skip? ">" = some c₆) :
    ReachesParts b c [.template (ofParts (ps ++ [p])) args] c₆

/-- **Arguments passed**: those read between two cursors. -/
inductive ReachesArgs : Cursor → List Expr → Cursor → Prop
  /-- None yet. -/
  | start {c : Cursor} : ReachesArgs c [] c
  /-- One more. -/
  | arg {c c₁ c₂ c₃ : Cursor} {as : List Expr} {a : Expr} (h : ReachesArgs c as c₁)
    (hg : c₁.skipBlank.skip? ">" = none) (hn : c₁.skipBlank.nextItem? as.isEmpty = some c₂)
    (ht : ReadsType true c₂ a c₃) : ReachesArgs c (as ++ [a]) c₃

/-- **A type without its suffixes.** -/
inductive ReadsFront : Bool → Cursor → Expr → Cursor → Prop
  /-- Components behind a leading `::`. -/
  | rooted {b : Bool} {c c₁ c₂ : Cursor} {ps : List Expr} (hc : c.skipBlank.skip? "::" = some c₁)
    (hp : ReachesParts b c₁ ps c₂) (he : PartsEnd b ps c₂) (hn : ps ≠ []) :
    ReadsFront b c (ofParts ps) c₂.skipBlank
  /-- A run of built-in words. -/
  | builtin {b : Bool} {c c₁ c₂ c₃ : Cursor} {ws next all next' : List String} {first : String}
    (hc : c.skipBlank.skip? "::" = none) (hw : leadingWords c.skipBlank = (ws, c₁))
    (hb : builtinStart? c₁ = some (first, next, c₂))
    (hr : c₂.repeated builtinStep (ws ++ [first], next) = ((all, next'), c₃)) :
    ReadsFront b c (builtinFront all) c₃
  /-- Components, with words in front of them. -/
  | parts {b : Bool} {c c₁ c₂ : Cursor} {ws : List String} {ps : List Expr}
    (hc : c.skipBlank.skip? "::" = none) (hw : leadingWords c.skipBlank = (ws, c₁))
    (hb : builtinStart? c₁ = none) (hp : ReachesParts b c₁ ps c₂) (he : PartsEnd b ps c₂)
    (hn : ps ≠ []) : ReadsFront b c (fronted ws (ofParts ps)) c₂.skipBlank

/-- **A type**: what stands before its suffixes, and as many suffixes as there are. -/
inductive ReadsType : Bool → Cursor → Expr → Cursor → Prop
  /-- The suffixes end where no further one stands. -/
  | intro {b : Bool} {c c₀ c₁ : Cursor} {e₀ e : Expr} (hf : ReadsFront b c e₀ c₀)
    (hs : Cursor.Passes suffixStep e₀ c₀ e c₁) (he : suffixStep e c₁ = none) :
    ReadsType b c e c₁.skipBlank

end

/-- **Induction on the components passed**: what holds before the first, and is kept by each further one
whether or not arguments follow it, holds of all of them. -/
theorem ReachesParts.induct {b : Bool} {c : Cursor}
    {motive : (ps : List Expr) → (c' : Cursor) → ReachesParts b c ps c' → Prop}
    (start : motive [] c .start)
    (part : ∀ {c₁ c₂ c₃ ps p} (h : ReachesParts b c ps c₁)
      (he : (b && endsArgument c₁.skipBlank) = false)
      (hn : nextPart? ps.isEmpty c₁.skipBlank = some c₂) (hp : ReadsName c₂ p c₃)
      (hl : c₃.skipBlank.skip? "<" = none), motive ps c₁ h →
        motive (ps ++ [p]) c₃ (.part h he hn hp hl))
    (template : ∀ {c₁ c₂ c₃ c₄ c₅ c₆ ps args p} (h : ReachesParts b c ps c₁)
      (he : (b && endsArgument c₁.skipBlank) = false)
      (hn : nextPart? ps.isEmpty c₁.skipBlank = some c₂) (hp : ReadsName c₂ p c₃)
      (hl : c₃.skipBlank.skip? "<" = some c₄) (ha : ReachesArgs c₄ args c₅)
      (hg : c₅.skipBlank.skip? ">" = some c₆), motive ps c₁ h →
        motive [.template (ofParts (ps ++ [p])) args] c₆ (.template h he hn hp hl ha hg))
    {ps : List Expr} {c' : Cursor} (h : ReachesParts b c ps c') : motive ps c' h := by
  -- what is inside a component or an argument is left to the relations it is in
  match h with
  | .start => exact start
  | .part h he hn hp hl => exact part h he hn hp hl (ReachesParts.induct start part template h)
  | .template h he hn hp hl ha hg =>
    exact template h he hn hp hl ha hg (ReachesParts.induct start part template h)

/-! ### What the readers read -/

/-- Suffixes are read one after the other. -/
theorem withSuffixes_eq_done {e e' : Expr} {c c' : Cursor} :
    withSuffixes e c = .done e' c' ↔ ∃ c₁, Cursor.Passes suffixStep e c e' c₁ ∧
      suffixStep e' c₁ = none ∧ c' = c₁.skipBlank := by
  obtain ⟨hp, hn⟩ := Cursor.passes_repeated progresses_suffixStep e c
  constructor
  · intro h
    simp only [withSuffixes, Reading.done.injEq] at h
    obtain ⟨rfl, rfl⟩ := h
    exact ⟨_, hp, hn, rfl⟩
  · rintro ⟨c₁, hp', hn', rfl⟩
    -- the passes and the last failure determine what the repetition gives
    have hr : c.repeated suffixStep e = (e', c₁) := by
      rw [hp'.repeated_eq progresses_suffixStep, Cursor.repeated_of_none hn']
    simp only [withSuffixes, hr]

theorem wrapped_eq_done {ws : List String} {base e : Expr} {c c' : Cursor} :
    wrapped ws base c = .done e c' ↔ ∃ c₁, Cursor.Passes suffixStep (fronted ws base) c e c₁ ∧
      suffixStep e c₁ = none ∧ c' = c₁.skipBlank := by
  have hw : wrapped ws base c = withSuffixes (fronted ws base) c := by
    simp only [wrapped, fronted, underWords, decide_eq_true_eq]
  rw [hw, withSuffixes_eq_done]

theorem builtin_eq_done {ws next : List String} {first : String} {e : Expr} {c c' : Cursor} :
    builtin ws first next c = .done e c' ↔ ∃ all next' c₀ c₁,
      c.repeated builtinStep (ws ++ [first], next) = ((all, next'), c₀) ∧
        Cursor.Passes suffixStep (builtinFront all) c₀ e c₁ ∧ suffixStep e c₁ = none ∧
          c' = c₁.skipBlank := by
  obtain ⟨⟨⟨all, next'⟩, c₀⟩, hr⟩ :
      ∃ r, c.repeated builtinStep (ws ++ [first], next) = r := ⟨_, rfl⟩
  -- the reader puts the words around the base itself, the same way
  have hb : builtin ws first next c = withSuffixes (builtinFront all) c₀ := by
    simp only [builtin, hr, builtinFront, underWords, decide_eq_true_eq]
  rw [hb, withSuffixes_eq_done, hr]
  constructor
  · rintro ⟨c₁, hp, hn, hc⟩
    exact ⟨all, next', c₀, c₁, rfl, hp, hn, hc⟩
  · rintro ⟨all', next'', c₀', c₁, he, hp, hn, hc⟩
    simp only [Prod.mk.injEq] at he
    obtain ⟨⟨rfl, rfl⟩, rfl⟩ := he
    exact ⟨c₁, hp, hn, hc⟩

theorem ofComponents_eq_done {ws : List String} {ps : List Expr} {e : Expr} {c c' : Cursor} :
    ofComponents ws ps c = .done e c' ↔ ps ≠ [] ∧ wrapped ws (ofParts ps) c = .done e c' := by
  cases ps with
  | nil => simp [ofComponents]
  | cons p ps => simp [ofComponents]

/-- **Whatever the readers read, the relations read**, whatever the budget. Components and arguments are
read on from those passed already, so what is said of them starts from what was passed. -/
structure ReadsUpTo (n : Nat) : Prop where
  /-- Reading a name. -/
  name : ∀ {c e c'}, nameUpTo n c = .done e c' → ReadsName c e c'
  /-- Reading components. -/
  parts : ∀ {b c₀ ps c ps' c'}, ReachesParts b c₀ ps c → partsUpTo n b ps c = .done ps' c' →
    ∃ c₁, ReachesParts b c₀ ps' c₁ ∧ PartsEnd b ps' c₁ ∧ c' = c₁.skipBlank
  /-- Reading arguments. -/
  args : ∀ {c₀ as c as' c'}, ReachesArgs c₀ as c → argsUpTo n as c = .done as' c' →
    ∃ c₁, ReachesArgs c₀ as' c₁ ∧ c₁.skipBlank.skip? ">" = some c'
  /-- Reading a type. -/
  type : ∀ {b c e c'}, typeUpTo n b c = .done e c' → ReadsType b c e c'

namespace ReadsUpTo

variable {n : Nat}

theorem name_succ (ih : ReadsUpTo n) {c c' : Cursor} {e : Expr}
    (h : nameUpTo (n + 1) c = .done e c') : ReadsName c e c' := by
  rw [nameUpTo] at h
  split at h
  next => cases h
  next w c₁ hi =>
    split at h
    next hw =>
      simp only [Reading.done.injEq] at h
      obtain ⟨rfl, rfl⟩ := h
      exact .word hi hw
    next hw =>
      obtain rfl : w = "operator" := Decidable.not_not.mp hw
      simp only [] at h
      -- Behind the word `operator` a sign, an allocation and a type are tried in this order.
      split at h
      next s c₂ hs =>
        simp only [Reading.done.injEq] at h
        obtain ⟨rfl, rfl⟩ := h
        exact .sign hi hs
      next hs =>
        split at h
        next r ha =>
          obtain ⟨s, rfl, rfl⟩ := Reading.map_eq_done.mp h
          exact .allocation hi hs ha
        next ha =>
          obtain ⟨t, ht, rfl⟩ := Reading.map_eq_done.mp h
          exact .cast hi hs ha (ih.type ht)

theorem parts_succ (ih : ReadsUpTo n) {b : Bool} {c₀ c c' : Cursor} {ps ps' : List Expr}
    (hp : ReachesParts b c₀ ps c) (h : partsUpTo (n + 1) b ps c = .done ps' c') :
    ∃ c₁, ReachesParts b c₀ ps' c₁ ∧ PartsEnd b ps' c₁ ∧ c' = c₁.skipBlank := by
  rw [partsUpTo] at h
  split at h
  next he =>
    simp only [Reading.done.injEq] at h
    obtain ⟨rfl, rfl⟩ := h
    exact ⟨c, hp, Or.inl he, rfl⟩
  next he =>
    replace he := Bool.not_eq_true _ ▸ he
    split at h
    next hn =>
      simp only [Reading.done.injEq] at h
      obtain ⟨rfl, rfl⟩ := h
      exact ⟨c, hp, Or.inr hn, rfl⟩
    next c₂ hn =>
      -- One component was read; the recursive call goes on from there, with arguments or without.
      obtain ⟨p, c₃, hname, h⟩ := Reading.andThen_eq_done.mp h
      split at h
      next hl => exact ih.parts (hp.part he hn (ih.name hname) hl) h
      next c₄ hl =>
        obtain ⟨args, c₆, hargs, h⟩ := Reading.andThen_eq_done.mp h
        obtain ⟨c₅, ha, hg⟩ := ih.args .start hargs
        exact ih.parts (hp.template he hn (ih.name hname) hl ha hg) h

theorem args_succ (ih : ReadsUpTo n) {c₀ c c' : Cursor} {as as' : List Expr}
    (ha : ReachesArgs c₀ as c) (h : argsUpTo (n + 1) as c = .done as' c') :
    ∃ c₁, ReachesArgs c₀ as' c₁ ∧ c₁.skipBlank.skip? ">" = some c' := by
  rw [argsUpTo] at h
  split at h
  next c₁ hg =>
    simp only [Reading.done.injEq] at h
    obtain ⟨rfl, rfl⟩ := h
    exact ⟨c, ha, hg⟩
  next hg =>
    split at h
    next => cases h
    next c₂ hn =>
      -- one more argument, and the list goes on behind it
      obtain ⟨a, c₃, ht, h⟩ := Reading.andThen_eq_done.mp h
      exact ih.args (ha.arg hg hn (ih.type ht)) h

/-- Components read to their end, then words and suffixes around them, are a type whose front they are. -/
private theorem type_of_components (ih : ReadsUpTo n) {b : Bool} {c c₁ c' : Cursor} {ws : List String}
    {e : Expr} (h : (partsUpTo n b [] c₁).andThen (ofComponents ws) = .done e c')
    (front : ∀ {ps c₂}, ReachesParts b c₁ ps c₂ → PartsEnd b ps c₂ → ps ≠ [] →
      ReadsFront b c (fronted ws (ofParts ps)) c₂.skipBlank) : ReadsType b c e c' := by
  obtain ⟨ps, c₂, hps, h⟩ := Reading.andThen_eq_done.mp h
  obtain ⟨c₃, hp, he, rfl⟩ := ih.parts .start hps
  obtain ⟨hn, h⟩ := ofComponents_eq_done.mp h
  obtain ⟨c₄, hpass, hstop, rfl⟩ := wrapped_eq_done.mp h
  exact .intro (front hp he hn) hpass hstop

theorem type_succ (ih : ReadsUpTo n) {b : Bool} {c c' : Cursor} {e : Expr}
    (h : typeUpTo (n + 1) b c = .done e c') : ReadsType b c e c' := by
  rw [typeUpTo] at h
  simp only [] at h
  -- a root `::`, a run of words, or components: the fronts of a reading
  split at h
  next c₁ hc => exact ih.type_of_components h (.rooted hc)
  next hc =>
    obtain ⟨⟨ws, c₁⟩, hw⟩ : ∃ r, leadingWords c.skipBlank = r := ⟨_, rfl⟩
    rw [hw] at h
    simp only [] at h
    split at h
    next first next c₂ hb =>
      obtain ⟨all, next', c₃, c₄, hr, hpass, hstop, rfl⟩ := builtin_eq_done.mp h
      exact .intro (.builtin hc hw hb hr) hpass hstop
    next hb => exact ih.type_of_components h (.parts hc hw hb)

end ReadsUpTo

theorem readsUpTo (n : Nat) : ReadsUpTo n := by
  induction n with
  | zero =>
    -- without a budget every reader fails
    exact ⟨nofun, fun _ => nofun, fun _ => nofun, nofun⟩
  | succ n ih => exact ⟨ih.name_succ, ih.parts_succ, ih.args_succ, ih.type_succ⟩

/-! ### The budget is enough -/

theorem partsUpTo_of_end {b : Bool} {ps : List Expr} {c : Cursor} (h : PartsEnd b ps c) (n : Nat) :
    partsUpTo (n + 1) b ps c = .done ps c.skipBlank := by
  rw [partsUpTo]
  by_cases he : (b && endsArgument c.skipBlank) = true
  · exact if_pos he
  · simp only [if_neg he, h.resolve_left he]

/-- A fixed text that is skipped is gone. -/
theorem length_rest_lt_of_skip? {word : String} {c c' : Cursor} (h : c.skip? word = some c')
    (hw : word.toList ≠ []) : c'.rest.length < c.rest.length := by
  rw [(Cursor.skip?_eq_some h).1, List.length_append]
  have := List.length_pos_iff.mpr hw
  omega

theorem length_rest_leadingWords_le {c c' : Cursor} {ws : List String}
    (h : leadingWords c = (ws, c')) : c'.rest.length ≤ c.rest.length := by
  have hp := (Cursor.passes_repeated progresses_leadingStep [] c).1
  simp only [leadingWords, Prod.mk.injEq] at h
  obtain ⟨-, rfl⟩ := h
  exact Nat.le_trans Cursor.length_rest_skipBlank_le
    (hp.length_rest_le progresses_leadingStep)

theorem length_rest_repeated_builtinStep_le {c c' : Cursor} {run run' : List String × List String}
    (h : c.repeated builtinStep run = (run', c')) : c'.rest.length ≤ c.rest.length := by
  have hp := (Cursor.passes_repeated progresses_builtinStep run c).1
  rw [h] at hp
  exact hp.length_rest_le progresses_builtinStep

theorem length_rest_le_of_nextPart? {first : Bool} {c c' : Cursor}
    (h : nextPart? first c = some c') : c'.rest.length ≤ c.rest.length := by
  rcases nextPart?_eq_some h with ⟨-, -, rfl⟩ | ⟨-, c₁, hc, rfl⟩
  · exact Nat.le_refl _
  · have hlt := length_rest_lt_of_skip? hc (by decide)
    have hle := Cursor.length_rest_skipBlank_le (c := c₁)
    omega

theorem length_rest_le_of_nextItem? {first : Bool} {c c' : Cursor}
    (h : c.nextItem? first = some c') : c'.rest.length ≤ c.rest.length := by
  rcases Cursor.nextItem?_eq_some h with ⟨-, rfl⟩ | ⟨-, c₁, hc, rfl⟩
  · exact Nat.le_refl _
  · have hlt := length_rest_lt_of_skip? hc (by decide)
    have hle := Cursor.length_rest_skipBlank_le (c := c₁)
    omega

theorem length_rest_lt_of_allocation? {c c' : Cursor} {s : String}
    (h : c.allocation? = some (.done s c')) : c'.rest.length < c.rest.length := by
  obtain ⟨a, isArray, c₁, -, hk, hb⟩ := Cursor.allocation?_eq_some h
  -- the keyword alone takes something
  have hlt : c₁.rest.length < c.rest.length := by
    obtain ⟨x, w, hx, -⟩ := a.isWord_keyword.exists_cons
    rw [(Cursor.keyword?_eq_some hk).1, hx]
    simp only [List.length_append, List.length_cons]
    omega
  cases isArray with
  | false =>
    obtain ⟨-, rfl⟩ : c₁.skipBlank.skip? "[" = none ∧ c' = c₁ := hb
    exact hlt
  | true =>
    obtain ⟨c₂, hopen, hclose⟩ := hb
    have h₁ := length_rest_lt_of_skip? hopen (by decide)
    have h₂ := length_rest_lt_of_skip? hclose (by decide)
    have h₃ := Cursor.length_rest_skipBlank_le (c := c₁)
    have h₄ := Cursor.length_rest_skipBlank_le (c := c₂)
    omega

mutual

/-- A name is read with every budget that the characters left ask for. -/
theorem ReadsName.upTo {c c' : Cursor} {e : Expr} (h : ReadsName c e c') :
    c'.rest.length < c.rest.length ∧
      ∀ n, 4 * c.rest.length + 2 ≤ n → nameUpTo n c = .done e c' := by
  have hsucc : ∀ n, 4 * c.rest.length + 2 ≤ n → ∃ m, n = m + 1 := fun n hn => ⟨n - 1, by omega⟩
  match h with
  | .word hi hw =>
    refine ⟨length_rest_lt_of_identifier? hi, fun n hn => ?_⟩
    obtain ⟨m, rfl⟩ := hsucc n hn
    simp only [nameUpTo, hi, if_pos hw]
  | @ReadsName.sign _ c₁ _ _ hi hs =>
    obtain ⟨taken, -, hr, -, -⟩ := Cursor.operatorSign?_eq_some hs
    have hlt := length_rest_lt_of_identifier? hi
    have hle := Cursor.length_rest_skipBlank_le (c := c₁)
    rw [hr, List.length_append] at hle
    refine ⟨by omega, fun n hn => ?_⟩
    obtain ⟨m, rfl⟩ := hsucc n hn
    simp [nameUpTo, hi, hs]
  | @ReadsName.allocation _ c₁ _ _ hi hs ha =>
    have hlt := length_rest_lt_of_identifier? hi
    have hle := Cursor.length_rest_skipBlank_le (c := c₁)
    have hlt' := length_rest_lt_of_allocation? ha
    refine ⟨by omega, fun n hn => ?_⟩
    obtain ⟨m, rfl⟩ := hsucc n hn
    simp [nameUpTo, hi, hs, ha, Reading.map]
  | @ReadsName.cast _ c₁ _ _ hi hs ha ht =>
    -- The word `operator` shortened the text, which leaves enough fuel for the type.
    obtain ⟨hlt', htype⟩ := ReadsType.upTo ht
    have hlt := length_rest_lt_of_identifier? hi
    have hle := Cursor.length_rest_skipBlank_le (c := c₁)
    refine ⟨by omega, fun n hn => ?_⟩
    obtain ⟨m, rfl⟩ := hsucc n hn
    simp [nameUpTo, hi, hs, ha, htype m (by omega), Reading.map]

/-- The reader of components passes those of the relation, with enough budget left. -/
theorem ReachesParts.upTo {b : Bool} {c c' : Cursor} {ps : List Expr} (h : ReachesParts b c ps c') :
    c'.rest.length ≤ c.rest.length ∧ (ps ≠ [] → c'.rest.length < c.rest.length) ∧
      ∀ n, 4 * c.rest.length + 3 ≤ n →
        ∃ m, 4 * c'.rest.length + 3 ≤ m ∧ partsUpTo n b [] c = partsUpTo m b ps c' := by
  match h with
  | .start => exact ⟨Nat.le_refl _, fun hn => absurd rfl hn, fun n hn => ⟨n, hn, rfl⟩⟩
  | @ReachesParts.part _ _ c₁ _ _ _ _ hp he hn hname hl =>
    obtain ⟨hle, -, hparts⟩ := ReachesParts.upTo hp
    obtain ⟨hlt, hupTo⟩ := ReadsName.upTo hname
    have hle₁ := Cursor.length_rest_skipBlank_le (c := c₁)
    have hle₂ := length_rest_le_of_nextPart? hn
    refine ⟨by omega, fun _ => by omega, fun n hn' => ?_⟩
    obtain ⟨m, hm, heq⟩ := hparts n hn'
    obtain ⟨k, rfl⟩ : ∃ k, m = k + 1 := ⟨m - 1, by omega⟩
    refine ⟨k, by omega, ?_⟩
    rw [heq, partsUpTo]
    simp [he, hn, hupTo k (by omega), hl]
  | @ReachesParts.template _ _ c₁ _ c₃ _ c₅ _ _ _ _ hp he hn hname hl ha hg =>
    obtain ⟨hle, -, hparts⟩ := ReachesParts.upTo hp
    obtain ⟨hlt, hupTo⟩ := ReadsName.upTo hname
    obtain ⟨hle', hargs⟩ := ReachesArgs.upTo ha
    have hle₁ := Cursor.length_rest_skipBlank_le (c := c₁)
    have hle₂ := length_rest_le_of_nextPart? hn
    have hle₃ := Cursor.length_rest_skipBlank_le (c := c₃)
    have hlt₄ := length_rest_lt_of_skip? hl (by decide)
    have hle₅ := Cursor.length_rest_skipBlank_le (c := c₅)
    have hlt₆ := length_rest_lt_of_skip? hg (by decide)
    refine ⟨by omega, fun _ => by omega, fun n hn' => ?_⟩
    obtain ⟨m, hm, heq⟩ := hparts n hn'
    obtain ⟨k, rfl⟩ : ∃ k, m = k + 1 := ⟨m - 1, by omega⟩
    -- The list of arguments ends with fuel to spare, and one more unit closes it.
    obtain ⟨l, hl', heqArgs⟩ := hargs k (by omega)
    obtain ⟨j, rfl⟩ : ∃ j, l = j + 1 := ⟨l - 1, by omega⟩
    refine ⟨k, by omega, ?_⟩
    rw [heq, partsUpTo]
    simp [he, hn, hupTo k (by omega), hl, heqArgs, argsUpTo, hg]

/-- The reader of arguments passes those of the relation, with enough budget left. -/
theorem ReachesArgs.upTo {c c' : Cursor} {as : List Expr} (h : ReachesArgs c as c') :
    c'.rest.length ≤ c.rest.length ∧ ∀ n, 4 * c.rest.length + 5 ≤ n →
      ∃ m, 4 * c'.rest.length + 5 ≤ m ∧ argsUpTo n [] c = argsUpTo m as c' := by
  match h with
  | .start => exact ⟨Nat.le_refl _, fun n hn => ⟨n, hn, rfl⟩⟩
  | @ReachesArgs.arg _ c₁ _ _ _ _ ha hg hn ht =>
    obtain ⟨hle, hargs⟩ := ReachesArgs.upTo ha
    obtain ⟨hlt, htype⟩ := ReadsType.upTo ht
    have hle₁ := Cursor.length_rest_skipBlank_le (c := c₁)
    have hle₂ := length_rest_le_of_nextItem? hn
    refine ⟨by omega, fun n hn' => ?_⟩
    -- Each argument costs one unit of fuel and at least one character.
    obtain ⟨m, hm, heq⟩ := hargs n hn'
    obtain ⟨k, rfl⟩ : ∃ k, m = k + 1 := ⟨m - 1, by omega⟩
    refine ⟨k, by omega, ?_⟩
    rw [heq, argsUpTo]
    simp [hg, hn, htype k (by omega)]

/-- Behind what stands before the suffixes, the reader of types reads the suffixes. -/
theorem ReadsFront.upTo {b : Bool} {c c' : Cursor} {e : Expr} (h : ReadsFront b c e c') :
    c'.rest.length < c.rest.length ∧
      ∀ n, 4 * c.rest.length + 4 ≤ n → typeUpTo n b c = withSuffixes e c' := by
  have hsucc : ∀ n, 4 * c.rest.length + 4 ≤ n → ∃ m, n = m + 1 := fun n hn => ⟨n - 1, by omega⟩
  have hle := Cursor.length_rest_skipBlank_le (c := c)
  match h with
  | @ReadsFront.rooted _ _ _ c₂ _ hc hp he hn =>
    obtain ⟨-, hlt, hparts⟩ := ReachesParts.upTo hp
    have hlt₁ := length_rest_lt_of_skip? hc (by decide)
    have hle₂ := Cursor.length_rest_skipBlank_le (c := c₂)
    have hlt := hlt hn
    refine ⟨by omega, fun n hn' => ?_⟩
    obtain ⟨m, rfl⟩ := hsucc n hn'
    obtain ⟨k, hk, heq⟩ := hparts m (by omega)
    obtain ⟨j, rfl⟩ : ∃ j, k = j + 1 := ⟨k - 1, by omega⟩
    -- What is left of the fuel is enough to see that the components end.
    rw [partsUpTo_of_end he] at heq
    simp [typeUpTo, hc, heq, ofComponents, hn, wrapped, withWords]
  | @ReadsFront.builtin _ _ _ c₂ _ _ _ _ _ _ hc hw hb hr =>
    have hle₁ := length_rest_leadingWords_le hw
    have hlt := length_rest_lt_of_identifier? (builtinStart?_eq_some hb).2.2
    have hle₂ := length_rest_repeated_builtinStep_le hr
    refine ⟨by omega, fun n hn' => ?_⟩
    obtain ⟨m, rfl⟩ := hsucc n hn'
    simp [typeUpTo, hc, hw, hb, builtin, hr, builtinFront, underWords]
  | @ReadsFront.parts _ _ _ c₂ _ _ hc hw hb hp he hn =>
    obtain ⟨-, hlt, hparts⟩ := ReachesParts.upTo hp
    have hle₁ := length_rest_leadingWords_le hw
    have hle₂ := Cursor.length_rest_skipBlank_le (c := c₂)
    have hlt := hlt hn
    refine ⟨by omega, fun n hn' => ?_⟩
    obtain ⟨m, rfl⟩ := hsucc n hn'
    obtain ⟨k, hk, heq⟩ := hparts m (by omega)
    obtain ⟨j, rfl⟩ : ∃ j, k = j + 1 := ⟨k - 1, by omega⟩
    rw [partsUpTo_of_end he] at heq
    simp [typeUpTo, hc, hw, hb, heq, ofComponents, hn, wrapped, fronted, underWords]

/-- A type is read with every budget that the characters left ask for. -/
theorem ReadsType.upTo {b : Bool} {c c' : Cursor} {e : Expr} (h : ReadsType b c e c') :
    c'.rest.length < c.rest.length ∧
      ∀ n, 4 * c.rest.length + 4 ≤ n → typeUpTo n b c = .done e c' := by
  match h with
  | @ReadsType.intro _ _ _ c₁ _ _ hf hs he =>
    obtain ⟨hlt, htype⟩ := ReadsFront.upTo hf
    -- suffixes give nothing back, so the front already moved on
    have hle := hs.length_rest_le progresses_suffixStep
    have hle₁ := Cursor.length_rest_skipBlank_le (c := c₁)
    refine ⟨by omega, fun n hn => ?_⟩
    rw [htype n hn]
    exact withSuffixes_eq_done.mpr ⟨c₁, hs, he, rfl⟩

end

/-- **The reader of types reads what the relation reads.** -/
theorem read_eq_done_iff {c c' : Cursor} {e : Expr} :
    read c = .done e c' ↔ ReadsType false c e c' :=
  ⟨(readsUpTo _).type, fun h => h.upTo.2 _ (Nat.le_refl _)⟩

/-- **The reader of names reads what the relation reads.** -/
theorem readName_eq_done_iff {c c' : Cursor} {e : Expr} :
    readName c = .done e c' ↔ ReadsName c e c' :=
  ⟨(readsUpTo _).name, fun h => h.upTo.2 _ (by unfold Cursor.budget; omega)⟩

/-! ### Blanks in front -/

/-- Every reading begins by skipping blanks, so only the place behind them matters. -/
theorem ReadsFront.of_skipBlank_eq {b : Bool} {c d c' : Cursor} {e : Expr} (h : ReadsFront b c e c')
    (hd : d.skipBlank = c.skipBlank) : ReadsFront b d e c' := by
  cases h with
  | rooted hc hp he hn => exact .rooted (by rwa [hd]) hp he hn
  | builtin hc hw hb hr => exact .builtin (by rwa [hd]) (by rwa [hd]) hb hr
  | parts hc hw hb hp he hn => exact .parts (by rwa [hd]) (by rwa [hd]) hb hp he hn

/-- **Blanks in front of a type** make no difference. -/
theorem readsType_skipBlank_iff {b : Bool} {c c' : Cursor} {e : Expr} :
    ReadsType b c.skipBlank e c' ↔ ReadsType b c e c' := by
  constructor
  · rintro ⟨hf, hs, he⟩
    exact .intro (hf.of_skipBlank_eq Cursor.skipBlank_skipBlank.symm) hs he
  · rintro ⟨hf, hs, he⟩
    exact .intro (hf.of_skipBlank_eq Cursor.skipBlank_skipBlank) hs he

end Expr

end CppIndex
