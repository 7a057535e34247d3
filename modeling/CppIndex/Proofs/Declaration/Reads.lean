import CppIndex.Proofs.Expr.Reads
import CppIndex.Proofs.Text.Default

/-!
# The reading relation of declarations

What the readers of parameters and declarations read, as relations over the relations of types and names.
A declaration of each kind has one or two forms: a type name with or without the type it stands for, a
member with or without a value, a function with or without a return type. `Declaration.read_eq_done_iff`
says that the readers read exactly these forms, and `Declaration.parse_eq_ok_iff` that a text is parsed
as what is read from its beginning to its end.
-/

namespace CppIndex

/-! ### Parameters -/

namespace Param

/-- Whether the cursor stands behind a type that has no name. -/
def AtUnnamed (c : Cursor) : Prop :=
  c.current? = some '=' ∨ c.current? = some ',' ∨ c.current? = some ')'

/-- **A parameter**: three points, or a type with or without a name. -/
inductive Reads : Cursor → Param → Cursor → Prop
  /-- Three points. -/
  | ellipsis {c c' : Cursor} (h : c.skip? "..." = some c') :
    Reads c ⟨none, some (.name "..."), none⟩ c'
  /-- A type. -/
  | unnamed {c c₁ c' : Cursor} {t : Expr} {v : Option String} (h : c.skip? "..." = none)
    (ht : Expr.ReadsType false c t c₁) (hu : AtUnnamed c₁.skipBlank)
    (hd : readDefault? c₁.skipBlank = .done v c') : Reads c ⟨some t, none, v⟩ c'
  /-- A type and a name. -/
  | named {c c₁ c₂ c' : Cursor} {t n : Expr} {v : Option String} (h : c.skip? "..." = none)
    (ht : Expr.ReadsType false c t c₁) (hu : ¬ AtUnnamed c₁.skipBlank)
    (hn : Expr.ReadsName c₁.skipBlank n c₂) (hd : readDefault? c₂.skipBlank = .done v c') :
    Reads c ⟨some t, some n, v⟩ c'

/-- The reader of parameters reads what the relation reads. -/
theorem read_eq_done_iff {c c' : Cursor} {p : Param} : read c = .done p c' ↔ Reads c p c' := by
  constructor
  · intro h
    unfold read at h
    -- three points are a parameter of their own; else what stands behind the type decides whether it
    -- has a name
    split at h
    next c₁ he =>
      simp only [Reading.done.injEq] at h
      obtain ⟨rfl, rfl⟩ := h
      exact .ellipsis he
    next he =>
      obtain ⟨t, c₁, ht, h⟩ := Reading.andThen_eq_done.mp h
      rw [Expr.read_eq_done_iff] at ht
      simp only [] at h
      split at h
      next hu =>
        obtain ⟨v, hd, rfl⟩ := Reading.map_eq_done.mp h
        exact .unnamed he ht hu hd
      next hu =>
        obtain ⟨n, c₂, hn, h⟩ := Reading.andThen_eq_done.mp h
        obtain ⟨v, hd, rfl⟩ := Reading.map_eq_done.mp h
        exact .named he ht hu (Expr.readName_eq_done_iff.mp hn) hd
  · intro h
    unfold read
    -- the same branches, taken by what the relation says of them
    cases h with
    | ellipsis he => rw [he]
    | unnamed he ht hu hd =>
      rw [he]
      refine Reading.andThen_eq_done.mpr ⟨_, _, Expr.read_eq_done_iff.mpr ht, ?_⟩
      exact (if_pos hu).trans (Reading.map_eq_done.mpr ⟨_, hd, rfl⟩)
    | named he ht hu hn hd =>
      rw [he]
      refine Reading.andThen_eq_done.mpr ⟨_, _, Expr.read_eq_done_iff.mpr ht, ?_⟩
      refine (if_neg hu).trans (Reading.andThen_eq_done.mpr
        ⟨_, _, Expr.readName_eq_done_iff.mpr hn, Reading.map_eq_done.mpr ⟨_, hd, rfl⟩⟩)

/-- **Parameters passed**: those read between two cursors. -/
inductive Reaches : Cursor → List Param → Cursor → Prop
  /-- None yet. -/
  | start {c : Cursor} : Reaches c [] c
  /-- One more. -/
  | param {c c₁ c₂ c₃ : Cursor} {ps : List Param} {p : Param} (h : Reaches c ps c₁)
    (hc : c₁.skipBlank.skip? ")" = none) (hn : c₁.skipBlank.nextItem? ps.isEmpty = some c₂)
    (hp : Reads c₂ p c₃) : Reaches c (ps ++ [p]) c₃

/-- **In the place of a default value** one was read behind an equals sign, or nothing was. -/
theorem readDefault?_eq_done {c c' : Cursor} {v : Option String} (h : readDefault? c = .done v c') :
    (∃ c₁ s, c.skip? "=" = some c₁ ∧ readDefault c₁ = .done s c' ∧ v = some s) ∨
      (v = none ∧ c' = c) := by
  unfold readDefault? at h
  split at h
  next c₁ he =>
    obtain ⟨s, hs, rfl⟩ := Reading.map_eq_done.mp h
    exact Or.inl ⟨c₁, s, he, hs, rfl⟩
  next =>
    simp only [Reading.done.injEq] at h
    exact Or.inr ⟨h.1.symm, h.2.symm⟩

/-- What is read behind an equals sign makes what is left no longer. -/
theorem length_rest_le_of_readDefault? {c c' : Cursor} {v : Option String}
    (h : readDefault? c = .done v c') : c'.rest.length ≤ c.rest.length := by
  rcases readDefault?_eq_done h with ⟨c₁, s, he, hs, -⟩ | ⟨-, rfl⟩
  · obtain ⟨taken, hrest, -⟩ := exists_rest_of_readDefault hs
    have hlen := congrArg List.length hrest
    have hlt := Expr.length_rest_lt_of_skip? he (by decide)
    -- the sign takes a character, and the value takes no more than is left behind it
    have hskip := Cursor.length_rest_skipBlank_le (c := c₁)
    rw [List.length_append] at hlen
    omega
  · exact Nat.le_refl _

/-- A parameter takes at least one character. -/
theorem Reads.length_rest_lt {c c' : Cursor} {p : Param} (h : Reads c p c') :
    c'.rest.length < c.rest.length := by
  -- the type takes at least a character, and nothing behind it gives one back
  cases h with
  | ellipsis he => exact Expr.length_rest_lt_of_skip? he (by decide)
  | unnamed _ ht _ hd =>
    have hlt := ht.upTo.1
    have hle := Nat.le_trans (length_rest_le_of_readDefault? hd) Cursor.length_rest_skipBlank_le
    omega
  | named _ ht _ hn hd =>
    have hlt := ht.upTo.1
    have hlt' := Nat.lt_of_lt_of_le hn.upTo.1 Cursor.length_rest_skipBlank_le
    have hle := Nat.le_trans (length_rest_le_of_readDefault? hd) Cursor.length_rest_skipBlank_le
    omega

theorem reaches_of_readAllUpTo (n : Nat) {c₀ c c' : Cursor} {ps ps' : List Param}
    (h : Reaches c₀ ps c) (hr : readAllUpTo n ps c = .done ps' c') :
    ∃ c₁, Reaches c₀ ps' c₁ ∧ c₁.skipBlank.skip? ")" = some c' := by
  -- on the bound; what was passed so far is carried along as a reading of its own
  induction n generalizing ps c with
  | zero => cases hr
  | succ n ih =>
    rw [readAllUpTo] at hr
    split at hr
    next => cases hr
    next =>
      split at hr
      next c₁ hc =>
        simp only [Reading.done.injEq] at hr
        obtain ⟨rfl, rfl⟩ := hr
        exact ⟨c, h, hc⟩
      next hc =>
        split at hr
        next => cases hr
        next c₁ hn =>
          obtain ⟨p, c₂, hp, hr⟩ := Reading.andThen_eq_done.mp hr
          -- The parameter that was read joins those before it.
          exact ih (h.param hc hn (read_eq_done_iff.mp hp)) hr

/-- The bound on the number of parameters is enough. -/
theorem Reaches.readAllUpTo {c c' : Cursor} {ps : List Param} (h : Reaches c ps c') :
    ∀ n, c.rest.length + 1 ≤ n → ∃ m, c'.rest.length + 1 ≤ m ∧
      Param.readAllUpTo n [] c = Param.readAllUpTo m ps c' := by
  -- over the parameters: each takes at least a character, so the bound outlasts what is left
  induction h with
  | start => exact fun n hn => ⟨n, hn, rfl⟩
  | @param c₁ c₂ c₃ ps p _ hc hn hp ih =>
    intro n hle
    obtain ⟨m, hm, heq⟩ := ih n hle
    obtain ⟨k, rfl⟩ : ∃ k, m = k + 1 := ⟨m - 1, by omega⟩
    have hlt := Nat.lt_of_lt_of_le hp.length_rest_lt (Expr.length_rest_le_of_nextItem? hn)
    have hle₁ := Cursor.length_rest_skipBlank_le (c := c₁)
    -- a parameter was read, so the text has not ended
    have hend : c₁.skipBlank.atEnd = false := by
      rw [Cursor.atEnd, List.isEmpty_eq_false_iff]
      exact List.length_pos_iff.mp (by omega)
    refine ⟨k, by omega, ?_⟩
    rw [heq, Param.readAllUpTo]
    simp [hend, hc, hn, read_eq_done_iff.mpr hp]

/-- **The reader of parameters** passes those of the relation and stops behind the parenthesis. -/
theorem readAll_eq_done_iff {c c' : Cursor} {ps : List Param} : readAll c = .done ps c' ↔
    ∃ c₁, Reaches c ps c₁ ∧ c₁.skipBlank.skip? ")" = some c' := by
  constructor
  · exact reaches_of_readAllUpTo _ .start
  · rintro ⟨c₁, h, hc⟩
    obtain ⟨m, hm, heq⟩ := h.readAllUpTo (c.rest.length + 1) (Nat.le_refl _)
    obtain ⟨k, rfl⟩ : ∃ k, m = k + 1 := ⟨m - 1, by omega⟩
    -- the closing parenthesis is there, so the text has not ended
    have hend : c₁.skipBlank.atEnd = false := by
      rw [Cursor.atEnd, List.isEmpty_eq_false_iff, (Cursor.skip?_eq_some hc).1]
      simp
    rw [readAll, heq, Param.readAllUpTo]
    simp [hend, hc]

end Param

/-! ### Declarations -/

namespace Declaration

/-- **The signature** of a function: its parameters and the words behind them. -/
inductive ReadsSignature : Cursor → List Param → Bool → Bool → Cursor → Prop
  /-- The parentheses, what stands between them, and what stands behind. -/
  | intro {c c₁ c₂ c₃ c₄ c' : Cursor} {ps : List Param} {isConst isPure : Bool}
    (ho : c.skipBlank.skip? "(" = some c₁) (hp : Param.Reaches c₁ ps c₂)
    (hc : c₂.skipBlank.skip? ")" = some c₃) (hk : readConst c₃ = (isConst, c₄))
    (hz : readPure c₄ = .done isPure c') : ReadsSignature c ps isConst isPure c'

/-- **A declaration** of a kind. -/
inductive Reads : ObjectKind → Cursor → Declaration → Cursor → Prop
  /-- A class. -/
  | classType {c c₁ c' : Cursor} {v : Visibility} {s : Bool} {name : Expr}
    (hl : readLeading c = (v, s, c₁)) (hn : Expr.ReadsType false c₁ name c') :
    Reads .classType c ⟨name, v, s, .classType⟩ c'
  /-- A bare type name. -/
  | typeName {c c₁ c₂ : Cursor} {v : Visibility} {s : Bool} {name : Expr}
    (hl : readLeading c = (v, s, c₁)) (hn : Expr.ReadsType false c₁ name c₂)
    (he : c₂.skipBlank.atEnd = true) :
    Reads .typeName c ⟨name, v, s, .typeName none⟩ c₂.skipBlank
  /-- An alias. -/
  | typeAlias {c c₁ c₂ c' : Cursor} {v : Visibility} {s : Bool} {target name : Expr}
    (hl : readLeading c = (v, s, c₁)) (ht : Expr.ReadsType false c₁ target c₂)
    (he : c₂.skipBlank.atEnd = false) (hn : Expr.ReadsType false c₂.skipBlank name c') :
    Reads .typeName c ⟨name, v, s, .typeName (some target)⟩ c'
  /-- A member without a value. -/
  | member {c c₁ c₂ c₃ : Cursor} {v : Visibility} {s : Bool} {type name : Expr}
    (hl : readLeading c = (v, s, c₁)) (ht : Expr.ReadsType false c₁ type c₂)
    (hn : Expr.ReadsType false c₂ name c₃) (he : c₃.skipBlank.skip? "=" = none) :
    Reads .member c ⟨name, v, s, .member type none⟩ c₃.skipBlank
  /-- A member with a value. -/
  | valued {c c₁ c₂ c₃ c₄ : Cursor} {v : Visibility} {s : Bool} {type name : Expr}
    (hl : readLeading c = (v, s, c₁)) (ht : Expr.ReadsType false c₁ type c₂)
    (hn : Expr.ReadsType false c₂ name c₃) (he : c₃.skipBlank.skip? "=" = some c₄) :
    Reads .member c ⟨name, v, s, .member type (some (String.ofList (Text.trim c₄.rest)))⟩ c₄.toEnd
  /-- A function without a return type. -/
  | procedure {c c₁ c₂ c₃ c' : Cursor} {v : Visibility} {s e i isConst isPure : Bool} {name : Expr}
    {ps : List Param} (hl : readLeading c = (v, s, c₁))
    (hw : c₁.repeated functionWordStep (false, false) = ((e, i), c₂))
    (hn : Expr.ReadsType false c₂ name c₃) (hp : c₃.skipBlank.current? = some '(')
    (hs : ReadsSignature c₃.skipBlank ps isConst isPure c') :
    Reads .function c ⟨name, v, s, .function ⟨e, i, none, ps, isConst, isPure⟩⟩ c'
  /-- A function with a return type. -/
  | function {c c₁ c₂ c₃ c₄ c' : Cursor} {v : Visibility} {s e i isConst isPure : Bool}
    {returns name : Expr} {ps : List Param} (hl : readLeading c = (v, s, c₁))
    (hw : c₁.repeated functionWordStep (false, false) = ((e, i), c₂))
    (hr : Expr.ReadsType false c₂ returns c₃) (hp : c₃.skipBlank.current? ≠ some '(')
    (hn : Expr.ReadsType false c₃.skipBlank name c₄)
    (hs : ReadsSignature c₄ ps isConst isPure c') :
    Reads .function c ⟨name, v, s, .function ⟨e, i, some returns, ps, isConst, isPure⟩⟩ c'

variable {c c' : Cursor} {d : Declaration}

theorem readSignature_eq_done_iff {name : Expr} {v : Visibility} {s e i : Bool}
    {returns : Option Expr} : readSignature name v s e i returns c = .done d c' ↔
      ∃ ps isConst isPure, ReadsSignature c ps isConst isPure c' ∧
        d = ⟨name, v, s, .function ⟨e, i, returns, ps, isConst, isPure⟩⟩ := by
  constructor
  · intro h
    unfold readSignature at h
    simp only [] at h
    split at h
    next => cases h
    next c₁ ho =>
      obtain ⟨ps, c₃, hps, h⟩ := Reading.andThen_eq_done.mp h
      obtain ⟨c₂, hp, hc⟩ := Param.readAll_eq_done_iff.mp hps
      obtain ⟨isPure, hz, rfl⟩ := Reading.map_eq_done.mp h
      exact ⟨ps, _, isPure, .intro ho hp hc rfl hz, rfl⟩
  · rintro ⟨ps, isConst, isPure, h, rfl⟩
    -- the four parts of a signature, in the order of the text
    obtain ⟨ho, hp, hc, hk, hz⟩ := h
    unfold readSignature
    simp only [ho]
    refine Reading.andThen_eq_done.mpr ⟨_, _, Param.readAll_eq_done_iff.mpr ⟨_, hp, hc⟩, ?_⟩
    rw [hk]
    exact Reading.map_eq_done.mpr ⟨isPure, hz, rfl⟩

/-- What the readers of declarations read, the relation reads. -/
theorem reads_of_read {kind : ObjectKind} (h : read kind c = .done d c') : Reads kind c d c' := by
  obtain ⟨⟨v, s, c₁⟩, hl⟩ : ∃ r, readLeading c = r := ⟨_, rfl⟩
  cases kind with
  | classType =>
    simp only [read, readClass, hl] at h
    obtain ⟨name, hn, rfl⟩ := Reading.map_eq_done.mp h
    exact .classType hl (Expr.read_eq_done_iff.mp hn)
  | typeName =>
    simp only [read, readTypeName, hl] at h
    obtain ⟨first, c₂, hf, h⟩ := Reading.andThen_eq_done.mp h
    -- One type is the name itself, two are the type and the name.
    split at h
    next he =>
      simp only [Reading.done.injEq] at h
      obtain ⟨rfl, rfl⟩ := h
      exact .typeName hl (Expr.read_eq_done_iff.mp hf) he
    next he =>
      obtain ⟨name, hn, rfl⟩ := Reading.map_eq_done.mp h
      exact .typeAlias hl (Expr.read_eq_done_iff.mp hf) (Bool.not_eq_true _ ▸ he)
        (Expr.read_eq_done_iff.mp hn)
  | member =>
    simp only [read, readMember, hl] at h
    obtain ⟨type, c₂, ht, h⟩ := Reading.andThen_eq_done.mp h
    obtain ⟨name, c₃, hn, h⟩ := Reading.andThen_eq_done.mp h
    -- an equals sign makes the rest of the text the value
    split at h
    next c₄ he =>
      simp only [Reading.done.injEq] at h
      obtain ⟨rfl, rfl⟩ := h
      exact .valued hl (Expr.read_eq_done_iff.mp ht) (Expr.read_eq_done_iff.mp hn) he
    next he =>
      simp only [Reading.done.injEq] at h
      obtain ⟨rfl, rfl⟩ := h
      exact .member hl (Expr.read_eq_done_iff.mp ht) (Expr.read_eq_done_iff.mp hn) he
  | function =>
    obtain ⟨⟨⟨e, i⟩, c₂⟩, hw⟩ :
        ∃ r, c₁.repeated functionWordStep (false, false) = r := ⟨_, rfl⟩
    simp only [read, readFunction, hl, hw] at h
    obtain ⟨first, c₃, hf, h⟩ := Reading.andThen_eq_done.mp h
    -- a parenthesis behind the first type makes it the name; else it is returned and the name follows
    split at h
    next hp =>
      obtain ⟨ps, isConst, isPure, hs, rfl⟩ := readSignature_eq_done_iff.mp h
      exact .procedure hl hw (Expr.read_eq_done_iff.mp hf) hp hs
    next hp =>
      obtain ⟨name, c₄, hn, h⟩ := Reading.andThen_eq_done.mp h
      obtain ⟨ps, isConst, isPure, hs, rfl⟩ := readSignature_eq_done_iff.mp h
      exact .function hl hw (Expr.read_eq_done_iff.mp hf) hp (Expr.read_eq_done_iff.mp hn) hs

/-- What the relation reads, the readers of declarations read. -/
theorem Reads.read_eq_done {kind : ObjectKind} (h : Reads kind c d c') :
    Declaration.read kind c = .done d c' := by
  cases h with
  | classType hl hn =>
    simp only [read, readClass, hl]
    exact Reading.map_eq_done.mpr ⟨_, Expr.read_eq_done_iff.mpr hn, rfl⟩
  | typeName hl hn he =>
    simp only [read, readTypeName, hl]
    refine Reading.andThen_eq_done.mpr ⟨_, _, Expr.read_eq_done_iff.mpr hn, ?_⟩
    exact if_pos he
  | typeAlias hl ht he hn =>
    simp only [read, readTypeName, hl]
    refine Reading.andThen_eq_done.mpr ⟨_, _, Expr.read_eq_done_iff.mpr ht, ?_⟩
    -- the text has not ended, so the first type is the target
    rw [if_neg (by rw [he]; decide)]
    exact Reading.map_eq_done.mpr ⟨_, Expr.read_eq_done_iff.mpr hn, rfl⟩
  | member hl ht hn he =>
    simp only [read, readMember, hl]
    refine Reading.andThen_eq_done.mpr ⟨_, _, Expr.read_eq_done_iff.mpr ht, ?_⟩
    refine Reading.andThen_eq_done.mpr ⟨_, _, Expr.read_eq_done_iff.mpr hn, ?_⟩
    rw [he]
  | valued hl ht hn he =>
    simp only [read, readMember, hl]
    refine Reading.andThen_eq_done.mpr ⟨_, _, Expr.read_eq_done_iff.mpr ht, ?_⟩
    refine Reading.andThen_eq_done.mpr ⟨_, _, Expr.read_eq_done_iff.mpr hn, ?_⟩
    rw [he]
  | procedure hl hw hn hp hs =>
    simp only [read, readFunction, hl, hw]
    refine Reading.andThen_eq_done.mpr ⟨_, _, Expr.read_eq_done_iff.mpr hn, ?_⟩
    -- the parenthesis is there, so the first type is the name
    rw [if_pos hp]
    exact readSignature_eq_done_iff.mpr ⟨_, _, _, hs, rfl⟩
  | function hl hw hr hp hn hs =>
    simp only [read, readFunction, hl, hw]
    refine Reading.andThen_eq_done.mpr ⟨_, _, Expr.read_eq_done_iff.mpr hr, ?_⟩
    rw [if_neg hp]
    refine Reading.andThen_eq_done.mpr ⟨_, _, Expr.read_eq_done_iff.mpr hn, ?_⟩
    exact readSignature_eq_done_iff.mpr ⟨_, _, _, hs, rfl⟩

/-- **The readers of declarations read what the relation reads.** -/
theorem read_eq_done_iff {kind : ObjectKind} : read kind c = .done d c' ↔ Reads kind c d c' :=
  ⟨reads_of_read, Reads.read_eq_done⟩

/-- **A text is parsed** as the declaration that is read from its beginning to its end. -/
theorem parse_eq_ok_iff {kind : ObjectKind} {text : String} : parse kind text = .ok d ↔
    ∃ c, Reads kind (.ofText text) d c ∧ Text.dropBlank c.rest = [] := by
  rw [parse, Reading.complete_eq_ok_iff]
  simp only [read_eq_done_iff]

end Declaration

end CppIndex
