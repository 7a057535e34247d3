import CppIndex.Expr.Anchor
import CppIndex.Proofs.Expr.Ahead
import CppIndex.Proofs.Expr.Plain

/-!
# The side of a `const`

`const T` and `T const` are different trees, but they are built at the same place: both wrap the base `T`, in
front of all suffixes, whether the `const` was found among the words before the base or was the first suffix
behind it. So behind the same base and under the same suffixes (`Expr.suffixed`) the two trees differ in the side
of one `const` and in nothing else, and as an anchor does not show the side, they have the same anchor
(`Expr.IsBase.parse_const_sides`).

A base is a plain primary expression or a run of built-in words, with words in front of it (`Expr.IsBase`). With
suffixes behind it, the first is a plain type in its canonical text, so it is read back. The second may stand in
any layout, and its suffixes are read one by one (`Expr.parse_run_suffixes`).
-/

namespace CppIndex

namespace Expr

/-! ### Suffixes -/

/-- **A suffix** of a type. -/
inductive Suffix
  /-- A pointer to it. -/
  | pointer
  /-- A reference to it. -/
  | reference
  /-- A constant of it. -/
  | const
  /-- An array of it, with its bound. -/
  | array (bound : String)

namespace Suffix

/-- How it is written. -/
def text : Suffix → String
  | .pointer => "*"
  | .reference => "&"
  | .const => " const"
  | .array bound => "[" ++ bound ++ "]"

/-- What it makes of a type. -/
def apply : Suffix → Expr → Expr
  | .pointer, e => .pointer e
  | .reference, e => .reference e
  | .const, e => .const .after e
  | .array bound, e => .array e (some bound)

/-- A **plain** suffix: if there is a bound, it is that of a plain array. -/
def IsPlain : Suffix → Prop
  | .array bound => IsPlainSize bound
  | _ => True

end Suffix

/-- **A type under suffixes**, the first of them the innermost. -/
def suffixed (e : Expr) (ss : List Suffix) : Expr := ss.foldl (fun e s => s.apply e) e

/-- The suffixes one behind the other. -/
def suffixText (ss : List Suffix) : String := String.join (ss.map Suffix.text)

variable {e : Expr} {s : Suffix} {ss : List Suffix} {c : Cursor} {k : List Char}

@[simp] theorem suffixed_nil : suffixed e [] = e := rfl

@[simp] theorem suffixed_cons : suffixed e (s :: ss) = suffixed (s.apply e) ss := rfl

@[simp] theorem toList_suffixText_nil : (suffixText []).toList = [] := rfl

@[simp] theorem toList_suffixText_cons :
    (suffixText (s :: ss)).toList = s.text.toList ++ (suffixText ss).toList := by
  simp [suffixText]

theorem suffixText_cons : suffixText (s :: ss) = s.text ++ suffixText ss :=
  String.toList_injective (by simp)

/-- Behind the canonical text of a type a suffix is written as it is. -/
theorem Suffix.render_apply (s : Suffix) (e : Expr) : (s.apply e).render = e.render ++ s.text := by
  cases s with
  | pointer => rfl
  | reference => rfl
  | const => rfl
  | array bound =>
    show e.render ++ "[" ++ bound ++ "]" = e.render ++ ("[" ++ bound ++ "]")
    simp only [String.append_assoc]

/-- **The canonical text** of a type under suffixes. -/
theorem render_suffixed (e : Expr) (ss : List Suffix) :
    (suffixed e ss).render = e.render ++ suffixText ss := by
  induction ss generalizing e with
  | nil => simp [suffixText]
  | cons s ss ih => rw [suffixed_cons, ih, s.render_apply, suffixText_cons, String.append_assoc]

/-- A plain suffix keeps a type plain. -/
theorem isPlainType_apply (h : IsPlainType e) (hs : s.IsPlain) : IsPlainType (s.apply e) := by
  cases s with
  | pointer => exact h.pointer
  | reference => exact h.reference
  | const => exact h.const
  | array bound => exact h.array hs

theorem isPlainType_suffixed (h : IsPlainType e) (hs : ∀ s ∈ ss, s.IsPlain) : IsPlainType (suffixed e ss) := by
  induction ss generalizing e with
  | nil => exact h
  | cons s ss ih =>
    exact ih (isPlainType_apply h (hs s (List.mem_cons_self ..))) fun t ht => hs t (List.mem_cons_of_mem _ ht)

/-- **A plain type in its canonical text** is parsed with the suffixes behind it. -/
theorem IsPlainType.parse_suffixed (h : IsPlainType e) (hs : ∀ s ∈ ss, s.IsPlain) :
    parse (e.render ++ suffixText ss) = .ok (suffixed e ss) := by
  have hplain : IsPlainType (suffixed e ss) := isPlainType_suffixed h hs
  rw [← render_suffixed]
  exact parse_render_of_typeStands hplain.isType (hplain.typeStands clear_nil)

/-- **Suffixes add to the anchor** and look at nothing else. -/
theorem anchor_suffixed_congr {f : Expr} (h : e.anchor = f.anchor) :
    (suffixed e ss).anchor = (suffixed f ss).anchor := by
  induction ss generalizing e f with
  | nil => exact h
  | cons s ss ih =>
    refine ih ?_
    cases s <;> simp only [Suffix.apply, anchor, h]

/-! ### Suffixes behind a run -/

theorem Suffix.closes (s : Suffix) : Text.Closes s.text.toList := by
  cases s with
  | pointer => exact ⟨[], '*', rfl, by decide⟩
  | reference => exact ⟨[], '&', rfl, by decide⟩
  | const => exact ⟨" cons".toList, 't', rfl, by decide⟩
  | array bound => exact ⟨"[".toList ++ bound.toList, ']', by simp [text], by decide⟩

/-- No blank stands behind suffixes. -/
theorem trimEnd_suffixText (ss : List Suffix) : Text.trimEnd (suffixText ss).toList = (suffixText ss).toList := by
  have hcloses : ∀ {cs}, Text.Closes cs → Text.trimEnd cs = cs := by
    rintro _ ⟨front, x, rfl, hx⟩
    simp [Text.trimEnd, hx]
  induction ss with
  | nil => rfl
  | cons s ss ih =>
    -- the end is that of the other suffixes, or of this one if it is the last
    rw [toList_suffixText_cons, Text.trimEnd_append_eq, ih]
    split
    next hnil => rw [hcloses s.closes, hnil, List.append_nil]
    next => rfl

/-- Behind the blank in front of it stands the word. -/
theorem Suffix.dropBlank_const (k : List Char) :
    Text.dropBlank (Suffix.const.text.toList ++ k) = "const".toList ++ k := by
  have hblank : ∀ x ∈ ("const".toList ++ k).head?, Text.isBlank x = false := fun x hx => by
    obtain rfl : 'c' = x := Option.some.inj hx
    decide
  exact Text.dropBlank_space_cons hblank

/-- Suffixes begin with a seam. -/
theorem isSeam_suffixText (ss : List Suffix) : Text.IsSeam (suffixText ss).toList.head? := by
  -- every suffix begins with a sign or a blank
  cases ss with
  | nil => exact Text.isSeam_none
  | cons s ss =>
    rw [toList_suffixText_cons]
    cases s with
    | pointer => exact isSeam_sign (x := '*') (by simp)
    | reference => exact isSeam_sign (x := '&') (by simp)
    | const => exact isSeam_sign (x := ' ') (by simp)
    | array bound =>
      simp only [Suffix.text, String.toList_append]
      exact isSeam_sign (x := '[') (by simp)

/-- **No suffix lengthens a run**: the first word is `const`, or there is none. -/
theorem firstWord_suffixText (ss : List Suffix) :
    Text.firstWord (suffixText ss).toList = [] ∨ Text.firstWord (suffixText ss).toList = "const".toList := by
  have hsign : ∀ x k, Text.isBlank x = false → Text.isWordChar x = false → Text.firstWord (x :: k) = [] :=
    fun x k hb hx => by simp [Text.firstWord, Text.dropBlank_cons_of_not_blank hb, hx]
  cases ss with
  | nil => exact Or.inl rfl
  | cons s ss =>
    rw [toList_suffixText_cons]
    -- Of the suffixes only `const` begins with a word.
    cases s with
    | pointer => exact Or.inl (hsign '*' _ (by decide) (by decide))
    | reference => exact Or.inl (hsign '&' _ (by decide) (by decide))
    | const =>
      exact Or.inr (Text.firstWord_eq (Suffix.dropBlank_const _) (by decide)
        (isSeam_suffixText ss).any_isWordChar)
    | array bound =>
      simp only [Suffix.text, String.toList_append]
      exact Or.inl (hsign '[' _ (by decide) (by decide))

theorem firstWord_suffixText_not_mem (ss : List Suffix) (last : String) :
    String.ofList (Text.firstWord (suffixText ss).toList) ∉ followers last := by
  intro hm
  -- what may follow is a word, and none that stands before a type
  rcases firstWord_suffixText ss with h | h
  · rw [h] at hm
    exact absurd (isWord_of_mem_followers hm) (by decide)
  · rw [h, String.ofList_toList] at hm
    exact not_mem_frontWords_of_mem_followers hm (by decide)

/-- Behind what was read no words are ahead. -/
theorem Ahead.of_moved (c : Cursor) (taken k : List Char) : Ahead [] k (c.moved taken k) :=
  ⟨[], rfl, rfl, Or.inr (by simp)⟩

/-- **One suffix** is read, and the others are left. -/
theorem Ahead.exists_suffix (h : Ahead [] (s.text.toList ++ k) c) (hs : s.IsPlain) (hk : Text.IsSeam k.head?) :
    ∃ c', suffixStep e c = some (s.apply e, c') ∧ Ahead [] k c' := by
  have hrest := h.rest_skipBlank_nil
  cases s with
  | pointer => exact ⟨_, suffixStep_pointer hrest, .of_moved ..⟩
  | reference => exact ⟨_, suffixStep_reference hrest, .of_moved ..⟩
  | const =>
    -- the blank in front of it makes a seam
    have hskip : c.skipBlank.rest = "const".toList ++ k := hrest.trans (Suffix.dropBlank_const k)
    have hp := h.isSeam_skipBlank ⟨' ', rfl, by decide⟩
    exact ⟨_, suffixStep_const (Cursor.keyword?_of_seams hskip hp hk), .of_moved ..⟩
  | array bound =>
    have htext : (Suffix.array bound).text.toList ++ k = '[' :: bound.toList ++ ']' :: k := by simp [Suffix.text]
    have hread : Text.arrayBound? ((Suffix.array bound).text.toList ++ k) = some (some bound, k) := by
      rw [htext, Text.arrayBound?_bound (IsPlainSize.isBound hs), String.ofList_toList]
    have hskip : c.skipBlank.rest = (Suffix.array bound).text.toList ++ k := by
      rw [hrest, htext]
      exact Text.dropBlank_cons_of_not_blank (by decide)
    exact ⟨_, suffixStep_array hskip (by simp [Suffix.text]) hread, .of_moved ..⟩

/-- **All suffixes** are read one by one. -/
theorem Ahead.passes_suffixes (h : Ahead [] (suffixText ss).toList c) (hs : ∀ s ∈ ss, s.IsPlain) :
    ∃ c', Cursor.Passes suffixStep e c (suffixed e ss) c' ∧ Ahead [] [] c' := by
  -- over the suffixes, the innermost first
  induction ss generalizing e c with
  | nil => exact ⟨c, .start, h⟩
  | cons s ss ih =>
    rw [toList_suffixText_cons] at h
    obtain ⟨c₁, hstep, h₁⟩ := h.exists_suffix (e := e) (hs s (List.mem_cons_self ..)) (isSeam_suffixText ss)
    obtain ⟨c', hpass, h'⟩ := ih (e := s.apply e) h₁ fun t ht => hs t (List.mem_cons_of_mem _ ht)
    exact ⟨c', (Cursor.Passes.start.step hstep).trans hpass, h'⟩

variable {text : String} {ws run : List String}

/-- **A run is parsed with the suffixes behind it**, whatever its layout. -/
theorem parse_run_suffixes (hw : ∀ w ∈ ws, w ∈ frontWords) (hr : IsRun run)
    (ht : Text.chunks text.toList = (ws ++ run).map String.toList) (hs : ∀ s ∈ ss, s.IsPlain) :
    parse (text ++ suffixText ss) = .ok (suffixed (builtinFront (ws ++ run)) ss) := by
  -- the run ends where the suffixes begin, since no suffix begins with a word of a run
  obtain ⟨c, hfront, hahead⟩ := exists_readsFront_ofText hw hr (List.getLast?_eq_some_getLast hr.ne_nil) ht
    (isSeam_suffixText ss).any_isWordChar (firstWord_suffixText_not_mem ss _)
  rw [trimEnd_suffixText] at hahead
  obtain ⟨c', hpass, hend⟩ := hahead.passes_suffixes hs
  have hrest : c'.skipBlank.rest = [] := hend.rest_skipBlank_nil
  refine (parse_eq_ok_iff_of_readsFront hfront).mpr ⟨c', hpass, suffixStep_eq_none ?_, hrest⟩
  rw [hrest]
  exact clear_nil.suffix

/-! ### Bases -/

/-- **A base**, as it is written and as it is read: a plain primary expression or a run of built-in words, perhaps
with words other than `const` in front of it. -/
inductive IsBase : String → Expr → Prop
  /-- A plain primary expression. -/
  | primary {ws : List String} {p : Expr} (hw : ∀ w ∈ ws, w ∈ modifierWords) (hp : IsPlainPrimary p) :
    IsBase (withWords ws p).render (withWords ws p)
  /-- A run, in any layout. -/
  | run {text : String} {ws run : List String} (hw : ∀ w ∈ ws, w ∈ modifierWords) (hr : IsRun run)
    (ht : Text.chunks text.toList = (ws ++ run).map String.toList) : IsBase text (builtinFront (ws ++ run))

/-- **A base is parsed with the suffixes behind it.** -/
theorem IsBase.parse_suffixed (h : IsBase text e) (hs : ∀ s ∈ ss, s.IsPlain) :
    parse (text ++ suffixText ss) = .ok (suffixed e ss) := by
  cases h with
  | primary hw hp => exact (@IsPlainType.front false _ _ hw hp).parse_suffixed hs
  | @run _ ws run hw hr ht =>
    have hfront : ∀ w ∈ ws, w ∈ frontWords := @mem_frontWords_of_modifierWords false ws hw
    exact parse_run_suffixes hfront hr ht hs

/-- A `const` in front of a run, as the reader puts it there. -/
theorem builtinFront_const (hw : ∀ w ∈ ws, w ∈ modifierWords) (hr : IsRun run) :
    builtinFront ("const" :: ws ++ run) = .const .before (builtinFront (ws ++ run)) := by
  obtain ⟨⟨others, base⟩, hsplit⟩ : ∃ r, splitBuiltin run = r := ⟨_, rfl⟩
  have hconst : "const" ∉ ws := fun hm => absurd (hw _ hm) (by decide)
  have hfront : ∀ w ∈ "const" :: ws, w ∈ frontWords := @mem_frontWords_of_modifierWords true ws hw
  rw [builtinFront_append hfront hr hsplit,
    builtinFront_append (fun w hm => hfront w (List.mem_cons_of_mem _ hm)) hr hsplit]
  simp [underWords, hconst, List.erase_of_not_mem]

/-- **With a `const` in front** it is parsed as the constant, with the suffixes around that. -/
theorem IsBase.parse_const (h : IsBase text e) (hs : ∀ s ∈ ss, s.IsPlain) :
    parse ("const " ++ text ++ suffixText ss) = .ok (suffixed (.const .before e) ss) := by
  -- in front of a plain primary expression the `const` belongs to a plain type; in front of a run it is
  -- one more word
  cases h with
  | primary hw hp => exact (@IsPlainType.front true _ _ hw hp).parse_suffixed hs
  | @run _ ws run hw hr ht =>
    have hfront : ∀ w ∈ "const" :: ws, w ∈ frontWords := @mem_frontWords_of_modifierWords true ws hw
    rw [← builtinFront_const hw hr]
    refine parse_run_suffixes hfront hr ?_ hs
    rw [show ("const " ++ text).toList = "const".toList ++ ' ' :: text.toList by simp,
      Text.chunks_append_cons _ (by decide), ht]
    rfl

/-- **`const` on either side of a base** is parsed, whatever plain suffixes follow. The two trees differ in the side
of the innermost constant alone, and their anchors are the same. -/
theorem IsBase.parse_const_sides (h : IsBase text e) (hs : ∀ s ∈ ss, s.IsPlain) :
    parse ("const " ++ text ++ suffixText ss) = .ok (suffixed (.const .before e) ss) ∧
      parse (text ++ " const" ++ suffixText ss) = .ok (suffixed (.const .after e) ss) ∧
      (suffixed (.const .before e) ss).anchor = (suffixed (.const .after e) ss).anchor := by
  refine ⟨h.parse_const hs, ?_, anchor_suffixed_congr ?_⟩
  · -- behind the base the `const` is one more suffix, the innermost
    have hbehind : parse (text ++ suffixText (.const :: ss)) = .ok (suffixed e (.const :: ss)) :=
      h.parse_suffixed (List.forall_mem_cons.mpr ⟨trivial, hs⟩)
    rwa [suffixText_cons, ← String.append_assoc] at hbehind
  · -- the anchor leaves out on which side a `const` stands
    rw [anchor_const, anchor_const]

/-- `const` in front of `volatile unsigned  long int` and behind it, with `* const[4]&` behind both. -/
theorem parse_const_sides_long :
    IsBase "volatile unsigned  long int" (.modified ["volatile", "unsigned"] (.name "long")) ∧
      suffixText [.pointer, .const, .array "4", .reference] = "* const[4]&" ∧ IsPlainSize "4" ∧
      parse ("const " ++ "volatile unsigned  long int" ++ "* const[4]&") = .ok (.reference (.array (.const .after
        (.pointer (.const .before (.modified ["volatile", "unsigned"] (.name "long"))))) (some "4"))) ∧
      parse ("volatile unsigned  long int" ++ " const" ++ "* const[4]&") = .ok (.reference (.array (.const .after
        (.pointer (.const .after (.modified ["volatile", "unsigned"] (.name "long"))))) (some "4"))) := by
  have hrun : IsRun ["unsigned", "long", "int"] := .intro (by decide) (.cons (by decide) (.cons (by decide) .nil))
  have hbase : IsBase "volatile unsigned  long int" (.modified ["volatile", "unsigned"] (.name "long")) :=
    @IsBase.run _ ["volatile"] _ (by decide) hrun (by decide +kernel)
  have htext : suffixText [.pointer, .const, .array "4", .reference] = "* const[4]&" := by decide
  have hsize : IsPlainSize "4" := ⟨by decide, ⟨by decide, by decide⟩, by decide⟩
  have hplain : ∀ s ∈ [Suffix.pointer, .const, .array "4", .reference], s.IsPlain := by
    simpa [Suffix.IsPlain] using hsize
  have hsides := hbase.parse_const_sides hplain
  rw [htext] at hsides
  exact ⟨hbase, htext, hsize, hsides.1, hsides.2.1⟩

end Expr

end CppIndex
