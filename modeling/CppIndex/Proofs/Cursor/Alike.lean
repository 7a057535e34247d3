import CppIndex.Proofs.Cursor.Operator
import CppIndex.Proofs.Cursor.Repeated
import CppIndex.Proofs.Text.Bound
import CppIndex.Proofs.Text.Layout

/-!
# Cursors that differ in layout

Two cursors are **alike** if nothing but the layout of their texts tells them apart: what is left to read is the
same when it is squeezed, and so is the character before the cursor (`Cursor.Alike`). Every recogniser answers
alike cursors in the same way, and if it finds something, it leaves them alike; in this form
(`Option.Rel Cursor.AlikeWith`) the recognisers are put together to repetitions (`Cursor.Alike.repeated`) and to
readings (`Reading.Alike.andThen`).

An array bound is the one lexeme that tells blanks apart, because it has to end on the line on which it begins.
So no bracket may be opened in what is left.
-/

namespace CppIndex

namespace Text

variable {cs ds : List Char}

/-- A leading `~` shows in the squeezed text. -/
theorem splitTilde_eq_of_squeeze (h : squeeze cs = squeeze ds) :
    (splitTilde cs).1 = (splitTilde ds).1 ∧ squeeze (splitTilde cs).2 = squeeze (splitTilde ds).2 := by
  have htilde : ∀ {cs ds : List Char}, squeeze ('~' :: cs) = squeeze ds →
      ∃ es, ds = '~' :: es ∧ squeeze cs = squeeze es := exists_cons_of_squeeze (by decide)
  have hnone : ∀ {cs : List Char}, (∀ es, cs ≠ '~' :: es) → splitTilde cs = ([], cs) := by
    intro cs hcs
    unfold splitTilde
    split
    next es => exact absurd rfl (hcs es)
    next => rfl
  -- A tilde is no blank, so squeezing keeps it: either both texts begin with one or neither does.
  by_cases hc : ∃ es, cs = '~' :: es
  · obtain ⟨es, rfl⟩ := hc
    obtain ⟨fs, rfl, hfs⟩ := htilde h
    exact ⟨rfl, hfs⟩
  · have hd : ∀ es, ds ≠ '~' :: es := by
      rintro es rfl
      obtain ⟨fs, rfl, -⟩ := htilde h.symm
      exact hc ⟨fs, rfl⟩
    rw [hnone (not_exists.mp hc), hnone hd]
    exact ⟨rfl, h⟩

/-- A pair of signs shows in the squeezed text. -/
theorem emptyPair?_of_squeeze {a b : Char} {taken rest : List Char} (ha : isBlank a = false)
    (hb : isBlank b = false) (h : squeeze cs = squeeze ds)
    (hp : emptyPair? a b cs = some (taken, rest)) : ∃ taken' rest',
      emptyPair? a b ds = some (taken', rest') ∧ taken.getLast? = taken'.getLast? ∧
        squeeze rest = squeeze rest' := by
  obtain ⟨blanks, hblanks, rfl, hcs⟩ := emptyPair?_eq_some hp
  rw [List.cons_append, List.cons_append, List.append_assoc] at hcs
  rw [hcs] at h
  obtain ⟨es, rfl, hes⟩ := exists_cons_of_squeeze ha h
  have hdrop : dropBlank (blanks ++ ([b] ++ rest)) = b :: rest := by
    rw [dropBlank, List.dropWhile_append_of_pos hblanks]
    exact dropBlank_cons_of_not_blank hb
  have halike := squeeze_dropBlank hes
  rw [hdrop] at halike
  obtain ⟨fs, hfs, hrest⟩ := exists_cons_of_squeeze hb halike
  -- The blanks between the two signs may differ, so only the last character taken is compared.
  refine ⟨a :: es.takeWhile isBlank ++ [b], fs, ?_,
    List.getLast?_concat.trans List.getLast?_concat.symm, hrest⟩
  simp [emptyPair?, hfs]

/-- **An operator sign** shows in the squeezed text. -/
theorem operatorSign?_of_squeeze {s : String} {taken rest : List Char} (h : squeeze cs = squeeze ds)
    (hs : operatorSign? cs = some (s, taken, rest)) : ∃ taken' rest',
      operatorSign? ds = some (s, taken', rest') ∧ taken.getLast? = taken'.getLast? ∧
        squeeze rest = squeeze rest' := by
  have hblank : isBlank '[' = false ∧ isBlank ']' = false ∧ isBlank '(' = false ∧
      isBlank ')' = false := by decide
  obtain ⟨hopen, hclose, hopen', hclose'⟩ := hblank
  have hread := hs
  unfold operatorSign? at hs
  split at hs
  next t r hp =>
    simp only [Option.some.injEq, Prod.mk.injEq] at hs
    obtain ⟨rfl, rfl, rfl⟩ := hs
    obtain ⟨taken', rest', hp', hlast, hrest⟩ := emptyPair?_of_squeeze hopen hclose h hp
    exact ⟨taken', rest', by simp [operatorSign?, hp'], hlast, hrest⟩
  next hnone =>
    split at hs
    next t r hp =>
      simp only [Option.some.injEq, Prod.mk.injEq] at hs
      obtain ⟨rfl, rfl, rfl⟩ := hs
      obtain ⟨taken', rest', hp', hlast, hrest⟩ := emptyPair?_of_squeeze hopen' hclose' h hp
      have hnone' : emptyPair? '[' ']' ds = none := by
        cases hd : emptyPair? '[' ']' ds with
        | none => rfl
        | some r =>
          obtain ⟨_, _, hc, -⟩ := emptyPair?_of_squeeze hopen hclose h.symm hd
          rw [hnone] at hc
          cases hc
      exact ⟨taken', rest', by simp [operatorSign?, hnone', hp'], hlast, hrest⟩
    next =>
      obtain ⟨t, ht, hf⟩ := List.exists_of_findSome?_eq_some hs
      obtain ⟨r, hr, he⟩ := Option.map_eq_some_iff.mp hf
      simp only [Prod.mk.injEq] at he
      obtain ⟨rfl, rfl, rfl⟩ := he
      obtain rfl := behind?_eq_some_iff.mp hr
      have hsolid : ∀ t ∈ operatorSigns, ∀ x ∈ t.toList, isBlank x = false := by decide +kernel
      obtain ⟨l, rfl, hrest⟩ := exists_append_of_squeeze (hsolid t ht) h
      refine ⟨_, l, (operatorSign?_append_iff ht).mpr fun u hu htu hprefix => ?_, rfl, hrest⟩
      -- a longer sign in the one text is one in the other
      obtain ⟨k, hk⟩ := hprefix
      rw [← hk] at h
      obtain ⟨k', hk', -⟩ := exists_append_of_squeeze (hsolid u hu) h.symm
      exact (operatorSign?_append_iff ht).mp hread u hu htu ⟨k', hk'.symm⟩

end Text

namespace Cursor

open Text (squeeze squeezed)

/-- **Alike cursors**: in front of them is the same text and behind them the same character, apart from layout,
and no bracket is opened in front of them. -/
structure Alike (c d : Cursor) : Prop where
  /-- The character before the cursor. -/
  previous : c.previous?.map squeezed = d.previous?.map squeezed
  /-- What is left. -/
  rest : squeeze c.rest = squeeze d.rest
  /-- No bracket is opened. -/
  brackets : '[' ∉ c.rest ∧ '[' ∉ d.rest

/-- The same value with alike cursors. -/
def AlikeWith {σ : Type} (p q : σ × Cursor) : Prop := p.1 = q.1 ∧ p.2.Alike q.2

namespace Alike

variable {c d : Cursor}

theorem symm (h : c.Alike d) : d.Alike c := ⟨h.previous.symm, h.rest.symm, h.brackets.symm⟩

/-- A recogniser that finds the same at alike cursors finds nothing at alike cursors. -/
theorem rel {α : Type} {f : Cursor → Option α} {R : α → α → Prop} (h : c.Alike d)
    (hf : ∀ {c d : Cursor} {a : α}, c.Alike d → f c = some a → ∃ b, f d = some b ∧ R a b) :
    Option.Rel R (f c) (f d) := by
  cases hc : f c with
  | some a =>
    obtain ⟨b, hb, hr⟩ := hf h hc
    rw [hb]
    exact .some hr
  | none =>
    -- if `d` found something, so would `c`, because being alike is symmetric
    cases hd : f d with
    | none => exact .none
    | some b =>
      obtain ⟨a, ha, -⟩ := hf h.symm hd
      rw [hc] at ha
      cases ha

/-- What is found at one of two alike cursors is found at the other. -/
theorem exists_of_rel {α : Type} {R : α → α → Prop} {o o' : Option α} {a : α} (h : Option.Rel R o o')
    (ha : o = some a) : ∃ b, o' = some b ∧ R a b := by
  subst ha
  cases h with
  | some hr => exact ⟨_, rfl, hr⟩

/-- **Over texts that end alike**, alike cursors come to alike cursors. -/
theorem moved_of_getLast? {v w k l : List Char} (h : c.Alike d) (hc : c.rest = v ++ k)
    (hd : d.rest = w ++ l) (hlast : v.getLast?.map squeezed = w.getLast?.map squeezed)
    (hrest : squeeze k = squeeze l) : (c.moved v k).Alike (d.moved w l) := by
  -- the character before the new place is the last one taken, if any was
  have hprevious : ∀ (c : Cursor) (v k : List Char),
      (c.moved v k).previous? = v.getLast?.or c.previous? := fun c v k => by
    rw [previous?, moved, List.head?_append, List.head?_reverse]
    rfl
  refine ⟨?_, hrest, ?_, ?_⟩
  · -- what was taken decides, and if nothing was, the character before it
    rw [hprevious, hprevious]
    cases hv : v.getLast? <;> cases hw : w.getLast? <;> simp_all [h.previous]
  · exact fun hm => h.brackets.1 (hc ▸ List.mem_append_right v hm)
  · exact fun hm => h.brackets.2 (hd ▸ List.mem_append_right w hm)

/-- Over the same text. -/
theorem moved {w k l : List Char} (h : c.Alike d) (hc : c.rest = w ++ k) (hd : d.rest = w ++ l)
    (hrest : squeeze k = squeeze l) : (c.moved w k).Alike (d.moved w l) :=
  h.moved_of_getLast? hc hd rfl hrest

/-! ### Characters -/

theorem head? (h : c.Alike d) : c.rest.head?.map squeezed = d.rest.head?.map squeezed := by
  rw [← Text.head?_squeeze, h.rest, Text.head?_squeeze]

/-- The same solid character stands at alike cursors. -/
theorem current?_eq_some_iff {x : Char} (hx : Text.isBlank x = false) (h : c.Alike d) :
    c.current? = some x ↔ d.current? = some x := by
  rw [current?, current?, ← Text.map_squeezed_eq_some hx, h.head?, Text.map_squeezed_eq_some hx]

theorem atEnd_eq (h : c.Alike d) : c.atEnd = d.atEnd := by
  rw [atEnd, atEnd, Bool.eq_iff_iff, List.isEmpty_iff, List.isEmpty_iff, ← Text.squeeze_eq_nil_iff,
    h.rest, Text.squeeze_eq_nil_iff]

/-! ### Blanks -/

theorem skipBlank (h : c.Alike d) : c.skipBlank.Alike d.skipBlank := by
  have hlast : ∀ cs : List Char, (cs.takeWhile Text.isBlank).getLast?.map squeezed =
      if cs.head?.any Text.isBlank then some ' ' else none := by
    intro cs
    have hblank : ∀ x ∈ (cs.takeWhile Text.isBlank).getLast?, squeezed x = ' ' := fun x hx =>
      if_pos (List.all_eq_true.mp List.all_takeWhile x (List.mem_of_getLast? hx))
    cases cs with
    | nil => rfl
    | cons y cs =>
      cases hy : Text.isBlank y with
      | false => simp [hy]
      | true =>
        obtain ⟨x, hx⟩ : ∃ x, ((y :: cs).takeWhile Text.isBlank).getLast? = some x :=
          ⟨_, List.getLast?_eq_some_getLast (by simp [hy])⟩
        rw [hx, Option.map_some, hblank x hx]
        simp [hy]
  -- however many blanks are skipped, the last of them is a blank
  refine h.moved_of_getLast? List.takeWhile_append_dropWhile.symm
    List.takeWhile_append_dropWhile.symm ?_ (Text.squeeze_dropBlank h.rest)
  rw [hlast, hlast, Text.any_eq_of_map_squeezed (fun x hx => by rw [hx]; rfl) h.head?]

/-! ### Fixed texts and words -/

theorem skip? (h : c.Alike d) (word : String) (hw : ∀ x ∈ word.toList, Text.isBlank x = false) :
    Option.Rel Alike (c.skip? word) (d.skip? word) := by
  -- one direction is enough; a word without blanks survives the squeezing as it is
  refine h.rel (f := fun c => c.skip? word) fun {c d c'} h hs => ?_
  obtain ⟨hrest, hc'⟩ := skip?_eq_some hs
  have halike := h.rest
  rw [hrest] at halike
  obtain ⟨l, hl, hsqueeze⟩ := Text.exists_append_of_squeeze hw halike
  refine ⟨_, skip?_of_append hl, ?_⟩
  rw [hc']
  exact h.moved hrest hl hsqueeze

end Alike

/-- A keyword is a fixed text with no keyword character beside it. -/
theorem keyword?_eq_filter (c : Cursor) (word : String) : c.keyword? word =
    (c.skip? word).filter fun c' =>
      !(c.previous?.any Text.isKeywordChar || c'.rest.head?.any Text.isKeywordChar) := by
  unfold keyword? skip?
  cases Text.behind? word.toList c.rest with
  | none => rfl
  | some rest =>
    rw [Option.map_some, Option.filter_some, rest_moved]
    -- a keyword is a word that is skipped, unless a keyword character stands at one of its ends
    by_cases hb : (c.previous?.any Text.isKeywordChar || rest.head?.any Text.isKeywordChar) = true
    · rw [if_neg (by rw [hb]; decide)]
      exact if_pos hb
    · rw [if_pos (by simpa using hb)]
      exact if_neg hb

namespace Alike

variable {c d : Cursor}

/-- A blank is no character of a word or a keyword. -/
theorem any_of_seam {p : Char → Bool} (hp : ∀ x, Text.IsSeam (some x) → p x = false)
    {a b : Option Char} (h : a.map squeezed = b.map squeezed) : a.any p = b.any p :=
  Text.any_eq_of_map_squeezed (fun x hx => by
    rw [hp x (Text.isSeam_of_isBlank hx), hp ' ' (Text.isSeam_of_isBlank (by decide))]) h

theorem keyword? (h : c.Alike d) (word : String) (hw : ∀ x ∈ word.toList, Text.isBlank x = false) :
    Option.Rel Alike (c.keyword? word) (d.keyword? word) := by
  rw [keyword?_eq_filter, keyword?_eq_filter]
  -- both ends of the word are alike, so the condition on them is the same
  have hprevious : c.previous?.any Text.isKeywordChar = d.previous?.any Text.isKeywordChar :=
    any_of_seam (fun x hx => (hx x rfl).2) h.previous
  have hskip := h.skip? word hw
  generalize c.skip? word = a, d.skip? word = b at hskip
  cases hskip with
  | none => exact .none
  | some halike =>
    have hnext := any_of_seam (p := Text.isKeywordChar) (fun x hx => (hx x rfl).2) halike.head?
    simp only [Option.filter_some, hprevious, hnext]
    split
    · exact .some halike
    · exact .none

theorem identifier? (h : c.Alike d) : Option.Rel AlikeWith c.identifier? d.identifier? := by
  -- the sign and the word are the same, and the two neighbours count as seams or as word characters alike
  obtain ⟨⟨tilde, body⟩, hc⟩ : ∃ r, Text.splitTilde c.rest = r := ⟨_, rfl⟩
  obtain ⟨⟨tilde', body'⟩, hd⟩ : ∃ r, Text.splitTilde d.rest = r := ⟨_, rfl⟩
  obtain ⟨htilde, hbody⟩ := Text.splitTilde_eq_of_squeeze h.rest
  rw [hc, hd] at htilde hbody
  obtain rfl : tilde = tilde' := htilde
  replace hbody : squeeze body = squeeze body' := hbody
  obtain ⟨hword, hrest⟩ := Text.takeWhile_eq_of_squeeze (p := Text.isAsciiWordChar) (fun x hx => by
    cases hw : Text.isAsciiWordChar x with
    | false => rfl
    | true => rw [Text.isBlank_of_isAsciiWordChar hw] at hx; cases hx) hbody
  have hsplit : ∀ {cs body : List Char}, Text.splitTilde cs = (tilde, body) →
      cs = (tilde ++ body.takeWhile Text.isAsciiWordChar) ++ body.dropWhile Text.isAsciiWordChar :=
    fun {cs _} hcs => by
      have happend := Text.splitTilde_append cs
      rw [hcs] at happend
      rw [List.append_assoc, List.takeWhile_append_dropWhile]
      exact happend.symm
  have hnext : (body.dropWhile Text.isAsciiWordChar).head?.any Text.isWordChar =
      (body'.dropWhile Text.isAsciiWordChar).head?.any Text.isWordChar :=
    any_of_seam (fun x hx => (hx x rfl).1) (by rw [← Text.head?_squeeze, hrest, Text.head?_squeeze])
  have hprevious := any_of_seam (p := Text.isWordChar) (fun x hx => (hx x rfl).1) h.previous
  unfold Cursor.identifier?
  simp only [hc, hd, hword, hnext, hprevious]
  split
  · exact .none
  · exact .some ⟨rfl, h.moved (hword ▸ hsplit hc) (hsplit hd) hrest⟩

/-- The same word is found at alike cursors. -/
theorem exists_identifier? {c' : Cursor} {w : String} (h : c.Alike d)
    (hi : c.identifier? = some (w, c')) : ∃ d', d.identifier? = some (w, d') ∧ c'.Alike d' := by
  obtain ⟨⟨_, d'⟩, hd, rfl, halike⟩ := exists_of_rel h.identifier? hi
  exact ⟨d', hd, halike⟩

/-! ### Signs, allocations and items -/

theorem operatorSign? (h : c.Alike d) : Option.Rel AlikeWith c.operatorSign? d.operatorSign? := by
  refine h.rel (f := Cursor.operatorSign?) fun {c d a} h hs => ?_
  obtain ⟨s, c'⟩ := a
  obtain ⟨taken, ht, hc, hc', -⟩ := operatorSign?_eq_some hs
  obtain ⟨taken', rest', hd, hlast, hrest⟩ := Text.operatorSign?_of_squeeze h.rest ht
  refine ⟨_, operatorSign?_of_text hd, rfl, ?_⟩
  rw [hc']
  exact h.moved_of_getLast? hc (Text.operatorSign?_eq_some hd).2.1 (by rw [hlast]) hrest

/-- No bracket is skipped. -/
theorem skip?_bracket (h : c.Alike d) : c.skip? "[" = none :=
  skip?_eq_none (w := '[') rfl fun hhead => h.brackets.1 (List.mem_of_mem_head? hhead)

/-- No array bound is read. -/
theorem arrayBound?_eq_none (h : c.Alike d) : c.arrayBound? = none :=
  Cursor.arrayBound?_eq_none fun hhead => h.brackets.1 (List.mem_of_mem_head? hhead)

theorem nextItem? (h : c.Alike d) (isFirst : Bool) :
    Option.Rel Alike (c.nextItem? isFirst) (d.nextItem? isFirst) := by
  unfold Cursor.nextItem?
  cases isFirst with
  | true => exact .some h
  | false =>
    -- behind the first item a comma has to be skipped
    have hskip := h.skip? "," (by decide)
    simp only [Bool.false_eq_true, if_false]
    generalize c.skip? "," = a, d.skip? "," = b at hskip
    cases hskip with
    | none => exact .none
    | some halike => exact .some halike.skipBlank

/-! ### Repetitions -/

/-- **A step that does the same at alike cursors** does the same when it is repeated. -/
theorem repeated {σ : Type} {step : σ → Cursor → Option (σ × Cursor)} (hp : Progresses step)
    (hstep : ∀ {s : σ} {c d : Cursor}, c.Alike d → Option.Rel AlikeWith (step s c) (step s d)) (s : σ)
    (h : c.Alike d) : AlikeWith (c.repeated step s) (d.repeated step s) := by
  have hupTo : ∀ (n : Nat) {s : σ} {c d : Cursor}, c.Alike d →
      AlikeWith (repeatedUpTo step n s c) (repeatedUpTo step n s d) := by
    intro n
    induction n with
    | zero => exact fun h => ⟨rfl, h⟩
    | succ n ih =>
      intro s c d h
      have hs := hstep (s := s) h
      rw [repeatedUpTo, repeatedUpTo]
      generalize step s c = a, step s d = b at hs
      cases hs with
      | none => exact ⟨rfl, h⟩
      | @some p q hpq =>
        obtain ⟨s', c'⟩ := p
        obtain ⟨s'', d'⟩ := q
        obtain ⟨rfl, halike⟩ := hpq
        exact ih halike
  -- one bound for both
  have hc := repeatedUpTo_eq hp c.rest.length (max c.rest.length d.rest.length) s c (Nat.le_refl _)
    (Nat.le_max_left _ _)
  have hd := repeatedUpTo_eq hp d.rest.length (max c.rest.length d.rest.length) s d (Nat.le_refl _)
    (Nat.le_max_right _ _)
  rw [Cursor.repeated, Cursor.repeated, hc, hd]
  exact hupTo _ h

end Alike

end Cursor

/-! ### Readings -/

namespace Reading

/-- **Alike readings**: the same value or the same cause, with alike cursors. -/
inductive Alike {α : Type} : Reading α → Reading α → Prop
  /-- The same value. -/
  | done {v : α} {c d : Cursor} (h : c.Alike d) : Alike (.done v c) (.done v d)
  /-- The same cause. -/
  | failed {cause : Cause} {c d : Cursor} (h : c.Alike d) : Alike (.failed cause c) (.failed cause d)

variable {α β : Type} {r s : Reading α}

/-- **Reading on** from alike readings. -/
theorem Alike.andThen {f g : α → Cursor → Reading β} (h : r.Alike s)
    (hfg : ∀ (v : α) {c d : Cursor}, c.Alike d → (f v c).Alike (g v d)) :
    (r.andThen f).Alike (s.andThen g) := by
  cases h with
  | done h => exact hfg _ h
  | failed h => exact .failed h

theorem Alike.map (h : r.Alike s) (f : α → β) : (r.map f).Alike (s.map f) :=
  h.andThen fun _ _ _ hcd => .done hcd

end Reading

/-- **An allocation** is read alike: no bracket is opened behind it. -/
theorem Cursor.Alike.allocation? {c d : Cursor} (h : c.Alike d) :
    Option.Rel Reading.Alike c.allocation? d.allocation? := by
  refine h.rel (f := Cursor.allocation?) fun {c d r} h hr => ?_
  -- one of the two words is found, and then no bracket follows it in either text
  obtain ⟨a, ha⟩ : ∃ a : Allocation, c.keyword? a.keyword ≠ none := by
    by_contra hnone
    rw [allocation?_eq_none_iff.mpr fun a => by simpa using not_exists.mp hnone a] at hr
    cases hr
  obtain ⟨c₁, hc⟩ := Option.ne_none_iff_exists'.mp ha
  obtain ⟨d₁, hd, halike⟩ := exists_of_rel (h.keyword? a.keyword (by cases a <;> decide)) hc
  rw [allocation?_plain hc halike.skipBlank.skip?_bracket] at hr
  obtain rfl := Option.some.inj hr
  exact ⟨_, allocation?_plain hd halike.skipBlank.symm.skip?_bracket, .done halike⟩

end CppIndex
