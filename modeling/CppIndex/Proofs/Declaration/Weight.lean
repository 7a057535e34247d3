import CppIndex.Proofs.Declaration.ReadBack
import CppIndex.Proofs.Expr.Weight

/-!
# What is read as a declaration weighs no less than its canonical text

Behind the words in front of it, a declaration comes out no heavier than it went in
(`Declaration.Reads.exists_start`). So where a name is taken for one of the words in front, the
declaration that is read cannot be the one whose text it was: a word that weighs something is gone.
-/

namespace CppIndex

open Text (weight)
open CppIndex.Expr (weight_keyword? weight_nextItem? weight_skip?)

variable {c c' : Cursor}

/-! ### Parameters -/

namespace Param

theorem weight_readDefault {s : String} (h : readDefault c = .done s c') :
    weight s.toList + weight c'.rest = weight c.rest := by
  obtain ⟨taken, hrest, hs⟩ := exists_rest_of_readDefault h
  have htaken : weight s.toList = weight taken := by
    -- the value is what was taken, up to the blanks behind it
    rcases hs with hs | hs
    · rw [hs]
    · rw [hs, Text.weight_trimEnd]
  rw [htaken, ← Text.weight_append, ← hrest, Cursor.rest_skipBlank, Text.weight_dropBlank]

theorem weight_readDefault? {v : Option String} (h : readDefault? c.skipBlank = .done v c') :
    weight (defaultChars v) + weight c'.rest = weight c.rest := by
  rcases readDefault?_eq_done h with ⟨c₁, s, he, hs, rfl⟩ | ⟨rfl, rfl⟩
  · have hsign := weight_skip? he
    have hvalue := weight_readDefault hs
    have htext : defaultChars (some s) = "=".toList ++ s.toList := rfl
    rw [htext, Text.weight_append]
    omega
  · simp [defaultChars]

theorem Reads.weight_le {p : Param} (h : Reads c p c') :
    weight p.chars + weight c'.rest ≤ weight c.rest := by
  -- part by part: the blanks between type, name and value weigh nothing
  cases h with
  | ellipsis he =>
    exact Nat.le_of_eq (by rw [chars_ellipsis, ← Text.weight_append, ← (Cursor.skip?_eq_some he).1])
  | unnamed _ ht _ hd =>
    have htype := ht.weight_le
    have hvalue := weight_readDefault? hd
    rw [chars_unnamed, Text.weight_append]
    omega
  | named _ ht _ hn hd =>
    have htype := ht.weight_le
    have hname := hn.weight_le
    have hvalue := weight_readDefault? hd
    rw [Cursor.rest_skipBlank, Text.weight_dropBlank] at hname
    rw [chars_named, Text.weight_append, Text.weight_space_cons, Text.weight_append]
    omega

theorem Reaches.weight_le {ps : List Param} (h : Reaches c ps c') :
    weight (joined ps) + weight c'.rest ≤ weight c.rest := by
  induction h with
  | start => simp
  | @param c₁ c₂ c₃ ps p _ _ hn hp ih =>
    have hparam := hp.weight_le
    have hnext := weight_nextItem? hn
    -- only from the second parameter on a comma was read, and only there it is written
    cases ps with
    | nil =>
      rw [List.isEmpty_nil, if_pos rfl] at hnext
      rw [joined_nil, Text.weight_nil] at ih
      rw [List.nil_append, joined_singleton]
      omega
    | cons q qs =>
      rw [List.isEmpty_cons, if_neg (by decide)] at hnext
      rw [joined_concat _ (List.cons_ne_nil q qs), Text.weight_append,
        show ',' :: ' ' :: p.chars = [',', ' '] ++ p.chars from rfl, Text.weight_append]
      omega

end Param

/-! ### Declarations -/

namespace Declaration

open CppIndex.Expr (wordsText spaced)

variable {kind : ObjectKind} {d : Declaration}

/-- A `const` behind a function, if there is one. -/
theorem weight_readConst {isConst : Bool} (h : readConst c = (isConst, c')) :
    weight (spaced (if isConst then ["const"] else [])) + weight c'.rest = weight c.rest ∧
      c'.skipBlank = c' := by
  unfold readConst at h
  -- the blank in front of the `const` is written, and weighs nothing
  split at h
  next c₁ hk =>
    obtain ⟨rfl, rfl⟩ := Prod.mk.inj h
    have hword := weight_keyword? hk
    refine ⟨?_, Cursor.skipBlank_skipBlank⟩
    have htext : spaced (if true then ["const"] else []) = ' ' :: "const".toList := by decide
    rw [htext, Text.weight_space_cons, Cursor.rest_skipBlank, Text.weight_dropBlank, hword]
  next =>
    obtain ⟨rfl, rfl⟩ := Prod.mk.inj h
    exact ⟨by simp [spaced], Cursor.skipBlank_skipBlank⟩

/-- The null constant that is written is the lightest. -/
theorem weight_readPure_le {isPure : Bool} (h : readPure c.skipBlank = .done isPure c') :
    weight (spaced (if isPure then ["= 0"] else [])) + weight c'.rest ≤ weight c.rest := by
  unfold readPure at h
  split at h
  next =>
    simp only [Reading.done.injEq] at h
    obtain ⟨rfl, rfl⟩ := h
    simp [spaced]
  next c₁ he =>
    have hsign := weight_skip? he
    simp only [] at h
    split at h
    next c₂ hf =>
      simp only [Reading.done.injEq] at h
      obtain ⟨rfl, rfl⟩ := h
      obtain ⟨word, hmem, hk⟩ := List.exists_of_findSome?_eq_some hf
      have hword := weight_keyword? hk
      -- whichever word was read, `0` is written, and no word weighs less
      have hall : ∀ word ∈ ["0", "NULL", "nullptr"],
          weight (spaced (if true then ["= 0"] else [])) ≤ weight "=".toList + weight word.toList := by
        decide
      have hle := hall word hmem
      omega
    next => cases h

theorem ReadsSignature.weight_le {ps : List Param} {f : FunctionInfo} (hps : f.params = ps)
    (h : ReadsSignature c ps f.isConst f.isPure c') :
    weight (signatureChars f) + weight c'.rest ≤ weight c.rest := by
  subst hps
  obtain ⟨ho, hp, hc, hk, hz⟩ := h
  have hopen := weight_skip? ho
  have hparams := hp.weight_le
  have hclose := weight_skip? hc
  obtain ⟨hconst, hskip⟩ := weight_readConst hk
  rw [← hskip] at hz
  have hpure := weight_readPure_le hz
  -- the signature in the parts in which it was read
  have htext : signatureChars f = "(".toList ++ (Param.joined f.params ++ (")".toList ++
      (spaced (if f.isConst then ["const"] else []) ++ spaced (if f.isPure then ["= 0"] else [])))) := by
    simp [signatureChars, FunctionInfo.trailingWords, spaced]
  rw [htext]
  simp only [Text.weight_append]
  omega

/-! ### The words in front -/

/-- Over the words of a function, if a declaration is one. -/
def PassesWords (d : Declaration) (c c' : Cursor) : Prop :=
  match d.body with
  | .function f =>
    c.repeated functionWordStep (false, false) = ((f.isExplicit, f.isVirtual), c')
  | _ => c' = c

/-- The blank behind the equals sign of a value weighs nothing. -/
theorem weight_valueChars (value : String) :
    weight (valueChars (some value)) = weight "=".toList + weight value.toList := by
  -- the blank in front of a value weighs nothing, and it is left out in front of none
  have htail : weight (if value = "" then [] else ' ' :: value.toList) = weight value.toList := by
    split
    next hempty =>
      rw [hempty]
      rfl
    next => exact Text.weight_space_cons _
  rw [valueChars, Text.weight_space_cons, ← List.singleton_append, Text.weight_append, htail]
  rfl

/-- **How a declaration begins**: with the words in front of it, and what is read behind them weighs no
less than what is written there. -/
theorem Reads.exists_start (h : Reads kind c d c') : ∃ c₁ c₂,
    readLeading c = (d.visibility, d.isStatic, c₁) ∧ PassesWords d c₁ c₂ ∧
      weight d.restChars + weight c'.rest ≤ weight c₂.rest := by
  -- by kind: behind the leading words each part weighs no less as it is read than as it is written
  cases h with
  | classType hl hn => exact ⟨_, _, hl, rfl, hn.weight_le⟩
  | typeName hl hn _ =>
    refine ⟨_, _, hl, rfl, ?_⟩
    rw [Cursor.rest_skipBlank, Text.weight_dropBlank]
    exact hn.weight_le
  | typeAlias hl ht _ hn =>
    have htarget := ht.weight_le
    have hname := hn.weight_le
    rw [Cursor.rest_skipBlank, Text.weight_dropBlank] at hname
    refine ⟨_, _, hl, rfl, ?_⟩
    -- one blank is written between the two types
    simp only [restChars, bodyChars, Text.weight_append, Text.weight_space_cons]
    omega
  | member hl ht hn _ =>
    have htype := ht.weight_le
    have hname := hn.weight_le
    refine ⟨_, _, hl, rfl, ?_⟩
    simp only [restChars, bodyChars, valueChars, Text.weight_append, Text.weight_space_cons,
      List.append_nil, Cursor.rest_skipBlank, Text.weight_dropBlank]
    omega
  | @valued c₁ c₂ c₃ c₄ c₅ v s type name hl ht hn he =>
    have htype := ht.weight_le
    have hname := hn.weight_le
    -- the value is all that is left, trimmed
    have hsign := weight_skip? he
    refine ⟨_, _, hl, rfl, ?_⟩
    simp only [restChars, bodyChars, weight_valueChars, String.toList_ofList, Text.weight_trim,
      Text.weight_append, Text.weight_space_cons, Cursor.toEnd, Cursor.rest_moved, Text.weight_nil]
    omega
  | @procedure _ _ _ _ _ _ _ e i isConst isPure name ps hl hw hn _ hs =>
    have hname := hn.weight_le
    -- only a function has words of its own, and they are passed before the name or what is returned
    have hsig := hs.weight_le (f := ⟨e, i, none, ps, isConst, isPure⟩) rfl
    refine ⟨_, _, hl, hw, ?_⟩
    rw [Cursor.rest_skipBlank, Text.weight_dropBlank] at hsig
    simp only [restChars, returnsChars, List.nil_append, Text.weight_append]
    omega
  | @function _ _ _ _ _ _ _ _ e i isConst isPure returns name ps hl hw hr _ hn hs =>
    have hreturns := hr.weight_le
    have hname := hn.weight_le
    have hsig := hs.weight_le (f := ⟨e, i, some returns, ps, isConst, isPure⟩) rfl
    rw [Cursor.rest_skipBlank, Text.weight_dropBlank] at hname
    refine ⟨_, _, hl, hw, ?_⟩
    simp only [restChars, returnsChars, Text.weight_append, Text.weight_space_cons, Text.weight_nil]
    omega

/-- A word of a function weighs something. -/
theorem weight_functionWordStep_lt {words words' : Bool × Bool}
    (h : functionWordStep words c = some (words', c')) : weight c'.rest < weight c.rest := by
  obtain ⟨word, hmem, hk⟩ := functionWordStep_eq_some h
  have hwords : ∀ w ∈ ["explicit", "virtual"], 0 < weight w.toList := by decide
  have hpos := hwords word hmem
  have hword := weight_keyword? hk
  omega

theorem weight_of_passes_functionWordStep_le {words words' : Bool × Bool}
    (h : Cursor.Passes functionWordStep words c words' c') : weight c'.rest ≤ weight c.rest := by
  induction h with
  | start => exact Nat.le_refl _
  | step _ hs ih => exact Nat.le_trans (Nat.le_of_lt (weight_functionWordStep_lt hs)) ih

theorem PassesWords.weight_le (h : PassesWords d c c') : weight c'.rest ≤ weight c.rest := by
  unfold PassesWords at h
  split at h
  next =>
    -- a function passes its words, and any other declaration none
    have hpass := (Cursor.passes_repeated progresses_functionWordStep (false, false) c).1
    rw [h] at hpass
    exact weight_of_passes_functionWordStep_le hpass
  next => exact Nat.le_of_eq (by rw [h])

/-- **An access word** is read and weighs something. -/
theorem weight_readLeading_lt {v w : Visibility} {s : Bool} {c₀ : Cursor}
    (hv : c.skipBlank.visibility? = some (w, c₀)) (h : readLeading c = (v, s, c')) :
    weight c'.rest < weight c.rest := by
  have haccess : weight w.keyword.toList + weight c₀.rest = weight c.rest := by
    rw [← Text.weight_append, ← (Cursor.visibility?_eq_some hv).1, Cursor.rest_skipBlank,
      Text.weight_dropBlank]
  -- The access word has a weight of its own, which is no longer there behind it.
  have hpos : 0 < weight w.keyword.toList := by
    cases w <;> decide
  simp only [readLeading, hv, Option.getD_some] at h
  split at h
  next c₁ hk =>
    obtain ⟨rfl, rfl, rfl⟩ := h
    have hword := weight_keyword? hk
    omega
  next =>
    obtain ⟨rfl, rfl, rfl⟩ := h
    rw [Cursor.rest_skipBlank, Text.weight_dropBlank]
    omega

/-! ### The first expression -/

/-- **The first expression begins with no word** that would be read in front of it. -/
theorem Reads.opening_not_mem (h : Reads kind c d c') (hc : c.rest = d.chars)
    (hp : Text.IsSeam c.previous?) : d.functionWords = [] → d.isStatic = false → d.first.opening ∉
      "static" :: if d.visibility = .pub then Visibility.all.map Visibility.keyword else [] := by
  intro hwords hstatic hmem
  obtain ⟨hopens, hlead⟩ := h.isForm.opens_restChars
  obtain ⟨tail, htail, -, hseam⟩ := hopens.exists_tail
  obtain ⟨c₁, c₂, hl, hw, hle⟩ := h.exists_start
  have htext : c.rest = wordsText (accessWords d.visibility) ++ d.restChars := by
    rw [hc, chars_eq, hwords, leadingWords, hstatic]
    simp [accessWords]
  -- the canonical text begins with a word, so nothing is skipped in front of it
  have hskip : c.skipBlank = c :=
    Cursor.skipBlank_of_opens htext <| Expr.opens_wordsText (fun w hw =>
      isWord_of_mem_leadingWords (s := false) (List.mem_append_left _ hw)) hopens
  rw [← hlead] at hmem
  rcases List.mem_cons.mp hmem with hs | hmem
  · -- `static` would have been read
    have hstaticText : Text.leadingWord d.restChars = "static".toList := by
      rw [← hs, String.toList_ofList]
    obtain ⟨c₀, hv, hc₀⟩ := exists_visibility? htext hp hopens fun _ => by
      rw [hs]
      decide
    have hprev : Text.IsSeam c₀.skipBlank.previous? := by
      rw [hc₀]
      exact Expr.isSeam_previous?_wordsText hp
    have hkey : c₀.skipBlank.keyword? "static" = some (c₀.skipBlank.moved "static".toList tail) :=
      Cursor.keyword?_of_seams (by rw [hc₀, Cursor.rest_moved, ← hstaticText, ← htail]) hprev hseam
    simp only [readLeading, hskip, hv, hkey, hstatic, Prod.mk.injEq] at hl
    exact absurd hl.2.1 (by decide)
  · -- the access word would have been read
    split at hmem
    next hpub =>
      obtain ⟨w, -, hw'⟩ := List.mem_map.mp hmem
      have hrest : c.rest = w.keyword.toList ++ tail := by
        rw [htext, hpub, hw', String.toList_ofList]
        exact htail
      have hfound := Cursor.visibility?_of_seams hrest hp hseam
      -- and then more would have been read than is written
      have hlt := weight_readLeading_lt (by rw [hskip]; exact hfound) hl
      have hpass := hw.weight_le
      have hsame : c.rest = d.restChars := by
        rw [htext, hpub]
        rfl
      rw [hsame] at hlt
      omega
    next => cases hmem

/-- No further word of a function was read if what is left is no lighter, because the word would be
gone. -/
theorem functionWordStep_of_weight_le {words words' : Bool × Bool}
    (h : c.repeated functionWordStep words = (words', c')) (hle : weight c.rest ≤ weight c'.rest) :
    functionWordStep words c = none ∧ c' = c := by
  have hnone : functionWordStep words c = none := by
    cases hstep : functionWordStep words c with
    | none => rfl
    | some r =>
      obtain ⟨words₁, c₁⟩ := r
      -- a step takes a word, which weighs something
      have hlt := weight_functionWordStep_lt hstep
      rw [Cursor.repeated_of_some progresses_functionWordStep hstep] at h
      have hrest := (Cursor.passes_repeated progresses_functionWordStep words₁ c₁).1
      rw [h] at hrest
      have hle₁ : weight c'.rest ≤ weight c₁.rest := weight_of_passes_functionWordStep_le hrest
      omega
  rw [Cursor.repeated_of_none hnone] at h
  exact ⟨hnone, (Prod.mk.inj h).2.symm⟩

/-- Where no word of a function is read, none stands. -/
theorem leadingWord_not_mem_of_functionWordStep {words : Bool × Bool} {k : List Char}
    (h : functionWordStep words c = none) (hr : c.skipBlank.rest = k)
    (hp : Text.IsSeam c.skipBlank.previous?) (ho : Text.Opens k) :
    String.ofList (Text.leadingWord k) ∉ ["explicit", "virtual"] := by
  intro hmem
  obtain ⟨tail, htail, -, hseam⟩ := ho.exists_tail
  have hfound : c.skipBlank.keyword? (String.ofList (Text.leadingWord k)) ≠ none := by
    rw [Cursor.keyword?_of_seams (k := tail) (by rw [hr, String.toList_ofList, ← htail]) hp hseam]
    exact Option.some_ne_none _
  unfold functionWordStep at h
  simp only [] at h
  -- Neither of the two keywords is found, and each would be.
  split at h
  next => cases h
  next hexplicit =>
    simp only [List.mem_cons, List.not_mem_nil, or_false] at hmem
    rcases hmem with hmem | hmem
    · rw [hmem] at hfound
      exact hfound hexplicit
    · rw [hmem] at hfound
      exact hfound (Option.map_eq_none_iff.mp h)

/-- The words of a function are passed where they are written, and no further ones, if what is left
behind them is no lighter than the text there. -/
theorem PassesWords.exact {k : List Char} (h : PassesWords d c c')
    (hr : c.skipBlank.rest = wordsText d.functionWords ++ k) (hp : Text.IsSeam c.skipBlank.previous?)
    (ho : Text.Opens k) (hle : weight k ≤ weight c'.rest) :
    (∀ f, d.body = .function f → String.ofList (Text.leadingWord k) ∉ ["explicit", "virtual"]) ∧
      c'.skipBlank = c.skipBlank.moved (wordsText d.functionWords) k := by
  obtain ⟨name, v, s, body⟩ := d
  cases body with
  | function f =>
    obtain ⟨d, hpass, hd⟩ := exists_passes_functionWordStep rfl hr hp ho
    have hrep : c.repeated functionWordStep (false, false) = ((f.isExplicit, f.isVirtual), c') := h
    rw [hpass.repeated_eq progresses_functionWordStep] at hrep
    have hweight : weight d.rest = weight k := by
      rw [← Text.weight_dropBlank, ← Cursor.rest_skipBlank, hd, Cursor.rest_moved]
    -- Further words would have made what is left lighter than what is written behind them.
    obtain ⟨hnone, rfl⟩ := functionWordStep_of_weight_le hrep (by omega)
    have hprev : Text.IsSeam c'.skipBlank.previous? := by
      rw [hd]
      exact Expr.isSeam_previous?_wordsText hp
    have hnot := leadingWord_not_mem_of_functionWordStep hnone (by rw [hd]; rfl) hprev ho
    exact ⟨fun _ _ => hnot, hd⟩
  | classType | member | typeName =>
    refine ⟨fun f hf => (by cases hf), ?_⟩
    obtain rfl : c' = c := h
    exact (Cursor.moved_nil_of_rest hr).symm

/-- **A declaration that is read from its canonical text** begins with no word that is not written, and
the words in front of it are passed. -/
theorem Reads.exists_words (h : Reads kind c d c') (hc : c.rest = d.chars)
    (hp : Text.IsSeam c.previous?) : d.first.opening ∉ d.unwritten ∧ ∃ c₁ c₂,
      readLeading c = (d.visibility, d.isStatic, c₁) ∧ PassesWords d c₁ c₂ ∧
        c₂.skipBlank.rest = d.restChars ∧ Text.IsSeam c₂.skipBlank.previous? := by
  have hfirst := h.opening_not_mem hc hp
  obtain ⟨hopens, hlead⟩ := h.isForm.opens_restChars
  obtain ⟨c₀, hl₀, hc₀⟩ := exists_readLeading h.isForm hfirst hc hp
  obtain ⟨c₁, c₂, hl, hw, hle⟩ := h.exists_start
  -- What is read in front of the words depends on the cursor alone.
  obtain rfl : c₀ = c₁ := by
    rw [hl₀] at hl
    exact (Prod.mk.inj (Prod.mk.inj hl).2).2
  have hprev : Text.IsSeam c₀.skipBlank.previous? := by
    rw [hc₀]
    exact isSeam_previous?_words hp
  obtain ⟨hnot, hc₂⟩ := hw.exact (by rw [hc₀, Cursor.rest_moved]) hprev hopens (by omega)
  refine ⟨fun hmem => ?_, c₀, c₂, hl, hw, by rw [hc₂]; rfl, ?_⟩
  · rcases List.mem_append.mp hmem with hmem | hmem
    · split at hmem
      next f hf =>
        rw [← hlead] at hmem
        exact hnot f hf hmem
      next => cases hmem
    · split at hmem
      next hcond => exact hfirst hcond.1 hcond.2 hmem
      next => cases hmem
  · rw [hc₂]
    exact Expr.isSeam_previous?_wordsText hprev

end Declaration

end CppIndex
