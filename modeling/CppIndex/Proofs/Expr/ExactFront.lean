import CppIndex.Proofs.Expr.ExactName

/-!
# Words, runs and suffixes that were read

The words in front of a type are written in the order in which they are read again, as many as there
were; so where the tree comes back, no word behind them was taken for one of them
(`Expr.exact_leadingWords`). A run comes back only if nothing was added to it, or an `int` behind `long`
(`Expr.exact_run`). Suffixes come back one by one (`Expr.exact_suffixes`).
-/

namespace CppIndex.Expr

variable {b : Bool} {c c' : Cursor} {k : List Char} {e : Expr}

/-! ### Words in front of a type -/

/-- A repetition that adds no word reads none. -/
theorem eq_of_passes_leadingStep {ws vs : List String}
    (h : Cursor.Passes leadingStep ws c vs c') (he : vs = ws) : c' = c := by
  cases h with
  | start => rfl
  | step hp hs =>
    obtain ⟨us, hus, -⟩ := forall_mem_of_passes_leadingStep hp
    obtain ⟨w, -, -, hw⟩ := leadingStep_eq_some hs
    -- a step would have made the list of words longer
    have hlen := congrArg List.length (he.symm.trans hw)
    rw [hus, List.length_append, List.length_append, List.length_singleton] at hlen
    omega

theorem length_frontedWords (ws : List String) : (frontedWords ws).length = ws.length := by
  unfold frontedWords
  by_cases hc : "const" ∈ ws
  · rw [if_pos hc]
    exact (List.perm_cons_erase hc).length_eq.symm
  · rw [if_neg hc, List.nil_append, List.erase_of_not_mem hc]

/-- **The words that were read are those of the text**, and no other follows them. -/
theorem exact_leadingWords {ws : List String} (h : leadingWords c = (ws, c'))
    (hr : c.rest = wordsText (frontedWords ws) ++ k) (hp : Text.IsSeam c.previous?)
    (hk : ∀ x ∈ k.head?, Text.isBlank x = false) :
    c' = c.moved (wordsText (frontedWords ws)) k ∧
      ∀ w c'', c'.identifier? = some (w, c'') → w ∉ frontWords := by
  have hwords : ∀ w ∈ frontedWords ws, w ∈ frontWords := fun w hm =>
    forall_mem_of_leadingWords h w (mem_frontedWords.mp hm)
  have hskip : c.skipBlank = c := Cursor.skipBlank_eq_self <| by
    rw [hr]
    exact not_blank_wordsText (fun w hm => isWord_of_mem_frontWords (hwords w hm)) hk
  obtain ⟨d, hpass, hd⟩ := passes_leadingStep (u := []) hwords hskip hr hp hk
  obtain ⟨hpass', hnone⟩ := Cursor.passes_repeated progresses_leadingStep ([] ++ frontedWords ws) d
  have hrep := hpass.repeated_eq progresses_leadingStep
  simp only [leadingWords, Prod.mk.injEq] at h
  obtain ⟨hws, rfl⟩ := h
  rw [hrep] at hws ⊢
  obtain ⟨us, hus, -⟩ := forall_mem_of_passes_leadingStep hpass'
  rw [List.nil_append] at hws hpass' hnone hus ⊢
  -- no word was added, because as many are written as there are
  obtain rfl : us = [] := by
    have hlen := congrArg List.length (hws.symm.trans hus)
    rw [List.length_append, length_frontedWords] at hlen
    exact List.length_eq_zero_iff.mp (by omega)
  rw [List.append_nil] at hus
  have hend := eq_of_passes_leadingStep hpass' hus
  rw [hend] at hnone ⊢
  exact ⟨hd, leadingStep_eq_none_iff.mp hnone⟩

/-! ### Components behind words -/

/-- Where components end, no further one follows. -/
theorem PartsEnd.noComponent {ps : List Expr} (h : PartsEnd b ps c) (hn : ps ≠ []) :
    NoComponent c.skipBlank.rest := by
  rintro ⟨tail, htail⟩
  -- Components end at the end of an argument or where no `::` stands, and a `:` ends no argument.
  rcases h with h | h
  · have hhead : c.skipBlank.current? = some ':' := by
      rw [Cursor.current?, ← htail]
      rfl
    rw [endsArgument, hhead] at h
    cases b <;> exact absurd h (by decide)
  · have hskip : c.skipBlank.skip? "::" = some (c.skipBlank.moved "::".toList tail) :=
      Cursor.skip?_of_append htail.symm
    rw [nextPart?, if_neg (by simpa using hn), hskip] at h
    cases h

/-- **Words and components that were read stand in the text.** -/
theorem exact_parts {ws : List String} {ps : List Expr} {c₁ c₂ : Cursor}
    (hw : leadingWords c.skipBlank = (ws, c₁)) (hb : builtinStart? c₁ = none)
    (hps : IsParts ps) (hn : ps ≠ []) (hend : PartsEnd b ps c₂)
    (ih : ∀ {k}, c₁.rest = joined [':', ':'] ps ++ k → Text.IsSeam c₁.previous? →
      Text.IsSeam k.head? →
        (PartsStand ps k ∧
          (NoArguments (Text.dropBlank k) ∨ ∃ head args, ps = [.template head args]) ∧
            c₂.skipBlank = (c₁.moved (joined [':', ':'] ps) k).skipBlank) ∨ Overrun k c₂)
    (hc : c.rest = (fronted ws (ofParts ps)).chars ++ k) (hp : Text.IsSeam c.previous?)
    (hk : Text.IsSeam k.head?) :
    (FrontStands (fronted ws (ofParts ps)) k ∧
      c₂.skipBlank = (c.moved (fronted ws (ofParts ps)).chars k).skipBlank) ∨ Overrun k c₂ := by
  have hopens := hps.opens hn
  have hfront := forall_mem_of_leadingWords hw
  have hall := opens_wordsText
    (fun w hm => isWord_of_mem_frontWords (hfront w (mem_frontedWords.mp hm))) hopens
  rw [chars_fronted, chars_ofParts] at hc ⊢
  rw [Cursor.skipBlank_of_opens_append hc hall] at hw
  rw [List.append_assoc] at hc
  obtain ⟨hc₁, hstop⟩ := exact_leadingWords hw hc hp hopens.not_blank
  have hprev : Text.IsSeam c₁.previous? := hc₁ ▸ isSeam_previous?_wordsText hp
  have hrest : c₁.rest = joined [':', ':'] ps ++ k := by
    rw [hc₁]
    rfl
  -- the first word of the components is none of a type
  have hword : wordRule? (ofParts ps).opening = none := by
    obtain ⟨d, hi⟩ := Cursor.identifier?_of_opens hrest hopens hprev hk
    rw [opening, chars_ofParts]
    exact wordRule?_eq_none_iff.mpr
      ⟨hstop _ _ hi, (builtinStart?_eq_none_iff.mp hb) _ _ hi⟩
  have hlong : ofParts ps ≠ .name "long" := by
    intro he
    rw [he] at hword
    exact absurd hword (by decide)
  rcases ih hrest hprev hk with ⟨hstands, hargs, hc₂⟩ | hover
  · have hcomp := hend.noComponent hn
    rw [hc₂] at hcomp
    refine Or.inl ⟨⟨Or.inr ?_, ?_, ?_⟩, by rw [hc₂, hc₁, Cursor.moved_moved]⟩
    · rw [fronted, declaredName_underWords, declaredName_of_isPrimary hps.isPrimary_ofParts]
      exact hword
    · rw [fronted, stands_underWords, stands_ofParts]
      exact hstands
    · rw [fronted, follow_underWords fun w hm => hfront w (List.mem_of_mem_erase hm)]
      exact (follow_ofParts_iff hps hlong).mpr ⟨hcomp, hargs⟩
  · exact Or.inr hover

/-! ### Runs -/

/-- Where a word is found behind a word boundary, it stands behind a blank. -/
theorem exists_blank_of_word {x : Char} {w : List Char} (hk : k.head?.any Text.isWordChar = false)
    (h : Text.dropBlank k = x :: w) (hx : Text.isAsciiWordChar x = true) :
    ∃ y ∈ k.head?, Text.isBlank y = true := by
  cases k with
  | nil => cases h
  | cons y k =>
    refine ⟨y, rfl, ?_⟩
    -- else the word character would be the first of `k`, where no word goes on
    cases hy : Text.isBlank y with
    | true => rfl
    | false =>
      rw [Text.dropBlank_cons_of_not_blank hy] at h
      obtain rfl := (List.cons.inj h).1
      rw [Text.isAsciiWordChar_eq_false_of_boundary hk _ rfl] at hx
      cases hx

/-- A repetition that adds no word reads none. -/
theorem eq_of_passes_builtinStep {v : String} {ws₀ : List String}
    {run : List String × List String}
    (h : Cursor.Passes builtinStep (ws₀, followers v) c run c') (he : run.1 = ws₀) : c' = c := by
  cases h with
  | start => rfl
  | step hp hs =>
    obtain ⟨us, hus, -⟩ := follows_of_passes_builtinStep hp
    obtain ⟨w, -, -, hw⟩ := builtinStep_eq_some hs
    -- a step would have made the run longer
    have hlen := congrArg List.length (he.symm.trans (congrArg Prod.fst hw))
    rw [hus, List.length_append, List.length_append, List.length_singleton] at hlen
    omega

/-- **What can be added to a run** whose base is `long` without a trace: an `int`. -/
theorem eq_int_of_splitBuiltin {others vs : List String} (hv : Follows "long" vs)
    (hs : splitBuiltin (others ++ ["long"] ++ vs) = (others, "long")) : vs = [] ∨ vs = ["int"] := by
  obtain ⟨n, last, hlast, rfl⟩ := hv.long
  have hdouble : "double" ∉ others ++ ["long"] ++ (List.replicate n "long" ++ last) := by
    intro hm
    rw [splitBuiltin, if_pos hm] at hs
    exact absurd (Prod.mk.inj hs).2 (by decide)
  have hlong : "long" ∈ others ++ ["long"] ++ (List.replicate n "long" ++ last) := by simp
  rw [splitBuiltin, if_neg hdouble, if_pos hlong] at hs
  -- as many words `long` are left in front as there were before one became the base
  have hcount := congrArg (List.count "long") (Prod.mk.inj hs).1
  rw [List.count_filter (by decide), List.count_erase_self] at hcount
  simp only [List.count_append, List.count_singleton_self, List.count_replicate_self] at hcount
  obtain rfl : n = 0 := by omega
  simp only [List.mem_cons, List.not_mem_nil, or_false] at hlast
  rcases hlast with rfl | rfl | rfl
  · exact Or.inl rfl
  · exact Or.inr rfl
  · exact absurd (by simp) hdouble

/-- **A written run stands** where nothing follows that would lengthen it. -/
theorem WrittenRun.frontStands {ws run us others : List String} {first base : String}
    (h : WrittenRun ws run first us others base) (hw : ∀ w ∈ ws, w ∈ frontWords) (hr : IsRun run)
    (hl : base = "long" → NoLonger (Text.dropBlank k)) :
    FrontStands (builtinFront (ws ++ run)) k := by
  have hword : Text.IsWord base.toList := h.isRun.isWord base (by simp)
  rw [builtinFront_append hw hr h.split]
  refine ⟨?_, (stands_underWords _ _).mpr (nameStands_of_isIdentifier (Or.inl hword)), ?_⟩
  · rw [Begins, declaredName_underWords]
    -- The base is `long`, which is read as a run, or a word that rules nothing and so begins no run.
    rcases h.stop with rfl | hb
    · exact Or.inl rfl
    · refine Or.inr ?_
      have hop : (name base).declaredName.opening = base := opening_name (Or.inl hword)
      rw [hop]
      rcases wordRule?_cases base with ⟨hf, -⟩ | ⟨-, -, hn⟩ | ⟨-, -, hn, -⟩
      · exact absurd hf (h.isRun.not_mem_frontWords (by simp))
      · exact absurd hb hn
      · exact hn
  · by_cases hlong : base = "long"
    · rw [hlong]
      exact follow_underWords_long_iff.mpr (hl hlong)
    · -- the first word of the run stands in front of the base
      have hfirst : first ∈ others := by
        cases others with
        | nil =>
          obtain ⟨rfl, -⟩ := List.cons.inj h.eq_cons
          rcases wordRule?_cases base with ⟨hf, -⟩ | ⟨-, -, hn⟩ | ⟨-, hn, -⟩
          · exact absurd hf (h.isRun.not_mem_frontWords (by simp))
          · exact absurd (h.stop.resolve_left hlong) hn
          · exact absurd h.start hn
        | cons v others =>
          obtain ⟨rfl, -⟩ := List.cons.inj h.eq_cons
          exact List.mem_cons_self ..
      rw [follow_underWords_iff, if_pos ⟨first, List.mem_append_right _ hfirst, h.start⟩]
      exact fun hbase => absurd (Expr.name.inj hbase) hlong

/-- A run that ends in `long` and is read no further is lengthened by no word of the text. -/
theorem noLonger_of_stop {run : List String × List String} {d : Cursor} (hd : d.rest = k)
    (hk : Text.IsSeam k.head?) (hnext : run.2 = followers "long") (hstop : builtinStep run d = none) :
    NoLonger (Text.dropBlank k) := by
  intro w hmem r hwr
  cases hany : r.head?.any Text.isWordChar with
  | true => rfl
  | false =>
    -- the word would have been read
    have hword := isWord_of_mem_followers hmem
    obtain ⟨x, v, hx, -, hxw⟩ := hword.exists_cons
    have hblank := exists_blank_of_word hk.any_isWordChar (hwr.trans (by rw [hx]; rfl)) hxw
    have hseam : Text.IsSeam d.skipBlank.previous? :=
      Cursor.isSeam_previous?_skipBlank (Or.inr (hd ▸ hblank))
    have hfound := Cursor.identifier?_of_boundary (c := d.skipBlank)
      (by rw [Cursor.rest_skipBlank, hd, hwr]) (Or.inl hword) hseam hany
    exact absurd (hnext ▸ hmem) (builtinStep_eq_none_iff.mp hstop w _ hfound)

/-- A run that an `int` was added to took it along. -/
theorem overrun_of_passes {ws next' : List String} {v : String} {d : Cursor} (hd : d.rest = k)
    (h : Cursor.Passes builtinStep (ws, followers v) d (ws ++ ["int"], next') c') : Overrun k c' := by
  generalize hstate : (ws ++ ["int"], next') = state at h
  cases h with
  | start => simp at hstate
  | step hp hs =>
    obtain ⟨u, -, hi, hu⟩ := builtinStep_eq_some hs
    rw [hu] at hstate
    obtain ⟨hlist, hlast⟩ := List.append_inj' (Prod.mk.inj hstate).1 rfl
    obtain rfl : "int" = u := by simpa using hlast
    -- The `int` is the only word that was added, so it is the one that stands in front of what is left.
    rw [eq_of_passes_builtinStep hp hlist.symm] at hi
    obtain ⟨-, hr, -, hn⟩ := Cursor.identifier?_eq_some hi
    rw [Cursor.rest_skipBlank, hd] at hr
    exact ⟨c'.rest, hr, hn, rfl⟩

/-- **The reader passes the run that is written**, and from there it may go on. -/
theorem passes_of_writtenRun {ws run us others next all next' : List String} {first first' base : String}
    {c₁ c₂ c₃ : Cursor} (h : WrittenRun ws run first' us others base)
    (hw : leadingWords c.skipBlank = (ws, c₁)) (hb : builtinStart? c₁ = some (first, next, c₂))
    (hr : c₂.repeated builtinStep (ws ++ [first], next) = ((all, next'), c₃))
    (hopens : Text.Opens (builtinFront (ws ++ run)).chars)
    (hc : c.rest = (builtinFront (ws ++ run)).chars ++ k) (hp : Text.IsSeam c.previous?)
    (hk : Text.IsSeam k.head?) :
    Cursor.Passes builtinStep (ws ++ [first'] ++ us, followers base)
        (c.moved (builtinFront (ws ++ run)).chars k) (all, next') c₃ ∧
      builtinStep (all, next') c₃ = none := by
  have hfirst : Text.IsIdentifier first'.toList := Or.inl (isWord_of_mem_builtinStarts h.start)
  rw [Cursor.skipBlank_of_opens_append hc hopens] at hw
  rw [h.text, List.append_assoc] at hc
  have hseam : Text.IsSeam (spaced us ++ k).head? := by
    cases us with
    | nil => exact hk
    | cons u us => exact Text.isSeam_of_isBlank (by decide)
  obtain ⟨hc₁, -⟩ := exact_leadingWords hw hc hp (by
    rw [List.append_assoc]
    exact hfirst.opens.not_blank)
  rw [List.append_assoc] at hc₁
  -- the first word of the run is the first word that was read
  have hi : c₁.identifier? = some (first', c₁.moved first'.toList (spaced us ++ k)) :=
    Cursor.identifier?_of_seams (by rw [hc₁]; rfl) hfirst (hc₁ ▸ isSeam_previous?_wordsText hp) hseam
  rw [builtinStart?_of_mem h.start hi] at hb
  simp only [Option.some.injEq, Prod.mk.injEq] at hb
  obtain ⟨rfl, rfl, rfl⟩ := hb
  have hpass := passes_builtinStep (u := ws ++ [first'])
    (c := c₁.moved first'.toList (spaced us ++ k)) h.follows rfl hk
  have hend : (c₁.moved first'.toList (spaced us ++ k)).moved (spaced us) k =
      c.moved (builtinFront (ws ++ run)).chars k := by
    rw [hc₁, h.text, Cursor.moved_moved, Cursor.moved_moved]
  rw [h.getLastD, hend] at hpass
  rw [hpass.repeated_eq progresses_builtinStep] at hr
  have hrest := Cursor.passes_repeated progresses_builtinStep (ws ++ [first'] ++ us, followers base)
    (c.moved (builtinFront (ws ++ run)).chars k)
  rwa [hr] at hrest

/-- **A run that was read stands in the text**, or took an `int` along. -/
theorem exact_run {ws next all next' : List String} {first : String} {c₁ c₂ c₃ : Cursor}
    (hw : leadingWords c.skipBlank = (ws, c₁)) (hb : builtinStart? c₁ = some (first, next, c₂))
    (hr : c₂.repeated builtinStep (ws ++ [first], next) = ((all, next'), c₃))
    (hc : c.rest = (builtinFront all).chars ++ k) (hp : Text.IsSeam c.previous?)
    (hk : Text.IsSeam k.head?) :
    (FrontStands (builtinFront all) k ∧
      c₃.skipBlank = (c.moved (builtinFront all).chars k).skipBlank) ∨ Overrun k c₃ := by
  have hfront := forall_mem_of_leadingWords hw
  obtain ⟨run, rfl, hrun⟩ := isRun_of_repeated hb hr
  obtain ⟨first', us, others, base, h⟩ := exists_writtenRun hfront hrun
  obtain ⟨hpass, hstop⟩ :=
    passes_of_writtenRun h hw hb hr (IsFront.builtin hfront hrun).opens hc hp hk
  obtain ⟨vs, hvs, hfollows⟩ := follows_of_passes_builtinStep hpass
  obtain ⟨hall, hnext⟩ := Prod.mk.inj hvs
  cases hfollows with
  | nil =>
    -- no word was added
    have hc₃ := eq_of_passes_builtinStep hpass (by simpa using hall)
    rw [hc₃] at hstop ⊢
    refine Or.inl ⟨h.frontStands hfront hrun fun hlong => ?_, rfl⟩
    exact noLonger_of_stop rfl hk (by rw [hnext, hlong]; rfl) hstop
  | @cons _ w vs hmem hfollows =>
    -- only behind `long` can a word be added, and it is an `int`
    have hlong : base = "long" := h.stop.resolve_right fun hnone => by
      rw [hnone] at hmem
      cases hmem
    subst hlong
    have hrun' : run = others ++ ["long"] ++ w :: vs := by
      rw [h.eq_cons]
      simpa using hall
    have hint := eq_int_of_splitBuiltin (.cons hmem hfollows) (hrun' ▸ h.split)
    obtain ⟨rfl, rfl⟩ : w = "int" ∧ vs = [] := by simpa using hint
    rw [hall] at hpass
    exact Or.inr (overrun_of_passes rfl hpass)

/-! ### Suffixes -/

/-- **What was read between two cursors stands in the text**, whatever follows it, unless a run took an
`int` along. -/
def StandsBetween (c : Cursor) (e : Expr) (c' : Cursor) : Prop :=
  ∀ {k}, c.rest = e.chars ++ k → Text.IsSeam k.head? →
    (FrontStands e k ∧ c'.skipBlank = (c.moved e.chars k).skipBlank) ∨ Overrun k c'

namespace StandsBetween

variable {c₁ : Cursor}

/-- In front of the sign of a suffix nothing can have been taken along. -/
theorem before_sign (h : StandsBetween c e c') {x : Char} (hx : x ∈ ['*', '&', '['])
    (hc : c.rest = e.chars ++ x :: k) :
    FrontStands e (x :: k) ∧ c'.skipBlank = c.moved e.chars (x :: k) := by
  have hall : ∀ x ∈ ['*', '&', '['], Text.isBlank x = false ∧ x ≠ 'i' ∧
      x ∈ [' ', ':', ',', '<', '>', '*', '&', '[', ']'] := by
    decide
  obtain ⟨hblank, hi, hsign⟩ := hall x hx
  -- an overrun reads an `int`, and no sign begins with its first letter
  have hover : ¬ Overrun (x :: k) c' := not_overrun (by
    rw [Text.dropBlank_cons_of_not_blank hblank]
    exact fun he => hi (Option.some.inj he))
  obtain ⟨hstands, hc'⟩ := (h hc (isSeam_sign hsign)).resolve_right hover
  refine ⟨hstands, hc'.trans (Cursor.skipBlank_eq_self fun y hy => ?_)⟩
  rw [← Option.some.inj hy]
  exact hblank

/-- Over the sign of a suffix. -/
theorem skip? (h : StandsBetween c e c') {word : String} {x : Char} (hword : word.toList = [x])
    (hx : x ∈ ['*', '&', '[']) (hs : c'.skipBlank.skip? word = some c₁)
    (hc : c.rest = e.chars ++ x :: k) :
    FrontStands e (x :: k) ∧ c₁ = c.moved (e.chars ++ [x]) k := by
  obtain ⟨hstands, hc'⟩ := h.before_sign hx hc
  have hskip : (c.moved e.chars (x :: k)).skip? word = some (c.moved (e.chars ++ [x]) k) := by
    rw [Cursor.skip?_of_append (k := k) (by rw [hword]; rfl), Cursor.moved_moved, hword]
  rw [hc', hskip] at hs
  exact ⟨hstands, (Option.some.inj hs).symm⟩

theorem pointer (h : StandsBetween c e c') (hs : c'.skipBlank.skip? "*" = some c₁) :
    StandsBetween c (.pointer e) c₁ := by
  intro k hc _
  rw [chars_pointer, List.append_assoc] at hc
  obtain ⟨hstands, rfl⟩ := h.skip? (k := k) rfl (by simp) hs hc
  exact Or.inl ⟨⟨hstands.begins, hstands.stands, trivial⟩, by rw [chars_pointer]⟩

theorem reference (h : StandsBetween c e c') (hs : c'.skipBlank.skip? "&" = some c₁) :
    StandsBetween c (.reference e) c₁ := by
  intro k hc _
  rw [chars_reference, List.append_assoc] at hc
  obtain ⟨hstands, rfl⟩ := h.skip? (k := k) rfl (by simp) hs hc
  exact Or.inl ⟨⟨hstands.begins, hstands.stands, trivial⟩, by rw [chars_reference]⟩

theorem array {size : Option String} (h : StandsBetween c e c')
    (hs : c'.skipBlank.arrayBound? = some (size, c₁)) : StandsBetween c (.array e size) c₁ := by
  intro k hc _
  obtain ⟨taken, htaken⟩ : ∃ taken, taken = '[' :: (size.getD "").toList ++ [']'] := ⟨_, rfl⟩
  have hk : taken ++ k = '[' :: (size.getD "").toList ++ ']' :: k := by simp [htaken]
  have htext : (Expr.array e size).chars = e.chars ++ taken := by
    rw [chars_array, htaken, List.append_assoc]
  rw [htext, List.append_assoc, hk] at hc
  obtain ⟨hstands, hc'⟩ := h.before_sign (by simp) hc
  obtain ⟨hread, taken', hsplit, hc₁, -⟩ := Cursor.arrayBound?_eq_some hs
  rw [hc', Cursor.rest_moved] at hread hsplit
  -- the bound that was read is the one in the text, so nothing behind it was read along
  obtain ⟨hrest, hnone⟩ := Text.eq_of_arrayBound?_eq_some hread
  rw [hrest] at hsplit hc₁
  obtain rfl : taken' = taken := List.append_cancel_right (hsplit.symm.trans hk.symm)
  refine Or.inl ⟨⟨hstands.begins, ⟨hstands.stands, hnone⟩, trivial⟩, ?_⟩
  rw [hc₁, hc', Cursor.moved_moved, htext]

theorem const (h : StandsBetween c e c') (hs : c'.skipBlank.keyword? "const" = some c₁) :
    StandsBetween c (.const .after e) c₁ := by
  intro k hc _
  rw [chars_const_after, List.append_assoc] at hc
  obtain ⟨hstands, hc'⟩ := (h hc (Text.isSeam_of_isBlank (by decide))).resolve_right
    (not_overrun (by simp [Text.dropBlank, Text.isBlank]))
  have hskip : c'.skipBlank = c.moved (e.chars ++ [' ']) ("const".toList ++ k) := by
    have hspace := Cursor.skipBlank_space (c := c.moved e.chars (' ' :: ("const".toList ++ k))) rfl
      (by simp [Text.isBlank])
    rw [Cursor.moved_moved] at hspace
    exact hc'.trans hspace
  obtain ⟨hrest, hc₁, -⟩ := Cursor.keyword?_eq_some hs
  rw [hskip, Cursor.rest_moved] at hrest
  -- What is left behind the keyword is what is written there.
  have hk : c₁.rest = k := (List.append_cancel_left hrest).symm
  refine Or.inl ⟨⟨hstands.begins, hstands.stands, trivial⟩, ?_⟩
  rw [hc₁, hskip, hk, Cursor.moved_moved, chars_const_after, List.append_assoc]
  rfl

end StandsBetween

/-- **Suffixes that were read stand in the text** behind what they wrap. -/
theorem exact_suffixes {e₀ : Expr} {c₀ c₁ : Cursor} (h : Cursor.Passes suffixStep e₀ c₀ e c₁)
    (h₀ : StandsBetween c e₀ c₀) : StandsBetween c e c₁ := by
  -- over the suffixes: the lemma of each says where it is found
  induction h with
  | start => exact h₀
  | step _ hs ih =>
    rcases suffixStep_eq_some hs with ⟨hkey, rfl⟩ | ⟨hp, rfl⟩ | ⟨size, ha, rfl⟩ | ⟨hr, rfl⟩
    · exact ih.const hkey
    · exact ih.pointer hp
    · exact ih.array ha
    · exact ih.reference hr

/-- Where suffixes end, none follows. -/
theorem noSuffix_of_stop (h : suffixStep e c = none)
    (hc : c.skipBlank.rest = Text.dropBlank k) (hp : ∀ x w, Text.dropBlank k = x :: w →
      Text.isAsciiWordChar x = true → Text.IsSeam c.skipBlank.previous?) :
    NoSuffix (Text.dropBlank k) := by
  obtain ⟨hconst, hpointer, harray, hreference⟩ := suffixStep_eq_none_iff.mp h
  have hhead : ∀ {word : String} {x : Char}, word.toList = [x] → c.skipBlank.skip? word = none →
      (Text.dropBlank k).head? ≠ some x := fun hw hnone =>
    hc ▸ Cursor.head?_ne_of_skip?_eq_none hw hnone
  refine ⟨fun r hr => ?_, hhead rfl hpointer, hhead rfl hreference, ?_⟩
  · have hprev := hp 'c' _ (hr.trans rfl) (by decide)
    -- With no word character behind it the keyword would have been found.
    cases hany : r.head?.any Text.isKeywordChar with
    | true => rfl
    | false =>
      have hb : Text.behind? "const".toList c.skipBlank.rest = some r :=
        Text.behind?_eq_some_iff.mpr (hc.trans hr)
      rw [Cursor.keyword?, hb] at hconst
      simp [hprev.any_isKeywordChar, hany] at hconst
  · rw [← hc]
    exact Option.map_eq_none_iff.mp harray

end CppIndex.Expr
