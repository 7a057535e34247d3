import CppIndex.Proofs.Expr.Front

/-!
# A text that stands is read back

The canonical text of a type, written in front of a text before which it stands, is read as that type,
and the cursor stops behind it (`IsType.readsType`). The proof passes through the text in the way the
reader does: over the words in front, over the components or the run, over the suffixes. At every place
the seam between two lexemes and the condition that the text stands there are what the reader asks for.

The statement is about any following text and any place in a text, so that it can be used for the parts
of a larger text: the types inside a type, and those inside a declaration.
-/

namespace CppIndex.Expr

variable {b : Bool} {c c' : Cursor} {k : List Char} {e : Expr}

/-! ### What may follow -/

/-- In front of a text that begins with no component, no argument list and no word of a run, every
expression ends. -/
theorem follow_of_none (hc : NoComponent k) (ha : NoArguments k) (hl : NoLonger k) (e : Expr) :
    Follow e k := by
  fun_induction Follow e k with
  | case1 | case2 | case3 | case4 => exact trivial
  | case5 _ _ ih => exact ih hc ha hl
  | case6 => exact fun _ => hl
  | case7 _ _ _ _ ih => exact ih hc ha hl
  | case8 => exact hl
  | case9 | case10 | case11 => exact ⟨hc, ha⟩
  | case12 => exact hc

/-- So it ends in front of any sign that begins none of them. -/
theorem follow_of_head {x : Char} (hx : x ≠ ':' ∧ x ≠ '<' ∧ x ≠ 'i' ∧ x ≠ 'l' ∧ x ≠ 'd')
    (e : Expr) : Follow e (x :: k) := by
  obtain ⟨hcolon, hangle, hi, hl, hd⟩ := hx
  refine follow_of_none ?_ ?_ ?_ e
  · exact fun h => hcolon (List.cons_prefix_cons.mp h).1.symm
  · exact fun h => hangle (List.cons_prefix_cons.mp h).1.symm
  · intro w hw r hr
    -- the three words that may lengthen a run begin with three letters
    have hmem : w = "int" ∨ w = "long" ∨ w = "double" := by
      simpa using (show w ∈ ["int", "long", "double"] from hw)
    rcases hmem with rfl | rfl | rfl
    · exact absurd (List.cons.inj hr).1 hi
    · exact absurd (List.cons.inj hr).1 hl
    · exact absurd (List.cons.inj hr).1 hd

/-- And it ends at the end of a text. -/
theorem follow_nil (e : Expr) : Follow e [] := by
  refine follow_of_none (by simp [NoComponent]) (by simp [NoArguments]) ?_ e
  intro w hw r hr
  have hne : ∀ w ∈ followers "long", w.toList ≠ [] := by decide
  exact absurd (List.append_eq_nil_iff.mp hr.symm).1 (hne w hw)

/-- Words in front of a base, none of which begins a run, leave what may follow to the base. -/
theorem follow_underWords {isConst : Bool} {ws : List String} (hw : ∀ w ∈ ws, w ∈ frontWords) :
    Follow (underWords isConst ws e) k ↔ Follow e k := by
  have hno : ¬ ∃ w ∈ ws, w ∈ builtinStarts := by
    rintro ⟨w, hm, hb⟩
    have hall : ∀ w ∈ builtinStarts, w ∉ frontWords := by decide
    exact hall w hb (hw w hm)
  rw [follow_underWords_iff, if_neg hno]

/-! ### Words in front of a base -/

theorem declaredName_withWords (ws : List String) :
    (withWords ws e).declaredName = e.declaredName := by
  cases ws with
  | nil => rfl
  | cons w ws => rfl

@[simp] theorem declaredName_underWords (isConst : Bool) (ws : List String) :
    (underWords isConst ws e).declaredName = e.declaredName := by
  cases isConst with
  | false => exact declaredName_withWords ws
  | true => exact declaredName_withWords ws

@[simp] theorem stands_underWords (isConst : Bool) (ws : List String) :
    Stands (underWords isConst ws e) k ↔ Stands e k := by
  -- words leave the place of the base as it is
  have hwords : Stands (withWords ws e) k ↔ Stands e k := by
    cases ws with
    | nil => exact Iff.rfl
    | cons w ws => exact Iff.rfl
  cases isConst with
  | false => exact hwords
  | true => exact hwords

/-! ### Components -/

theorem IsComponent.isPrimary (h : IsComponent e) : e.isPrimary = true := by
  cases h <;> rfl

/-- The expression of components is primary. -/
theorem IsParts.isPrimary_ofParts {ps : List Expr} (h : IsParts ps) :
    (ofParts ps).isPrimary = true := by
  cases ps with
  | nil => rfl
  | cons p ps =>
    cases ps with
    | nil =>
      -- A single component is a part on its own or a template.
      generalize hps : [p] = qs at h
      cases h with
      | nil => cases hps
      | @part qs q hq hp =>
        have hlen := congrArg List.length hps
        obtain rfl : qs = [] := List.length_eq_zero_iff.mp (by simpa using hlen)
        obtain rfl : p = q := by simpa using hps
        exact hp.isPrimary
      | template =>
        obtain rfl := List.head_eq_of_cons_eq hps
        rfl
    | cons q qs => rfl

@[simp] theorem stands_ofParts (ps : List Expr) : Stands (ofParts ps) k ↔ PartsStand ps k := by
  unfold ofParts
  split
  next p => simp [PartsStand]
  next => exact Iff.rfl

/-- A component behind others stands where it does, and the others stand in front of it. -/
theorem partsStand_concat (ps : List Expr) (p : Expr) :
    PartsStand (ps ++ [p]) k ↔ PartsStand ps ([':', ':'] ++ p.chars ++ k) ∧ Stands p k := by
  induction ps with
  | nil => simp [PartsStand]
  | cons q ps ih =>
    simp only [List.cons_append, PartsStand, ih, following_append, following_cons, following_nil,
      List.append_assoc, List.append_nil, and_assoc, List.nil_append]

/-- **What may follow components**: no further one, and arguments only behind arguments. -/
theorem follow_ofParts_iff {ps : List Expr} (h : IsParts ps) (hlong : ofParts ps ≠ .name "long") :
    Follow (ofParts ps) k ↔
      NoComponent k ∧ (NoArguments k ∨ ∃ head args, ps = [.template head args]) := by
  by_cases hargs : ∃ head args, ps = [.template head args]
  · obtain ⟨head, args, rfl⟩ := hargs
    exact ⟨fun hf => ⟨hf, Or.inr ⟨head, args, rfl⟩⟩, fun hf => hf.1⟩
  · rw [or_iff_left hargs]
    have hprimary := h.isPrimary_ofParts
    cases hps : ofParts ps with
    | name s => rw [Follow, if_neg fun hs => hlong (by rw [hps, hs])]
    | path qs => rfl
    | cast t => rfl
    | template head args =>
      -- only a single component is not made a path
      refine absurd ⟨head, args, ?_⟩ hargs
      unfold ofParts at hps
      split at hps
      next p => rw [hps]
      next => cases hps
    | modified | pointer | reference | array | const => rw [hps] at hprimary; cases hprimary

/-! ### The parts of a type -/

/-- Signs that are written between the parts of a type make seams. -/
theorem isSeam_sign {x : Char} (h : x ∈ [' ', ':', ',', '<', '>', '*', '&', '[', ']']) :
    Text.IsSeam (some x) := by
  have hall : ∀ x ∈ [' ', ':', ',', '<', '>', '*', '&', '[', ']'],
      x.toNat < 0x80 ∧ Text.isAsciiWordChar x = false := by
    decide
  exact Text.isSeam_some_of_ascii (hall x h).1 (hall x h).2

/-- No suffix is read where none follows. -/
theorem suffixStep_eq_none (h : NoSuffix c.skipBlank.rest) : suffixStep e c = none := by
  refine suffixStep_eq_none_iff.mpr ⟨?_, ?_, ?_, ?_⟩
  · -- a `const` that is read ends at a word boundary
    cases hk : c.skipBlank.keyword? "const" with
    | none => rfl
    | some c' =>
      obtain ⟨hr, -, hn⟩ := Cursor.keyword?_eq_some hk
      rw [h.const _ hr] at hn
      cases hn
  · exact Cursor.skip?_eq_none (w := '*') rfl h.pointer
  · rw [Cursor.arrayBound?, h.array]
    rfl
  · exact Cursor.skip?_eq_none (w := '&') rfl h.reference

/-- **A state on the way through a type**: its front was read, and then some suffixes. -/
def Reaches (b : Bool) (c : Cursor) (e : Expr) (c' : Cursor) : Prop :=
  ∃ e₀ c₀, ReadsFront b c e₀ c₀ ∧ Cursor.Passes suffixStep e₀ c₀ e c'

/-- One suffix further. -/
theorem Reaches.step {e' : Expr} {c₁ : Cursor} (h : Reaches b c e c₁)
    (hs : suffixStep e c₁ = some (e', c')) : Reaches b c e' c' := by
  obtain ⟨e₀, c₀, hf, hp⟩ := h
  exact ⟨e₀, c₀, hf, hp.step hs⟩

/-- An argument behind others stands where it does, and the others stand in front of it. -/
theorem argsStand_concat (as : List Expr) (a : Expr) :
    ArgsStand (as ++ [a]) k ↔ ArgsStand as ([',', ' '] ++ a.chars ++ k) ∧ TypeStands a k := by
  have hstands : (Begins a ∧ Stands a k ∧ Ends a k) ↔ TypeStands a k :=
    ⟨fun h => ⟨h.1, h.2.1, h.2.2⟩, fun h => ⟨h.begins, h.stands, h.ends⟩⟩
  induction as with
  | nil => simp [ArgsStand, hstands]
  | cons b as ih =>
    simp only [List.cons_append, ArgsStand, ih, following_append, following_cons, following_nil,
      List.append_assoc, List.append_nil, and_assoc, List.nil_append]

/-- Behind a text that ends in a seam there is one. -/
theorem isSeam_previous?_concat {cs : List Char} {x : Char}
    (h : x ∈ [' ', ':', ',', '<', '>', '*', '&', '[', ']']) :
    Text.IsSeam (c.moved (cs ++ [x]) k).previous? := by
  rw [Cursor.previous?_moved_concat]
  exact isSeam_sign h

/-- Behind what separates components or arguments there is a seam. -/
theorem isSeam_previous?_separator {cs separator : List Char}
    (h : separator = [':', ':'] ∨ separator = [',', ' ']) :
    Text.IsSeam (c.moved (cs ++ separator) k).previous? := by
  rcases h with rfl | rfl
  · rw [List.append_cons]
    exact isSeam_previous?_concat (by simp)
  · rw [List.append_cons]
    exact isSeam_previous?_concat (by simp)

/-- Over the `::` in front of a further component. -/
theorem nextPart?_colons {cs : List Char} (hc : c.rest = ':' :: ':' :: cs)
    (h : ∀ x ∈ cs.head?, Text.isBlank x = false) :
    nextPart? false c = some (c.moved [':', ':'] cs) := by
  have hcolons : c.skip? "::" = some (c.moved [':', ':'] cs) := Cursor.skip?_of_append hc
  rw [nextPart?, if_neg (by decide), hcolons, Option.map_some, Cursor.skipBlank_eq_self h]

/-- **One more component**: if the components before it are read back and it is itself, the reader
comes from the first to behind the last. -/
theorem reaches_concat {ps : List Expr} {p : Expr} (hopens : Text.Opens p.chars)
    (ihps : ∀ {k}, c.rest = joined [':', ':'] ps ++ k → Text.IsSeam k.head? → PartsStand ps k →
      NoArguments (Text.dropBlank k) →
      ∃ c', ReachesParts b c ps c' ∧ c'.skipBlank = (c.moved (joined [':', ':'] ps) k).skipBlank)
    (ihp : ∀ {c k}, c.rest = p.chars ++ k → Text.IsSeam c.previous? → Text.IsSeam k.head? →
      Stands p k → ∃ c', ReadsName c p c' ∧ c'.skipBlank = (c.moved p.chars k).skipBlank)
    (hc : c.rest = joined [':', ':'] (ps ++ [p]) ++ k) (hp : Text.IsSeam c.previous?)
    (hk : Text.IsSeam k.head?) (hs : PartsStand (ps ++ [p]) k) :
    ∃ c₁ c₂ c₃, ReachesParts b c ps c₁ ∧ (b && endsArgument c₁.skipBlank) = false ∧
      nextPart? ps.isEmpty c₁.skipBlank = some c₂ ∧ ReadsName c₂ p c₃ ∧
        c₃.skipBlank = (c.moved (joined [':', ':'] (ps ++ [p])) k).skipBlank := by
  obtain ⟨hps, hstands⟩ := (partsStand_concat ps p).mp hs
  by_cases hn : ps = []
  · -- the first component stands at the cursor
    subst hn
    rw [List.nil_append, joined_singleton] at hc ⊢
    have hskip := Cursor.skipBlank_of_opens_append hc hopens
    obtain ⟨c₃, hname, hc₃⟩ := ihp hc hp hk hstands
    obtain ⟨x, tail, hx, -⟩ := hopens.exists_cons
    refine ⟨c, c, c₃, .start, ?_, ?_, hname, hc₃⟩
    · have hcomma : c.rest.head? ≠ some ',' := hc ▸ hopens.head?_ne (by decide) (by decide)
      have hangle : c.rest.head? ≠ some '>' := hc ▸ hopens.head?_ne (by decide) (by decide)
      rw [hskip, endsArgument, Cursor.current?, beq_eq_false_iff_ne.mpr hcomma,
        beq_eq_false_iff_ne.mpr hangle, Bool.or_false, Bool.and_false]
    · rw [hskip]
      simp [nextPart?, Cursor.atEnd, hc, hx]
  · -- the others stand behind those before them and `::`
    rw [joined_concat _ _ hn] at hc ⊢
    obtain ⟨c₁, hreach, hc₁⟩ := ihps (k := [':', ':'] ++ p.chars ++ k) (by rw [hc]; simp)
      (isSeam_sign (by simp)) hps (by simp [NoArguments, Text.dropBlank, Text.isBlank])
    have hskip : c₁.skipBlank = c.moved (joined [':', ':'] ps) ([':', ':'] ++ p.chars ++ k) := by
      rw [hc₁]
      exact Cursor.skipBlank_eq_self (by simp [Text.isBlank])
    obtain ⟨c₃, hname, hc₃⟩ := ihp
      (c := c.moved (joined [':', ':'] ps ++ [':', ':']) (p.chars ++ k)) rfl
      (isSeam_previous?_separator (Or.inl rfl)) hk hstands
    refine ⟨c₁, _, c₃, hreach, ?_, ?_, hname, by rw [hc₃, Cursor.moved_moved]⟩
    · rw [hskip]
      simp [endsArgument, Cursor.current?]
    · rw [hskip, List.isEmpty_eq_false_iff.mpr hn, nextPart?_colons rfl hopens.not_blank,
        Cursor.moved_moved]

/-- **One more argument**: if the arguments before it are read back and it is itself. -/
theorem reachesArgs_concat {as : List Expr} {a : Expr} (hopens : Text.Opens a.chars)
    (ihas : ∀ {k}, c.rest = joined [',', ' '] as ++ k → Text.IsSeam k.head? → ArgsStand as k →
      ∃ c', ReachesArgs c as c' ∧ c'.skipBlank = (c.moved (joined [',', ' '] as) k).skipBlank)
    (iha : ∀ {c k}, c.rest = a.chars ++ k → Text.IsSeam c.previous? → Text.IsSeam k.head? →
      TypeStands a k → ReadsType true c a (c.moved a.chars k).skipBlank)
    (hc : c.rest = joined [',', ' '] (as ++ [a]) ++ k) (hp : Text.IsSeam c.previous?)
    (hk : Text.IsSeam k.head?) (hs : ArgsStand (as ++ [a]) k) :
    ∃ c', ReachesArgs c (as ++ [a]) c' ∧
      c'.skipBlank = (c.moved (joined [',', ' '] (as ++ [a])) k).skipBlank := by
  obtain ⟨has, hstands⟩ := (argsStand_concat as a).mp hs
  by_cases hn : as = []
  · -- the first argument stands at the cursor
    subst hn
    rw [List.nil_append, joined_singleton] at hc ⊢
    have hskip := Cursor.skipBlank_of_opens_append hc hopens
    have hg : c.skip? ">" = none :=
      Cursor.skip?_eq_none (w := '>') rfl (hc ▸ hopens.head?_ne (by decide) (by decide))
    exact ⟨_, ReachesArgs.start.arg (by rw [hskip, hg]) (by rw [hskip]; rfl) (iha hc hp hk hstands),
      Cursor.skipBlank_skipBlank⟩
  · -- the others stand behind those before them, a comma and a blank
    rw [joined_concat _ _ hn] at hc ⊢
    obtain ⟨c₁, hreach, hc₁⟩ := ihas (k := [',', ' '] ++ a.chars ++ k) (by rw [hc]; simp)
      (isSeam_sign (by simp)) has
    have hskip : c₁.skipBlank = c.moved (joined [',', ' '] as) ([',', ' '] ++ a.chars ++ k) := by
      rw [hc₁]
      exact Cursor.skipBlank_eq_self (by simp [Text.isBlank])
    have hg : c₁.skipBlank.skip? ">" = none :=
      Cursor.skip?_eq_none (w := '>') rfl (by rw [hskip]; simp)
    have hnext : c₁.skipBlank.nextItem? as.isEmpty =
        some (c.moved (joined [',', ' '] as ++ [',', ' ']) (a.chars ++ k)) := by
      rw [hskip, List.isEmpty_eq_false_iff.mpr hn, Cursor.nextItem?_comma rfl hopens.not_blank,
        Cursor.moved_moved]
    have hread := iha (c := c.moved (joined [',', ' '] as ++ [',', ' ']) (a.chars ++ k)) rfl
      (isSeam_previous?_separator (Or.inr rfl)) hk hstands
    refine ⟨_, hreach.arg hg hnext hread, ?_⟩
    rw [Cursor.skipBlank_skipBlank, Cursor.moved_moved]

/-- The name of an operator is read back where its sign stands. -/
theorem readsName_sign {s : String} (h : Text.IsSign s)
    (hc : c.rest = (name ("operator" ++ s)).chars ++ k) (hp : Text.IsSeam c.previous?)
    (hs : NameStands ("operator" ++ s) k) :
    ReadsName c (.name ("operator" ++ s)) (c.moved (name ("operator" ++ s)).chars k) := by
  obtain ⟨x, w, hx, -, hblank, hseam⟩ := Text.exists_cons_of_isSign h
  rw [chars_name, String.toList_append] at hc ⊢
  rw [List.append_assoc] at hc
  have hi := Cursor.identifier?_of_seams hc (Or.inl isWord_operator) hp (by rw [hx]; exact hseam)
  have hskip : (c.moved "operator".toList (s.toList ++ k)).skipBlank =
      c.moved "operator".toList (s.toList ++ k) :=
    Cursor.skipBlank_eq_self (by
      rw [Cursor.rest_moved, hx]
      intro y hy
      obtain rfl := Option.some.inj hy
      exact hblank)
  -- A pair is found whatever follows; a sign of the table is found where no longer one is found.
  have hfound : Text.operatorSign? (s.toList ++ k) = some (s, s.toList, k) := by
    rcases h with hpair | hpair | htable
    · exact Text.operatorSign?_pair (Or.inl hpair)
    · exact Text.operatorSign?_pair (Or.inr hpair)
    · exact (Text.operatorSign?_append_iff htable).mpr (hs.sign s htable rfl)
  have hsign : (c.moved "operator".toList (s.toList ++ k)).operatorSign? =
      some (s, c.moved ("operator".toList ++ s.toList) k) := by
    rw [Cursor.operatorSign?_of_text hfound, Cursor.moved_moved]
  exact .sign hi (by rw [hskip, hsign])

/-- Behind `operator` and a blank. -/
theorem skipBlank_operator {cs : List Char} (hopens : Text.Opens cs) :
    (c.moved "operator".toList (' ' :: (cs ++ k))).skipBlank =
      c.moved ("operator".toList ++ [' ']) (cs ++ k) := by
  rw [Cursor.skipBlank_space rfl hopens.not_blank, Cursor.moved_moved]

/-- Behind `operator` a word is no sign. -/
theorem operatorSign?_of_opens {cs : List Char} (hc : c.rest = cs ++ k) (hopens : Text.Opens cs)
    (ht : cs.head? ≠ some '~') : c.operatorSign? = none := by
  obtain ⟨x, tail, rfl, hxw⟩ := hopens.exists_cons
  refine Cursor.operatorSign?_eq_none_iff.mpr (Text.operatorSign?_eq_none ?_)
  rw [hc]
  intro y hy
  obtain rfl := Option.some.inj hy
  exact hxw.resolve_left fun htilde => ht (by rw [htilde]; rfl)

/-- The name of an allocation operator is read back where no bracket opens behind it. -/
theorem readsName_allocation {a : Allocation} {isArray : Bool}
    (hc : c.rest = (name (a.operatorName isArray)).chars ++ k) (hp : Text.IsSeam c.previous?)
    (hk : Text.IsSeam k.head?) (hs : NameStands (a.operatorName isArray) k) :
    ReadsName c (.name (a.operatorName isArray))
      (c.moved (name (a.operatorName isArray)).chars k) := by
  have hword : Text.IsIdentifier a.keyword.toList := Or.inl a.isWord_keyword
  obtain ⟨back, hback⟩ : ∃ back, back = if isArray then ['[', ']'] else [] := ⟨_, rfl⟩
  rw [chars_name, Allocation.toList_operatorName, ← hback] at hc ⊢
  have hc' : c.rest = "operator".toList ++ (' ' :: (a.keyword.toList ++ (back ++ k))) := by
    rw [hc]
    simp
  have hi := Cursor.identifier?_of_seams hc' (Or.inl isWord_operator) hp (isSeam_sign (by simp))
  have hskip := skipBlank_operator (c := c) (k := back ++ k) hword.opens
  -- A keyword of an allocation begins with a letter, so no sign is found in its place.
  have hnone : (c.moved ("operator".toList ++ [' '])
      (a.keyword.toList ++ (back ++ k))).operatorSign? = none :=
    operatorSign?_of_opens rfl hword.opens (by cases a <;> decide)
  have hfound : (c.moved ("operator".toList ++ [' '])
      (a.keyword.toList ++ (back ++ k))).allocation? = some (.done (a.operatorName isArray)
        (c.moved ("operator".toList ++ ' ' :: (a.keyword.toList ++ back)) k)) := by
    rw [Cursor.allocation?_of_seams hback rfl (isSeam_previous?_concat (by simp)) hk
      (fun h => hs.allocation a (by rw [h])), Cursor.moved_moved, List.append_assoc]
    rfl
  rw [← hskip] at hnone hfound
  exact .allocation hi hnone hfound

/-- A conversion is read back where its target is. -/
theorem readsName_cast {t : Expr} (ht : IsType t)
    (ih : ∀ {c k}, c.rest = t.chars ++ k → Text.IsSeam c.previous? → Text.IsSeam k.head? →
      TypeStands t k → ReadsType false c t (c.moved t.chars k).skipBlank)
    (hc : c.rest = (cast t).chars ++ k) (hp : Text.IsSeam c.previous?) (hk : Text.IsSeam k.head?)
    (hs : Stands (.cast t) k) :
    ReadsName c (.cast t) (c.moved (cast t).chars k).skipBlank := by
  obtain ⟨htarget, hbegins, hstands, hends⟩ := hs
  have hopens := ht.opens
  have hskip := skipBlank_operator (c := c) (k := k) hopens
  rw [chars_cast] at hc ⊢
  have hc' : c.rest = "operator".toList ++ (' ' :: (t.chars ++ k)) := by
    rw [hc]
    simp
  have hi := Cursor.identifier?_of_seams hc' (Or.inl isWord_operator) hp (isSeam_sign (by simp))
  have hprev : Text.IsSeam (c.moved ("operator".toList ++ [' ']) (t.chars ++ k)).previous? :=
    isSeam_previous?_concat (by simp)
  have hsign : (c.moved ("operator".toList ++ [' ']) (t.chars ++ k)).operatorSign? = none :=
    operatorSign?_of_opens rfl hopens htarget.sign
  -- The first word of the type is no keyword of an allocation, and it ends at a seam.
  have halloc : (c.moved ("operator".toList ++ [' ']) (t.chars ++ k)).allocation? = none := by
    refine Cursor.allocation?_eq_none_iff.mpr fun a => ?_
    obtain ⟨tail, ht, hid, hseam⟩ := (hopens.append hk).exists_tail
    rw [hopens.leadingWord_append hk] at ht hid
    refine Cursor.keyword?_eq_none_of_ne (w := Text.leadingWord t.chars) (k := tail) ht hid
      a.isWord_keyword (fun he => htarget.allocation a ?_) hseam
    rw [opening, he, String.ofList_toList]
  have hread := ih (c := c.moved ("operator".toList ++ [' ']) (t.chars ++ k)) rfl hprev hk
    ⟨hbegins, hstands, hends⟩
  have htext : "operator".toList ++ [' '] ++ t.chars = "operator".toList ++ ' ' :: t.chars := by simp
  rw [Cursor.moved_moved, htext] at hread
  rw [← hskip] at hsign halloc hread
  exact .cast hi hsign halloc hread

/-! ### Types -/

/-- A type that is reached is read, if no suffix follows. -/
theorem readsType_of_reaches (h : ∃ c', Reaches b c e c' ∧ c'.skipBlank = (c.moved e.chars k).skipBlank)
    (hs : NoSuffix (Text.dropBlank k)) : ReadsType b c e (c.moved e.chars k).skipBlank := by
  obtain ⟨c', ⟨e₀, c₀, hf, hpass⟩, hc'⟩ := h
  have hstop : suffixStep e c' = none := suffixStep_eq_none (by rw [hc']; exact hs)
  rw [← hc']
  exact .intro hf hpass hstop

/-- Over one more suffix, written directly behind the type. -/
theorem reaches_suffix {e' : Expr} {taken : List Char}
    (h : ∃ c', Reaches b c e c' ∧ c'.skipBlank = (c.moved e.chars (taken ++ k)).skipBlank)
    (hb : ∀ x ∈ (taken ++ k).head?, Text.isBlank x = false)
    (hstep : ∀ c', c'.skipBlank.rest = taken ++ k →
      suffixStep e c' = some (e', c'.skipBlank.moved taken k))
    (hchars : e'.chars = e.chars ++ taken) :
    ∃ c', Reaches b c e' c' ∧ c'.skipBlank = (c.moved e'.chars k).skipBlank := by
  obtain ⟨c', hreach, hc'⟩ := h
  have hskip : (c.moved e.chars (taken ++ k)).skipBlank = c.moved e.chars (taken ++ k) :=
    Cursor.skipBlank_eq_self hb
  rw [hskip] at hc'
  -- behind the inner type no blank was written, so the suffix is found at once
  refine ⟨_, hreach.step (hstep c' (by rw [hc']; rfl)), ?_⟩
  rw [hc', Cursor.moved_moved, hchars]

/-- Over an array bound, which the text has to be read as. -/
theorem reaches_array {size : Option String} (hbound : ∀ s ∈ size, Text.IsBound s.toList)
    (hnone : size = none → Text.boundText? (']' :: k) = none)
    (h : ∃ c', Reaches b c e c' ∧
      c'.skipBlank = (c.moved e.chars ('[' :: (size.getD "").toList ++ ']' :: k)).skipBlank) :
    ∃ c', Reaches b c (.array e size) c' ∧
      c'.skipBlank = (c.moved (array e size).chars k).skipBlank := by
  obtain ⟨taken, htaken⟩ : ∃ taken, taken = '[' :: (size.getD "").toList ++ [']'] := ⟨_, rfl⟩
  have hk : '[' :: (size.getD "").toList ++ ']' :: k = taken ++ k := by simp [htaken]
  -- Without a bound the bracket must not be taken for one that closes further behind.
  have hread : Text.arrayBound? (taken ++ k) = some (size, k) := by
    rw [← hk]
    cases size with
    | none =>
      rw [Option.getD_none, String.toList_empty, List.cons_append, List.nil_append,
        Text.arrayBound?_empty, hnone rfl]
    | some s =>
      rw [Option.getD_some, Text.arrayBound?_bound (hbound s rfl), String.ofList_toList]
  rw [hk] at h
  refine reaches_suffix h ?_ (fun _ h => suffixStep_array h (by rw [htaken]; rfl) hread)
    (by rw [chars_array, htaken, List.append_assoc])
  rw [htaken]
  simp [Text.isBlank]

/-- Over a `const` behind a type, with the blank in front of it. -/
theorem reaches_const (hk : Text.IsSeam k.head?)
    (h : ∃ c', Reaches b c e c' ∧
      c'.skipBlank = (c.moved e.chars (' ' :: ("const".toList ++ k))).skipBlank) :
    ∃ c', Reaches b c (.const .after e) c' ∧
      c'.skipBlank = (c.moved (const .after e).chars k).skipBlank := by
  obtain ⟨c', hreach, hc'⟩ := h
  -- one blank stands in front of the `const`
  have hskip : c'.skipBlank = c.moved (e.chars ++ [' ']) ("const".toList ++ k) := by
    have hspace := Cursor.skipBlank_space (c := c.moved e.chars (' ' :: ("const".toList ++ k))) rfl
      (by simp [Text.isBlank])
    rw [Cursor.moved_moved] at hspace
    exact hc'.trans hspace
  have hkey : c'.skipBlank.keyword? "const" = some (c.moved (const .after e).chars k) := by
    rw [hskip, Cursor.keyword?_of_seams rfl (isSeam_previous?_concat (by simp)) hk,
      Cursor.moved_moved, chars_const_after, List.append_assoc]
    rfl
  exact ⟨_, hreach.step (suffixStep_const hkey), rfl⟩

/-- Where no `::` follows, components end. -/
theorem partsEnd_of_noComponent {ps : List Expr} (hn : ps ≠ []) (h : NoComponent c.skipBlank.rest) :
    PartsEnd b ps c := by
  refine Or.inr ?_
  have hnone : c.skipBlank.skip? "::" = none := by
    -- a separator that is found would stand there
    cases hs : c.skipBlank.skip? "::" with
    | none => rfl
    | some c' => exact absurd ⟨c'.rest, (Cursor.skip?_eq_some hs).1.symm⟩ h
  rw [nextPart?, if_neg (by simpa using hn), hnone]
  rfl

/-- Arguments and what stands around them make one component of all before them. -/
theorem reaches_template {ps args : List Expr} {p : Expr} {c₁ c₂ c₃ : Cursor}
    (hreach : ReachesParts b c ps c₁) (he : (b && endsArgument c₁.skipBlank) = false)
    (hn : nextPart? ps.isEmpty c₁.skipBlank = some c₂) (hname : ReadsName c₂ p c₃)
    (hc₃ : c₃.skipBlank = c.moved (joined [':', ':'] (ps ++ [p]))
      ('<' :: (joined [',', ' '] args ++ '>' :: k)))
    (ih : ∀ {c}, c.rest = joined [',', ' '] args ++ '>' :: k → Text.IsSeam c.previous? →
      ∃ c', ReachesArgs c args c' ∧
        c'.skipBlank = (c.moved (joined [',', ' '] args) ('>' :: k)).skipBlank) :
    ReachesParts b c [.template (ofParts (ps ++ [p])) args]
      (c.moved (template (ofParts (ps ++ [p])) args).chars k) := by
  have hopen : c₃.skipBlank.skip? "<" = some (c.moved (joined [':', ':'] (ps ++ [p]) ++ ['<'])
      (joined [',', ' '] args ++ '>' :: k)) := by
    rw [hc₃, Cursor.skip?_of_append (k := joined [',', ' '] args ++ '>' :: k) rfl,
      Cursor.moved_moved]
    rfl
  -- The arguments begin right behind `<` and end in front of `>`.
  obtain ⟨c₅, hargs, hc₅⟩ := ih (c := c.moved (joined [':', ':'] (ps ++ [p]) ++ ['<'])
    (joined [',', ' '] args ++ '>' :: k)) rfl (isSeam_previous?_concat (by simp))
  have hskip : c₅.skipBlank = c.moved (joined [':', ':'] (ps ++ [p]) ++ ['<'] ++
      joined [',', ' '] args) ('>' :: k) := by
    rw [hc₅, Cursor.moved_moved]
    exact Cursor.skipBlank_eq_self (by simp [Text.isBlank])
  have hclose : c₅.skipBlank.skip? ">" =
      some (c.moved (template (ofParts (ps ++ [p])) args).chars k) := by
    rw [hskip, Cursor.skip?_of_append (k := k) rfl, Cursor.moved_moved, chars_template,
      chars_ofParts]
    simp
  exact .template hreach he hn hname hopen hargs hclose

/-- **Components with words in front of them are read back** if no word of a type begins them. -/
theorem readsFront_parts {ws : List String} {ps : List Expr} (hw : ∀ w ∈ ws, w ∈ frontWords)
    (hps : IsParts ps) (hn : ps ≠ []) (hword : wordRule? (ofParts ps).opening = none)
    (ih : ∀ {c}, c.rest = joined [':', ':'] ps ++ k → Text.IsSeam c.previous? →
      ∃ c', ReachesParts b c ps c' ∧ c'.skipBlank = (c.moved (joined [':', ':'] ps) k).skipBlank)
    (hc : c.rest = (fronted ws (ofParts ps)).chars ++ k) (hp : Text.IsSeam c.previous?)
    (hk : Text.IsSeam k.head?) (hcomp : NoComponent (Text.dropBlank k)) :
    ∃ c', ReadsFront b c (fronted ws (ofParts ps)) c' ∧
      c'.skipBlank = (c.moved (fronted ws (ofParts ps)).chars k).skipBlank := by
  have hopens := hps.opens hn
  have hwords : ∀ w ∈ frontedWords ws, w ∈ frontWords := fun w hm => hw w (mem_frontedWords.mp hm)
  have hall := opens_wordsText (fun w hm => isWord_of_mem_frontWords (hwords w hm)) hopens
  rw [chars_fronted, chars_ofParts] at hc ⊢
  have hskip := Cursor.skipBlank_of_opens_append hc hall
  have hc' : c.rest = wordsText (frontedWords ws) ++ (joined [':', ':'] ps ++ k) := by
    rw [hc, List.append_assoc]
  -- between the words and the components
  obtain ⟨d, hd⟩ : ∃ d, d = c.moved (wordsText (frontedWords ws)) (joined [':', ':'] ps ++ k) :=
    ⟨_, rfl⟩
  have hprev : Text.IsSeam d.previous? := hd ▸ isSeam_previous?_wordsText hp
  obtain ⟨d', hi⟩ : ∃ d', d.identifier? = some ((ofParts ps).opening, d') := by
    rw [opening, chars_ofParts]
    exact Cursor.identifier?_of_opens (by rw [hd]; rfl) hopens hprev hk
  obtain ⟨hfront, hstart⟩ := wordRule?_eq_none_iff.mp hword
  have hlead : leadingWords c.skipBlank = (frontedWords ws, d) := by
    rw [hskip, hd]
    refine leadingWords_eq hwords hc' hp hopens.not_blank fun w c'' hw' => ?_
    rw [← hd, hi] at hw'
    obtain ⟨rfl, -⟩ := Prod.mk.inj (Option.some.inj hw')
    exact hfront
  have hbuiltin : builtinStart? d = none := builtinStart?_eq_none_iff.mpr fun w c'' hw' => by
    rw [hi] at hw'
    obtain ⟨rfl, -⟩ := Prod.mk.inj (Option.some.inj hw')
    exact hstart
  obtain ⟨c₂, hreach, hc₂⟩ := ih (c := d) (by rw [hd]; rfl) hprev
  have hend : PartsEnd b ps c₂ := partsEnd_of_noComponent hn (by rw [hc₂]; exact hcomp)
  refine ⟨_, fronted_frontedWords ws (ofParts ps) ▸
    ReadsFront.parts (skip?_of_opens hc hall) hlead hbuiltin hreach hend hn, ?_⟩
  rw [Cursor.skipBlank_skipBlank, hc₂, hd, Cursor.moved_moved]

/-- A component is no template. -/
theorem IsComponent.ne_template {head : Expr} {args : List Expr} :
    ¬ IsComponent (.template head args) := by
  intro h
  cases h

mutual

/-- **A name is read back** where it stands. -/
theorem IsComponent.readsName {c : Cursor} {k : List Char} {e : Expr} (h : IsComponent e)
    (hc : c.rest = e.chars ++ k) (hp : Text.IsSeam c.previous?) (hk : Text.IsSeam k.head?)
    (hs : Stands e k) :
    ∃ c', ReadsName c e c' ∧ c'.skipBlank = (c.moved e.chars k).skipBlank := by
  match h with
  | .word hword hne =>
    rw [chars_name] at hc ⊢
    exact ⟨_, .word (Cursor.identifier?_of_seams hc hword hp hk) hne, rfl⟩
  | .sign hsign => exact ⟨_, readsName_sign hsign hc hp hs, rfl⟩
  | .allocation a isArray => exact ⟨_, readsName_allocation hc hp hk hs, rfl⟩
  | .cast ht =>
    -- a target that stands in front of a text is read up to it
    have ih : ∀ {c k}, c.rest = _ ++ k → Text.IsSeam c.previous? → Text.IsSeam k.head? →
        TypeStands _ k → ReadsType false c _ (c.moved _ k).skipBlank := fun hc hp hk hs =>
      readsType_of_reaches (IsType.reaches ht hc hp hk hs.begins hs.stands hs.ends.follow)
        hs.ends.suffix
    exact ⟨_, readsName_cast ht ih hc hp hk hs, Cursor.skipBlank_skipBlank⟩

/-- **Components are read back** where they stand, unless arguments follow the last of them. -/
theorem IsParts.reachesParts {b : Bool} {c : Cursor} {k : List Char} {ps : List Expr}
    (h : IsParts ps) (hc : c.rest = joined [':', ':'] ps ++ k) (hp : Text.IsSeam c.previous?)
    (hk : Text.IsSeam k.head?) (hs : PartsStand ps k)
    (hl : NoArguments (Text.dropBlank k) ∨ ∃ head args, ps = [.template head args]) :
    ∃ c', ReachesParts b c ps c' ∧
      c'.skipBlank = (c.moved (joined [':', ':'] ps) k).skipBlank := by
  match h with
  | .nil =>
    refine ⟨c, .start, ?_⟩
    rw [joined_nil, Cursor.moved_nil_of_rest (k := k) hc]
  | @IsParts.part qs q hqs hq =>
    obtain ⟨c₁, c₂, c₃, hreach, he, hn, hname, hc₃⟩ := reaches_concat hq.opens
      (fun hc hk hs hl => IsParts.reachesParts hqs hc hp hk hs (Or.inl hl))
      (fun hc hp hk hs => IsComponent.readsName hq hc hp hk hs) hc hp hk hs
    have hangle : NoArguments (Text.dropBlank k) := by
      refine hl.resolve_right ?_
      rintro ⟨head, args, heq⟩
      have hlast := congrArg List.getLast? heq
      rw [List.getLast?_concat] at hlast
      obtain rfl : q = .template head args := Option.some.inj hlast
      exact hq.ne_template
    refine ⟨c₃, hreach.part he hn hname ?_, hc₃⟩
    -- No `<` stands behind, for it would open arguments.
    cases hs : c₃.skipBlank.skip? "<" with
    | none => rfl
    | some c₄ =>
      refine absurd ?_ hangle
      have hr := (Cursor.skip?_eq_some hs).1
      rw [hc₃] at hr
      exact ⟨c₄.rest, hr.symm⟩
  | @IsParts.template qs args q hqs hq ha =>
    rw [joined_singleton, chars_template, chars_ofParts] at hc
    have hc' : c.rest = joined [':', ':'] (qs ++ [q]) ++
        '<' :: (joined [',', ' '] args ++ '>' :: k) := by
      rw [hc]
      simp
    obtain ⟨⟨hhead, hargs⟩, -⟩ := hs
    rw [stands_ofParts] at hhead
    obtain ⟨c₁, c₂, c₃, hreach, he, hn, hname, hc₃⟩ := reaches_concat hq.opens
      (fun hc hk hs hl => IsParts.reachesParts hqs hc hp hk hs (Or.inl hl))
      (fun hc hp hk hs => IsComponent.readsName hq hc hp hk hs) hc' hp (isSeam_sign (by simp)) hhead
    have hskip : c₃.skipBlank = _ := hc₃.trans (Cursor.skipBlank_eq_self (by simp [Text.isBlank]))
    -- With arguments the components are put together into one.
    refine ⟨_, reaches_template hreach he hn hname hskip
      (fun hc hp => IsArgs.reachesArgs ha hc hp (isSeam_sign (by simp)) hargs), ?_⟩
    rw [joined_singleton]

/-- **Arguments are read back** where they stand. -/
theorem IsArgs.reachesArgs {c : Cursor} {k : List Char} {as : List Expr}
    (h : IsArgs as) (hc : c.rest = joined [',', ' '] as ++ k) (hp : Text.IsSeam c.previous?)
    (hk : Text.IsSeam k.head?) (hs : ArgsStand as k) :
    ∃ c', ReachesArgs c as c' ∧
      c'.skipBlank = (c.moved (joined [',', ' '] as) k).skipBlank := by
  match h with
  | .nil =>
    refine ⟨c, .start, ?_⟩
    rw [joined_nil, Cursor.moved_nil_of_rest (k := k) hc]
  | .arg has ht =>
    -- every argument is read up to the comma or the angle behind it, where no suffix begins
    have ih : ∀ {c k}, c.rest = _ ++ k → Text.IsSeam c.previous? → Text.IsSeam k.head? →
        TypeStands _ k → ReadsType true c _ (c.moved _ k).skipBlank := fun hc hp hk hs =>
      readsType_of_reaches (IsType.reaches ht hc hp hk hs.begins hs.stands hs.ends.follow)
        hs.ends.suffix
    exact reachesArgs_concat ht.opens (fun hc hk hs => IsArgs.reachesArgs has hc hp hk hs)
      ih hc hp hk hs

/-- What stands before the suffixes is read back. -/
theorem IsFront.readsFront {b : Bool} {c : Cursor} {k : List Char} {e : Expr} (h : IsFront e)
    (hc : c.rest = e.chars ++ k) (hp : Text.IsSeam c.previous?) (hk : Text.IsSeam k.head?)
    (hb : Begins e) (hs : Stands e k) (hf : Follow e (Text.dropBlank k)) :
    ∃ c', ReadsFront b c e c' ∧ c'.skipBlank = (c.moved e.chars k).skipBlank := by
  match h with
  | .builtin hw hr => exact ⟨_, readsFront_builtin hw hr hc hp hk hf, rfl⟩
  | @IsFront.parts ws ps hw hps hn =>
    by_cases hlong : ofParts ps = .name "long"
    · -- a single `long` is read as a run
      have hsame : fronted ws (.name "long") = builtinFront (ws ++ ["long"]) := by
        have hsplit : splitBuiltin ["long"] = ([], "long") := by decide
        rw [builtinFront_append hw (.intro (by decide) .nil) hsplit, List.append_nil]
        rfl
      rw [hlong, hsame] at hc hf ⊢
      exact ⟨_, readsFront_builtin hw (.intro (by decide) .nil) hc hp hk hf, rfl⟩
    · rw [fronted, follow_underWords fun w hm => hw w (List.mem_of_mem_erase hm)] at hf
      rw [fronted, stands_underWords, stands_ofParts] at hs
      obtain ⟨hcomp, hl⟩ := (follow_ofParts_iff hps hlong).mp hf
      have hname := declaredName_of_isPrimary hps.isPrimary_ofParts
      -- the components do not begin with the word of a run, or they would be read as one
      have hword : wordRule? (ofParts ps).opening = none := by
        rw [Begins, fronted, declaredName_underWords, hname] at hb
        exact hb.resolve_left hlong
      exact readsFront_parts hw hps hn hword
        (fun hc hp => IsParts.reachesParts hps hc hp hk hs hl) hc hp hk hcomp

/-- A type is reached before the suffixes that follow it. -/
theorem IsType.reaches {b : Bool} {c : Cursor} {k : List Char} {e : Expr} (h : IsType e)
    (hc : c.rest = e.chars ++ k) (hp : Text.IsSeam c.previous?) (hk : Text.IsSeam k.head?)
    (hb : Begins e) (hs : Stands e k) (hf : Follow e (Text.dropBlank k)) :
    ∃ c', Reaches b c e c' ∧ c'.skipBlank = (c.moved e.chars k).skipBlank := by
  match h with
  | .front he =>
    obtain ⟨c', hread, hc'⟩ := IsFront.readsFront he hc hp hk hb hs hf
    exact ⟨c', ⟨e, c', hread, .start⟩, hc'⟩
  | @IsType.pointer e he =>
    rw [chars_pointer, List.append_assoc] at hc
    exact reaches_suffix (IsType.reaches he hc hp (isSeam_sign (by simp)) hb hs
      (follow_of_head (by decide) e)) (by simp [Text.isBlank]) (fun _ h => suffixStep_pointer h)
      (chars_pointer e)
  | @IsType.reference e he =>
    rw [chars_reference, List.append_assoc] at hc
    exact reaches_suffix (IsType.reaches he hc hp (isSeam_sign (by simp)) hb hs
      (follow_of_head (by decide) e)) (by simp [Text.isBlank]) (fun _ h => suffixStep_reference h)
      (chars_reference e)
  | @IsType.array e size he hbound =>
    -- Only an array asks something of the text behind its bracket.
    obtain ⟨hs, hnone⟩ := hs
    have hc' : c.rest = e.chars ++ ('[' :: (size.getD "").toList ++ ']' :: k) := by
      rw [hc, chars_array]
      simp
    exact reaches_array hbound hnone (IsType.reaches he hc' hp (isSeam_sign (by simp)) hb hs
      (follow_of_head (x := '[') (by decide) e))
  | @IsType.const e he =>
    rw [chars_const_after, List.append_assoc] at hc
    exact reaches_const hk (IsType.reaches he hc hp (isSeam_sign (by simp)) hb hs
      (follow_of_head (by decide) e))

end

/-- **A type is read back** where it stands, and reading stops behind it. -/
theorem IsType.readsType (h : IsType e) (hc : c.rest = e.chars ++ k) (hp : Text.IsSeam c.previous?)
    (hk : Text.IsSeam k.head?) (hs : TypeStands e k) :
    ReadsType b c e (c.moved e.chars k).skipBlank :=
  readsType_of_reaches (h.reaches hc hp hk hs.begins hs.stands hs.ends.follow) hs.ends.suffix

end CppIndex.Expr
