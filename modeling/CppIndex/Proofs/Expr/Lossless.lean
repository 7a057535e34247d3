import CppIndex.Proofs.Cursor.Place
import CppIndex.Proofs.Expr.PlainText
import CppIndex.Proofs.Text.Layout

/-!
# Nothing is lost and nothing is invented

The canonical text of a tree has blanks of its own. Apart from them, three things can make it another text than
the one that was read: words in front of a type are put into an order, a run of built-in words is split into
its base and the rest, and a leading `::` leaves no trace. A text in which none of this can happen is **kept**
(`Text.IsKept`): its words stay in place, and no `::` stands where a type begins.

Of such a text every solid character is written again, once and in order (`Expr.solid_render_of_parse`). The
proof goes along how the tree was read: what was read of a text is written, and the rest is left
(`Expr.ReadsType.solid_rest`).
-/

namespace CppIndex

/-- The words that are not always written where they are read. -/
def Expr.movingWords : List String :=
  ["volatile", "register", "mutable", "typename", "unsigned", "signed", "short", "long"]

namespace Text

variable {cs blanks : List Char}

/-- A type may begin **directly** behind a text that is empty or ends in an opening angle, a comma or the word
`operator`. -/
def OpensDirectly (cs : List Char) : Prop :=
  cs = [] ∨ ['<'] <:+ cs ∨ [','] <:+ cs ∨
    ∃ front, cs = front ++ "operator".toList ∧ front.getLast?.any isWordChar = false

/-- **A type may begin** behind a text, directly or with nothing but blanks in between. Blanks at the beginning
count as such, too, because a text is trimmed before it is read. -/
def OpensType (cs : List Char) : Prop :=
  ∃ front blanks, cs = front ++ blanks ∧ (∀ x ∈ blanks, isBlank x = true) ∧ OpensDirectly front

/-- **A text is kept** if none of its words moves and no `::` stands where a type may begin. -/
structure IsKept (cs : List Char) : Prop where
  /-- No word stands in it that is not always written in its place. -/
  words : ∀ w ∈ Expr.movingWords, ¬ HoldsWord cs w.toList
  /-- In front of every `::` there is something else than the beginning of a type. -/
  roots : ∀ front back, cs = front ++ "::".toList ++ back → ¬ OpensType front

theorem OpensDirectly.opensType (h : OpensDirectly cs) : OpensType cs :=
  ⟨cs, [], (List.append_nil cs).symm, by simp, h⟩

theorem OpensType.append_blanks (h : OpensType cs) (hb : ∀ x ∈ blanks, isBlank x = true) :
    OpensType (cs ++ blanks) := by
  obtain ⟨front, blanks', rfl, hb', hfront⟩ := h
  refine ⟨front, blanks' ++ blanks, List.append_assoc _ _ _, fun x hx => ?_, hfront⟩
  exact (List.mem_append.mp hx).elim (hb' x) (hb x)

theorem OpensType.blanks_append (h : OpensType cs) (hb : ∀ x ∈ blanks, isBlank x = true) :
    OpensType (blanks ++ cs) := by
  obtain ⟨front, blanks', rfl, hb', hfront⟩ := h
  -- Only where nothing stood in front of the blanks do the new ones join them.
  rcases hfront with rfl | hfront | hfront | ⟨k, rfl, hk⟩
  · refine ⟨[], blanks ++ blanks', rfl, fun x hx => ?_, Or.inl rfl⟩
    exact (List.mem_append.mp hx).elim (hb x) (hb' x)
  · exact ⟨blanks ++ front, blanks', (List.append_assoc _ _ _).symm, hb',
      Or.inr (Or.inl (List.suffix_append_of_suffix hfront))⟩
  · exact ⟨blanks ++ front, blanks', (List.append_assoc _ _ _).symm, hb',
      Or.inr (Or.inr (Or.inl (List.suffix_append_of_suffix hfront)))⟩
  · refine ⟨blanks ++ (k ++ "operator".toList), blanks', (List.append_assoc _ _ _).symm, hb',
      Or.inr (Or.inr (Or.inr ⟨blanks ++ k, (List.append_assoc _ _ _).symm, ?_⟩))⟩
    exact getLast?_any_blanks_append hb hk

/-- **A criterion**: no word that moves occurs at all, and in front of every `::` stands a character with which
nothing ends behind which a type may begin. -/
theorem isKept_of_take (hw : ∀ w ∈ Expr.movingWords, ¬ w.toList <:+: cs)
    (hroots : ∀ n < cs.length, "::".toList <+: cs.drop n →
      (cs.take n).getLast?.any (fun x => !isBlank x && !(['<', ',', 'r'].contains x)) = true) :
    IsKept cs := by
  refine ⟨fun w hm hholds => hw w hm ?_, fun front back hcs hopens => ?_⟩
  · obtain ⟨first, last, hcs, -, -⟩ := hholds
    exact ⟨first, last, hcs.symm⟩
  · have hlast := hroots front.length (by simp [hcs]) ⟨back, by simp [hcs]⟩
    have htake : cs.take front.length = front := by simp [hcs]
    rw [htake] at hlast
    obtain ⟨first, blanks, rfl, hblanks, hdirectly⟩ := hopens
    -- a blank behind the place would be the last character
    obtain rfl : blanks = [] := by
      refine List.eq_nil_iff_forall_not_mem.mpr fun y hy => ?_
      obtain ⟨x, hx⟩ : ∃ x, blanks.getLast? = some x :=
        ⟨_, List.getLast?_eq_some_getLast (List.ne_nil_of_mem hy)⟩
      rw [List.getLast?_append, hx] at hlast
      simp [hblanks x (List.mem_of_getLast? hx)] at hlast
    rw [List.append_nil] at hlast
    rcases hdirectly with rfl | ⟨k, rfl⟩ | ⟨k, rfl⟩ | ⟨k, rfl, -⟩
    · cases hlast
    · simp at hlast
    · simp at hlast
    · simp at hlast

/-- Trimming keeps what is kept. -/
theorem IsKept.trim (h : IsKept cs) : IsKept (trim cs) := by
  obtain ⟨front, back, hcs, hf, hb⟩ := exists_blanks_trim cs
  refine ⟨fun w hw hholds => h.words w hw ?_, fun first last htrim hopens => ?_⟩
  · rw [hcs]
    exact hholds.of_blanks hf hb
  · refine h.roots (front ++ first) (last ++ back) ?_ (hopens.blanks_append hf)
    rw [hcs, htrim]
    simp only [List.append_assoc]

end Text

open Text (solid)

namespace Cursor

variable {c c' : Cursor}

/-! ### Where a type begins -/

/-- **A type may begin** at a cursor. -/
def AtType (c : Cursor) : Prop := Text.OpensType c.before.reverse

/-- At the beginning of a text a type may begin. -/
theorem atType_ofText (text : String) : (ofText text).AtType :=
  Text.OpensDirectly.opensType (Or.inl rfl)

theorem AtType.skipBlank (h : c.AtType) : c.skipBlank.AtType := by
  have hbefore : c.skipBlank.before.reverse = c.before.reverse ++ c.rest.takeWhile Text.isBlank := by
    simp [Cursor.skipBlank, moved]
  rw [AtType, hbefore]
  exact h.append_blanks (List.all_eq_true.mp List.all_takeWhile)

/-- Behind an opening angle and behind a comma a type may begin. -/
theorem atType_of_skip? {word : String} (h : c.skip? word = some c')
    (hw : word.toList = ['<'] ∨ word.toList = [',']) : c'.AtType := by
  -- the sign is the last that was read
  have hbefore : c'.before.reverse = c.before.reverse ++ word.toList := by
    rw [(skip?_eq_some h).2]
    simp [moved]
  refine Text.OpensDirectly.opensType ?_
  rw [hbefore]
  rcases hw with hw | hw
  · exact Or.inr (Or.inl (hw ▸ List.suffix_append _ _))
  · exact Or.inr (Or.inr (Or.inl (hw ▸ List.suffix_append _ _)))

/-- Behind the word `operator` a type may begin. -/
theorem atType_of_operator (h : c.identifier? = some ("operator", c')) : c'.AtType := by
  have hbefore : c'.before.reverse = c.before.reverse ++ "operator".toList := by
    rw [(identifier?_eq_some h).2.2.1]
    simp [moved]
  refine Text.OpensDirectly.opensType (Or.inr (Or.inr (Or.inr ⟨c.before.reverse, hbefore, ?_⟩)))
  rw [List.getLast?_reverse]
  exact previous?_of_identifier? Expr.isWord_operator h

/-- In a text that is kept no `::` stands where a type may begin. -/
theorem AtType.skip?_root (h : c.AtType) (hc : Text.IsKept c.text.toList) :
    c.skipBlank.skip? "::" = none := by
  cases hs : c.skipBlank.skip? "::" with
  | none => rfl
  | some c₁ =>
    refine absurd h.skipBlank (hc.roots _ c₁.rest ?_)
    have hrest := (skip?_eq_some hs).1
    rw [← text_skipBlank, text, String.toList_ofList, hrest, List.append_assoc]

theorem Leads.isKept (h : c.Leads c') (hc : Text.IsKept c.text.toList) :
    Text.IsKept c'.text.toList := h.text_eq ▸ hc

/-! ### Lexemes -/

/-- Behind blanks, what is taken and what is left are all solid characters. -/
theorem solid_rest_of_skipBlank {taken : List Char} (h : c.skipBlank.rest = taken ++ c'.rest) :
    solid c.rest = solid taken ++ solid c'.rest := by
  rw [← Text.solid_append, ← h, rest_skipBlank, Text.solid_dropBlank]

/-- The blanks inside a pair are not written. -/
theorem solid_operatorSign? {s : String} (h : c.skipBlank.operatorSign? = some (s, c')) :
    solid c.rest = solid s.toList ++ solid c'.rest := by
  obtain ⟨taken, ht, hr, -⟩ := operatorSign?_eq_some h
  -- only blanks inside a pair are lost
  have hsign : solid taken = solid s.toList := by
    rcases (Text.operatorSign?_eq_some ht).2.2 with rfl | ⟨-, x, y, blanks, hblanks, hs, rfl⟩
    · rfl
    · rw [hs, List.cons_append, ← List.singleton_append, Text.solid_append, Text.solid_append,
        Text.solid_of_blanks hblanks, List.nil_append, ← Text.solid_append]
      rfl
  rw [solid_rest_of_skipBlank hr, hsign]

theorem solid_allocation? {s : String} (h : c.skipBlank.allocation? = some (.done s c')) :
    solid "operator".toList ++ solid c.rest = solid s.toList ++ solid c'.rest := by
  obtain ⟨a, isArray, c₁, rfl, hk, hb⟩ := allocation?_eq_some h
  rw [solid_rest_of_skipBlank (keyword?_eq_some hk).1, Allocation.toList_operatorName,
    Text.solid_append, Text.solid_space_cons, Text.solid_append]
  -- with brackets, the blanks between them and in front of them are lost
  cases isArray with
  | false =>
    obtain ⟨-, rfl⟩ : c₁.skipBlank.skip? "[" = none ∧ c' = c₁ := hb
    rw [if_neg (by decide), Text.solid_nil, List.append_nil, List.append_assoc]
  | true =>
    obtain ⟨c₂, hopen, hclose⟩ := hb
    have hpair : solid ['[', ']'] = solid "[".toList ++ solid "]".toList := by decide
    rw [solid_rest_of_skipBlank (skip?_eq_some hopen).1, solid_rest_of_skipBlank (skip?_eq_some hclose).1,
      if_pos rfl, hpair]
    simp only [List.append_assoc]

/-- The blanks around a bound are not written. -/
theorem solid_arrayBound? {size : Option String} (h : c.skipBlank.arrayBound? = some (size, c')) :
    solid c.rest = solid ('[' :: (size.getD "").toList ++ [']']) ++ solid c'.rest := by
  obtain ⟨hread, -⟩ := arrayBound?_eq_some h
  obtain ⟨-, front, back, hfront, hback, hr⟩ := Text.arrayBound?_eq_some hread
  have hsolid : Text.isBlank '[' = false ∧ Text.isBlank ']' = false := by decide
  -- the blanks around the bound are lost, and nothing else
  have hrest := congrArg solid hr
  rw [rest_skipBlank, Text.solid_dropBlank] at hrest
  rw [hrest]
  simp only [List.cons_append, Text.solid_append, Text.solid_cons_of_not_blank hsolid.1,
    Text.solid_cons_of_not_blank hsolid.2, Text.solid_of_blanks hfront, Text.solid_of_blanks hback,
    Text.solid_nil, List.nil_append, List.append_assoc]

end Cursor

namespace Expr

variable {c c' : Cursor}

/-! ### Words and suffixes -/

/-- Of a text that is kept, no word is read that moves. -/
theorem not_mem_movingWords {w : String} (hc : Text.IsKept c.text.toList)
    (h : c.identifier? = some (w, c')) : w ∉ movingWords := by
  intro hw
  have hword : ∀ w ∈ movingWords, (Text.splitTilde w.toList).2 = w.toList := by decide
  refine hc.words w hw ?_
  rw [← hword w hw]
  exact Cursor.holdsWord_of_identifier? h

/-- **The words in front of a type**, read from a text that is kept. -/
theorem solid_of_passes_leadingStep {ws : List String} (hc : Text.IsKept c.text.toList)
    (h : Cursor.Passes leadingStep [] c ws c') :
    (∀ w ∈ ws, w = "const") ∧ solid c.rest = solid (wordsText ws) ++ solid c'.rest := by
  induction h with
  | start => exact ⟨by simp, rfl⟩
  | @step ws ws' c₁ c₂ hp hs ih =>
    obtain ⟨hconst, hsolid⟩ := ih
    obtain ⟨w, hw, hi, rfl⟩ := leadingStep_eq_some hs
    have hleads := (hp.leads leads_of_leadingStep).trans (Cursor.leads_skipBlank c₁)
    refine ⟨fun v hv => ?_, ?_⟩
    · rcases List.mem_append.mp hv with hv | hv
      · exact hconst v hv
      -- Every other word of this kind moves, and a kept text has none of those.
      · obtain rfl := List.mem_singleton.mp hv
        have hall : ∀ w ∈ frontWords, w = "const" ∨ w ∈ movingWords := by decide
        exact (hall v hw).resolve_right (not_mem_movingWords (hleads.isKept hc) hi)
    · rw [hsolid, Cursor.solid_rest_of_skipBlank (Cursor.identifier?_eq_some hi).2.1]
      simp only [wordsText_append, wordsText_cons, wordsText_nil, Text.solid_append,
        Text.solid_space_cons, Text.solid_nil, List.append_nil, List.append_assoc]

theorem solid_leadingWords {ws : List String} (hc : Text.IsKept c.text.toList)
    (h : leadingWords c = (ws, c')) :
    (∀ w ∈ ws, w = "const") ∧ solid c.rest = solid (wordsText ws) ++ solid c'.rest := by
  have hpass := solid_of_passes_leadingStep hc (Cursor.passes_repeated progresses_leadingStep [] c).1
  simp only [leadingWords, Prod.mk.injEq] at h
  obtain ⟨rfl, rfl⟩ := h
  rwa [Cursor.rest_skipBlank, Text.solid_dropBlank]

/-- Words of which each is `const` are written as they are read. -/
theorem chars_fronted_of_const {ws : List String} (h : ∀ w ∈ ws, w = "const") (e : Expr) :
    (fronted ws e).chars = wordsText ws ++ e.chars := by
  -- a list of `const` alone is the same list once one of them is moved to its front
  have hself : frontedWords ws = ws := by
    cases ws with
    | nil => rfl
    | cons w ws =>
      obtain rfl := h w List.mem_cons_self
      simp [frontedWords]
  rw [chars_fronted, hself]

/-- **Suffixes** are written as they are read. -/
theorem solid_of_passes_suffixStep {e₀ e : Expr} (h : Cursor.Passes suffixStep e₀ c e c') :
    solid e₀.chars ++ solid c.rest = solid e.chars ++ solid c'.rest := by
  induction h with
  | start => rfl
  | step _ hs ih =>
    rw [ih]
    -- each suffix moves its own characters from the text that is left to the end of the tree
    rcases suffixStep_eq_some hs with ⟨hk, rfl⟩ | ⟨hp, rfl⟩ | ⟨size, ha, rfl⟩ | ⟨hr, rfl⟩
    · rw [Cursor.solid_rest_of_skipBlank (Cursor.keyword?_eq_some hk).1, chars_const_after,
        Text.solid_append, Text.solid_space_cons, List.append_assoc]
    · rw [Cursor.solid_rest_of_skipBlank (Cursor.skip?_eq_some hp).1, chars_pointer,
        Text.solid_append, List.append_assoc]
      rfl
    · rw [Cursor.solid_arrayBound? ha, chars_array]
      simp only [Text.solid_append, List.append_assoc]
    · rw [Cursor.solid_rest_of_skipBlank (Cursor.skip?_eq_some hr).1, chars_reference,
        Text.solid_append, List.append_assoc]
      rfl

/-! ### Lists -/

/-- **One more member** of a list is written behind the others, with what stands between them if there are
any. -/
theorem solid_joined_concat {sep : List Char} {es : List Expr} {e : Expr} {c₁ c₂ : Cursor}
    (hn : solid c₁.rest = (if es.isEmpty then [] else solid sep) ++ solid c₂.rest)
    (hes : solid c.rest = solid (joined sep es) ++ solid c₁.rest)
    (he : solid c₂.rest = solid e.chars ++ solid c'.rest) :
    solid c.rest = solid (joined sep (es ++ [e])) ++ solid c'.rest := by
  rw [hes, hn, he]
  -- the separator stands in front of every member but the first
  cases es with
  | nil => rw [List.nil_append, joined_singleton, joined_nil, Text.solid_nil]; rfl
  | cons f fs =>
    rw [joined_concat sep e (List.cons_ne_nil f fs), Text.solid_append, Text.solid_append,
      List.isEmpty_cons, if_neg (by decide)]
    simp only [List.append_assoc]

/-- What stands in front of the next component. -/
theorem solid_nextPart? {isFirst : Bool} (hn : nextPart? isFirst c.skipBlank = some c') :
    solid c.rest = (if isFirst then [] else solid [':', ':']) ++ solid c'.rest := by
  rcases nextPart?_eq_some hn with ⟨rfl, -, rfl⟩ | ⟨rfl, d, hd, rfl⟩
  · rw [Cursor.rest_skipBlank, Text.solid_dropBlank]
    rfl
  · rw [Cursor.solid_rest_of_skipBlank (Cursor.skip?_eq_some hd).1, Cursor.rest_skipBlank,
      Text.solid_dropBlank]
    rfl

/-- What stands in front of the next argument. -/
theorem solid_nextItem? {isFirst : Bool} (hn : c.skipBlank.nextItem? isFirst = some c') :
    solid c.rest = (if isFirst then [] else solid [',', ' ']) ++ solid c'.rest := by
  rcases Cursor.nextItem?_eq_some hn with ⟨rfl, rfl⟩ | ⟨rfl, d, hd, rfl⟩
  · rw [Cursor.rest_skipBlank, Text.solid_dropBlank]
    rfl
  · have hcomma : solid ",".toList = solid [',', ' '] := by decide
    rw [Cursor.solid_rest_of_skipBlank (Cursor.skip?_eq_some hd).1, Cursor.rest_skipBlank,
      Text.solid_dropBlank, hcomma]
    rfl

/-- Where the next argument begins, a type may begin. -/
theorem atType_of_nextItem? {isFirst : Bool} {c₀ : Cursor} (hfirst : isFirst = true → c.AtType)
    (hn : c.skipBlank.nextItem? isFirst = some c₀) : c₀.AtType := by
  rcases Cursor.nextItem?_eq_some hn with ⟨hf, rfl⟩ | ⟨-, d, hd, rfl⟩
  · exact (hfirst hf).skipBlank
  · exact (Cursor.atType_of_skip? hd (Or.inr rfl)).skipBlank

/-! ### Types -/

mutual

/-- What is read as a name is written, and the rest is left. -/
theorem ReadsName.solid_rest {c c' : Cursor} {e : Expr} (hc : Text.IsKept c.text.toList)
    (h : ReadsName c e c') : solid c.rest = solid e.chars ++ solid c'.rest := by
  have hword : ∀ {w c₁}, c.identifier? = some (w, c₁) →
      solid c.rest = solid w.toList ++ solid c₁.rest := fun hi => by
    rw [← Text.solid_append, ← (Cursor.identifier?_eq_some hi).2.1]
  match h with
  | .word hi _ => rw [hword hi, chars_name]
  | .sign hi hs =>
    rw [hword hi, Cursor.solid_operatorSign? hs, chars_name, String.toList_append, Text.solid_append,
      List.append_assoc]
  | .allocation hi _ ha => rw [hword hi, Cursor.solid_allocation? ha, chars_name]
  | @ReadsName.cast _ c₁ _ _ hi _ _ ht =>
    -- the word `operator` opens the place of a type
    have hleads := (Cursor.leads_of_identifier? hi).trans (Cursor.leads_skipBlank c₁)
    have htype := ReadsType.solid_rest (hleads.isKept hc) (Cursor.atType_of_operator hi).skipBlank ht
    rw [Cursor.rest_skipBlank, Text.solid_dropBlank] at htype
    rw [hword hi, htype, chars_cast, Text.solid_append, Text.solid_space_cons, List.append_assoc]

theorem ReachesParts.solid_rest {b : Bool} {c c' : Cursor} {ps : List Expr}
    (hc : Text.IsKept c.text.toList) (h : ReachesParts b c ps c') :
    solid c.rest = solid (joined [':', ':'] ps) ++ solid c'.rest := by
  match h with
  | .start => rfl
  | .part hps _ hn hp _ =>
    have hleads := (ReachesParts.leads hps).trans (leads_to_part hn)
    exact solid_joined_concat (solid_nextPart? hn) (ReachesParts.solid_rest hc hps)
      (ReadsName.solid_rest (hleads.isKept hc) hp)
  | @ReachesParts.template _ _ _ _ c₃ _ _ _ ps args p hps _ hn hp hl ha hg =>
    have hleads := (ReachesParts.leads hps).trans (leads_to_part hn)
    have hparts := solid_joined_concat (solid_nextPart? hn) (ReachesParts.solid_rest hc hps)
      (ReadsName.solid_rest (hleads.isKept hc) hp)
    have hopen := (hleads.trans (ReadsName.leads hp)).trans <| (Cursor.leads_skipBlank c₃).trans
      (Cursor.leads_of_skip? hl)
    -- Behind `<` a type may begin, and the text is still kept there.
    have hargs := ReachesArgs.solid_rest (hopen.isKept hc) (Cursor.atType_of_skip? hl (Or.inl rfl)) ha
    rw [hparts, Cursor.solid_rest_of_skipBlank (Cursor.skip?_eq_some hl).1, hargs,
      Cursor.solid_rest_of_skipBlank (Cursor.skip?_eq_some hg).1, joined_singleton,
      chars_template_ofParts]
    simp only [Text.solid_append, List.append_assoc]

theorem ReachesArgs.solid_rest {c c' : Cursor} {as : List Expr} (hc : Text.IsKept c.text.toList)
    (hat : c.AtType) (h : ReachesArgs c as c') :
    solid c.rest = solid (joined [',', ' '] as) ++ solid c'.rest := by
  match h with
  | .start => rfl
  | @ReachesArgs.arg _ c₁ _ _ as _ has _ hn ht =>
    have hleads := (ReachesArgs.leads has).trans <| (Cursor.leads_skipBlank c₁).trans
      (Cursor.leads_of_nextItem? hn)
    -- The first argument stands behind `<`, every other one behind a comma.
    have hfirst : as.isEmpty = true → c₁.AtType := fun hempty => by
      cases has with
      | start => exact hat
      | arg => simp at hempty
    exact solid_joined_concat (solid_nextItem? hn) (ReachesArgs.solid_rest hc hat has)
      (ReadsType.solid_rest (hleads.isKept hc) (atType_of_nextItem? hfirst hn) ht)

theorem ReadsFront.solid_rest {b : Bool} {c c' : Cursor} {e : Expr} (hc : Text.IsKept c.text.toList)
    (hat : c.AtType) (h : ReadsFront b c e c') : solid c.rest = solid e.chars ++ solid c'.rest := by
  match h with
  | .rooted hroot _ _ _ =>
    rw [hat.skip?_root hc] at hroot
    cases hroot
  | .builtin _ hw hb _ =>
    -- a run begins with a word that moves, and the text has none
    obtain ⟨hfirst, -, hi⟩ := builtinStart?_eq_some hb
    have hleads := (Cursor.leads_skipBlank c).trans (leads_of_leadingWords hw)
    have hall : ∀ w ∈ builtinStarts, w ∈ movingWords := by decide
    exact absurd (hall _ hfirst) (not_mem_movingWords (hleads.isKept hc) hi)
  | .parts _ hw _ hp _ _ =>
    have hleads := (Cursor.leads_skipBlank c).trans (leads_of_leadingWords hw)
    obtain ⟨hconst, hlead⟩ := solid_leadingWords ((Cursor.leads_skipBlank c).isKept hc) hw
    have hparts := ReachesParts.solid_rest (hleads.isKept hc) hp
    rw [Cursor.rest_skipBlank, Text.solid_dropBlank] at hlead ⊢
    rw [hlead, hparts, chars_fronted_of_const hconst, chars_ofParts, Text.solid_append,
      List.append_assoc]

/-- **What is read as a type is written, and the rest is left.** -/
theorem ReadsType.solid_rest {b : Bool} {c c' : Cursor} {e : Expr} (hc : Text.IsKept c.text.toList)
    (hat : c.AtType) (h : ReadsType b c e c') : solid c.rest = solid e.chars ++ solid c'.rest := by
  match h with
  | .intro hf hs _ =>
    rw [ReadsFront.solid_rest hc hat hf, solid_of_passes_suffixStep hs, Cursor.rest_skipBlank,
      Text.solid_dropBlank]

end

/-- **Parsing a type neither loses nor invents text**: of a text that is kept, the solid characters are those of
the canonical text of its tree. -/
theorem solid_render_of_parse {text : String} {e : Expr} (ht : Text.IsKept text.toList)
    (h : parse text = .ok e) : solid text.toList = solid e.render.toList := by
  obtain ⟨c, hread, hend⟩ := Reading.complete_eq_ok_iff.mp h
  have hkept : Text.IsKept (Cursor.ofText text).text.toList := by
    rw [Cursor.text_ofText, Text.trimmed, String.toList_ofList]
    exact ht.trim
  have hsolid := (read_eq_done_iff.mp hread).solid_rest hkept (Cursor.atType_ofText text)
  -- nothing but blanks is left, and trimming took nothing but blanks
  rw [Text.solid_eq_nil_of_dropBlank hend, List.append_nil, Cursor.ofText, Text.solid_trim] at hsolid
  exact hsolid

/-- A text with blanks of many kinds. -/
theorem solid_render_of_parse_template :
    ∃ e, parse " a::b < const c * ,\toperator  new [ ] >  [ 2\n]& " = .ok e ∧
      e.render = "a::b<const c*, operator new[]>[2]&" ∧
      solid " a::b < const c * ,\toperator  new [ ] >  [ 2\n]& ".toList = solid e.render.toList := by
  have hkept : Text.IsKept " a::b < const c * ,\toperator  new [ ] >  [ 2\n]& ".toList :=
    Text.isKept_of_take (by decide +kernel) (by decide +kernel)
  obtain ⟨e, he⟩ : ∃ e : Expr, e = .reference (.array (.template (.path [.name "a", .name "b"])
    [.pointer (.const .before (.name "c")), .name "operator new[]"]) (some "2")) := ⟨_, rfl⟩
  have hparse : parse " a::b < const c * ,\toperator  new [ ] >  [ 2\n]& " = .ok e := by
    rw [he]
    decide +kernel
  refine ⟨e, hparse, ?_, solid_render_of_parse hkept hparse⟩
  rw [he]
  decide +kernel

end Expr

end CppIndex
