import CppIndex.Proofs.Declaration.Plain
import CppIndex.Proofs.Expr.Leads

/-!
# Texts of plain trees

Not only the trees can be plain. A text is **unreserved** if no reserved word stands in it as a word of its
own, and no bracket is opened in it (`Text.IsUnreserved`). Such a text is built from identifiers, `::`, lists
of template arguments, pointers and references, with blanks anywhere between them, and every tree that is
parsed from it is plain (`Expr.isPlainType_of_parse`).

All identifiers of a type are read from its text, each between two characters that belong to no word, so each
of them is a word that stands in the text.
-/

namespace CppIndex

namespace Text

/-! ### Words of a text -/

/-- **A word stands in a text** if it does so with no word character beside it. -/
def HoldsWord (cs word : List Char) : Prop :=
  ∃ front back, cs = front ++ word ++ back ∧ front.getLast?.any isWordChar = false ∧
    back.head?.any isWordChar = false

/-- **An unreserved text**: no reserved word stands in it, and no bracket is opened. -/
structure IsUnreserved (cs : List Char) : Prop where
  /-- No reserved word stands in it. -/
  words : ∀ w ∈ Expr.reservedWords, ¬ HoldsWord cs w.toList
  /-- No bracket is opened. -/
  brackets : '[' ∉ cs

/-- A text in which no reserved word occurs, not even as a part of another word, is unreserved. -/
theorem isUnreserved_of_not_infix {cs : List Char} (hw : ∀ w ∈ Expr.reservedWords, ¬ w.toList <:+: cs)
    (hb : '[' ∉ cs) : IsUnreserved cs := by
  refine ⟨fun w hm hholds => hw w hm ?_, hb⟩
  obtain ⟨front, back, hcs, -, -⟩ := hholds
  exact ⟨front, back, hcs.symm⟩

/-- Blanks behind a text that begins at a word boundary. -/
theorem head?_any_append_blanks {cs blanks : List Char} (hb : ∀ x ∈ blanks, isBlank x = true)
    (h : cs.head?.any isWordChar = false) : (cs ++ blanks).head?.any isWordChar = false := by
  -- the blanks come next to the seam only if the text is empty
  cases cs with
  | cons x cs => exact h
  | nil =>
    cases blanks with
    | nil => rfl
    | cons x blanks => exact (isSeam_of_isBlank (hb x (List.mem_cons_self ..)) x rfl).1

/-- Blanks in front of a text that ends at a word boundary. -/
theorem getLast?_any_blanks_append {cs blanks : List Char} (hb : ∀ x ∈ blanks, isBlank x = true)
    (h : cs.getLast?.any isWordChar = false) :
    (blanks ++ cs).getLast?.any isWordChar = false := by
  rw [List.getLast?_eq_head?_reverse] at h ⊢
  rw [List.reverse_append]
  exact head?_any_append_blanks (by simpa using hb) h

/-- A word of a text between blanks is a word of the whole. -/
theorem HoldsWord.of_blanks {cs word front back : List Char} (h : HoldsWord cs word)
    (hf : ∀ x ∈ front, isBlank x = true) (hb : ∀ x ∈ back, isBlank x = true) :
    HoldsWord (front ++ cs ++ back) word := by
  obtain ⟨first, last, rfl, hfirst, hlast⟩ := h
  exact ⟨front ++ first, last ++ back, by simp, getLast?_any_blanks_append hf hfirst,
    head?_any_append_blanks hb hlast⟩

/-- Trimming keeps a text unreserved. -/
theorem IsUnreserved.trim {cs : List Char} (h : IsUnreserved cs) : IsUnreserved (trim cs) := by
  -- what trimming removes is blank, so a word of the rest is a word of the whole
  obtain ⟨front, back, hcs, hf, hb⟩ := exists_blanks_trim cs
  refine ⟨fun w hw hholds => h.words w hw ?_, fun hm => h.brackets ?_⟩
  · rw [hcs]
    exact hholds.of_blanks hf hb
  · rw [hcs]
    exact List.mem_append_left _ (List.mem_append_right _ hm)

end Text

/-! ### Words that are read -/

namespace Cursor

variable {c c' : Cursor}

/-- **A word that is read begins where no word goes on.** -/
theorem previous?_of_identifier? {s : String} (hs : Text.IsWord s.toList)
    (h : c.identifier? = some (s, c')) : c.previous?.any Text.isWordChar = false := by
  have hrest := (identifier?_eq_some h).2.1
  unfold identifier? at h
  simp only [hrest, Text.splitTilde_word_append hs] at h
  -- a word without a `~` is refused where a word character stands before it
  split at h
  next => cases h
  next hn =>
    simp only [List.isEmpty_nil, Bool.true_and, Bool.or_eq_true, not_or, Bool.not_eq_true] at hn
    exact hn.2

/-- **The word of an identifier stands in the text.** -/
theorem holdsWord_of_identifier? {s : String} (h : c.identifier? = some (s, c')) :
    Text.HoldsWord c.text.toList (Text.splitTilde s.toList).2 := by
  have htext : c.text.toList = c.before.reverse ++ c.rest := String.toList_ofList
  obtain ⟨hs, hrest, -, hend⟩ := identifier?_eq_some h
  rcases hs with hs | ⟨w, hw, -⟩
  · have hself : (Text.splitTilde s.toList).2 = s.toList := by rw [Text.splitTilde_of_isWord hs]
    -- the text is what was read, the word, and what is left
    refine ⟨c.before.reverse, c'.rest, ?_, ?_, hend⟩
    · rw [htext, hrest, hself, List.append_assoc]
    · rw [List.getLast?_reverse]
      exact previous?_of_identifier? hs h
  · -- behind a `~` the word begins, for that is no word character
    have hself : (Text.splitTilde s.toList).2 = w := by rw [hw]; rfl
    refine ⟨c.before.reverse ++ ['~'], c'.rest, ?_, ?_, hend⟩
    · rw [htext, hrest, hself, hw]
      simp
    · rw [List.getLast?_concat]
      decide

/-- An identifier of an unreserved text is plain. -/
theorem isPlainIdentifier_of_identifier? (hc : Text.IsUnreserved c.text.toList) {s : String}
    (h : c.identifier? = some (s, c')) : Expr.IsPlainIdentifier s := by
  refine ⟨(identifier?_eq_some h).1, fun hm => hc.words _ hm ?_⟩
  rw [String.toList_ofList]
  exact holdsWord_of_identifier? h

/-- No reserved word is read from an unreserved text. -/
theorem not_mem_of_identifier? (hc : Text.IsUnreserved c.text.toList) {s : String}
    (h : c.identifier? = some (s, c')) : s ∉ Expr.reservedWords :=
  (isPlainIdentifier_of_identifier? hc h).not_mem

/-- A place that is reached is in an unreserved text if the place before is. -/
theorem Leads.isUnreserved (h : c.Leads c') (hc : Text.IsUnreserved c.text.toList) :
    Text.IsUnreserved c'.text.toList := h.text_eq ▸ hc

end Cursor

namespace Expr

variable {c c' : Cursor}

/-! ### What is read is plain -/

/-- In an unreserved text no words stand in front of a type. -/
theorem leadingWords_of_isUnreserved (hc : Text.IsUnreserved c.text.toList) :
    leadingWords c = ([], c.skipBlank) := by
  -- already the first step finds nothing
  have hstep : leadingStep [] c = none := by
    rw [leadingStep_eq_none_iff]
    intro w c' hi hw
    have hsub : ∀ w ∈ frontWords, w ∈ reservedWords := by decide
    exact Cursor.not_mem_of_identifier? ((Cursor.leads_skipBlank c).isUnreserved hc) hi (hsub w hw)
  rw [leadingWords, Cursor.repeated_of_none hstep]

/-- A name behind names is one more of them. -/
theorem forall_isPlainName_concat {qs : List Expr} {p : Expr} (h : ∀ q ∈ qs, IsPlainName q)
    (hp : IsPlainName p) : ∀ q ∈ qs ++ [p], IsPlainName q := by
  intro q hq
  rcases List.mem_append.mp hq with hq | hq
  · exact h q hq
  · exact List.mem_singleton.mp hq ▸ hp

/-- A name behind plain components is one more of them. -/
theorem isPlainScope_concat {ps : List Expr} {p : Expr} (h : ps = [] ∨ IsPlainScope ps)
    (hp : IsPlainName p) : IsPlainScope (ps ++ [p]) := by
  -- names are added at the end, so the first component stays what it is
  rcases h with rfl | h
  · exact .names hp (by simp)
  · cases h with
    | names hfirst hqs => exact .names hfirst (forall_isPlainName_concat hqs hp)
    | template hfirst hqs => exact .template hfirst (forall_isPlainName_concat hqs hp)

/-- Plain components make a plain primary expression. -/
theorem IsPlainScope.isPlainPrimary {ps : List Expr} (h : IsPlainScope ps) :
    IsPlainPrimary (ofParts ps) := by
  cases h with
  | @names p qs hp hqs =>
    cases qs with
    | nil => exact .name hp
    | cons q qs => exact .path (.names hp hqs (by simp))
  | @template p qs hp hqs =>
    cases qs with
    | nil => exact .template hp
    | cons q qs => exact .path (.template hp hqs (by simp))

/-- Plain components with a name at their end make a plain template when arguments follow. -/
theorem isPlainTemplate_concat {ps args : List Expr} {p : Expr} (h : ps = [] ∨ IsPlainScope ps)
    (hp : IsPlainName p) (ha : ∀ a ∈ args, IsPlainType a) :
    IsPlainTemplate (.template (ofParts (ps ++ [p])) args) := by
  -- the head is a name if nothing stands before it, and a path else
  rcases h with rfl | h
  · exact .name hp ha
  · refine .path ?_ ha
    cases h with
    | names hfirst hqs =>
      rw [List.cons_append, ofParts_cons (by simp)]
      exact .names hfirst (forall_isPlainName_concat hqs hp) (by simp)
    | template hfirst hqs =>
      rw [List.cons_append, ofParts_cons (by simp)]
      exact .template hfirst (forall_isPlainName_concat hqs hp) (by simp)

/-- Suffixes behind a plain type make a plain type, as long as no bracket is opened. -/
theorem isPlainType_of_passes {e₀ e : Expr} {c₀ c : Cursor} (hc : Text.IsUnreserved c₀.text.toList)
    (h : Cursor.Passes suffixStep e₀ c₀ e c) (h₀ : IsPlainType e₀) : IsPlainType e := by
  -- over the suffixes; the text is the same at every place
  induction h with
  | start => exact h₀
  | @step e₁ e₂ c₁ c₂ hp hs ih =>
    rcases suffixStep_eq_some hs with ⟨-, rfl⟩ | ⟨-, rfl⟩ | ⟨size, ha, rfl⟩ | ⟨-, rfl⟩
    · exact ih.const
    · exact ih.pointer
    · -- an array would have to begin with a bracket
      have hunreserved := ((hp.leads leads_of_suffixStep).trans
        (Cursor.leads_skipBlank c₁)).isUnreserved hc
      obtain ⟨-, front, back, -, -, hrest⟩ :=
        Text.arrayBound?_eq_some (Cursor.arrayBound?_eq_some ha).1
      have hmem : '[' ∈ c₁.skipBlank.text.toList := by
        rw [Cursor.text, String.toList_ofList, hrest]
        simp
      exact absurd hmem hunreserved.brackets
    · exact ih.reference

mutual

/-- A name that is read from an unreserved text is plain. -/
theorem ReadsName.isPlainName {c c' : Cursor} {e : Expr} (hc : Text.IsUnreserved c.text.toList)
    (h : ReadsName c e c') : IsPlainName e := by
  -- `operator` is reserved, and all other readings of a name begin with it
  have hoperator : ∀ {c₁ : Cursor}, c.identifier? ≠ some ("operator", c₁) := fun hi =>
    Cursor.not_mem_of_identifier? hc hi (by decide)
  match h with
  | .word hi _ => exact .intro (Cursor.isPlainIdentifier_of_identifier? hc hi)
  | .sign hi _ => exact absurd hi hoperator
  | .allocation hi _ _ => exact absurd hi hoperator
  | .cast hi _ _ _ => exact absurd hi hoperator

/-- Components that are passed in an unreserved text are plain. -/
theorem ReachesParts.isPlainScope {b : Bool} {c c' : Cursor} {ps : List Expr}
    (hc : Text.IsUnreserved c.text.toList) (h : ReachesParts b c ps c') :
    ps = [] ∨ IsPlainScope ps := by
  match h with
  | .start => exact .inl rfl
  | .part h _ hn hp _ =>
    have hname := ReadsName.isPlainName ((h.leads.trans (leads_to_part hn)).isUnreserved hc) hp
    exact .inr (isPlainScope_concat (ReachesParts.isPlainScope hc h) hname)
  | .template h _ hn hp hl ha _ =>
    have hpart := h.leads.trans (leads_to_part hn)
    have hargs := (hpart.trans hp.leads).trans
      ((Cursor.leads_skipBlank _).trans (Cursor.leads_of_skip? hl))
    have hname := ReadsName.isPlainName (hpart.isUnreserved hc) hp
    have htemplate := isPlainTemplate_concat (ReachesParts.isPlainScope hc h) hname
      (ReachesArgs.isPlainType (hargs.isUnreserved hc) ha)
    -- Arguments turn all components before them into one, behind which a scope begins anew.
    exact .inr (.template htemplate (by simp))

/-- Arguments that are passed in an unreserved text are plain types. -/
theorem ReachesArgs.isPlainType {c c' : Cursor} {as : List Expr}
    (hc : Text.IsUnreserved c.text.toList) (h : ReachesArgs c as c') :
    ∀ a ∈ as, IsPlainType a := by
  match h with
  | .start => simp
  | .arg h _ hn ht =>
    have harg := h.leads.trans ((Cursor.leads_skipBlank _).trans (Cursor.leads_of_nextItem? hn))
    have htype := ReadsType.isPlainType (harg.isUnreserved hc) ht
    intro a ha
    rcases List.mem_append.mp ha with ha | ha
    · exact ReachesArgs.isPlainType hc h a ha
    · exact List.mem_singleton.mp ha ▸ htype

/-- What is read before the suffixes in an unreserved text is a plain primary expression. -/
theorem ReadsFront.isPlainPrimary {b : Bool} {c c' : Cursor} {e : Expr}
    (hc : Text.IsUnreserved c.text.toList) (h : ReadsFront b c e c') : IsPlainPrimary e := by
  have hblank := (Cursor.leads_skipBlank c).isUnreserved hc
  match h with
  | .rooted hskip hp _ hn =>
    have hroot := (Cursor.leads_of_skip? hskip).isUnreserved hblank
    exact ((ReachesParts.isPlainScope hroot hp).resolve_left hn).isPlainPrimary
  | .builtin _ hw hb _ =>
    -- a run of built-in words begins with a reserved word
    obtain ⟨hfirst, -, hi⟩ := builtinStart?_eq_some hb
    have hsub : ∀ w ∈ builtinStarts, w ∈ reservedWords := by decide
    have hstart := (leads_of_leadingWords hw).isUnreserved hblank
    exact absurd (hsub _ hfirst) (Cursor.not_mem_of_identifier? hstart hi)
  | .parts _ hw _ hp _ hn =>
    have hstart := (leads_of_leadingWords hw).isUnreserved hblank
    -- no words were read in front, so nothing is put around the components
    rw [leadingWords_of_isUnreserved hblank] at hw
    obtain ⟨rfl, -⟩ := Prod.mk.inj hw
    exact ((ReachesParts.isPlainScope hstart hp).resolve_left hn).isPlainPrimary

/-- **What is read as a type from an unreserved text is plain.** -/
theorem ReadsType.isPlainType {b : Bool} {c c' : Cursor} {e : Expr}
    (hc : Text.IsUnreserved c.text.toList) (h : ReadsType b c e c') : IsPlainType e := by
  match h with
  | .intro hf hs _ =>
    have hfront := ReadsFront.isPlainPrimary hc hf
    exact isPlainType_of_passes (hf.leads.isUnreserved hc) hs hfront.isPlainType

end

/-- **An unreserved text is parsed as a plain type.** -/
theorem isPlainType_of_parse {text : String} {e : Expr} (ht : Text.IsUnreserved text.toList)
    (h : parse text = .ok e) : IsPlainType e := by
  obtain ⟨c, hread, -⟩ := parse_eq_ok_iff.mp h
  refine hread.isPlainType ?_
  -- the cursor begins in the trimmed text
  have htext : (Cursor.ofText text).text.toList = Text.trim text.toList := String.toList_ofList
  rw [htext]
  exact ht.trim

/-- A plain type that is primary is a plain primary expression. -/
theorem IsPlainType.isPlainPrimary {e : Expr} (h : IsPlainType e) (hp : e.isPrimary = true) :
    IsPlainPrimary e := by
  -- a primary expression has neither words in front nor a suffix
  cases h with
  | @front isConst words e hw h =>
    cases isConst with
    | true => cases hp
    | false =>
      cases words with
      | nil => exact h
      | cons w words => cases hp
  | pointer | reference | const | array => cases hp

/-- **An unreserved text that is parsed as a primary expression** is parsed as a plain one. -/
theorem isPlainPrimary_of_parse {text : String} {e : Expr} (ht : Text.IsUnreserved text.toList)
    (h : parse text = .ok e) (hp : e.isPrimary = true) : IsPlainPrimary e :=
  (isPlainType_of_parse ht h).isPlainPrimary hp

end Expr

end CppIndex
