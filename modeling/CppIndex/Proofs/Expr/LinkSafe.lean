import CppIndex.Expr.Anchor
import CppIndex.Proofs.Expr.Nodes

/-!
# What stands in an anchor

An anchor is made to stand in a link, so it must hold nothing that means something there: no blank, no
bracket, no sign of an operator, nothing beyond ASCII. What it may hold are the **link characters**
(`Text.isLinkChar`).

The parts of an anchor come from two sources. Identifiers and the words in front of a type are ASCII words, and
these are link characters but for a `~` in front, which is one as well. The names of operators hold signs, but
each of them has an abbreviation, in which the sign is spelled out (`Text.exists_abbreviation_of_isSign`). So
the anchor is safe if the words at every node are (`Expr.Throughout.anchor_isLinkSafe`), and in what was read
they are (`Expr.givenByRules_hasLinkWords`), in every scope.
-/

namespace CppIndex

/-! ### Link characters -/

namespace Text

/-- **Link characters**: ASCII letters and digits, and the signs `_`, `~`, `:`, `.` and `-`. -/
def isLinkChar (c : Char) : Bool :=
  isAsciiWordChar c || c == '~' || c == ':' || c == '.' || c == '-'

/-- **A text of link characters**, possibly without any. -/
def IsLinkText (s : String) : Prop := ∀ c ∈ s.toList, isLinkChar c = true

instance (s : String) : Decidable (IsLinkText s) :=
  inferInstanceAs (Decidable (∀ c ∈ s.toList, isLinkChar c = true))

/-- **A text is safe in a link** if it consists of link characters and is not empty. -/
structure IsLinkSafe (s : String) : Prop where
  /-- There is something to link to. -/
  ne_empty : s ≠ ""
  /-- Nothing else stands in it. -/
  text : IsLinkText s

instance (s : String) : Decidable (IsLinkSafe s) :=
  decidable_of_iff (s ≠ "" ∧ IsLinkText s) ⟨fun h => ⟨h.1, h.2⟩, fun h => ⟨h.ne_empty, h.text⟩⟩

variable {c : Char} {s t sep : String} {ss : List String}

/-- Link characters are ASCII, and none of them is a blank. -/
theorem ascii_of_isLinkChar (h : isLinkChar c = true) : c.toNat < 0x80 ∧ isBlank c = false := by
  unfold isLinkChar at h
  simp only [Bool.or_eq_true, beq_iff_eq] at h
  obtain (((h | rfl) | rfl) | rfl) | rfl := h
  · exact ⟨toNat_lt_of_isAsciiWordChar h, isBlank_of_isAsciiWordChar h⟩
  all_goals exact ⟨by decide, by decide⟩

/-- Of the signs of operators only `-` and `~` are made of link characters. -/
theorem eq_of_isLinkChar_of_isSign (h : isLinkChar c = true) (hs : IsSign s) (hc : c ∈ s.toList) :
    c = '-' ∨ c = '~' := by
  have hall : ∀ s ∈ "[]" :: "()" :: operatorSigns, ∀ c ∈ s.toList, isLinkChar c = true →
      c = '-' ∨ c = '~' := by
    decide +kernel
  exact hall s (by simpa [IsSign] using hs) c hc h

theorem IsLinkText.append (hs : IsLinkText s) (ht : IsLinkText t) : IsLinkText (s ++ t) := by
  unfold IsLinkText
  rw [String.toList_append]
  exact List.forall_mem_append.mpr ⟨hs, ht⟩

/-- Texts are put together with link characters between. -/
theorem IsLinkText.intercalate (hsep : IsLinkText sep) (h : ∀ s ∈ ss, IsLinkText s) :
    IsLinkText (String.intercalate sep ss) := by
  induction ss with
  | nil => exact fun c hc => absurd hc (by simp)
  | cons s ss ih =>
    obtain ⟨hs, hss⟩ := List.forall_mem_cons.mp h
    -- the separator appears from the second text on
    cases ss with
    | nil => exact String.intercalate_singleton ▸ hs
    | cons t ss =>
      rw [String.intercalate_cons_of_ne_nil (List.cons_ne_nil t ss)]
      exact (hs.append hsep).append (ih hss)

theorem IsLinkSafe.append (hs : IsLinkSafe s) (ht : IsLinkText t) : IsLinkSafe (s ++ t) := by
  refine ⟨fun h => hs.ne_empty ?_, hs.text.append ht⟩
  exact (String.append_eq_empty_iff.mp h).1

theorem IsLinkSafe.intercalate (hsep : IsLinkText sep) (hne : ss ≠ []) (h : ∀ s ∈ ss, IsLinkSafe s) :
    IsLinkSafe (String.intercalate sep ss) := by
  refine ⟨?_, IsLinkText.intercalate hsep fun s hs => (h s hs).text⟩
  obtain ⟨s, ss, rfl⟩ := List.exists_cons_of_ne_nil hne
  have hs := (h s List.mem_cons_self).ne_empty
  -- the first text is not empty, so the whole is not
  cases ss with
  | nil => rwa [String.intercalate_singleton]
  | cons t ss =>
    rw [String.intercalate_cons_of_ne_nil (List.cons_ne_nil t ss)]
    intro he
    exact hs (String.append_eq_empty_iff.mp (String.append_eq_empty_iff.mp he).1).1

end Text

open Text

/-! ### Words -/

variable {s short : String}

/-- Words are safe in a link. -/
theorem isLinkSafe_of_isWord (h : IsWord s.toList) : IsLinkSafe s := by
  obtain ⟨x, w, hs, -⟩ := h.exists_cons
  refine ⟨?_, fun c hc => ?_⟩
  · rintro rfl
    cases hs
  · unfold isLinkChar
    rw [h.all c hc]
    rfl

/-- So are identifiers, which may have a `~` in front. -/
theorem isLinkSafe_of_isIdentifier (h : IsIdentifier s.toList) : IsLinkSafe s := by
  rcases h with h | ⟨w, hs, hw⟩
  · exact isLinkSafe_of_isWord h
  · have hword : IsLinkSafe (String.ofList w) := isLinkSafe_of_isWord (by rwa [String.toList_ofList])
    have htilde : IsLinkSafe "~" := by decide
    -- the `~` and the word behind it are both safe
    have hsplit : s = "~" ++ String.ofList w := by
      apply String.toList_injective
      simp [hs]
    rw [hsplit]
    exact htilde.append hword.text

/-! ### Abbreviations -/

/-- Every abbreviation is safe in a link. -/
theorem isLinkSafe_of_abbreviation? (h : abbreviation? s = some short) : IsLinkSafe short := by
  have hall : ∀ p ∈ abbreviations, IsLinkSafe p.2 := by
    decide +kernel
  obtain ⟨before, behind, htable, -⟩ := List.lookup_eq_some_iff.mp h
  apply hall (s, short)
  rw [htable]
  exact List.mem_append_right before List.mem_cons_self

/-- What is safe in a link stays so when it is shortened. -/
theorem isLinkSafe_abbreviate (h : IsLinkSafe s) : IsLinkSafe (abbreviate s) := by
  unfold abbreviate
  cases hshort : abbreviation? s with
  | none => exact h
  | some short => exact isLinkSafe_of_abbreviation? hshort

/-- **Signs are spelled out**: the name of an operator has an abbreviation of small letters and dashes. -/
theorem exists_abbreviation_of_isSign (h : IsSign s) :
    ∃ short, abbreviation? ("operator" ++ s) = some short ∧
      ∀ c ∈ short.toList, c.isLower = true ∨ c = '-' := by
  -- every sign of the table has an abbreviation, in lower-case letters and dashes
  have hall : ∀ s ∈ "[]" :: "()" :: operatorSigns, (abbreviation? ("operator" ++ s)).isSome = true ∧
      ∀ short ∈ abbreviation? ("operator" ++ s), ∀ c ∈ short.toList, c.isLower = true ∨ c = '-' := by
    decide +kernel
  obtain ⟨hsome, hletters⟩ := hall s (by simpa [IsSign] using h)
  obtain ⟨short, hshort⟩ := Option.isSome_iff_exists.mp hsome
  exact ⟨short, hshort, hletters short hshort⟩

namespace Expr

/-- A name that is safe in a link has a safe anchor. -/
theorem isLinkSafe_nameAnchor (h : IsLinkSafe s) : IsLinkSafe (nameAnchor s) := by
  unfold nameAnchor
  cases hshort : abbreviation? s with
  | some short => exact isLinkSafe_of_abbreviation? hshort
  | none =>
    -- there is no blank in it to be replaced
    have hmap : s.toList.map (fun c => if c = ' ' then '-' else c) = s.toList := by
      refine (List.map_congr_left fun c hc => if_neg ?_).trans (List.map_id _)
      rintro rfl
      exact absurd (h.text ' ' hc) (by decide)
    rw [hmap, String.ofList_toList]
    exact h

/-- An operator has an anchor of small letters and dashes, whatever its sign is. -/
theorem isLower_nameAnchor_of_isSign (h : IsSign s) :
    ∀ c ∈ (nameAnchor ("operator" ++ s)).toList, c.isLower = true ∨ c = '-' := by
  obtain ⟨short, hshort, hletters⟩ := exists_abbreviation_of_isSign h
  rw [nameAnchor, hshort]
  exact hletters

/-! ### Nodes -/

/-- **The words at a node are safe in a link**: a name by its anchor, the words in front of a type by their
abbreviations. A path has no words of its own, but it needs a component. -/
def HasLinkWords : Expr → Prop
  | .name s => IsLinkSafe (nameAnchor s)
  | .path ps => ps ≠ []
  | .modified words _ => ∀ w ∈ words, IsLinkSafe (abbreviate w)
  | .template _ _ | .pointer _ | .reference _ | .array _ _ | .const _ _ | .cast _ => True

variable {P : Expr → Prop} {e scope : Expr}

/-- **An anchor is safe in a link if the words at all nodes are.** The induction is on the parts. -/
theorem Throughout.anchor_isLinkSafe (h : e.Throughout HasLinkWords) : IsLinkSafe e.anchor := by
  induction e using induct_parts with
  | step e ih =>
    have hparts : ∀ p ∈ e.parts, IsLinkSafe p.anchor := fun p hp => ih p hp (h.of_mem_parts hp)
    have hinner : ∀ p, e.parts = [p] → IsLinkSafe p.anchor := by
      intro p hp
      apply hparts
      rw [hp]
      exact List.mem_singleton_self p
    have hself := h.self
    cases e with
    | name s => exact hself
    | path ps =>
      rw [anchor, anchorAll_eq_map]
      -- the joined anchors may be a well-known name once more
      apply isLinkSafe_abbreviate
      refine .intercalate (by decide) ?_ (List.forall_mem_map.mpr hparts)
      exact fun hnil => hself (List.map_eq_nil_iff.mp hnil)
    | template head args =>
      obtain ⟨hhead, hargs⟩ := List.forall_mem_cons.mp hparts
      rw [anchor, anchorAll_eq_map]
      -- there may be no arguments, so their anchors are no more than a text of link characters
      have htext : IsLinkText (String.intercalate "." (args.map anchor)) :=
        .intercalate (by decide) (List.forall_mem_map.mpr fun a ha => (hargs a ha).text)
      exact ((hhead.append (by decide)).append htext).append (by decide)
    | modified words inner =>
      rw [anchor]
      refine .intercalate (by decide) (by simp) (List.forall_mem_append.mpr ⟨?_, ?_⟩)
      · exact List.forall_mem_map.mpr hself
      · exact List.forall_mem_singleton.mpr (hinner inner rfl)
    | cast target =>
      have htext : IsLinkSafe "castto-" := by decide
      rw [anchor]
      exact (htext.append (hinner target rfl).text).append (by decide)
    | pointer inner | reference inner | array inner size | const side inner =>
      -- one letter behind the anchor of what is wrapped
      rw [anchor]
      exact (hinner inner rfl).append (by decide)

/-- **In what was read the words at every node are safe in a link.** -/
theorem givenByRules_hasLinkWords : GivenByRules HasLinkWords where
  word hs := isLinkSafe_nameAnchor (isLinkSafe_of_isIdentifier hs)
  sign {s} hs := by
    obtain ⟨short, hshort, -⟩ := exists_abbreviation_of_isSign hs
    show IsLinkSafe (nameAnchor ("operator" ++ s))
    rw [nameAnchor, hshort]
    exact isLinkSafe_of_abbreviation? hshort
  allocation a isArray := by
    -- all four names are in the table
    have hall : ∀ isArray, IsLinkSafe (nameAnchor (a.operatorName isArray)) := by
      cases a <;> decide
    exact hall isArray
  cast _ := trivial
  path _ hlength := List.ne_nil_of_length_pos (Nat.lt_of_lt_of_le Nat.zero_lt_two hlength)
  template _ _ := trivial
  modified _ hw _ w hmem := isLinkSafe_abbreviate (isLinkSafe_of_isWord (hw w hmem))
  constBefore _ := trivial
  constAfter _ := trivial
  pointer _ := trivial
  reference _ := trivial
  array _ := trivial

/-! ### Scopes -/

/-- What holds throughout an expression holds throughout what it names. -/
theorem Throughout.declaredName {e : Expr} (h : e.Throughout P) : e.declaredName.Throughout P := by
  match e, h with
  | .modified _ e, h | .pointer e, h | .reference e, h | .array e _, h | .const _ e, h =>
    have hinner : e.Throughout P := ((throughout_iff_of_parts rfl).mp h).2
    have ih : e.declaredName.Throughout P := hinner.declaredName
    exact ih
  | .name _, h | .path _, h | .template _ _, h | .cast _, h => exact h

/-- It holds throughout its components. -/
theorem Throughout.components (h : e.Throughout P) : ∀ p ∈ e.components, p.Throughout P := by
  cases e with
  | path ps => exact fun p hp => h.of_mem_parts hp
  | _ => exact List.forall_mem_singleton.mpr h

/-- **Words that are safe in a link are so in a safe scope**, too: to the parts of an expression the scope
adds its components. -/
theorem Throughout.qualify (hscope : scope.Throughout HasLinkWords) {e : Expr}
    (h : e.Throughout HasLinkWords) : (scope.qualify e).Throughout HasLinkWords := by
  have hcomponents := hscope.components
  match e, h with
  | .name s, h | .cast t, h =>
    refine throughout_iff.mpr ⟨List.append_ne_nil_of_right_ne_nil _ (List.cons_ne_nil _ _), ?_⟩
    exact List.forall_mem_append.mpr ⟨hcomponents, List.forall_mem_singleton.mpr h⟩
  | .path ps, h =>
    -- the scope may have no components itself, those of the path are enough
    refine throughout_iff.mpr ⟨List.append_ne_nil_of_right_ne_nil _ h.self, ?_⟩
    exact List.forall_mem_append.mpr ⟨hcomponents, fun p hp => h.of_mem_parts hp⟩
  | .template head args, h =>
    obtain ⟨hhead, hargs⟩ := List.forall_mem_cons.mp (throughout_iff.mp h).2
    exact throughout_iff.mpr ⟨trivial, List.forall_mem_cons.mpr ⟨hscope.qualify hhead, hargs⟩⟩
  | .modified words e, h | .pointer e, h | .reference e, h | .array e size, h | .const side e, h =>
    obtain ⟨hself, hinner⟩ := (throughout_iff_of_parts rfl).mp h
    exact (throughout_iff_of_parts rfl).mpr ⟨hself, hscope.qualify hinner⟩

end Expr

end CppIndex
