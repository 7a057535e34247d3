import CppIndex.Proofs.Declaration.ReadBack
import CppIndex.Proofs.Expr.Plain

/-!
# Plain declarations

A declaration is **plain** if its types are plain and its name is: a plain type that does not begin with
`const`, or for a function a plain primary expression or the name of an operator, which may stand behind
plain components. Whatever its flags, parameters and values are, a plain declaration is what its canonical
text is parsed as (`Declaration.parse_render_of_isPlain`).

Each place where the reader has to stop is a place where a plain type ends: in front of a blank and a
name that is not `const`, in front of an equals sign, a comma or a parenthesis (`Expr.Clear`).
-/

namespace CppIndex

namespace Expr

variable {e : Expr} {k : List Char}

/-! ### How a plain type begins -/

/-- The words of a declaration and of allocations, none of which begins a plain type. -/
def declarationWords : List String :=
  ["explicit", "virtual", "static", "public", "private", "protected", "new", "delete"]

/-- A plain primary expression opens with an identifier that is not reserved. -/
theorem OpensPlain.opening (h : OpensPlain e.chars) : e.opening ∉ reservedWords := by
  obtain ⟨s, tail, hcs, hs, ht⟩ := h
  have hop : e.opening = s := opening_of_chars hcs hs.identifier ht
  exact hop ▸ hs.not_mem

/-- **A plain type opens** with a word of a type or with an identifier that is not reserved. -/
theorem IsPlainType.opening_cases {e : Expr} (h : IsPlainType e) :
    e.opening ∈ frontWords ∨ e.opening ∉ reservedWords := by
  induction h using IsPlainType.induct with
  | @front isConst words e hw h =>
    -- a word in front opens the type if there is one, and the primary expression else
    rcases @opening_underWords isConst words e (mem_frontWords_of_modifierWords hw) with
      hfront | ⟨-, -, hop⟩
    · exact Or.inl hfront
    · exact Or.inr (hop ▸ h.stands.2.opening)
  | pointer h ih => rwa [h.isType.opening_append (chars_pointer _) (isSeam_sign (by simp))]
  | reference h ih => rwa [h.isType.opening_append (chars_reference _) (isSeam_sign (by simp))]
  | const h ih => rwa [h.isType.opening_append (chars_const_after _) (isSeam_sign (by simp))]
  | array h _ ih =>
    rwa [h.isType.opening_append ((chars_array _ _).trans (List.append_assoc ..))
      (isSeam_sign (by simp))]

/-- No plain type begins with a word of a declaration. -/
theorem IsPlainType.opening_not_mem (h : IsPlainType e) : e.opening ∉ declarationWords := by
  have hfront : ∀ w ∈ declarationWords, w ∉ frontWords := by decide
  have hreserved : ∀ w ∈ declarationWords, w ∈ reservedWords := by decide
  intro hm
  rcases h.opening_cases with hop | hop
  · exact hfront _ hm hop
  · exact hop (hreserved _ hm)

/-- **A text that opens with a word ends a plain type** in front of it, unless the word is `const`. -/
theorem clear_of_opens {cs : List Char} (h : Text.Opens cs)
    (hc : String.ofList (Text.leadingWord cs) ≠ "const") : Clear cs := by
  have hself := h.not_blank (k := [])
  rw [List.append_nil] at hself
  have hne : ∀ {x : Char}, x ≠ '~' → Text.isAsciiWordChar x = false → cs.head? ≠ some x := by
    intro x hx hw
    have h' := h.head?_ne (k := []) hx hw
    rwa [List.append_nil] at h'
  have hprefix : ∀ {x : Char} {w : List Char}, x ≠ '~' → Text.isAsciiWordChar x = false →
      ¬ (x :: w) <+: cs := by
    rintro x w hx hw ⟨tail, rfl⟩
    exact hne hx hw rfl
  have hd : Text.dropBlank cs = cs := Text.dropBlank_eq_self hself
  refine ⟨⟨?_, ?_, ?_, ?_⟩, ?_, ?_⟩
  · intro r hr
    rw [hd] at hr
    -- otherwise the keyword would be found at the front of the text
    have hnone : Cursor.keyword? ⟨[], cs⟩ "const" = none :=
      Cursor.keyword?_eq_none_of_opens rfl h (by decide) hc
    cases hany : r.head?.any Text.isKeywordChar with
    | true => rfl
    | false =>
      have hb : Text.behind? "const".toList cs = some r := Text.behind?_eq_some_iff.mpr hr
      have hprev : Option.any Text.isKeywordChar none = false := rfl
      simp only [Cursor.keyword?, hb, Cursor.previous?, List.head?_nil, hprev, hany, Bool.or_self,
        Bool.false_eq_true, if_false] at hnone
      cases hnone
  · rw [hd]
    exact hne (by decide) (by decide)
  · rw [hd]
    exact hne (by decide) (by decide)
  · rw [hd]
    exact Text.arrayBound?_eq_none (hne (by decide) (by decide))
  · rw [hd]
    exact hprefix (by decide) (by decide)
  · rw [hd]
    exact hprefix (by decide) (by decide)

/-! ### Names of functions -/

/-- **The name of an operator**: a sign, an allocation, or a conversion into a plain type that does not
begin with the sign `~`. -/
inductive IsPlainOperator : Expr → Prop
  /-- A sign. -/
  | sign {s : String} (h : Text.IsSign s) : IsPlainOperator (.name ("operator" ++ s))
  /-- An allocation. -/
  | allocation (a : Allocation) (isArray : Bool) :
    IsPlainOperator (.name (a.operatorName isArray))
  /-- A conversion. -/
  | cast {t : Expr} (ht : IsPlainType t) (hc : t.chars.head? ≠ some '~') :
    IsPlainOperator (.cast t)

/-- **The components in front of an operator**: names, of which the first may have arguments. -/
inductive IsPlainScope : List Expr → Prop
  /-- All components are names. -/
  | names {p : Expr} {qs : List Expr} (hp : IsPlainName p) (hq : ∀ q ∈ qs, IsPlainName q) :
    IsPlainScope (p :: qs)
  /-- The first component has arguments. -/
  | template {p : Expr} {qs : List Expr} (hp : IsPlainTemplate p) (hq : ∀ q ∈ qs, IsPlainName q) :
    IsPlainScope (p :: qs)

/-- **The name of a plain function.** -/
inductive IsPlainFunctionName : Expr → Prop
  /-- A plain primary expression. -/
  | primary {e : Expr} (h : IsPlainPrimary e) : IsPlainFunctionName e
  /-- An operator. -/
  | operator {e : Expr} (h : IsPlainOperator e) : IsPlainFunctionName e
  /-- An operator in a scope. -/
  | inScope {ps : List Expr} {e : Expr} (hs : IsPlainScope ps) (h : IsPlainOperator e) :
    IsPlainFunctionName (.path (ps ++ [e]))

theorem IsPlainOperator.isComponent (h : IsPlainOperator e) : IsComponent e := by
  cases h with
  | sign h => exact .sign h
  | allocation a isArray => exact .allocation a isArray
  | cast ht => exact .cast ht.isType

/-- **What ends the name of a function**: the parenthesis of its parameter list, or the end of the
text. -/
def EndsFunctionName (k : List Char) : Prop := k = [] ∨ ∃ k', k = '(' :: k'

theorem EndsFunctionName.clear (hk : EndsFunctionName k) : Clear k := by
  rcases hk with rfl | ⟨k', rfl⟩
  · exact clear_nil
  · exact clear_cons (by decide) (by decide)

/-- The name of an operator stands in front of its end, which continues no name. -/
theorem IsPlainOperator.stands (h : IsPlainOperator e) (hk : EndsFunctionName k) : Stands e k := by
  cases h with
  | @sign s hs =>
    refine nameStands_sign hs fun ht u hu hpre happ => ?_
    -- no sign of the table goes on with a parenthesis
    have hall : ∀ t ∈ Text.operatorSigns, ∀ u ∈ Text.operatorSigns,
        ¬ (t.toList ++ ['(']) <+: u.toList := by
      decide +kernel
    obtain ⟨w, hw⟩ := hpre
    obtain ⟨l, hl⟩ := happ
    rw [← hw, List.append_assoc] at hl
    have hl' := List.append_cancel_left hl
    cases w with
    | nil =>
      rw [List.append_nil] at hw
      exact String.toList_injective hw.symm
    | cons x w =>
      rcases hk with rfl | ⟨k', rfl⟩
      · cases hl'
      · obtain rfl := (List.cons.inj hl').1
        exact absurd ⟨w, by rw [← hw]; simp⟩ (hall s ht u hu)
  | allocation a isArray =>
    refine nameStands_allocation fun _ => ?_
    rcases hk with rfl | ⟨k', rfl⟩ <;> simp [Text.dropBlank, Text.isBlank]
  | @cast t ht hc =>
    have hs := ht.typeStands hk.clear
    refine ⟨⟨hc, fun a ha => ht.opening_not_mem ?_⟩, hs.begins, hs.stands, hs.ends⟩
    rw [ha]
    cases a <;> decide

/-- Scopes are made of components and stand. -/
theorem IsPlainScope.isParts {ps : List Expr} (h : IsPlainScope ps) : IsParts ps := by
  cases h with
  | names hp hq =>
    exact (IsParts.nil.part hp.isComponent).append fun q hm => (hq q hm).isComponent
  | template hp hq => exact hp.isParts.append fun q hm => (hq q hm).isComponent

theorem IsPlainScope.stands {ps : List Expr} (h : IsPlainScope ps) (k : List Char) :
    PartsStand ps k := by
  cases h with
  | names hp hq => exact ⟨hp.stands _, partsStand_of_names hq k⟩
  | template hp hq => exact ⟨hp.stands.1 _, partsStand_of_names hq k⟩

theorem IsPlainScope.opensPlain {ps : List Expr} (h : IsPlainScope ps) :
    ∃ p qs, ps = p :: qs ∧ OpensPlain p.chars := by
  cases h with
  | names hp hq => exact ⟨_, _, rfl, hp.opensPlain⟩
  | template hp hq => exact ⟨_, _, rfl, hp.stands.2⟩

/-- The name of an operator opens with the word `operator`. -/
theorem IsPlainOperator.opening (h : IsPlainOperator e) : e.opening = "operator" := by
  cases h with
  | sign hs => exact (opensOperator_sign hs).opening
  | allocation a isArray => exact (opensOperator_allocation a isArray).opening
  | cast => exact (opensOperator_cast _).opening

theorem IsPlainFunctionName.isType (h : IsPlainFunctionName e) : IsType e := by
  -- components with nothing in front of them and nothing behind
  have hparts : ∀ {ps}, IsParts ps → ps ≠ [] → IsType (ofParts ps) := fun hp hn =>
    .front (@IsFront.parts [] _ (by simp) hp hn)
  cases h with
  | primary h =>
    obtain ⟨ps, rfl, hp, hn⟩ := h.exists_parts
    exact hparts hp hn
  | operator h => exact hparts (IsParts.nil.part h.isComponent) (by simp)
  | @inScope ps e hs h =>
    obtain ⟨p, qs, rfl, -⟩ := hs.opensPlain
    have htype := hparts (hs.isParts.part h.isComponent) (by simp)
    rwa [List.cons_append, ofParts_cons (by simp)] at htype

/-- The name of a plain function begins with a word that is none of a declaration or of a type. -/
theorem IsPlainFunctionName.opening_cases (h : IsPlainFunctionName e) :
    e.opening ∉ reservedWords ∨ e.opening = "operator" := by
  -- a scope opens with a plain name, so only an operator without one opens with its word
  cases h with
  | primary h => exact Or.inl h.stands.2.opening
  | operator h => exact Or.inr h.opening
  | inScope hs h =>
    obtain ⟨p, qs, rfl, hp⟩ := hs.opensPlain
    exact Or.inl (opensPlain_path hp (by simp)).opening

theorem IsPlainFunctionName.isPrimary (h : IsPlainFunctionName e) : e.isPrimary = true := by
  cases h with
  | primary h => exact h.isPrimary
  | operator h => exact h.isComponent.isPrimary
  | inScope => rfl

/-- **The name of a plain function stands** in front of its parameter list and at the end of a text. -/
theorem IsPlainFunctionName.typeStands (h : IsPlainFunctionName e) (hk : EndsFunctionName k) :
    TypeStands e k := by
  have hfollow : Follow e (Text.dropBlank k) := by
    rcases hk with rfl | ⟨k', rfl⟩
    · exact follow_nil e
    · rw [Text.dropBlank_cons_of_not_blank (by decide)]
      -- a parenthesis begins nothing that would be read along
      exact follow_of_head (by decide) e
  refine ⟨Or.inr ?_, ?_, hk.clear.suffix, hfollow⟩
  · rw [declaredName_of_isPrimary h.isPrimary, wordRule?_eq_none_iff]
    -- no word of a type begins the name: `operator` is none of them, and the others are reserved
    have hsub : ∀ w ∈ frontWords ++ builtinStarts, w ∈ reservedWords ∧ w ≠ "operator" := by decide
    have hnot : e.opening ∉ frontWords ++ builtinStarts := fun hm =>
      h.opening_cases.elim (fun hr => hr (hsub _ hm).1) (fun ho => (hsub _ hm).2 ho)
    exact ⟨fun hm => hnot (List.mem_append_left _ hm), fun hm => hnot (List.mem_append_right _ hm)⟩
  · cases h with
    | primary h => exact h.stands.1 _
    | operator h => exact h.stands hk
    | inScope hs h => exact (partsStand_concat _ _).mpr ⟨hs.stands _, h.stands hk⟩

/-- **The name of a plain function is read back.** -/
theorem IsPlainFunctionName.parse_eq_ok (h : IsPlainFunctionName e) : parse e.render = .ok e :=
  parse_render_of_typeStands h.isType (h.typeStands (Or.inl rfl))

/-! ### Declarators -/

/-- **A plain declarator**: a plain type that may stand behind another, because it does not begin with
`const`. -/
structure IsPlainDeclarator (e : Expr) : Prop where
  /-- It is a plain type. -/
  type : IsPlainType e
  /-- It is not taken for a suffix of the type in front of it. -/
  front : e.opening ≠ "const"

/-- A plain primary expression is a plain declarator. -/
theorem IsPlainPrimary.isPlainDeclarator (h : IsPlainPrimary e) : IsPlainDeclarator e := by
  refine ⟨h.isPlainType, fun he => h.stands.2.opening ?_⟩
  rw [he]
  decide

/-- So is an array of one. -/
theorem IsPlainDeclarator.array {size : String} (h : IsPlainDeclarator e) (hs : IsPlainSize size) :
    IsPlainDeclarator (.array e (some size)) := by
  refine ⟨h.type.array hs, ?_⟩
  rw [h.type.isType.opening_append ((chars_array _ _).trans (List.append_assoc ..))
    (isSeam_sign (by simp))]
  exact h.front

/-- **A name behind a blank ends a plain type** in front of it. -/
theorem clear_name {n : Expr} (hn : IsType n) (hc : n.opening ≠ "const")
    (hk : Text.IsSeam k.head?) : Clear (' ' :: (n.chars ++ k)) := by
  refine clear_space (clear_of_opens (hn.opens.append hk) ?_)
  rwa [hn.opens.leadingWord_append hk]

theorem IsPlainFunctionName.opening_ne (h : IsPlainFunctionName e) : e.opening ≠ "const" := by
  intro he
  rcases h.opening_cases with hop | hop
  · exact hop (he ▸ by decide)
  · exact absurd (he.symm.trans hop) (by decide)

theorem IsPlainFunctionName.opening_not_mem (h : IsPlainFunctionName e) :
    e.opening ∉ declarationWords := by
  have hreserved : ∀ w ∈ declarationWords, w ∈ reservedWords ∧ w ≠ "operator" := by decide
  intro hm
  rcases h.opening_cases with hop | hop
  · exact hop (hreserved _ hm).1
  · exact (hreserved _ hm).2 hop

/-- A plain name has the form of a type. -/
theorem IsPlainName.isType (h : IsPlainName e) : IsType e :=
  (IsPlainPrimary.name h).isPlainType.isType

end Expr

/-! ### Parameters -/

/-- **A plain parameter**: an ellipsis, or a plain type with an optional plain name and an optional
default value. -/
inductive Param.IsPlain : Param → Prop
  /-- Three points. -/
  | ellipsis : IsPlain ⟨none, some (.name "..."), none⟩
  /-- A type. -/
  | unnamed {t : Expr} {v : Option String} (ht : t.IsPlainType)
    (hv : ∀ s ∈ v, Text.IsDefault s.toList) : IsPlain ⟨some t, none, v⟩
  /-- A type and a name. -/
  | named {t n : Expr} {v : Option String} (ht : t.IsPlainType) (hn : n.IsPlainName)
    (hv : ∀ s ∈ v, Text.IsDefault s.toList) : IsPlain ⟨some t, some n, v⟩

theorem Param.IsPlain.isForm {p : Param} (h : p.IsPlain) : p.IsForm := by
  cases h with
  | ellipsis => exact .ellipsis
  | unnamed ht hv => exact .unnamed ht.isType hv
  | named ht hn hv => exact .named ht.isType hn.isComponent hv

/-- **A plain parameter stands** in front of a comma or a closing parenthesis. -/
theorem Param.IsPlain.stands {p : Param} {k : List Char} (h : p.IsPlain) (hk : Text.EndsValue k) :
    p.Stands k := by
  cases h with
  | ellipsis => trivial
  | @unnamed t v ht hv =>
    obtain ⟨x, cs, hcs, hx⟩ := exists_cons_of_default (v := v) hk
    -- an equals sign, a comma or the parenthesis follows a type without a name
    have hclear : Expr.Clear (defaultChars v ++ k) := by
      have hall : ∀ x ∈ ['=', ',', ')'], Text.isBlank x = false ∧
          (x ≠ 'c' ∧ x ≠ '*' ∧ x ≠ '&' ∧ x ≠ '[' ∧ x ≠ ':' ∧ x ≠ '<') := by
        decide
      rw [hcs]
      exact Expr.clear_cons (hall x hx).1 (hall x hx).2
    exact ht.typeStands hclear
  | @named t n v ht hn hv =>
    refine ⟨ht.typeStands (Expr.clear_name hn.isType ?_ (isSeam_of_default hk).1), hn.stands _⟩
    -- the name is no `const`, or it would be read as a suffix
    intro he
    exact hn.opensPlain.opening (he ▸ by decide)

/-- Plain parameters stand in front of the closing parenthesis. -/
theorem Param.allStand_of_isPlain {ps : List Param} {k : List Char} (h : ∀ p ∈ ps, p.IsPlain)
    (hk : Text.EndsValue k) : AllStand ps k := by
  induction ps with
  | nil => trivial
  | cons p ps ih =>
    refine ⟨(h p (List.mem_cons_self ..)).stands ?_, ih fun q hq => h q (List.mem_cons_of_mem _ hq)⟩
    -- a comma ends the parameter if another follows
    cases ps with
    | nil => exact hk
    | cons q qs => exact Or.inl rfl

/-! ### Declarations -/

namespace Declaration

/-- **A plain declaration** of a kind. -/
inductive IsPlain : ObjectKind → Declaration → Prop
  /-- A class. -/
  | classType {v : Visibility} {s : Bool} {name : Expr} (hn : name.IsPlainType) :
    IsPlain .classType ⟨name, v, s, .classType⟩
  /-- A bare type name. -/
  | typeName {v : Visibility} {s : Bool} {name : Expr} (hn : name.IsPlainType) :
    IsPlain .typeName ⟨name, v, s, .typeName none⟩
  /-- An alias. -/
  | typeAlias {v : Visibility} {s : Bool} {name target : Expr} (ht : target.IsPlainType)
    (hn : name.IsPlainDeclarator) : IsPlain .typeName ⟨name, v, s, .typeName (some target)⟩
  /-- A member. -/
  | member {v : Visibility} {s : Bool} {name type : Expr} {value : Option String}
    (ht : type.IsPlainType) (hn : name.IsPlainDeclarator)
    (hv : ∀ s ∈ value, Text.IsTrimmed s.toList) :
    IsPlain .member ⟨name, v, s, .member type value⟩
  /-- A function. -/
  | function {v : Visibility} {s : Bool} {name : Expr} {f : FunctionInfo}
    (hr : ∀ t ∈ f.returns, t.IsPlainType) (hn : name.IsPlainFunctionName)
    (hp : ∀ p ∈ f.params, p.IsPlain) : IsPlain .function ⟨name, v, s, .function f⟩

variable {kind : ObjectKind} {d : Declaration}

theorem IsPlain.isForm (h : IsPlain kind d) : IsForm kind d := by
  cases h with
  | classType hn => exact .classType hn.isType
  | typeName hn => exact .typeName hn.isType (by simp)
  | typeAlias ht hn => exact .typeName hn.type.isType (by simpa using ht.isType)
  | member ht hn hv => exact .member hn.type.isType ht.isType hv
  | function hr hn hp =>
    exact .function hn.isType (fun t ht => (hr t ht).isType) fun p hm => (hp p hm).isForm

/-- The words that are not written are words of a declaration. -/
theorem mem_declarationWords_of_unwritten {w : String} (h : w ∈ d.unwritten) :
    w ∈ Expr.declarationWords := by
  -- the words of functions, then `static` and the words of access
  rcases List.mem_append.mp h with h | h
  · split at h
    · exact (by decide : ∀ w ∈ ["explicit", "virtual"], w ∈ Expr.declarationWords) w h
    · cases h
  · split at h
    · rcases List.mem_cons.mp h with rfl | h
      · decide
      · split at h
        · exact (by decide : ∀ w ∈ Visibility.all.map Visibility.keyword,
            w ∈ Expr.declarationWords) w h
        · cases h
    · cases h

/-- **A plain declaration stands.** -/
theorem IsPlain.stands (h : IsPlain kind d) : d.Stands := by
  have hnil := Expr.clear_nil
  refine ⟨fun hm => ?_, ?_⟩
  · have hm' := mem_declarationWords_of_unwritten hm
    cases h with
    | classType hn => exact hn.opening_not_mem hm'
    | typeName hn => exact hn.opening_not_mem hm'
    | typeAlias ht _ => exact ht.opening_not_mem hm'
    | member ht _ _ => exact ht.opening_not_mem hm'
    | @function _ _ _ f hr hn _ =>
      obtain ⟨_, _, returns, _, _, _⟩ := f
      cases returns with
      | none => exact hn.opening_not_mem hm'
      | some t => exact (hr t rfl).opening_not_mem hm'
  -- Each type stands because what follows it is clear of everything that could be read along.
  · cases h with
    | classType hn => exact hn.typeStands hnil
    | typeName hn => exact hn.typeStands hnil
    | typeAlias ht hn =>
      have hclear := Expr.clear_name hn.type.isType hn.front (k := []) Text.isSeam_none
      rw [List.append_nil] at hclear
      exact ⟨ht.typeStands hclear, hn.type.typeStands hnil⟩
    | @member _ _ _ _ value ht hn _ =>
      refine ⟨ht.typeStands (Expr.clear_name hn.type.isType hn.front (isSeam_valueChars value)),
        hn.type.typeStands ?_⟩
      cases value with
      | none => exact hnil
      | some s => exact Expr.clear_space (Expr.clear_cons (x := '=') (by decide) (by decide))
    | @function _ _ _ f hr hn hp =>
      refine ⟨fun t ht => (hr t ht).typeStands (Expr.clear_name hn.isType hn.opening_ne ?_),
        hn.typeStands (Or.inr ⟨_, rfl⟩), Param.allStand_of_isPlain hp (Or.inr rfl)⟩
      exact Text.isSeam_some_of_ascii (by decide) (by decide)

/-- **A plain declaration is what its canonical text is parsed as.** -/
theorem parse_render_of_isPlain (h : IsPlain kind d) : parse kind d.render = .ok d :=
  h.isForm.parse_render_of_stands h.stands

/-- The text of a pure virtual assignment operator is read back, and so is that of a member whose name is an
array. -/
theorem parse_render_assignment :
    (∃ d, IsPlain .function d ∧ d.render =
      "protected virtual Vec& ns::Vec::operator=(const Vec& v=f(1, 2), char*, ...) const = 0" ∧
        parse .function d.render = .ok d) ∧
    ∃ d, IsPlain .member d ∧ d.render = "private static const char* ns::v[4] = 0" ∧
      parse .member d.render = .ok d := by
  have hname : ∀ s ∈ ["ns", "Vec", "v", "char"], Expr.IsPlainName (.name s) := by
    have hword : ∀ s ∈ ["ns", "Vec", "v", "char"],
        Text.IsWord s.toList ∧ s ∉ Expr.reservedWords := by decide
    exact fun s hs => Expr.isPlainName_of_isWord (hword s hs)
  have htype : ∀ (isConst : Bool), ∀ s ∈ ["ns", "Vec", "v", "char"],
      Expr.IsPlainType (Expr.underWords isConst [] (.name s)) :=
    fun isConst s hs => .front (by simp) (.name (hname s hs))
  -- the comma in the parentheses does not end the value
  have hsplit : Text.splitDefault? 0 none ("f(1, 2)".toList ++ [',']) =
      some ("f(1, 2)".toList, [',']) := by
    decide +kernel
  have hdefault : Text.IsDefault "f(1, 2)".toList :=
    .scanned (Text.scanned_of_splitDefault? hsplit).1 (by decide) ⟨by decide, by decide⟩
  have hparam : ∀ p ∈ [
      Param.mk (some (.reference (.const .before (.name "Vec")))) (some (.name "v"))
        (some "f(1, 2)"),
      Param.mk (some (.pointer (.name "char"))) none none,
      Param.mk none (some (.name "...")) none], p.IsPlain := by
    intro p hp
    simp only [List.mem_cons, List.not_mem_nil, or_false] at hp
    rcases hp with rfl | rfl | rfl
    · exact .named (.reference (htype true "Vec" (by simp))) (hname "v" (by simp))
        (by simpa using hdefault)
    · exact .unnamed (.pointer (htype false "char" (by simp))) (by simp)
    · exact .ellipsis
  have hop : Expr.IsPlainFunctionName (.path ([.name "ns", .name "Vec"] ++ [.name "operator="])) :=
    .inScope (.names (hname "ns" (by simp)) (by simpa using hname "Vec" (by simp)))
      (@Expr.IsPlainOperator.sign "=" (by decide))
  have hreturns : ∀ t ∈ some (Expr.reference (.name "Vec")), t.IsPlainType := by
    rintro t ⟨⟩
    exact .reference (htype false "Vec" (by simp))
  have h : IsPlain .function ⟨_, .prot, false, .function ⟨false, true, _, _, true, true⟩⟩ :=
    .function hreturns hop hparam
  -- the name of the member is a path, and an array of it may stand behind a type as well
  have hpath : Expr.IsPlainPrimary (.path [.name "ns", .name "v"]) :=
    .path (.names (hname "ns" (by simp)) (by simpa using hname "v" (by simp)) (by simp))
  have hsize : Expr.IsPlainSize "4" := ⟨by decide, ⟨by decide, by decide⟩, by decide⟩
  have hvalue : ∀ s ∈ some "0", Text.IsTrimmed s.toList := by
    rintro s ⟨⟩
    exact ⟨by decide, by decide⟩
  have h' : IsPlain .member ⟨_, .priv, true, .member _ (some "0")⟩ :=
    .member (.pointer (htype true "char" (by simp))) (hpath.isPlainDeclarator.array hsize) hvalue
  exact ⟨⟨_, h, by decide, parse_render_of_isPlain h⟩, _, h', by decide, parse_render_of_isPlain h'⟩

end Declaration

end CppIndex
