import CppIndex.Proofs.Expr.Closing

/-!
# Plain types

A tree is **plain** if it is built from identifiers that are no keywords of a declaration: names, paths
and templates of such names, words and a `const` in front, and any suffixes behind, in the order in
which they are read. Nothing about a plain tree depends on what it was read from, and its text stands
before every text that begins neither with a suffix nor with what continues a path
(`IsPlainType.typeStands`). In particular it is what its own text is parsed as
(`IsPlainType.parse_render`).
-/

namespace CppIndex.Expr

/-! ### Plain trees -/

/-- The words with a meaning of their own in a declaration. -/
def reservedWords : List String := [
  "operator", "new", "delete", "const", "volatile", "register", "mutable", "typename", "unsigned",
  "signed", "short", "long", "public", "private", "protected", "static", "virtual", "explicit"]

/-- **A plain identifier**: an identifier whose word, the `~` apart, is not reserved. -/
structure IsPlainIdentifier (s : String) : Prop where
  /-- It is an identifier. -/
  identifier : Text.IsIdentifier s.toList
  /-- Its word is not reserved. -/
  free : String.ofList (Text.splitTilde s.toList).2 ∉ reservedWords

/-- **The bound of a plain array**: not empty, without blanks at its ends, on one line and without a
closing bracket. -/
structure IsPlainSize (s : String) : Prop where
  /-- There is a bound. -/
  ne_nil : s.toList ≠ []
  /-- It has no blanks at its ends. -/
  trimmed : Text.IsTrimmed s.toList
  /-- It holds neither a closing bracket nor a line feed. -/
  line : ∀ x ∈ s.toList, x ≠ ']' ∧ x ≠ '\n'

/-- The words that may stand in front of a plain type, `const` apart. -/
def modifierWords : List String := ["volatile", "register", "mutable", "typename"]

/-- **A plain name.** -/
inductive IsPlainName : Expr → Prop
  /-- A plain identifier. -/
  | intro {s : String} (h : IsPlainIdentifier s) : IsPlainName (.name s)

mutual

/-- **A plain path**: at least two components, of which the first may have arguments. -/
inductive IsPlainPath : Expr → Prop
  /-- All components are names. -/
  | names {p : Expr} {qs : List Expr} (hp : IsPlainName p) (hq : ∀ q ∈ qs, IsPlainName q)
    (hn : qs ≠ []) : IsPlainPath (.path (p :: qs))
  /-- The first component has arguments. -/
  | template {p : Expr} {qs : List Expr} (hp : IsPlainTemplate p) (hq : ∀ q ∈ qs, IsPlainName q)
    (hn : qs ≠ []) : IsPlainPath (.path (p :: qs))

/-- **A plain template**: a name or a path, with plain types as arguments. -/
inductive IsPlainTemplate : Expr → Prop
  /-- Of a name. -/
  | name {head : Expr} {args : List Expr} (hh : IsPlainName head) (ha : ∀ a ∈ args, IsPlainType a) :
    IsPlainTemplate (.template head args)
  /-- Of a path. -/
  | path {head : Expr} {args : List Expr} (hh : IsPlainPath head) (ha : ∀ a ∈ args, IsPlainType a) :
    IsPlainTemplate (.template head args)

/-- **A plain primary expression.** -/
inductive IsPlainPrimary : Expr → Prop
  /-- A name. -/
  | name {e : Expr} (h : IsPlainName e) : IsPlainPrimary e
  /-- A path. -/
  | path {e : Expr} (h : IsPlainPath e) : IsPlainPrimary e
  /-- A template. -/
  | template {e : Expr} (h : IsPlainTemplate e) : IsPlainPrimary e

/-- **A plain type**: a primary expression, perhaps with words in front of it, then perhaps with a
`const`, and then with any suffixes. -/
inductive IsPlainType : Expr → Prop
  /-- What stands before the suffixes. -/
  | front {isConst : Bool} {words : List String} {e : Expr} (hw : ∀ w ∈ words, w ∈ modifierWords)
    (h : IsPlainPrimary e) : IsPlainType (underWords isConst words e)
  /-- A pointer. -/
  | pointer {e : Expr} (h : IsPlainType e) : IsPlainType (.pointer e)
  /-- A reference. -/
  | reference {e : Expr} (h : IsPlainType e) : IsPlainType (.reference e)
  /-- A constant, with `const` behind. -/
  | const {e : Expr} (h : IsPlainType e) : IsPlainType (.const .after e)
  /-- An array with a bound. -/
  | array {e : Expr} {size : String} (h : IsPlainType e) (hs : IsPlainSize size) :
    IsPlainType (.array e (some size))

end

/-- **Induction on the suffixes of a plain type**: what holds in front of them, and is kept by each of
them, holds of the type. -/
theorem IsPlainType.induct {motive : (e : Expr) → IsPlainType e → Prop}
    (front : ∀ {isConst words e} (hw : ∀ w ∈ words, w ∈ modifierWords) (h : IsPlainPrimary e),
      motive (underWords isConst words e) (.front hw h))
    (pointer : ∀ {e} (h : IsPlainType e), motive e h → motive (.pointer e) h.pointer)
    (reference : ∀ {e} (h : IsPlainType e), motive e h → motive (.reference e) h.reference)
    (const : ∀ {e} (h : IsPlainType e), motive e h → motive (.const .after e) h.const)
    (array : ∀ {e size} (h : IsPlainType e) (hs : IsPlainSize size),
      motive e h → motive (.array e (some size)) (h.array hs))
    {e : Expr} (h : IsPlainType e) : motive e h := by
  match h with
  | .front hw h => exact front hw h
  | .pointer h => exact pointer h (IsPlainType.induct front pointer reference const array h)
  | .reference h => exact reference h (IsPlainType.induct front pointer reference const array h)
  | .const h => exact const h (IsPlainType.induct front pointer reference const array h)
  | .array h hs => exact array h hs (IsPlainType.induct front pointer reference const array h)

/-- A plain primary expression is a plain type. -/
theorem IsPlainPrimary.isPlainType {e : Expr} (h : IsPlainPrimary e) : IsPlainType e :=
  @IsPlainType.front false [] e (by simp) h

/-- A word is a plain name, unless it is reserved. -/
theorem isPlainName_of_isWord {s : String} (h : Text.IsWord s.toList ∧ s ∉ reservedWords) :
    IsPlainName (.name s) := by
  refine .intro ⟨Or.inl h.1, ?_⟩
  rw [Text.splitTilde_of_isWord h.1, String.ofList_toList]
  exact h.2

/-! ### Plain trees have the form of types -/

theorem IsPlainSize.isBound {s : String} (h : IsPlainSize s) : Text.IsBound s.toList :=
  Text.isBound_of_forall h.ne_nil h.trimmed.front h.trimmed.back h.line

/-- A plain identifier is no reserved word. -/
theorem IsPlainIdentifier.not_mem {s : String} (h : IsPlainIdentifier s) : s ∉ reservedWords := by
  intro hm
  -- no reserved word begins with a `~`, so the word of one is the whole
  have hall : ∀ s ∈ reservedWords, String.ofList (Text.splitTilde s.toList).2 = s := by decide
  exact h.free ((hall s hm).symm ▸ hm)

theorem IsPlainName.isComponent {e : Expr} (h : IsPlainName e) : IsComponent e := by
  obtain ⟨h⟩ := h
  refine .word h.identifier ?_
  rintro rfl
  exact h.not_mem (by decide)

/-- Names behind components are components. -/
theorem IsParts.append {ps qs : List Expr} (hp : IsParts ps) (hq : ∀ q ∈ qs, IsComponent q) :
    IsParts (ps ++ qs) := by
  induction qs generalizing ps with
  | nil => simpa using hp
  | cons q qs ih =>
    rw [List.append_cons]
    exact ih (hp.part (hq q (List.mem_cons_self ..))) fun r hr => hq r (List.mem_cons_of_mem _ hr)

/-- A list of types is a list of arguments. -/
theorem isArgs_of_forall {as : List Expr} (h : ∀ a ∈ as, IsType a) : IsArgs as := by
  -- arguments are passed at the end, so this goes with those passed already in front
  have happend : ∀ (vs us : List Expr), IsArgs us → (∀ a ∈ vs, IsType a) → IsArgs (us ++ vs) := by
    intro vs
    induction vs with
    | nil =>
      intro us hu _
      simpa using hu
    | cons v vs ih =>
      intro us hu hv
      rw [List.append_cons]
      exact ih _ (hu.arg (hv v (List.mem_cons_self ..))) fun a ha => hv a (List.mem_cons_of_mem _ ha)
  simpa using happend as [] .nil h

/-- The words of a plain type may stand in front of any type. -/
theorem mem_frontWords_of_modifierWords {isConst : Bool} {words : List String}
    (hw : ∀ w ∈ words, w ∈ modifierWords) :
    ∀ w ∈ (if isConst then ["const"] else []) ++ words, w ∈ frontWords := by
  have hall : ∀ w ∈ modifierWords, w ∈ frontWords := by decide
  intro w hm
  rcases List.mem_append.mp hm with hm | hm
  · cases isConst with
    | false => cases hm
    | true =>
      rw [List.mem_singleton.mp hm]
      decide
  · exact hall w (hw w hm)

/-- A `const` and other words in front of a base, as the reader puts them there. -/
theorem underWords_eq_fronted {isConst : Bool} {words : List String} {e : Expr}
    (hw : ∀ w ∈ words, w ∈ modifierWords) :
    underWords isConst words e = fronted ((if isConst then ["const"] else []) ++ words) e := by
  have hconst : "const" ∉ words := fun hm => absurd (hw _ hm) (by decide)
  cases isConst with
  | false =>
    -- without a `const` nothing is taken out of the words
    rw [fronted, if_neg (by decide), List.nil_append, List.erase_of_not_mem hconst,
      decide_eq_false hconst]
  | true =>
    -- with one, the `const` in front is the one that is taken out
    rw [fronted, if_pos rfl, List.singleton_append, List.erase_cons_head,
      decide_eq_true (List.mem_cons_self ..)]

/-- Arguments behind a path whose last component is a name. -/
theorem isParts_template {p : Expr} {qs args : List Expr} (hp : IsParts [p])
    (hq : ∀ q ∈ qs, IsComponent q) (hn : qs ≠ []) (ha : IsArgs args) :
    IsParts [.template (.path (p :: qs)) args] := by
  -- arguments are taken by the component read last, so the path is opened at its end
  rcases List.eq_nil_or_concat qs with rfl | ⟨rs, r, rfl⟩
  · exact absurd rfl hn
  · rw [List.concat_eq_append] at hq ⊢
    have hrs : IsParts (p :: rs) := hp.append fun q hm => hq q (List.mem_append_left _ hm)
    have h := hrs.template (hq r (by simp)) ha
    rwa [List.cons_append, ofParts_cons (by simp)] at h

mutual

/-- A plain path is made of components. -/
theorem IsPlainPath.exists_parts {e : Expr} (h : IsPlainPath e) :
    ∃ p qs, e = .path (p :: qs) ∧ IsParts [p] ∧ (∀ q ∈ qs, IsPlainName q) ∧ qs ≠ [] := by
  -- a path may begin with a template, whose arguments are types again: the four claims go along the
  -- tree together
  match h with
  | .names hp hq hn => exact ⟨_, _, rfl, IsParts.nil.part hp.isComponent, hq, hn⟩
  | .template hp hq hn => exact ⟨_, _, rfl, IsPlainTemplate.isParts hp, hq, hn⟩

/-- A plain template is a component with arguments. -/
theorem IsPlainTemplate.isParts {e : Expr} (h : IsPlainTemplate e) : IsParts [e] := by
  match h with
  | .name hh ha =>
    exact IsParts.nil.template hh.isComponent (isArgs_of_forall fun a hm => IsPlainType.isType (ha a hm))
  | .path hh ha =>
    obtain ⟨p, qs, rfl, hp, hq, hn⟩ := IsPlainPath.exists_parts hh
    exact isParts_template hp (fun q hm => (hq q hm).isComponent) hn
      (isArgs_of_forall fun a hm => IsPlainType.isType (ha a hm))

/-- A plain primary expression is made of components. -/
theorem IsPlainPrimary.exists_parts {e : Expr} (h : IsPlainPrimary e) :
    ∃ ps, e = ofParts ps ∧ IsParts ps ∧ ps ≠ [] := by
  match h with
  | .name h => exact ⟨[e], rfl, IsParts.nil.part h.isComponent, by simp⟩
  | .path h =>
    obtain ⟨p, qs, rfl, hp, hq, hn⟩ := IsPlainPath.exists_parts h
    exact ⟨p :: qs, (ofParts_cons hn).symm, hp.append fun q hm => (hq q hm).isComponent, by simp⟩
  | .template h => exact ⟨[e], rfl, IsPlainTemplate.isParts h, by simp⟩

/-- **A plain type has the form of a type.** -/
theorem IsPlainType.isType {e : Expr} (h : IsPlainType e) : IsType e := by
  match h with
  | @IsPlainType.front isConst words e hw h =>
    obtain ⟨ps, rfl, hp, hn⟩ := IsPlainPrimary.exists_parts h
    rw [underWords_eq_fronted hw]
    exact .front (.parts (mem_frontWords_of_modifierWords hw) hp hn)
  | .pointer h => exact (IsPlainType.isType h).pointer
  | .reference h => exact (IsPlainType.isType h).reference
  | .const h => exact (IsPlainType.isType h).const
  | .array h hs =>
    refine (IsPlainType.isType h).array fun s hs' => ?_
    obtain rfl := Option.some.inj hs'
    exact hs.isBound

end

/-! ### Plain trees stand -/

/-- **A text ends every plain type**: it begins neither with a suffix nor with what continues a path. -/
structure Clear (k : List Char) : Prop where
  /-- No suffix follows. -/
  suffix : NoSuffix (Text.dropBlank k)
  /-- No component follows. -/
  component : NoComponent (Text.dropBlank k)
  /-- No arguments follow. -/
  arguments : NoArguments (Text.dropBlank k)

/-- The end of a text ends every plain type. -/
theorem clear_nil : Clear [] :=
  ⟨⟨fun r h => by simp at h, by simp, by simp, rfl⟩, by simp [NoComponent], by simp [NoArguments]⟩

/-- So does every sign that begins none of these. -/
theorem clear_cons {x : Char} {k : List Char} (hb : Text.isBlank x = false)
    (hx : x ≠ 'c' ∧ x ≠ '*' ∧ x ≠ '&' ∧ x ≠ '[' ∧ x ≠ ':' ∧ x ≠ '<') : Clear (x :: k) := by
  obtain ⟨hc, hp, hr, ha, hcolon, hangle⟩ := hx
  have hd : Text.dropBlank (x :: k) = x :: k := Text.dropBlank_cons_of_not_blank hb
  -- one sign is ruled out for each suffix and for each continuation of a path
  refine ⟨⟨fun r h => ?_, ?_, ?_, ?_⟩, ?_, ?_⟩
  · rw [hd] at h
    exact absurd (List.cons.inj h).1 hc
  · rw [hd]
    exact fun h => hp (Option.some.inj h)
  · rw [hd]
    exact fun h => hr (Option.some.inj h)
  · rw [hd]
    exact Text.arrayBound?_eq_none fun h => ha (Option.some.inj h)
  · rw [hd]
    exact fun h => hcolon (List.cons_prefix_cons.mp h).1.symm
  · rw [hd]
    exact fun h => hangle (List.cons_prefix_cons.mp h).1.symm

/-- Blanks in front make no difference. -/
theorem clear_space {k : List Char} (h : Clear k) : Clear (' ' :: k) := by
  have hd : Text.dropBlank (' ' :: k) = Text.dropBlank k :=
    Text.dropBlank_cons_of_blank (by decide)
  exact ⟨hd ▸ h.suffix, hd ▸ h.component, hd ▸ h.arguments⟩

theorem IsPlainName.stands {e : Expr} (h : IsPlainName e) (k : List Char) : Stands e k := by
  obtain ⟨h⟩ := h
  exact nameStands_of_isIdentifier h.identifier

/-- Names behind others stand. -/
theorem partsStand_of_names {qs : List Expr} (hq : ∀ q ∈ qs, IsPlainName q) (k : List Char) :
    PartsStand qs k := by
  induction qs with
  | nil => trivial
  | cons q qs ih =>
    exact ⟨(hq q (List.mem_cons_self ..)).stands _, ih fun r hr => hq r (List.mem_cons_of_mem _ hr)⟩

/-- Arguments stand if each of them does before a comma and before the closing angle. -/
theorem argsStand_of_forall {as : List Expr} {k : List Char}
    (h : ∀ a ∈ as, ∀ k, Clear k → TypeStands a k) : ArgsStand as ('>' :: k) := by
  induction as with
  | nil => trivial
  | cons a as ih =>
    -- what follows an argument is a comma, or the closing angle behind the last one
    have hclear : Clear (following [',', ' '] as ++ '>' :: k) := by
      cases as with
      | nil => exact clear_cons (by decide) (by decide)
      | cons b bs => exact clear_cons (x := ',') (by decide) (by decide)
    have hs := h a (List.mem_cons_self ..) _ hclear
    exact ⟨⟨hs.begins, hs.stands, hs.ends⟩, ih fun b hb => h b (List.mem_cons_of_mem _ hb)⟩

/-- **The text opens with a plain identifier.** -/
def OpensPlain (cs : List Char) : Prop :=
  ∃ s tail, cs = s.toList ++ tail ∧ IsPlainIdentifier s ∧ Text.IsSeam tail.head?

theorem IsPlainName.opensPlain {e : Expr} (h : IsPlainName e) : OpensPlain e.chars := by
  obtain ⟨h⟩ := h
  exact ⟨_, [], by simp, h, Text.isSeam_none⟩

/-- What stands behind a sign changes nothing. -/
theorem OpensPlain.append {cs k : List Char} (h : OpensPlain cs) (hk : Text.IsSeam k.head?) :
    OpensPlain (cs ++ k) := by
  obtain ⟨s, tail, rfl, hs, ht⟩ := h
  refine ⟨s, tail ++ k, by simp, hs, ?_⟩
  -- the identifier ends where it did; only if nothing stood behind it does the new text come next to it
  cases tail with
  | nil => exact hk
  | cons x tail => exact ht

/-- The text of a path opens as its first component does. -/
theorem opensPlain_path {p : Expr} {qs : List Expr} (h : OpensPlain p.chars) (hn : qs ≠ []) :
    OpensPlain (path (p :: qs)).chars := by
  rw [chars_path, joined_cons _ _ hn, List.append_assoc]
  exact h.append (isSeam_sign (by simp))

theorem opensPlain_template {head : Expr} {args : List Expr} (h : OpensPlain head.chars) :
    OpensPlain (template head args).chars := by
  rw [chars_template, List.append_assoc]
  exact h.append (isSeam_sign (by simp))

/-- No word of a type opens the text. -/
theorem OpensPlain.wordRule? {e : Expr} (h : OpensPlain e.chars) :
    Expr.wordRule? e.opening = none := by
  obtain ⟨s, tail, hcs, hs, ht⟩ := h
  have hop : e.opening = s := opening_of_chars hcs hs.identifier ht
  -- every word with a rule is reserved, and a plain identifier is not
  have hsub : ∀ w ∈ frontWords ++ builtinStarts, w ∈ reservedWords := by decide
  rw [hop]
  exact wordRule?_eq_none_iff.mpr
    ⟨fun hm => hs.not_mem (hsub s (List.mem_append_left _ hm)),
      fun hm => hs.not_mem (hsub s (List.mem_append_right _ hm))⟩

/-- What may follow a plain primary expression. -/
theorem IsPlainPrimary.follow {e : Expr} {k : List Char} (h : IsPlainPrimary e)
    (hc : NoComponent k) (ha : NoArguments k) : Follow e k := by
  cases h with
  | name h =>
    obtain @⟨s, h⟩ := h
    -- only behind `long` could an `int` be read on
    have hne : s ≠ "long" := fun he => h.not_mem (he ▸ by decide)
    rw [Follow, if_neg hne]
    exact ⟨hc, ha⟩
  | path h =>
    cases h with
    | names => exact ⟨hc, ha⟩
    | template => exact ⟨hc, ha⟩
  | template h =>
    cases h with
    | name => exact hc
    | path => exact hc

/-- A plain primary expression is primary. -/
theorem IsPlainPrimary.isPrimary {e : Expr} (h : IsPlainPrimary e) : e.isPrimary = true := by
  cases h with
  | name h => cases h; rfl
  | path h => cases h <;> rfl
  | template h => cases h <;> rfl

/-- What may follow a plain type. -/
theorem IsPlainType.follow {e : Expr} {k : List Char} (h : IsPlainType e) (hc : NoComponent k)
    (ha : NoArguments k) : Follow e k := by
  cases h with
  | front hw h =>
    have hall : ∀ w ∈ modifierWords, w ∈ frontWords := by decide
    exact (follow_underWords fun w hm => hall w (hw w hm)).mpr (h.follow hc ha)
  | pointer => trivial
  | reference => trivial
  | const => trivial
  | array => trivial

/-- The parts of a plain type that do not depend on the following text. -/
structure Standing (e : Expr) : Prop where
  /-- It begins as the tree does. -/
  begins : Begins e
  /-- It stands inside, whatever follows. -/
  stands : ∀ k, Stands e k

/-- What stands inside stands as a type before every text that ends it. -/
theorem Standing.typeStands {e : Expr} {k : List Char} (hs : Standing e) (h : IsPlainType e)
    (hk : Clear k) : TypeStands e k :=
  ⟨hs.begins, hs.stands k, hk.suffix, h.follow hk.component hk.arguments⟩

mutual

/-- A plain path stands before every text. -/
theorem IsPlainPath.stands {e : Expr} (h : IsPlainPath e) :
    (∀ k, Stands e k) ∧ OpensPlain e.chars := by
  match h with
  | .names hp hq hn =>
    exact ⟨fun k => ⟨hp.stands _, partsStand_of_names hq k⟩, opensPlain_path hp.opensPlain hn⟩
  | .template hp hq hn =>
    obtain ⟨hstands, hopens⟩ := IsPlainTemplate.stands hp
    exact ⟨fun k => ⟨hstands _, partsStand_of_names hq k⟩, opensPlain_path hopens hn⟩

/-- A plain template stands before every text. -/
theorem IsPlainTemplate.stands {e : Expr} (h : IsPlainTemplate e) :
    (∀ k, Stands e k) ∧ OpensPlain e.chars := by
  match h with
  -- each argument is a plain type, which stands before the comma or the angle that follows it
  | .name hh ha =>
    refine ⟨fun k => ⟨hh.stands _, argsStand_of_forall fun a hm k hk => ?_⟩,
      opensPlain_template hh.opensPlain⟩
    exact (IsPlainType.standing (ha a hm)).typeStands (ha a hm) hk
  | .path hh ha =>
    obtain ⟨hstands, hopens⟩ := IsPlainPath.stands hh
    refine ⟨fun k => ⟨hstands _, argsStand_of_forall fun a hm k hk => ?_⟩,
      opensPlain_template hopens⟩
    exact (IsPlainType.standing (ha a hm)).typeStands (ha a hm) hk

/-- A plain primary expression stands before every text. -/
theorem IsPlainPrimary.stands {e : Expr} (h : IsPlainPrimary e) :
    (∀ k, Stands e k) ∧ OpensPlain e.chars := by
  match h with
  | .name h => exact ⟨h.stands, h.opensPlain⟩
  | .path h => exact IsPlainPath.stands h
  | .template h => exact IsPlainTemplate.stands h

/-- A plain type stands before every text, as far as its inside is concerned. -/
theorem IsPlainType.standing {e : Expr} (h : IsPlainType e) : Standing e := by
  match h with
  | .front hw h =>
    obtain ⟨hstands, hopens⟩ := IsPlainPrimary.stands h
    -- no word begins the base, so no built-in run is read in its place
    refine ⟨Or.inr ?_, fun k => (stands_underWords _ _).mpr (hstands k)⟩
    rw [declaredName_underWords, declaredName_of_isPrimary h.isPrimary]
    exact hopens.wordRule?
  | .pointer h =>
    obtain ⟨hbegins, hstands⟩ := IsPlainType.standing h
    exact ⟨hbegins, fun k => hstands _⟩
  | .reference h =>
    obtain ⟨hbegins, hstands⟩ := IsPlainType.standing h
    exact ⟨hbegins, fun k => hstands _⟩
  | .const h =>
    obtain ⟨hbegins, hstands⟩ := IsPlainType.standing h
    exact ⟨hbegins, fun k => hstands _⟩
  | .array h hs =>
    obtain ⟨hbegins, hstands⟩ := IsPlainType.standing h
    -- the bound is written, so no empty pair of brackets stands there
    exact ⟨hbegins, fun k => ⟨hstands _, fun hn => by cases hn⟩⟩

end

/-- **A plain type stands before every text that ends it.** -/
theorem IsPlainType.typeStands {e : Expr} {k : List Char} (h : IsPlainType e) (hk : Clear k) :
    TypeStands e k :=
  h.standing.typeStands h hk

/-- **A plain type is what its canonical text is parsed as.** -/
theorem IsPlainType.parse_render {e : Expr} (h : IsPlainType e) : parse e.render = .ok e :=
  parse_render_of_typeStands h.isType (h.typeStands clear_nil)

/-- The text `const volatile std::vector<T*, long_t>::iterator[4]&` is read back. -/
theorem parse_render_vector_iterator :
    ∃ e, IsPlainType e ∧ e.render = "const volatile std::vector<T*, long_t>::iterator[4]&" ∧
      parse e.render = .ok e := by
  have hname : ∀ s ∈ ["std", "vector", "T", "long_t", "iterator"], IsPlainName (.name s) := by
    have hword : ∀ s ∈ ["std", "vector", "T", "long_t", "iterator"],
        Text.IsWord s.toList ∧ s ∉ reservedWords := by decide
    exact fun s hs => isPlainName_of_isWord (hword s hs)
  have hargs : ∀ a ∈ [pointer (name "T"), name "long_t"], IsPlainType a := by
    intro a ha
    simp only [List.mem_cons, List.not_mem_nil, or_false] at ha
    rcases ha with rfl | rfl
    · exact .pointer (@IsPlainType.front false [] _ (by simp) (.name (hname _ (by simp))))
    · exact @IsPlainType.front false [] _ (by simp) (.name (hname _ (by simp)))
  have hpath : IsPlainPath (.path [name "std", name "vector"]) :=
    .names (hname _ (by simp)) (by simpa using hname "vector" (by simp)) (by simp)
  have hiterator : IsPlainPath (.path [.template (.path [name "std", name "vector"])
      [pointer (name "T"), name "long_t"], name "iterator"]) :=
    .template (.path hpath hargs) (by simpa using hname "iterator" (by simp)) (by simp)
  have hsize : IsPlainSize "4" := ⟨by decide, ⟨by decide, by decide⟩, by decide⟩
  have h : IsPlainType (.reference (.array (underWords true ["volatile"] (.path [.template
      (.path [name "std", name "vector"]) [pointer (name "T"), name "long_t"], name "iterator"]))
      (some "4"))) := .reference (.array (.front (by decide) (.path hiterator)) hsize)
  exact ⟨_, h, by decide, h.parse_render⟩

end CppIndex.Expr
