import CppIndex.Proofs.Declaration.Words
import Mathlib.Data.List.Induction

/-!
# A declaration that stands is read back

The canonical text of a declaration that stands is parsed as that declaration
(`Declaration.IsForm.parse_render`). The proof follows the readers: the words in front, the types and
names with what stands behind each, the parameters up to the closing parenthesis, the words behind. A
parameter is always followed by a comma or by the closing parenthesis, which is where the reader of
default values stops (`Text.EndsValue`).
-/

namespace CppIndex

/-- **A type is read over the blank** in front of what follows it. -/
theorem Expr.IsType.readsType_space {b : Bool} {c : Cursor} {t : Expr} {cs l : List Char}
    (ht : t.IsType) (hcs : Text.Opens cs) (hs : t.TypeStands (' ' :: (cs ++ l)))
    (hc : c.rest = t.chars ++ ' ' :: (cs ++ l)) (hp : Text.IsSeam c.previous?) :
    ReadsType b c t (c.moved (t.chars ++ [' ']) (cs ++ l)) ∧
      Text.IsSeam (c.moved (t.chars ++ [' ']) (cs ++ l)).previous? ∧
        (c.moved (t.chars ++ [' ']) (cs ++ l)).skipBlank = c.moved (t.chars ++ [' ']) (cs ++ l) := by
  have hread := ht.readsType (b := b) hc hp (Text.isSeam_of_isBlank (by decide)) hs
  -- the one blank that was written is skipped, for a word follows it
  have hspace : (c.moved t.chars (' ' :: (cs ++ l))).skipBlank =
      c.moved (t.chars ++ [' ']) (cs ++ l) := by
    rw [Cursor.skipBlank_space rfl hcs.not_blank, Cursor.moved_moved]
  rw [hspace] at hread
  refine ⟨hread, ?_, Cursor.skipBlank_eq_self hcs.not_blank⟩
  rw [Cursor.previous?_moved_concat]
  exact Text.isSeam_of_isBlank (by decide)

/-! ### Parameters -/

namespace Param

variable {c : Cursor} {k : List Char} {p : Param} {v : Option String}

/-- What stands behind the type or the name of a parameter: an equals sign, or what follows the
parameter. -/
theorem exists_cons_of_default (hk : Text.EndsValue k) :
    ∃ x cs, defaultChars v ++ k = x :: cs ∧ x ∈ ['=', ',', ')'] := by
  cases v with
  | some s => exact ⟨'=', s.toList ++ k, rfl, by simp⟩
  | none =>
    obtain ⟨x, cs, rfl, hx⟩ := hk.exists_cons
    exact ⟨x, cs, rfl, by rcases hx with rfl | rfl <;> simp⟩

/-- The signs behind a type or a name make a seam and are no blanks. -/
theorem isSeam_of_default (hk : Text.EndsValue k) :
    Text.IsSeam (defaultChars v ++ k).head? ∧
      ∀ x ∈ (defaultChars v ++ k).head?, Text.isBlank x = false := by
  obtain ⟨x, cs, hcs, hx⟩ := exists_cons_of_default (v := v) hk
  -- an equals sign, or what ends the parameter: all three are signs
  have hall : ∀ x ∈ ['=', ',', ')'],
      x.toNat < 0x80 ∧ Text.isAsciiWordChar x = false ∧ Text.isBlank x = false := by
    decide
  obtain ⟨hascii, hword, hblank⟩ := hall x hx
  rw [hcs]
  refine ⟨Text.isSeam_some_of_ascii hascii hword, fun y hy => ?_⟩
  rw [← Option.some.inj hy]
  exact hblank

/-- **A default value is read back** with its equals sign, and so is that there is none. -/
theorem readDefault?_append (hv : ∀ s ∈ v, Text.IsDefault s.toList) (hk : Text.EndsValue k)
    (hc : c.rest = defaultChars v ++ k) :
    readDefault? c = .done v (c.moved (defaultChars v) k) := by
  cases v with
  | none =>
    have hnone : c.skip? "=" = none := by
      refine Cursor.skip?_eq_none (w := '=') rfl ?_
      rw [hc]
      -- a comma or a parenthesis follows, and neither is an equals sign
      obtain ⟨x, cs, rfl, rfl | rfl⟩ := hk.exists_cons
      · simp [defaultChars]
      · simp [defaultChars]
    have hmoved : c.moved (defaultChars none) k = c := Cursor.moved_nil_of_rest hc
    rw [readDefault?, hnone, hmoved]
  | some s =>
    have hskip : c.skip? "=" = some (c.moved ['='] (s.toList ++ k)) := Cursor.skip?_of_append hc
    rw [readDefault?, hskip]
    refine Reading.map_eq_done.mpr ⟨s, ?_, rfl⟩
    rw [readDefault_append (hv s rfl) rfl hk, Cursor.moved_moved]
    rfl

/-- The text of a parameter begins neither with a blank nor with a closing parenthesis. -/
theorem IsForm.head?_chars (h : p.IsForm) :
    ∀ x ∈ (p.chars ++ k).head?, Text.isBlank x = false ∧ x ≠ ')' := by
  -- a type opens with a word, so it begins neither with a blank nor with the parenthesis
  have hopens : ∀ {t : Expr} {l : List Char}, t.IsType →
      ∀ x ∈ (t.chars ++ l).head?, Text.isBlank x = false ∧ x ≠ ')' := by
    intro t l ht x hx
    refine ⟨ht.opens.not_blank x hx, ?_⟩
    rintro rfl
    exact ht.opens.head?_ne (by decide) (by decide) hx
  cases h with
  | ellipsis =>
    rw [chars_ellipsis]
    intro x hx
    obtain rfl := Option.some.inj hx
    decide
  | unnamed ht _ =>
    rw [chars_unnamed, List.append_assoc]
    exact hopens ht
  | named ht _ _ =>
    rw [chars_named, List.append_assoc]
    exact hopens ht

/-- **A parameter is read back** where it stands, in front of a comma or a closing parenthesis. -/
theorem IsForm.reads (h : p.IsForm) (hk : Text.EndsValue k) (hs : p.Stands k)
    (hc : c.rest = p.chars ++ k) (hp : Text.IsSeam c.previous?) :
    Reads c p (c.moved p.chars k) := by
  have hpoints : ∀ {t : Expr} {l : List Char}, t.IsType → c.rest = t.chars ++ l →
      c.skip? "..." = none := fun ht hc =>
    Cursor.skip?_eq_none (w := '.') rfl (hc ▸ ht.opens.head?_ne (by decide) (by decide))
  cases h with
  | ellipsis =>
    rw [chars_ellipsis] at hc ⊢
    exact .ellipsis (Cursor.skip?_of_append hc)
  | @unnamed t v ht hv =>
    rw [chars_unnamed, List.append_assoc] at hc
    rw [chars_unnamed]
    obtain ⟨hseam, hblank⟩ := isSeam_of_default (v := v) hk
    have hread := ht.readsType (b := false) hc hp hseam hs
    have hskip : (c.moved t.chars (defaultChars v ++ k)).skipBlank =
        c.moved t.chars (defaultChars v ++ k) := Cursor.skipBlank_eq_self hblank
    rw [hskip] at hread
    refine .unnamed (hpoints ht hc) hread ?_ ?_
    · rw [hskip]
      obtain ⟨x, cs, hcs, hx⟩ := exists_cons_of_default (v := v) hk
      simpa [AtUnnamed, Cursor.current?, hcs] using hx
    · rw [hskip, readDefault?_append hv hk rfl, Cursor.moved_moved]
  | @named t n v ht hn hv =>
    rw [chars_named, List.append_assoc, List.cons_append, List.append_assoc] at hc
    rw [chars_named]
    obtain ⟨hseam, hblank⟩ := isSeam_of_default (v := v) hk
    obtain ⟨htype, hname⟩ := hs
    obtain ⟨hread, hprev, hself⟩ := ht.readsType_space hn.opens htype hc hp
    obtain ⟨c₂, hreadn, hc₂⟩ := hn.readsName rfl hprev hseam hname
    rw [Cursor.moved_moved, Cursor.skipBlank_eq_self (c := c.moved _ (defaultChars v ++ k)) hblank]
      at hc₂
    refine .named (hpoints ht hc) hread ?_ (by rwa [hself]) ?_
    -- A name begins with none of the signs by which a parameter without a name is recognised.
    · have hne : ∀ {x : Char}, x ≠ '~' → Text.isAsciiWordChar x = false →
          (n.chars ++ (defaultChars v ++ k)).head? ≠ some x := fun hx hw => hn.opens.head?_ne hx hw
      rw [hself]
      rintro (h | h | h)
      · exact hne (by decide) (by decide) h
      · exact hne (by decide) (by decide) h
      · exact hne (by decide) (by decide) h
    · rw [hc₂, readDefault?_append hv hk rfl, Cursor.moved_moved]
      simp

/-- A parameter behind others stands where it does, and the others stand in front of it. -/
theorem allStand_concat (ps : List Param) (p : Param) :
    AllStand (ps ++ [p]) k ↔ AllStand ps (',' :: ' ' :: p.chars ++ k) ∧ p.Stands k := by
  induction ps with
  | nil => simp [AllStand]
  | cons q ps ih =>
    simp only [List.cons_append, AllStand, ih, following_append, following_cons, following_nil,
      List.append_assoc, List.append_nil, and_assoc]

/-- **Parameters are read back** where they stand. -/
theorem reaches_of_allStand {ps : List Param} (h : ∀ p ∈ ps, p.IsForm) (hk : Text.EndsValue k)
    (hs : AllStand ps k) (hc : c.rest = joined ps ++ k) (hp : Text.IsSeam c.previous?) :
    Reaches c ps (c.moved (joined ps) k) := by
  -- on the list from its end: the parameters before the last stand in front of a comma, which ends a
  -- value as the parenthesis does
  induction ps using List.reverseRecOn generalizing k with
  | nil =>
    have hmoved : c.moved (joined []) k = c := Cursor.moved_nil_of_rest hc
    rw [hmoved]
    exact .start
  | append_singleton ps p ih =>
    have hform := h p (by simp)
    obtain ⟨hps, hstands⟩ := (allStand_concat ps p).mp hs
    by_cases hn : ps = []
    · -- the first parameter stands at the cursor
      subst hn
      rw [List.nil_append, joined_singleton] at hc ⊢
      have hhead := hform.head?_chars (k := k)
      rw [← hc] at hhead
      have hskip : c.skipBlank = c := Cursor.skipBlank_eq_self fun x hx => (hhead x hx).1
      -- a parameter begins with no parenthesis, so the list is not closed here
      have hclose : c.skip? ")" = none :=
        Cursor.skip?_eq_none (w := ')') rfl fun hx => (hhead _ hx).2 rfl
      exact Reaches.start.param (by rw [hskip, hclose]) (by rw [hskip]; rfl)
        (hform.reads hk hstands hc hp)
    · -- the others stand behind those before them, a comma and a blank
      rw [joined_concat _ hn, List.append_assoc] at hc
      obtain ⟨c₁, hc₁⟩ : ∃ c₁, c₁ = c.moved (joined ps) (',' :: ' ' :: p.chars ++ k) := ⟨_, rfl⟩
      have hreach : Reaches c ps c₁ := hc₁ ▸ ih (k := ',' :: ' ' :: p.chars ++ k)
        (fun q hq => h q (by simp [hq])) (Or.inl rfl) hps hc
      have hskip : c₁.skipBlank = c₁ := Cursor.skipBlank_eq_self (by
        rw [hc₁]
        simp [Text.isBlank])
      -- nor is it closed at the comma
      have hclose : c₁.skip? ")" = none :=
        Cursor.skip?_eq_none (w := ')') rfl (by rw [hc₁]; simp)
      have hnext : c₁.nextItem? ps.isEmpty =
          some (c.moved (joined ps ++ [',', ' ']) (p.chars ++ k)) := by
        rw [hc₁, List.isEmpty_eq_false_iff.mpr hn,
          Cursor.nextItem?_comma rfl fun x hx => (hform.head?_chars x hx).1, Cursor.moved_moved]
      -- behind the comma and its blank the last parameter is read as it stands
      have hread := hform.reads (c := c.moved (joined ps ++ [',', ' ']) (p.chars ++ k)) hk hstands rfl
        (Expr.isSeam_previous?_separator (Or.inr rfl))
      have hreach' := hreach.param (by rw [hskip, hclose]) (by rw [hskip, hnext]) hread
      rw [Cursor.moved_moved, List.append_assoc] at hreach'
      rw [joined_concat _ hn]
      exact hreach'

end Param

namespace Declaration

open CppIndex.Expr (wordsText)

variable {c : Cursor} {k : List Char} {kind : ObjectKind} {d : Declaration} {f : FunctionInfo}

/-- **A signature is read back** up to the end of the text. -/
theorem readsSignature_of_stands (hform : ∀ p ∈ f.params, p.IsForm)
    (hs : Param.AllStand f.params (')' :: Expr.spaced f.trailingWords))
    (hc : c.rest = signatureChars f) :
    ∃ c', ReadsSignature c f.params f.isConst f.isPure c' ∧ Text.dropBlank c'.rest = [] := by
  have hopen : c.skipBlank.skip? "(" = some (c.moved ['(']
      (Param.joined f.params ++ ')' :: Expr.spaced f.trailingWords)) :=
    Cursor.skip?_skipBlank rfl (by decide) hc
  have hreach := Param.reaches_of_allStand hform (Or.inr rfl) hs
    (c := c.moved ['('] (Param.joined f.params ++ ')' :: Expr.spaced f.trailingWords)) rfl (by
      rw [Cursor.previous?_moved_singleton]
      exact Text.isSeam_some_of_ascii (by decide) (by decide))
  obtain ⟨c₂, hc₂⟩ : ∃ c₂, c₂ = (c.moved ['('] (Param.joined f.params ++
      ')' :: Expr.spaced f.trailingWords)).moved (Param.joined f.params)
      (')' :: Expr.spaced f.trailingWords) := ⟨_, rfl⟩
  rw [← hc₂] at hreach
  -- Behind the last parameter stands the closing parenthesis, with no blank in front of it.
  have hclose : c₂.skipBlank.skip? ")" = some (c₂.moved [')'] (Expr.spaced f.trailingWords)) :=
    Cursor.skip?_skipBlank rfl (by decide) (by rw [hc₂]; rfl)
  obtain ⟨c₄, c', hconst, hpure, hend⟩ :=
    readsTrailing (c := c₂.moved [')'] (Expr.spaced f.trailingWords)) rfl
  refine ⟨c', .intro hopen hreach hclose hconst hpure, ?_⟩
  rw [hend]
  rfl

/-- The first expression of a declaration has the form of a type. -/
theorem IsForm.isType_first (h : IsForm kind d) : d.first.IsType := by
  cases h with
  | classType hn => exact hn
  | @typeName _ _ _ target hn ht =>
    -- without a target the name comes first
    cases target with
    | none => exact hn
    | some target => exact ht target rfl
  | member _ ht _ => exact ht
  | @function _ _ _ f hn hr _ =>
    obtain ⟨_, _, returns, _⟩ := f
    cases returns with
    | none => exact hn
    | some t => exact hr t rfl

/-- The text behind the words of a function. -/
def restChars (d : Declaration) : List Char :=
  match d.body with
  | .function f => returnsChars f.returns ++ (d.name.chars ++ signatureChars f)
  | body => bodyChars d.name body

theorem chars_eq (d : Declaration) :
    d.chars = wordsText d.leadingWords ++ (wordsText d.functionWords ++ d.restChars) := by
  obtain ⟨name, v, s, body⟩ := d
  cases body with
  | function f => rfl
  | classType | typeName | member => simp [chars, functionWords, restChars]

/-- The characters behind a name make a seam. -/
theorem isSeam_valueChars (value : Option String) : Text.IsSeam (valueChars value).head? := by
  cases value with
  | none => exact Text.isSeam_none
  | some s => exact Text.isSeam_of_isBlank (by decide)

/-- What stands behind the words of a declaration is its first expression, and then something behind a
seam. -/
theorem exists_restChars (d : Declaration) :
    ∃ k, d.restChars = d.first.chars ++ k ∧ Text.IsSeam k.head? := by
  have hblank : ∀ cs : List Char, Text.IsSeam (' ' :: cs).head? := fun _ =>
    Text.isSeam_of_isBlank (by decide)
  obtain ⟨name, v, s, body⟩ := d
  cases body with
  | classType => exact ⟨[], by simp [restChars, bodyChars, first], Text.isSeam_none⟩
  | typeName target =>
    cases target with
    | none => exact ⟨[], by simp [restChars, bodyChars, first], Text.isSeam_none⟩
    | some target => exact ⟨_, rfl, hblank _⟩
  | member type value => exact ⟨_, rfl, hblank _⟩
  | function f =>
    -- the parenthesis stands next to a name without a return type, a blank behind what is returned
    cases hf : f.returns with
    | none =>
      refine ⟨signatureChars f, by simp [restChars, first, hf, returnsChars], ?_⟩
      exact Text.isSeam_some_of_ascii (by decide) (by decide)
    | some t =>
      exact ⟨' ' :: (name.chars ++ signatureChars f), by simp [restChars, first, hf, returnsChars],
        hblank _⟩

/-- The text behind the words opens as the first expression does. -/
theorem IsForm.opens_restChars (h : IsForm kind d) : Text.Opens d.restChars ∧
    String.ofList (Text.leadingWord d.restChars) = d.first.opening := by
  obtain ⟨k, hk, hseam⟩ := d.exists_restChars
  rw [hk]
  refine ⟨h.isType_first.opens.append hseam, ?_⟩
  rw [h.isType_first.opens.leadingWord_append hseam]
  rfl

theorem mem_functionWords {w : String} (h : w ∈ d.functionWords) :
    w = "virtual" ∨ w = "explicit" := by
  unfold functionWords at h
  split at h
  next =>
    rcases List.mem_append.mp h with h | h
    · split at h
      · exact Or.inl (List.mem_singleton.mp h)
      · cases h
    · split at h
      · exact Or.inr (List.mem_singleton.mp h)
      · cases h
  next => cases h

theorem isWord_of_mem_functionWords {w : String} (h : w ∈ d.functionWords) :
    Text.IsWord w.toList := by
  rcases mem_functionWords h with rfl | rfl <;> decide

/-- **The words in front of a declaration are read back**, if the first expression begins with none that
is not written. -/
theorem exists_readLeading (h : IsForm kind d)
    (hs : d.functionWords = [] → d.isStatic = false → d.first.opening ∉
      "static" :: if d.visibility = .pub then Visibility.all.map Visibility.keyword else [])
    (hc : c.rest = d.chars) (hp : Text.IsSeam c.previous?) :
    ∃ c₁, readLeading c = (d.visibility, d.isStatic, c₁) ∧ c₁.skipBlank =
      c.moved (wordsText d.leadingWords) (wordsText d.functionWords ++ d.restChars) := by
  obtain ⟨hopens, hlead⟩ := h.opens_restChars
  have hword : ∀ w ∈ d.functionWords, Text.IsWord w.toList := fun _ => isWord_of_mem_functionWords
  refine readLeading_eq (hc.trans d.chars_eq) hp (Expr.opens_wordsText hword hopens) fun hstatic => ?_
  cases hw : d.functionWords with
  | nil =>
    rw [Expr.wordsText_nil, List.nil_append, hlead]
    exact hs hw hstatic
  | cons w ws =>
    -- a word of a function is none of the words in front of it
    have hw' := mem_functionWords (hw ▸ List.mem_cons_self .. : w ∈ d.functionWords)
    rw [Expr.leadingWord_wordsText (hword w (hw ▸ List.mem_cons_self ..)), String.ofList_toList]
    rcases hw' with rfl | rfl <;> split <;> decide

/-- Behind the words of a declaration there is a seam. -/
theorem isSeam_previous?_words {ws : List String} (hp : Text.IsSeam c.previous?) :
    Text.IsSeam (c.moved (wordsText ws) k).previous? := Expr.isSeam_previous?_wordsText hp

/-- Over the first of two expressions, and the blank behind it. -/
theorem reads_first {t n : Expr} {l : List Char} (ht : t.IsType) (hn : n.IsType)
    (hs : t.TypeStands (' ' :: (n.chars ++ l))) (hc : c.skipBlank.rest = t.chars ++ ' ' :: (n.chars ++ l))
    (hp : Text.IsSeam c.skipBlank.previous?) :
    Expr.ReadsType false c t (c.skipBlank.moved (t.chars ++ [' ']) (n.chars ++ l)) ∧
      Text.IsSeam (c.skipBlank.moved (t.chars ++ [' ']) (n.chars ++ l)).previous? ∧
        (c.skipBlank.moved (t.chars ++ [' ']) (n.chars ++ l)).skipBlank =
          c.skipBlank.moved (t.chars ++ [' ']) (n.chars ++ l) :=
  (ht.readsType_space hn.opens hs hc hp).imp_left Expr.readsType_skipBlank_iff.mp

/-! ### What stands behind the words

Each body has its own lemma: the words in front are read, and the cursor stands in front of the first
expression, behind blanks and at a seam. -/

section Bodies

variable {c₁ : Cursor} {v : Visibility} {s : Bool} {name : Expr} {l : List Char}

/-- Over an expression that the text ends with, or that something behind a seam follows. -/
theorem reads_last (hn : name.IsType) (hs : name.TypeStands l) (hl : Text.IsSeam l.head?)
    (hr : c.skipBlank.rest = name.chars ++ l) (hp : Text.IsSeam c.skipBlank.previous?) :
    Expr.ReadsType false c name (c.skipBlank.moved name.chars l).skipBlank :=
  Expr.readsType_skipBlank_iff.mp (hn.readsType hr hp hl hs)

theorem exists_reads_classType (hlead : readLeading c = (v, s, c₁)) (hn : name.IsType)
    (hs : BodyStands name .classType) (hr : c₁.skipBlank.rest = bodyChars name .classType)
    (hp : Text.IsSeam c₁.skipBlank.previous?) :
    ∃ c', Reads .classType c ⟨name, v, s, .classType⟩ c' ∧ Text.dropBlank c'.rest = [] := by
  have hread := reads_last hn hs Text.isSeam_none (hr.trans (List.append_nil _).symm) hp
  exact ⟨_, .classType hlead hread, rfl⟩

theorem exists_reads_typeName {target : Option Expr} (hlead : readLeading c = (v, s, c₁))
    (hn : name.IsType) (ht : ∀ t ∈ target, t.IsType) (hs : BodyStands name (.typeName target))
    (hr : c₁.skipBlank.rest = bodyChars name (.typeName target))
    (hp : Text.IsSeam c₁.skipBlank.previous?) :
    ∃ c', Reads .typeName c ⟨name, v, s, .typeName target⟩ c' ∧ Text.dropBlank c'.rest = [] := by
  cases target with
  | none =>
    have hread := reads_last hn hs Text.isSeam_none (hr.trans (List.append_nil _).symm) hp
    exact ⟨_, .typeName hlead hread rfl, rfl⟩
  | some target =>
    obtain ⟨htarget, hname⟩ := hs
    rw [← List.append_nil name.chars] at htarget
    obtain ⟨hfirst, hseam, hskip⟩ := reads_first (ht target rfl) hn htarget
      (hr.trans (by simp [bodyChars])) hp
    have hread := hn.readsType (k := []) (b := false) rfl hseam Text.isSeam_none hname
    refine ⟨_, .typeAlias hlead hfirst ?_ (by rwa [hskip]), rfl⟩
    -- the name is left, so the text does not end behind the first expression
    obtain ⟨x, tail, hx, -⟩ := hn.opens.exists_cons
    rw [hskip, Cursor.atEnd, Cursor.rest_moved, hx]
    rfl

/-- A value is the trimmed text behind its equals sign. -/
theorem exists_valueChars {value : String} (h : Text.IsTrimmed value.toList) :
    ∃ tail, valueChars (some value) = ' ' :: '=' :: tail ∧ Text.trim tail = value.toList := by
  refine ⟨_, rfl, ?_⟩
  -- the blank behind the sign is not part of the value, and an empty value has none
  split
  next hempty =>
    rw [hempty]
    rfl
  next =>
    have hself := h.trim_eq
    rw [Text.trim, Text.dropBlank_eq_self h.front] at hself
    rw [Text.trim, Text.dropBlank_space_cons h.front, hself]

theorem exists_reads_member {type : Expr} {value : Option String}
    (hlead : readLeading c = (v, s, c₁)) (hn : name.IsType) (ht : type.IsType)
    (hv : ∀ s ∈ value, Text.IsTrimmed s.toList) (hs : BodyStands name (.member type value))
    (hr : c₁.skipBlank.rest = bodyChars name (.member type value))
    (hp : Text.IsSeam c₁.skipBlank.previous?) :
    ∃ c', Reads .member c ⟨name, v, s, .member type value⟩ c' ∧ Text.dropBlank c'.rest = [] := by
  obtain ⟨htype, hname⟩ := hs
  obtain ⟨hfirst, hseam, hskip⟩ := reads_first ht hn htype hr hp
  have hread := hn.readsType (b := false) rfl hseam (isSeam_valueChars value) hname
  cases value with
  | none =>
    refine ⟨_, .member hlead hfirst hread ?_, rfl⟩
    exact Cursor.skip?_eq_none (w := '=') rfl (by simp [valueChars, Text.dropBlank])
  | some value =>
    obtain ⟨tail, hvalue, htrim⟩ := exists_valueChars (hv value rfl)
    rw [hvalue] at hfirst hread
    obtain ⟨c₂, hc₂⟩ : ∃ c₂ : Cursor, c₂ = (c₁.skipBlank.moved (type.chars ++ [' '])
        (name.chars ++ ' ' :: '=' :: tail)).moved name.chars (' ' :: '=' :: tail) := ⟨_, rfl⟩
    rw [← hc₂] at hread
    -- The blank in front of the equals sign is skipped, the one behind it is trimmed off the value.
    have hequals : c₂.skipBlank.skipBlank.rest = "=".toList ++ tail := by
      rw [hc₂, Cursor.skipBlank_skipBlank, Cursor.skipBlank_space rfl (by simp [Text.isBlank])]
      rfl
    have hdone := Reads.valued (v := v) hlead hfirst hread (Cursor.skip?_of_append hequals)
    rw [Cursor.rest_moved, htrim, String.ofList_toList] at hdone
    exact ⟨_, hdone, rfl⟩

/-- The characters of a signature make a seam and are no blanks. -/
theorem signatureChars_head (f : FunctionInfo) : Text.IsSeam (signatureChars f).head? ∧
    ∀ x ∈ (signatureChars f).head?, Text.isBlank x = false :=
  ⟨Text.isSeam_some_of_ascii (by decide) (by decide), by simp [signatureChars, Text.isBlank]⟩

theorem exists_reads_function {f : FunctionInfo} {c₂ : Cursor}
    (hlead : readLeading c = (v, s, c₁))
    (hwords : c₁.repeated functionWordStep (false, false) = ((f.isExplicit, f.isVirtual), c₂))
    (hn : name.IsType) (hreturns : ∀ t ∈ f.returns, t.IsType) (hparams : ∀ p ∈ f.params, p.IsForm)
    (hs : BodyStands name (.function f))
    (hr : c₂.skipBlank.rest = returnsChars f.returns ++ (name.chars ++ signatureChars f))
    (hp : Text.IsSeam c₂.skipBlank.previous?) :
    ∃ c', Reads .function c ⟨name, v, s, .function f⟩ c' ∧ Text.dropBlank c'.rest = [] := by
  obtain ⟨hfirst, hname, hstand⟩ := hs
  -- of the text behind the name only the beginning matters here
  obtain ⟨sig, hsig⟩ : ∃ sig, sig = signatureChars f := ⟨_, rfl⟩
  obtain ⟨hseam, hblank⟩ := signatureChars_head f
  rw [← hsig] at hfirst hname hseam hblank hr
  have hskip : ∀ {c : Cursor} {w : List Char}, (c.moved w sig).skipBlank = c.moved w sig :=
    Cursor.skipBlank_eq_self hblank
  have hsignature : ∀ {c : Cursor}, c.rest = sig →
      ∃ c', ReadsSignature c f.params f.isConst f.isPure c' ∧ Text.dropBlank c'.rest = [] :=
    fun hc => readsSignature_of_stands hparams hstand (hc.trans hsig)
  obtain ⟨isExplicit, isVirtual, returns, params, isConst, isPure⟩ := f
  cases returns with
  | none =>
    have hread := reads_last hn hname hseam hr hp
    rw [hskip] at hread
    obtain ⟨c', hdone, hend⟩ := hsignature (c := c₂.skipBlank.moved name.chars sig) rfl
    refine ⟨c', .procedure hlead hwords hread ?_ ?_, hend⟩
    · rw [hskip, Cursor.current?, Cursor.rest_moved, hsig]
      rfl
    · rwa [hskip]
  | some returns =>
    obtain ⟨hreads, hseam', hskip'⟩ := reads_first (hreturns returns rfl) hn (hfirst returns rfl)
      (hr.trans (by simp [returnsChars])) hp
    have hread := hn.readsType (b := false) rfl hseam' hseam hname
    rw [Cursor.moved_moved, hskip] at hread
    obtain ⟨c', hdone, hend⟩ :=
      hsignature (c := c₂.skipBlank.moved (returns.chars ++ [' '] ++ name.chars) sig) rfl
    refine ⟨c', .function hlead hwords hreads ?_ (by rwa [hskip']) hdone, hend⟩
    -- no name begins with the parenthesis that would make the first expression one
    rw [hskip']
    exact hn.opens.head?_ne (by decide) (by decide)

end Bodies

/-- **A declaration that stands is read back** from its canonical text. -/
theorem IsForm.exists_reads (h : IsForm kind d) (hs : d.Stands) (hc : c.rest = d.chars)
    (hp : Text.IsSeam c.previous?) :
    ∃ c', Reads kind c d c' ∧ Text.dropBlank c'.rest = [] := by
  obtain ⟨c₁, hlead, hc₁⟩ := exists_readLeading h
    (fun hw hstatic hm => hs.front (List.mem_append_right _ (by rwa [if_pos ⟨hw, hstatic⟩]))) hc hp
  have hprev : Text.IsSeam c₁.skipBlank.previous? := by
    rw [hc₁]
    exact isSeam_previous?_words hp
  have hrest : c₁.skipBlank.rest = wordsText d.functionWords ++ d.restChars := by
    rw [hc₁]
    rfl
  cases h with
  | classType hn => exact exists_reads_classType hlead hn hs.body hrest hprev
  | typeName hn ht => exact exists_reads_typeName hlead hn ht hs.body hrest hprev
  | member hn ht hv => exact exists_reads_member hlead hn ht hv hs.body hrest hprev
  | @function v s name f hn hr hpar =>
    -- a function has words of its own, and behind them stands the return type or the name
    obtain ⟨hopens, hopening⟩ := (IsForm.function (v := v) (s := s) hn hr hpar).opens_restChars
    obtain ⟨c₂, hwords, hc₂⟩ := repeated_functionWordStep_eq rfl hrest hprev hopens (by
      rw [hopening]
      exact fun hm => hs.front (List.mem_append_left _ hm))
    have hprev₂ : Text.IsSeam c₂.skipBlank.previous? := by
      rw [hc₂]
      exact isSeam_previous?_words hprev
    exact exists_reads_function hlead hwords hn hr hpar hs.body (by rw [hc₂]; rfl) hprev₂

/-! ### Parsing the canonical text -/

/-- The text behind a name closes, or there is none. -/
theorem closes_valueChars {value : Option String} (h : ∀ s ∈ value, Text.IsTrimmed s.toList) :
    valueChars value = [] ∨ Text.Closes (valueChars value) := by
  cases value with
  | none => exact Or.inl rfl
  | some s =>
    refine Or.inr ?_
    -- an empty value leaves the sign at the end
    by_cases hs : s = ""
    · rw [valueChars, if_pos hs]
      exact Text.closes_concat [' '] (by decide)
    · rw [valueChars, if_neg hs]
      rcases List.eq_nil_or_concat s.toList with hnil | ⟨front, x, hx⟩
      · exact absurd (String.toList_eq_nil_iff.mp hnil) hs
      · have hback := (h s rfl).back
        rw [List.concat_eq_append] at hx
        rw [hx, List.getLast?_concat] at hback
        rw [hx]
        exact (Text.closes_concat front (hback x rfl)).append_left [' ', '=', ' ']

theorem closes_signatureChars (f : FunctionInfo) : Text.Closes (signatureChars f) := by
  -- the end does not depend on the parameters, so there are four cases
  have hall : ∀ isConst isPure, Text.Closes
      (')' :: Expr.spaced (FunctionInfo.mk false false none [] isConst isPure).trailingWords) := by
    intro isConst isPure
    cases isConst with
    | false =>
      cases isPure with
      | false => exact Text.closes_concat [] (by decide)
      | true => exact Text.closes_concat (") =".toList ++ [' ']) (by decide)
    | true =>
      cases isPure with
      | false => exact Text.closes_concat ") cons".toList (by decide)
      | true => exact Text.closes_concat (") const =".toList ++ [' ']) (by decide)
  exact (hall f.isConst f.isPure).append_left ('(' :: Param.joined f.params)

/-- **The text of a declaration is trimmed.** -/
theorem IsForm.isTrimmed_chars (h : IsForm kind d) : Text.IsTrimmed d.chars := by
  have hrest : Text.Closes d.restChars := by
    cases h with
    | classType hn => exact hn.closes
    | @typeName _ _ _ target hn _ =>
      cases target with
      | none => exact hn.closes
      | some target => exact (hn.closes.append_left [' ']).append_left target.chars
    | @member _ _ name type value hn _ hv =>
      have hname : Text.Closes (name.chars ++ valueChars value) := by
        rcases closes_valueChars hv with hnil | hcl
        · rw [hnil, List.append_nil]
          exact hn.closes
        · exact hcl.append_left _
      exact (hname.append_left [' ']).append_left _
    | function => exact ((closes_signatureChars _).append_left _).append_left _
  have hword : ∀ w ∈ d.leadingWords ++ d.functionWords, Text.IsWord w.toList := by
    intro w hw
    rcases List.mem_append.mp hw with hw | hw
    · exact isWord_of_mem_leadingWords hw
    · exact isWord_of_mem_functionWords hw
  -- The first character is one of a word and the last one is no blank, so nothing is trimmed.
  have hopens := Expr.opens_wordsText hword h.opens_restChars.1
  have hcloses := hrest.append_left (wordsText (d.leadingWords ++ d.functionWords))
  rw [Expr.wordsText_append, List.append_assoc, ← chars_eq] at hopens hcloses
  exact hopens.isTrimmed hcloses

/-- **A declaration that stands is what its canonical text is parsed as.** -/
theorem IsForm.parse_render_of_stands (h : IsForm kind d) (hs : d.Stands) :
    parse kind d.render = .ok d := by
  obtain ⟨blanks, htext, hblanks⟩ := d.toList_render
  have hcursor : Cursor.ofText d.render = ⟨[], d.chars⟩ := by
    rw [Cursor.ofText, htext, h.isTrimmed_chars.trim_append hblanks]
  obtain ⟨c', hread, hend⟩ := h.exists_reads (c := ⟨[], d.chars⟩) hs rfl Text.isSeam_none
  exact parse_eq_ok_iff.mpr ⟨c', by rwa [hcursor], hend⟩

end Declaration

end CppIndex
