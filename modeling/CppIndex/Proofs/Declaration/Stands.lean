import CppIndex.Declaration.Render
import CppIndex.Proofs.Declaration.Reads
import CppIndex.Proofs.Expr.Closing

/-!
# When the text of a declaration stands

The canonical text of a declaration as a list of characters, and when it is read as the declaration it
was written for. The text **stands** (`Declaration.Stands`) if each type in it stands in front of what
follows it, and if the first type begins with none of the words that are read in front of a declaration
where they are not written (`Declaration.unwritten`): an access level that is open to everyone leaves no
word behind, and a name may come to stand in its place.

What is read has a form that not every declaration has (`Declaration.Reads.isForm`): its types and names
have theirs, default values and initial values have no blanks at their ends, and an ellipsis stands
alone.
-/

namespace CppIndex

/-! ### The characters of a declaration -/

namespace Param

/-- **The characters** of the canonical text. -/
def chars (p : Param) : List Char := p.render.toList

/-- The characters of a default value behind its equals sign. -/
def defaultChars : Option String → List Char
  | some value => '=' :: value.toList
  | none => []

/-- The characters of further parameters, each behind a comma and a blank. -/
def following (ps : List Param) : List Char := ps.flatMap fun p => ',' :: ' ' :: p.chars

/-- The characters of a list of parameters. -/
def joined : List Param → List Char
  | [] => []
  | p :: ps => p.chars ++ following ps

@[simp] theorem following_nil : following [] = [] := rfl

@[simp] theorem following_cons (p : Param) (ps : List Param) :
    following (p :: ps) = ',' :: ' ' :: p.chars ++ following ps := by
  simp [following]

@[simp] theorem following_append (ps qs : List Param) :
    following (ps ++ qs) = following ps ++ following qs := by
  simp [following]

@[simp] theorem joined_nil : joined [] = [] := rfl

@[simp] theorem joined_singleton (p : Param) : joined [p] = p.chars := by
  simp [joined]

/-- A parameter behind others is written behind them, a comma and a blank. -/
theorem joined_concat {ps : List Param} (p : Param) (h : ps ≠ []) :
    joined (ps ++ [p]) = joined ps ++ ',' :: ' ' :: p.chars := by
  obtain ⟨q, qs, rfl⟩ := List.exists_cons_of_ne_nil h
  simp [joined]

theorem toList_intercalate_render (ps : List Param) :
    (String.intercalate ", " (ps.map render)).toList = joined ps := by
  induction ps with
  | nil => simp
  | cons p ps ih =>
    -- the comma comes in only when a second parameter follows
    cases ps with
    | nil => simp [chars]
    | cons q qs =>
      rw [List.map_cons, String.intercalate_cons_of_ne_nil (by simp), String.toList_append,
        String.toList_append, ih]
      simp [joined, chars]

@[simp] theorem chars_ellipsis : chars ⟨none, some (.name "..."), none⟩ = "...".toList := by
  decide

@[simp] theorem chars_unnamed (t : Expr) (v : Option String) :
    chars ⟨some t, none, v⟩ = t.chars ++ defaultChars v := by
  cases v <;> simp [chars, render, typedName, defaultText, defaultChars, Expr.chars]

@[simp] theorem chars_named (t n : Expr) (v : Option String) :
    chars ⟨some t, some n, v⟩ = t.chars ++ ' ' :: (n.chars ++ defaultChars v) := by
  cases v <;> simp [chars, render, typedName, defaultText, defaultChars, Expr.chars]

end Param

namespace Declaration

open CppIndex.Expr (wordsText spaced)

/-- Words with one blank between them, of which some stand in front. -/
theorem toList_intercalate_append (ws : List String) {vs : List String} (h : vs ≠ []) :
    (String.intercalate " " (ws ++ vs)).toList =
      wordsText ws ++ (String.intercalate " " vs).toList := by
  induction ws with
  | nil => simp
  | cons w ws ih =>
    rw [List.cons_append, String.intercalate_cons_of_ne_nil (by simp [h]), String.toList_append,
      String.toList_append, ih]
    simp

/-- Words with one blank between them, of which all but the first stand behind a blank. -/
theorem toList_intercalate_cons (w : String) (ws : List String) :
    (String.intercalate " " (w :: ws)).toList = w.toList ++ spaced ws := by
  induction ws generalizing w with
  | nil => simp [spaced]
  | cons v ws ih =>
    rw [String.intercalate_cons_of_ne_nil (by simp), String.toList_append, String.toList_append, ih]
    simp [spaced]

/-- The characters of an initial value behind the name of a member. Behind the equals sign of an empty
value there is no blank, because blanks at the end of a text are not read. -/
def valueChars : Option String → List Char
  | some value => ' ' :: '=' :: if value = "" then [] else ' ' :: value.toList
  | none => []

/-- The characters of a return type. -/
def returnsChars : Option Expr → List Char
  | some type => type.chars ++ [' ']
  | none => []

/-- The characters behind the name of a function. -/
def signatureChars (f : FunctionInfo) : List Char :=
  '(' :: Param.joined f.params ++ ')' :: spaced f.trailingWords

/-- The characters behind the leading words. -/
def bodyChars (name : Expr) : Body → List Char
  | .classType | .typeName none => name.chars
  | .typeName (some target) => target.chars ++ ' ' :: name.chars
  | .member type value => type.chars ++ ' ' :: (name.chars ++ valueChars value)
  | .function f =>
    wordsText f.leadingWords ++ (returnsChars f.returns ++ (name.chars ++ signatureChars f))

/-- **The characters** of the canonical text, without blanks at its end. -/
def chars (d : Declaration) : List Char := wordsText d.leadingWords ++ bodyChars d.name d.body

/-- The canonical text differs from its characters only by the blank behind the equals sign of an empty
value. -/
theorem toList_render (d : Declaration) : ∃ blanks, d.render.toList = d.chars ++ blanks ∧
    ∀ x ∈ blanks, Text.isBlank x = true := by
  obtain ⟨name, v, s, body⟩ := d
  have hbody : ∃ blanks, (String.intercalate " " (bodyWords name body)).toList =
      bodyChars name body ++ blanks ∧ ∀ x ∈ blanks, Text.isBlank x = true := by
    cases body with
    | classType => exact ⟨[], by simp [bodyWords, bodyChars, Expr.chars], by simp⟩
    | typeName target =>
      cases target with
      | none => exact ⟨[], by simp [bodyWords, bodyChars, Expr.chars], by simp⟩
      | some target =>
        refine ⟨[], ?_, by simp⟩
        rw [bodyWords, toList_intercalate_cons]
        simp [bodyChars, Expr.chars, spaced]
    | member type value =>
      rw [bodyWords, toList_intercalate_cons]
      cases value with
      | none => exact ⟨[], by simp [bodyChars, valueChars, Expr.chars, spaced], by simp⟩
      | some value =>
        -- An empty value leaves a blank at the end, which the text of the declaration leaves out.
        by_cases hv : value = ""
        · exact ⟨[' '], by simp [bodyChars, valueChars, Expr.chars, spaced, hv], by decide⟩
        · exact ⟨[], by simp [bodyChars, valueChars, Expr.chars, spaced, hv], by simp⟩
    | function f =>
      refine ⟨[], ?_, by simp⟩
      have hsplit : bodyWords name (.function f) = (f.leadingWords ++
          (f.returns.map Expr.render).toList) ++ (name.render ++ f.paramsText) :: f.trailingWords := by
        simp [bodyWords]
      have hreturns : wordsText (f.returns.map Expr.render).toList = returnsChars f.returns := by
        cases f.returns <;> simp [returnsChars, Expr.chars]
      rw [hsplit, toList_intercalate_append _ (by simp), toList_intercalate_cons,
        Expr.wordsText_append, hreturns, String.toList_append, FunctionInfo.paramsText,
        String.toList_append, String.toList_append, Param.toList_intercalate_render]
      simp [bodyChars, signatureChars, Expr.chars]
  obtain ⟨blanks, htext, hblanks⟩ := hbody
  refine ⟨blanks, ?_, hblanks⟩
  have hne : bodyWords name body ≠ [] := by
    cases body with
    | typeName target => cases target <;> simp [bodyWords]
    | classType | member | function => simp [bodyWords]
  rw [render, toList_intercalate_append _ hne, htext, chars, List.append_assoc]

end Declaration

/-! ### The form of what is read -/

/-- **The form of a parameter**: an ellipsis, or a type with or without a name and a default value. -/
inductive Param.IsForm : Param → Prop
  /-- Three points. -/
  | ellipsis : IsForm ⟨none, some (.name "..."), none⟩
  /-- A type. -/
  | unnamed {t : Expr} {v : Option String} (ht : t.IsType)
    (hv : ∀ s ∈ v, Text.IsDefault s.toList) : IsForm ⟨some t, none, v⟩
  /-- A type and a name. -/
  | named {t n : Expr} {v : Option String} (ht : t.IsType) (hn : n.IsComponent)
    (hv : ∀ s ∈ v, Text.IsDefault s.toList) : IsForm ⟨some t, some n, v⟩

namespace Declaration

/-- **The form of a declaration** of a kind. -/
inductive IsForm : ObjectKind → Declaration → Prop
  /-- A class. -/
  | classType {v : Visibility} {s : Bool} {name : Expr} (hn : name.IsType) :
    IsForm .classType ⟨name, v, s, .classType⟩
  /-- A type name, with or without the type it stands for. -/
  | typeName {v : Visibility} {s : Bool} {name : Expr} {target : Option Expr} (hn : name.IsType)
    (ht : ∀ t ∈ target, t.IsType) : IsForm .typeName ⟨name, v, s, .typeName target⟩
  /-- A member. -/
  | member {v : Visibility} {s : Bool} {name type : Expr} {value : Option String}
    (hn : name.IsType) (ht : type.IsType) (hv : ∀ s ∈ value, Text.IsTrimmed s.toList) :
    IsForm .member ⟨name, v, s, .member type value⟩
  /-- A function. -/
  | function {v : Visibility} {s : Bool} {name : Expr} {f : FunctionInfo} (hn : name.IsType)
    (hr : ∀ t ∈ f.returns, t.IsType) (hp : ∀ p ∈ f.params, p.IsForm) :
    IsForm .function ⟨name, v, s, .function f⟩

end Declaration

/-- What is read as a default value is none, or the text of one. -/
theorem Param.isDefault_of_readDefault? {c c' : Cursor} {v : Option String}
    (h : readDefault? c = .done v c') : ∀ s ∈ v, Text.IsDefault s.toList := by
  rcases readDefault?_eq_done h with ⟨c₁, s, -, hs, rfl⟩ | ⟨rfl, -⟩
  · rintro t ⟨⟩
    exact isDefault_of_readDefault hs
  · simp

/-- **What is read as a parameter has its form.** -/
theorem Param.Reads.isForm {c c' : Cursor} {p : Param} (h : Reads c p c') : p.IsForm := by
  cases h with
  | ellipsis => exact .ellipsis
  | unnamed _ ht _ hd => exact .unnamed ht.isType (isDefault_of_readDefault? hd)
  | named _ ht _ hn hd => exact .named ht.isType hn.isComponent (isDefault_of_readDefault? hd)

theorem Param.Reaches.isForm {c c' : Cursor} {ps : List Param} (h : Reaches c ps c') :
    ∀ p ∈ ps, p.IsForm := by
  induction h with
  | start => simp
  | param _ _ _ hp ih =>
    intro q hq
    -- a parameter before, or the one that was just read
    rcases List.mem_append.mp hq with hq | hq
    · exact ih q hq
    · rw [List.mem_singleton.mp hq]
      exact hp.isForm

/-- **What is read as a declaration has its form.** -/
theorem Declaration.Reads.isForm {kind : ObjectKind} {c c' : Cursor} {d : Declaration}
    (h : Reads kind c d c') : IsForm kind d := by
  cases h with
  | classType _ hn => exact .classType hn.isType
  | typeName _ hn _ => exact .typeName hn.isType (by simp)
  | typeAlias _ ht _ hn => exact .typeName hn.isType (by simpa using ht.isType)
  | member _ ht hn _ => exact .member hn.isType ht.isType (by simp)
  | valued _ ht hn _ =>
    -- A value is what is left of the text, trimmed.
    refine .member hn.isType ht.isType fun s hs => ?_
    obtain rfl := Option.some.inj hs
    rw [String.toList_ofList]
    exact Text.isTrimmed_trim _
  | procedure _ _ hn _ hs =>
    obtain ⟨-, hp, -⟩ := hs
    exact .function hn.isType (by simp) hp.isForm
  | function _ _ hr _ hn hs =>
    obtain ⟨-, hp, -⟩ := hs
    exact .function hn.isType (by simpa using hr.isType) hp.isForm

/-! ### When the text stands -/

namespace Param

/-- **A parameter stands** in front of a text: its type and its name do. -/
def Stands (p : Param) (k : List Char) : Prop :=
  match p.type, p.name with
  | none, _ => True
  | some t, none => t.TypeStands (defaultChars p.default ++ k)
  | some t, some n =>
    t.TypeStands (' ' :: (n.chars ++ (defaultChars p.default ++ k))) ∧
      n.Stands (defaultChars p.default ++ k)

/-- Parameters stand, each in front of those that follow it. -/
def AllStand : List Param → List Char → Prop
  | [], _ => True
  | p :: ps, k => p.Stands (following ps ++ k) ∧ AllStand ps k

end Param

namespace Declaration

/-- The first expression in the text of a declaration. -/
def first (d : Declaration) : Expr :=
  match d.body with
  | .classType | .typeName none => d.name
  | .typeName (some type) | .member type _ => type
  | .function f => f.returns.getD d.name

/-- The words of functions that stand in front of the first expression. -/
def functionWords (d : Declaration) : List String :=
  match d.body with
  | .function f => f.leadingWords
  | _ => []

/-- **The words that are not written** in front of the first expression, but would be read there: those
of functions, and if none of these is written, `static` and the access words. -/
def unwritten (d : Declaration) : List String :=
  (match d.body with
    | .function _ => ["explicit", "virtual"]
    | _ => []) ++
  if d.functionWords = [] ∧ d.isStatic = false then
    "static" :: if d.visibility = .pub then Visibility.all.map Visibility.keyword else []
  else []

/-- The types and names of a declaration stand, each in front of what follows it. -/
def BodyStands (name : Expr) : Body → Prop
  | .classType | .typeName none => name.TypeStands []
  | .typeName (some target) => target.TypeStands (' ' :: name.chars) ∧ name.TypeStands []
  | .member type value =>
    type.TypeStands (' ' :: (name.chars ++ valueChars value)) ∧ name.TypeStands (valueChars value)
  | .function f =>
    (∀ t ∈ f.returns, t.TypeStands (' ' :: (name.chars ++ signatureChars f))) ∧
      name.TypeStands (signatureChars f) ∧
      Param.AllStand f.params (')' :: Expr.spaced f.trailingWords)

/-- **The text of a declaration stands**: none of its parts is taken for another. -/
structure Stands (d : Declaration) : Prop where
  /-- The first expression does not begin with a word that is read in front of it. -/
  front : d.first.opening ∉ d.unwritten
  /-- The types and names stand. -/
  body : BodyStands d.name d.body

end Declaration

end CppIndex
