import CppIndex.Proofs.Expr.Qualify
import CppIndex.Signature

/-!
# The text of a signature

A declaration is written in two ways. Its canonical text joins words by blanks (`Declaration.render`); its
signature is displayed part by part, and each part brings the blank, the comma or the colons with it that keep
it apart from its neighbours (`Signature.render`).

Both have the same layout: words in front, each with a blank behind it, then the name with its parameters, then
words behind, each with a blank in front of it (`Declaration.render_eq`, `Signature.render_eq`). The name is
taken apart for display, and put together again it is the declared name (`Signature.nameText_ofDeclaration`). So
the two texts differ by the word for the kind alone, which a signature shows for classes and types
(`Signature.render_ofDeclaration`).
-/

namespace CppIndex

/-! ### Words in a row -/

namespace Text

/-- Words in front of a text: a blank stands behind each of them. -/
def inFront (ws : List String) : String := String.join (ws.map (· ++ " "))

/-- Words behind a text: a blank stands in front of each of them. -/
def inBack (ws : List String) : String := String.join (ws.map (" " ++ ·))

@[simp] theorem inFront_nil : inFront [] = "" := rfl

@[simp] theorem inBack_nil : inBack [] = "" := rfl

theorem inFront_cons (w : String) (ws : List String) : inFront (w :: ws) = w ++ " " ++ inFront ws :=
  String.join_cons

theorem inBack_cons (w : String) (ws : List String) : inBack (w :: ws) = " " ++ w ++ inBack ws :=
  String.join_cons

@[simp] theorem inFront_append (vs ws : List String) : inFront (vs ++ ws) = inFront vs ++ inFront ws := by
  unfold inFront
  rw [List.map_append, String.join_append]

theorem inBack_append (vs ws : List String) : inBack (vs ++ ws) = inBack vs ++ inBack ws := by
  unfold inBack
  rw [List.map_append, String.join_append]

/-- Words joined by blanks: the first, and the others behind it. -/
theorem intercalate_cons (w : String) (ws : List String) :
    String.intercalate " " (w :: ws) = w ++ inBack ws := by
  induction ws generalizing w with
  | nil => rw [String.intercalate_singleton, inBack_nil, String.append_empty]
  | cons v ws ih =>
    calc String.intercalate " " (w :: v :: ws)
        = w ++ " " ++ String.intercalate " " (v :: ws) := String.intercalate_cons_cons
      _ = w ++ " " ++ (v ++ inBack ws) := by rw [ih]
      _ = w ++ inBack (v :: ws) := by simp only [inBack_cons, String.append_assoc]

/-- **Words joined by blanks**: any one of them, with those before it in front and the others behind. -/
theorem intercalate_append_cons (vs : List String) (w : String) (ws : List String) :
    String.intercalate " " (vs ++ w :: ws) = inFront vs ++ w ++ inBack ws := by
  induction vs with
  | nil => rw [List.nil_append, intercalate_cons, inFront_nil, String.empty_append]
  | cons v vs ih =>
    rw [List.cons_append, String.intercalate_cons_of_ne_nil (by simp), ih, inFront_cons]
    simp only [String.append_assoc]

end Text

open Text

/-! ### The layout of a declaration -/

namespace Declaration

/-- The words in front that only a function has. -/
def ownWords : Body → List String
  | .function f => f.leadingWords
  | .classType | .member _ _ | .typeName _ => []

/-- The words behind that only a function has. -/
def lastWords : Body → List String
  | .function f => f.trailingWords
  | .classType | .member _ _ | .typeName _ => []

/-- The parameters of a function with their parentheses. -/
def bodyParamsText : Body → String
  | .function f => f.paramsText
  | .classType | .member _ _ | .typeName _ => ""

/-- **The text from the leading type on**: the type, the name with its parameters, the value, and the words
behind. -/
def mainText (d : Declaration) : String :=
  inFront ((Signature.leadingExpr d.body).map Expr.render).toList ++ (d.name.render ++ bodyParamsText d.body) ++
    inBack ((Signature.bodyValue d.body).toList.map ("= " ++ ·) ++ lastWords d.body)

/-- **The canonical text** has the words of every declaration and those of a function in front. -/
theorem render_eq (d : Declaration) :
    d.render = inFront d.leadingWords ++ inFront (ownWords d.body) ++ d.mainText := by
  unfold render mainText ownWords lastWords bodyParamsText Signature.leadingExpr Signature.bodyValue
  cases d.body with
  | classType =>
    rw [bodyWords, intercalate_append_cons]
    simp
  | typeName target =>
    -- the target is one more word in front of the name
    cases target with
    | none =>
      rw [bodyWords, intercalate_append_cons]
      simp
    | some target =>
      rw [bodyWords, intercalate_append_cons]
      simp [inFront_cons, inBack_cons, String.append_assoc]
  | member type value =>
    -- the type and the name of a member are one word, with a blank of its own
    rw [bodyWords, intercalate_append_cons]
    simp [inFront_cons, String.append_assoc]
  | function f =>
    -- the word that counts is the name, with everything up to the return type in front of it
    have hwords : d.leadingWords ++ bodyWords d.name (.function f) =
        (d.leadingWords ++ f.leadingWords ++ (f.returns.map Expr.render).toList) ++
          (d.name.render ++ f.paramsText) :: f.trailingWords := by
      simp [bodyWords]
    rw [hwords, intercalate_append_cons]
    simp [String.append_assoc]

end Declaration

namespace Signature

variable (parent : Option Expr)

/-! ### What is displayed -/

/-- The displayed type with the blank behind it. -/
def leadingText (s : Signature) : String :=
  match s.leadingType with
  | some type => type.text ++ " "
  | none => ""

/-- The displayed owner with two colons behind it. -/
def ownerText (s : Signature) : String :=
  match s.owner with
  | some owner => owner ++ "::"
  | none => ""

/-- **The displayed name**: the owner, and the leaf behind it. -/
def nameText (s : Signature) : String := s.ownerText ++ s.name.render

/-- The displayed parameters with their parentheses. -/
def paramsText (s : Signature) : String :=
  match s.params with
  | some params => "(" ++ String.intercalate ", " (params.map ShownParam.render) ++ ")"
  | none => ""

/-- The displayed value with the sign in front of it. -/
def valueText (s : Signature) : String :=
  match s.value with
  | some value => " = " ++ value
  | none => ""

/-- A type is displayed as a word in front. -/
theorem leadingText_eq (s : Signature) :
    s.leadingText = inFront (s.leadingType.map TypeMention.text).toList := by
  unfold leadingText
  cases s.leadingType with
  | none => rfl
  | some type => simp [inFront_cons]

/-- A value is displayed as a word behind. -/
theorem valueText_eq (s : Signature) : s.valueText = inBack (s.value.toList.map ("= " ++ ·)) := by
  unfold valueText
  cases s.value with
  | none => rfl
  | some value =>
    have hword : inBack ["= " ++ value] = " " ++ ("= " ++ value) := by simp [inBack_cons]
    rw [Option.toList_some, List.map_singleton, hword, ← String.append_assoc]
    rfl

/-- **The text of a signature** has the layout of a declaration. -/
theorem render_eq (s : Signature) : s.render = inFront s.annotations ++
    (inFront (s.leadingType.map TypeMention.text).toList ++ (s.nameText ++ s.paramsText) ++
      inBack (s.value.toList.map ("= " ++ ·) ++ s.suffixes)) := by
  have hparts : s.render = inFront s.annotations ++ s.leadingText ++ s.ownerText ++ s.name.render ++
      s.paramsText ++ s.valueText ++ inBack s.suffixes := rfl
  rw [hparts, leadingText_eq, valueText_eq, inBack_append, nameText]
  simp only [String.append_assoc]

/-- A leaf is displayed as it is written. -/
theorem render_shownName (e : Expr) : (shownName parent e).render = e.render := by
  cases e with
  | cast target => rfl
  | _ => rfl

/-- **The displayed name is the declared name**, taken apart and put together again. -/
theorem nameText_ofDeclaration (d : Declaration) : (ofDeclaration parent d).nameText = d.name.render := by
  unfold nameText ofDeclaration
  rw [render_shownName]
  cases hsplit : d.name.splitOwner with
  | mk owner leaf =>
    -- without an owner the leaf is the whole name
    cases owner with
    | none =>
      rw [Expr.eq_of_splitOwner_eq_none hsplit]
      exact String.empty_append
    | some owner => exact (Expr.render_splitOwner hsplit).symm

/-- A function is displayed with the words that are written in front of it. -/
theorem kindWords_function (f : FunctionInfo) : kindWords (.function f) = f.leadingWords := rfl

/-- The words displayed behind a declaration are those written there. -/
theorem bodySuffixes_eq (b : Body) : bodySuffixes b = Declaration.lastWords b := by
  cases b with
  | function f => rfl
  | _ => rfl

/-- A parameter is displayed as it is written. -/
theorem render_shownParam (p : Param) : (shownParam parent p).render = p.render := by
  obtain ⟨type, name, value⟩ := p
  -- both layouts ask for the type and the name first, then for the value
  cases type <;> cases name <;> cases value <;> rfl

/-- So are all of them. -/
theorem paramsText_ofDeclaration (d : Declaration) :
    (ofDeclaration parent d).paramsText = Declaration.bodyParamsText d.body := by
  unfold paramsText ofDeclaration
  cases d.body with
  | function f =>
    -- only functions have parameters, and each of them is displayed as it is written
    have hparams : (f.params.map (shownParam parent)).map ShownParam.render = f.params.map Param.render := by
      rw [List.map_map]
      exact List.map_congr_left fun p _ => render_shownParam parent p
    show "(" ++ String.intercalate ", " ((f.params.map (shownParam parent)).map ShownParam.render) ++ ")" = _
    rw [hparams]
    rfl
  | _ => rfl

/-- **The text of the signature of a declaration** has the word for the kind among the words in front. -/
theorem render_ofDeclaration_eq (d : Declaration) : (ofDeclaration parent d).render =
    inFront d.leadingWords ++ inFront (kindWords d.body) ++ d.mainText := by
  have htype : (ofDeclaration parent d).leadingType.map TypeMention.text =
      (leadingExpr d.body).map Expr.render := Option.map_map _ _ _
  rw [render_eq, htype, nameText_ofDeclaration, paramsText_ofDeclaration]
  show inFront (d.leadingWords ++ kindWords d.body) ++ (_ ++
    inBack ((bodyValue d.body).toList.map ("= " ++ ·) ++ bodySuffixes d.body)) = _
  rw [inFront_append, bodySuffixes_eq]
  rfl

/-- **Signature and canonical text agree.** For a function and a member they are the same. For a class and a
type the signature has the word for the kind behind the access level and `static`, and is the same otherwise.
And the displayed name is the declared name, whatever its owner is. -/
theorem render_ofDeclaration (d : Declaration) :
    (match d.body with
      | .function _ | .member _ _ => (ofDeclaration parent d).render = d.render
      | .classType => ∃ rest, d.render = inFront d.leadingWords ++ rest ∧
          (ofDeclaration parent d).render = inFront d.leadingWords ++ "class " ++ rest
      | .typeName _ => ∃ rest, d.render = inFront d.leadingWords ++ rest ∧
          (ofDeclaration parent d).render = inFront d.leadingWords ++ "type " ++ rest) ∧
      (ofDeclaration parent d).nameText = d.name.render := by
  refine ⟨?_, nameText_ofDeclaration parent d⟩
  have hrender := d.render_eq
  have hsignature := render_ofDeclaration_eq parent d
  -- A signature of a class or a type names its kind in front of the name; the others are rendered
  -- alike.
  cases hbody : d.body with
  | function f =>
    rw [hbody, kindWords_function] at hsignature
    rw [hbody] at hrender
    exact hsignature.trans hrender.symm
  | member type value =>
    rw [hbody] at hrender hsignature
    exact hsignature.trans hrender.symm
  | classType | typeName target =>
    rw [hbody] at hrender hsignature
    refine ⟨d.mainText, ?_, hsignature⟩
    rw [hrender]
    exact congrArg (· ++ d.mainText) String.append_empty

/-- A conversion in the scope of a template, and a class, whose names are both taken apart. -/
example : (Signature.ofDeclaration (some (.name "ns")) ⟨.path [.template (.name "T") [.name "int"],
      .cast (.pointer (.name "char"))], .prot, true, .function ⟨false, true, none, [], true, true⟩⟩).render =
        "protected static virtual T<int>::operator char*() const = 0" ∧
    (Signature.ofDeclaration none ⟨.path [.name "a", .name "B"], .priv, false, .classType⟩).render =
        "private class a::B" := by
  decide

end Signature

end CppIndex
