import CppIndex.Expr.Parse
import CppIndex.Expr.Scope

/-!
# The characters of a canonical text

The canonical text of an expression as a list of characters, constructor by constructor, in the form in
which a cursor meets it. Lists of expressions are written with a separator between two members
(`Expr.joined`), words with a blank behind each (`Expr.wordsText`).
-/

namespace CppIndex.Expr

/-- **The characters** of the canonical text. -/
def chars (e : Expr) : List Char := e.render.toList

/-- The characters of further members of a list, each behind a separator. -/
def following (sep : List Char) (es : List Expr) : List Char := es.flatMap fun e => sep ++ e.chars

/-- The characters of a list of expressions, with a separator between two of them. -/
def joined (sep : List Char) : List Expr → List Char
  | [] => []
  | e :: es => e.chars ++ following sep es

/-- The characters of words in front of an expression. -/
def wordsText (words : List String) : List Char := words.flatMap fun w => w.toList ++ [' ']

/-! ### Lists -/

@[simp] theorem following_nil (sep : List Char) : following sep [] = [] := rfl

@[simp] theorem following_cons (sep : List Char) (e : Expr) (es : List Expr) :
    following sep (e :: es) = sep ++ e.chars ++ following sep es := by
  simp [following]

@[simp] theorem following_append (sep : List Char) (es fs : List Expr) :
    following sep (es ++ fs) = following sep es ++ following sep fs := by
  simp [following]

@[simp] theorem joined_nil (sep : List Char) : joined sep [] = [] := rfl

@[simp] theorem joined_singleton (sep : List Char) (e : Expr) : joined sep [e] = e.chars := by
  simp [joined]

/-- A member in front of others is written in front of them. -/
theorem joined_cons (sep : List Char) (e : Expr) {es : List Expr} (h : es ≠ []) :
    joined sep (e :: es) = e.chars ++ sep ++ joined sep es := by
  obtain ⟨f, fs, rfl⟩ := List.exists_cons_of_ne_nil h
  simp [joined]

/-- **A member behind others** is written behind them and the separator. -/
theorem joined_concat (sep : List Char) {es : List Expr} (e : Expr) (h : es ≠ []) :
    joined sep (es ++ [e]) = joined sep es ++ sep ++ e.chars := by
  obtain ⟨f, fs, rfl⟩ := List.exists_cons_of_ne_nil h
  simp [joined]

/-- The text of a list is the text of its members with the separator between. -/
theorem toList_intercalate_render (sep : String) (es : List Expr) :
    (String.intercalate sep (es.map render)).toList = joined sep.toList es := by
  induction es with
  | nil => simp
  | cons e es ih =>
    -- the separator comes in only when a second member follows
    cases es with
    | nil => simp [joined, chars]
    | cons f fs =>
      rw [List.map_cons, String.intercalate_cons_of_ne_nil (by simp), String.toList_append,
        String.toList_append, ih, joined_cons _ _ (List.cons_ne_nil f fs)]
      rfl

@[simp] theorem wordsText_nil : wordsText [] = [] := rfl

@[simp] theorem wordsText_cons (w : String) (ws : List String) :
    wordsText (w :: ws) = w.toList ++ ' ' :: wordsText ws := by
  simp [wordsText]

@[simp] theorem wordsText_append (vs ws : List String) :
    wordsText (vs ++ ws) = wordsText vs ++ wordsText ws := by
  simp [wordsText]

/-! ### Constructors -/

@[simp] theorem chars_name (s : String) : (name s).chars = s.toList := rfl

@[simp] theorem chars_path (ps : List Expr) : (path ps).chars = joined [':', ':'] ps := by
  show (String.intercalate "::" (renderAll ps)).toList = joined [':', ':'] ps
  -- the renderer walks the components with a recursion of its own, which is a map
  rw [renderAll_eq_map, toList_intercalate_render]
  rfl

@[simp] theorem chars_template (h : Expr) (as : List Expr) :
    (template h as).chars = h.chars ++ '<' :: joined [',', ' '] as ++ ['>'] := by
  show (h.render ++ "<" ++ String.intercalate ", " (renderAll as) ++ ">").toList = _
  simp only [renderAll_eq_map, String.toList_append, toList_intercalate_render]
  simp [chars]

@[simp] theorem chars_modified (ws : List String) (e : Expr) :
    (modified ws e).chars = wordsText ws ++ e.chars := by
  show (String.join (ws.map (· ++ " ")) ++ e.render).toList = _
  simp [chars, wordsText, List.flatMap_map]

@[simp] theorem chars_pointer (e : Expr) : (pointer e).chars = e.chars ++ ['*'] := by
  show (e.render ++ "*").toList = _
  simp [chars]

@[simp] theorem chars_reference (e : Expr) : (reference e).chars = e.chars ++ ['&'] := by
  show (e.render ++ "&").toList = _
  simp [chars]

@[simp] theorem chars_array (e : Expr) (size : Option String) :
    (array e size).chars = e.chars ++ '[' :: (size.getD "").toList ++ [']'] := by
  show (e.render ++ "[" ++ size.getD "" ++ "]").toList = _
  simp [chars]

@[simp] theorem chars_const_before (e : Expr) :
    (const .before e).chars = wordsText ["const"] ++ e.chars := by
  show ("const " ++ e.render).toList = _
  simp [chars]

@[simp] theorem chars_const_after (e : Expr) :
    (const .after e).chars = e.chars ++ ' ' :: "const".toList := by
  show (e.render ++ " const").toList = _
  simp [chars]

@[simp] theorem chars_cast (t : Expr) :
    (cast t).chars = "operator".toList ++ ' ' :: t.chars := by
  show ("operator " ++ t.render).toList = _
  simp [chars]

/-- A list of at least two components is a path. -/
theorem ofParts_cons {p : Expr} {qs : List Expr} (hn : qs ≠ []) : ofParts (p :: qs) = .path (p :: qs) := by
  obtain ⟨q, qs, rfl⟩ := List.exists_cons_of_ne_nil hn
  rfl

/-- The text of a list of components is the same whether it is a path or a single component. -/
@[simp] theorem chars_ofParts (ps : List Expr) : (ofParts ps).chars = joined [':', ':'] ps := by
  unfold ofParts
  -- one component stands for itself, and its text has no separator
  split
  next e => rw [joined_singleton]
  next => exact chars_path ps

/-- The text of components with arguments for all of them. -/
theorem chars_template_ofParts (ps args : List Expr) :
    (template (ofParts ps) args).chars =
      joined [':', ':'] ps ++ ("<".toList ++ (joined [',', ' '] args ++ ">".toList)) := by
  rw [chars_template, chars_ofParts]
  simp

@[simp] theorem chars_withWords (ws : List String) (e : Expr) :
    (withWords ws e).chars = wordsText ws ++ e.chars := by
  cases ws with
  | nil => rfl
  | cons w ws => exact chars_modified (w :: ws) e

end CppIndex.Expr
