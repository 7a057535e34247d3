import CppIndex.Expr.Basic

/-!
# The anchor of an expression

An **anchor** is a short key that can stand in a link. It follows the structure of the expression:
wrappers append one letter, components are joined by `::`, template arguments by a point between two
colons. Well-known types and operators are shortened through a fixed table (`abbreviation?`), which
is looked up by the written name, and for a path by the joined anchors of its components.

Two different expressions may have the same anchor, `const T` and `T const` always do.
-/

namespace CppIndex

/-! ### Abbreviations -/

/-- The well-known names and their abbreviations. -/
def abbreviations : List (String × String) := [
  ("char", "c"), ("signed char", "c"), ("unsigned char", "C"),
  ("int", "i"), ("signed int", "i"), ("unsigned int", "U"),
  ("long", "l"), ("signed long", "l"), ("unsigned long", "L"),
  ("bool", "b"), ("size_t", "s"),
  ("std::string", "ss"), ("std::ostream", "os"), ("std::istream", "is"),
  ("std::iostream", "ios"), ("std::vector", "v"), ("std::map", "m"),
  ("operator[]", "subscript-operator"), ("operator()", "call-operator"),
  ("operator!", "not-operator"), ("operator<", "lt-operator"), ("operator<=", "lte-operator"),
  ("operator>", "gt-operator"), ("operator>=", "gte-operator"),
  ("operator=", "assign-operator"), ("operator/", "div-operator"),
  ("operator*", "mul-operator"), ("operator%", "mod-operator"),
  ("operator+", "add-operator"), ("operator-", "sub-operator"),
  ("operator|", "or-operator"), ("operator&", "and-operator"),
  ("operator^", "xor-operator"), ("operator&&", "sand-operator"),
  ("operator||", "sor-operator"), ("operator==", "eq-operator"),
  ("operator!=", "neq-operator"), ("operator<<", "lshift-operator"),
  ("operator>>", "rshift-operator"), ("operator-=", "sub-assign-operator"),
  ("operator+=", "add-assign-operator"), ("operator*=", "mul-assign-operator"),
  ("operator/=", "div-assign-operator"), ("operator%=", "mod-assign-operator"),
  ("operator&=", "and-assign-operator"), ("operator|=", "or-assign-operator"),
  ("operator<<=", "lshift-assign-operator"), ("operator>>=", "rshift-assign-operator"),
  ("operator^=", "xor-assign-operator"), ("operator,", "comma-operator"),
  ("operator->", "pointer-operator"), ("operator->*", "pointer-by-pointer-operator"),
  ("operator~", "inv-operator"), ("operator++", "inc-operator"), ("operator--", "dec-operator"),
  ("operator new", "new-operator"), ("operator new[]", "new-array-operator"),
  ("operator delete", "delete-operator"), ("operator delete[]", "delete-array-operator")]

/-- The abbreviation of a well-known name. -/
def abbreviation? (word : String) : Option String := abbreviations.lookup word

/-- A name by its abbreviation, or as it stands if it has none. -/
def abbreviate (word : String) : String := (abbreviation? word).getD word

namespace Expr

/-! ### Anchors -/

/-- The anchor of a bare name: its abbreviation, or the name with blanks turned into dashes. -/
def nameAnchor (text : String) : String :=
  (abbreviation? text).getD
    (String.ofList (text.toList.map fun c => if c = ' ' then '-' else c))

mutual

/-- **The anchor** of an expression. -/
def anchor : Expr → String
  | .name text => nameAnchor text
  | .path parts => abbreviate (String.intercalate "::" (anchorAll parts))
  | .template head args => anchor head ++ ":" ++ String.intercalate "." (anchorAll args) ++ ":"
  | .modified words inner => String.intercalate "-" (words.map abbreviate ++ [anchor inner])
  | .pointer inner => anchor inner ++ "P"
  | .reference inner => anchor inner ++ "R"
  | .array inner _ => anchor inner ++ "A"
  | .const _ inner => anchor inner ++ "C"
  | .cast target => "castto-" ++ anchor target ++ "-operator"

/-- The anchors of a list of expressions. -/
def anchorAll : List Expr → List String
  | [] => []
  | e :: es => anchor e :: anchorAll es

end

/-- The anchors of a list are the anchors of its members. -/
@[simp] theorem anchorAll_eq_map (es : List Expr) : anchorAll es = es.map anchor := by
  induction es with
  | nil => rfl
  | cons e es ih => simp [anchorAll, ih]

/-- The side on which a `const` is written leaves no trace in the anchor. -/
theorem anchor_const (side : ConstSide) (e : Expr) : (Expr.const side e).anchor = e.anchor ++ "C" := by
  simp [anchor]

end Expr

end CppIndex
