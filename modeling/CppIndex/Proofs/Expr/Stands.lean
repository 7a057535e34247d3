import CppIndex.Proofs.Expr.Form
import CppIndex.Proofs.Text.Sign

/-!
# When the text of an expression stands

The canonical text of a tree need not be read as that tree. A leading `::` leaves no trace, so a name
may come to stand where a word of a type is expected; blanks are not kept, so an operator sign may grow
together with what follows; and brackets around nothing are filled by a `]` that comes later on the
line. Here it is said when none of this happens: `Expr.TypeStands e k` holds if the text of `e`, written
in front of the text `k`, is read as `e` and no further. It has three parts:

* the text **begins** as the tree does: its first component is no word of a type (`Expr.Begins`);
* the text **stands** inside: each name, sign and pair of brackets is read as it was meant, in front of
  what follows it (`Expr.Stands`);
* the text **ends** where the tree does: nothing in `k` would be read along (`Expr.Ends`).
-/

namespace CppIndex

namespace Text

/-- **The word at the front of a text**, with a `~` in front of it if there is one. -/
def leadingWord (cs : List Char) : List Char :=
  (splitTilde cs).1 ++ (splitTilde cs).2.takeWhile isAsciiWordChar

end Text

namespace Expr

/-- **The first word** of the canonical text. -/
def opening (e : Expr) : String := String.ofList (Text.leadingWord e.chars)

/-! ### What is read behind an expression -/

/-- **No suffix follows**: the text begins with no `const`, `*`, `&` or array suffix. -/
structure NoSuffix (k : List Char) : Prop where
  /-- Not with the keyword `const`. -/
  const : ∀ r, k = "const".toList ++ r → r.head?.any Text.isKeywordChar = true
  /-- Not with the sign of a pointer. -/
  pointer : k.head? ≠ some '*'
  /-- Not with the sign of a reference. -/
  reference : k.head? ≠ some '&'
  /-- Not with an array suffix. -/
  array : Text.arrayBound? k = none

/-- **No word follows** that would lengthen a run behind `long`. -/
def NoLonger (k : List Char) : Prop :=
  ∀ w ∈ followers "long", ∀ r, k = w.toList ++ r → r.head?.any Text.isWordChar = true

/-- No further component follows. -/
def NoComponent (k : List Char) : Prop := ¬ [':', ':'] <+: k

/-- No template arguments follow. -/
def NoArguments (k : List Char) : Prop := ¬ ['<'] <+: k

/-- **What may not follow the last part of an expression.** A suffix is complete by itself. A run of
built-in words can go on only behind `long`, because any other word at its end is the base type that
was found. Components may be followed by more of them, or by template arguments. -/
def Follow : Expr → List Char → Prop
  | .pointer _, _ | .reference _, _ | .array _ _, _ | .const .after _, _ => True
  | .const .before e, k => Follow e k
  | .modified ws e, k =>
    if ∃ w ∈ ws, w ∈ builtinStarts then (e = .name "long" → NoLonger k) else Follow e k
  | .name s, k => if s = "long" then NoLonger k else NoComponent k ∧ NoArguments k
  | .path _, k | .cast _, k => NoComponent k ∧ NoArguments k
  | .template _ _, k => NoComponent k

/-- Words in front of a base leave what may follow to it, unless one of them begins a run. -/
theorem follow_underWords_iff {isConst : Bool} {ws : List String} {e : Expr} {k : List Char} :
    Follow (underWords isConst ws e) k ↔
      if ∃ w ∈ ws, w ∈ builtinStarts then (e = .name "long" → NoLonger k) else Follow e k := by
  -- a `const` in front says nothing, so only the words count
  have hwords : Follow (withWords ws e) k ↔
      if ∃ w ∈ ws, w ∈ builtinStarts then (e = .name "long" → NoLonger k) else Follow e k := by
    cases ws with
    | nil => simp [withWords]
    | cons w ws => simp only [withWords, List.isEmpty_cons, Bool.false_eq_true, if_false, Follow]
  cases isConst with
  | false => exact hwords
  | true => exact hwords

/-- Behind words and a single `long`, nothing may follow that would lengthen the run. -/
theorem follow_underWords_long_iff {isConst : Bool} {ws : List String} {k : List Char} :
    Follow (underWords isConst ws (.name "long")) k ↔ NoLonger k := by
  rw [follow_underWords_iff]
  split
  · exact forall_prop_of_true rfl
  · rw [Follow, if_pos rfl]

/-- **The text ends** where the tree does, in front of `k`. -/
structure Ends (e : Expr) (k : List Char) : Prop where
  /-- No suffix follows. -/
  suffix : NoSuffix (Text.dropBlank k)
  /-- Nothing else that would be read along. -/
  follow : Follow e (Text.dropBlank k)

/-- **The text begins** as the tree does: the primary expression is `long`, which is read as a run of
one word, or its first word is no word of a type. -/
def Begins (e : Expr) : Prop :=
  e.declaredName = .name "long" ∨ wordRule? e.declaredName.opening = none

/-! ### What stands inside -/

/-- **A name stands** in front of a text: the text continues no operator sign, and opens no bracket
behind an allocation without brackets. -/
structure NameStands (s : String) (k : List Char) : Prop where
  /-- The sign is the longest at its place. -/
  sign : ∀ t ∈ Text.operatorSigns, s = "operator" ++ t → Text.SignStands t k
  /-- The allocation takes no brackets along. -/
  allocation : ∀ a : Allocation, s = a.operatorName false → (Text.dropBlank k).head? ≠ some '['

/-- **A target stands** behind the word `operator`: it begins neither with the sign `~` nor with an
allocation. -/
structure TargetStands (t : Expr) : Prop where
  /-- No complement. -/
  sign : t.chars.head? ≠ some '~'
  /-- No allocation. -/
  allocation : ∀ a : Allocation, t.opening ≠ a.keyword

mutual

/-- **The text stands** in front of `k`: every part of it is read as that part of the tree. -/
def Stands : Expr → List Char → Prop
  | .name s, k => NameStands s k
  | .path ps, k => PartsStand ps k
  | .template h as, k => Stands h ('<' :: joined [',', ' '] as ++ '>' :: k) ∧ ArgsStand as ('>' :: k)
  | .modified _ e, k => Stands e k
  | .pointer e, k => Stands e ('*' :: k)
  | .reference e, k => Stands e ('&' :: k)
  | .array e size, k =>
    Stands e ('[' :: (size.getD "").toList ++ ']' :: k) ∧
      (size = none → Text.boundText? (']' :: k) = none)
  | .const .before e, k => Stands e k
  | .const .after e, k => Stands e (' ' :: "const".toList ++ k)
  | .cast t, k => TargetStands t ∧ Begins t ∧ Stands t k ∧ Ends t k

/-- The components of a path stand in front of `k`. -/
def PartsStand : List Expr → List Char → Prop
  | [], _ => True
  | e :: es, k => Stands e (following [':', ':'] es ++ k) ∧ PartsStand es k

/-- The arguments of a template stand in front of `k`. -/
def ArgsStand : List Expr → List Char → Prop
  | [], _ => True
  | e :: es, k =>
    (Begins e ∧ Stands e (following [',', ' '] es ++ k) ∧ Ends e (following [',', ' '] es ++ k)) ∧
      ArgsStand es k

end

/-- **A type stands** in front of a text, as far as no suffix follows it. -/
structure FrontStands (e : Expr) (k : List Char) : Prop where
  /-- It begins as the tree does. -/
  begins : Begins e
  /-- It stands inside. -/
  stands : Stands e k
  /-- Its last part ends as the tree does. -/
  follow : Follow e (Text.dropBlank k)

/-- **A type stands** in front of a text. -/
structure TypeStands (e : Expr) (k : List Char) : Prop where
  /-- It begins as the tree does. -/
  begins : Begins e
  /-- It stands inside. -/
  stands : Stands e k
  /-- It ends as the tree does. -/
  ends : Ends e k

/-! ### Names that stand -/

/-- An identifier is no name of an operator. -/
theorem nameStands_of_isIdentifier {s : String} {k : List Char} (h : Text.IsIdentifier s.toList) :
    NameStands s k := by
  -- Behind the letters of `operator` an identifier goes on with word characters only.
  have hword : ∀ x w, s.toList = "operator".toList ++ x :: w → Text.isAsciiWordChar x = true := by
    intro x w hs
    rw [hs] at h
    rcases h with h | ⟨v, hv, -⟩
    · exact h.all x (by simp)
    · exact absurd (List.cons.inj hv).1 (by decide)
  refine ⟨fun t ht hs => ?_, fun a hs => ?_⟩
  · -- a sign would begin with a character that no word has
    obtain ⟨x, w, hx, hxw, -⟩ := Text.exists_cons_of_isSign (Or.inr (Or.inr ht))
    have hxw' := hword x w (by rw [hs, String.toList_append, hx])
    rw [hxw] at hxw'
    cases hxw'
  · -- and an allocation with a blank
    have hspace := hword ' ' _ (by rw [hs, Allocation.toList_operatorName])
    exact absurd hspace (by decide)

/-- The name of an allocation operator is no name of another operator: a blank stands in it where the sign
would begin. -/
theorem operatorName_ne_sign {s : String} (h : Text.IsSign s) (a : Allocation) (isArray : Bool) :
    a.operatorName isArray ≠ "operator" ++ s := by
  intro he
  obtain ⟨x, w, hx, -, hblank, -⟩ := Text.exists_cons_of_isSign h
  have htext := congrArg String.toList he
  rw [Allocation.toList_operatorName, String.toList_append, hx] at htext
  rw [← (List.cons.inj (List.append_cancel_left htext)).1] at hblank
  exact absurd hblank (by decide)

/-- **When the name of a sign stands.** -/
theorem nameStands_sign {s : String} {k : List Char} (h : Text.IsSign s)
    (hs : s ∈ Text.operatorSigns → Text.SignStands s k) : NameStands ("operator" ++ s) k := by
  refine ⟨fun t ht he => ?_, fun a he => ?_⟩
  · have htext := congrArg String.toList he
    rw [String.toList_append, String.toList_append] at htext
    -- a name determines the sign behind `operator`
    obtain rfl := String.toList_injective (List.append_cancel_left htext)
    exact hs ht
  · exact absurd he.symm (operatorName_ne_sign h a false)

/-- **When the name of an allocation stands.** -/
theorem nameStands_allocation {a : Allocation} {isArray : Bool} {k : List Char}
    (h : isArray = false → (Text.dropBlank k).head? ≠ some '[') :
    NameStands (a.operatorName isArray) k := by
  refine ⟨fun t ht he => ?_, fun a' he => h ?_⟩
  · exact absurd he (operatorName_ne_sign (Or.inr (Or.inr ht)) a isArray)
  · -- whether the brackets are there can be read off the name
    have hall : ∀ a b : Allocation, a.operatorName true ≠ b.operatorName false := by
      intro a b
      cases a <;> cases b <;> decide
    cases isArray with
    | false => rfl
    | true => exact absurd he (hall a a')

end Expr

end CppIndex
