import CppIndex.Proofs.Cursor.Lexeme
import CppIndex.Proofs.Text.Sign

/-!
# What may follow the word `operator`

A sign, an allocation or a type. The first two are lexemes: `Cursor.operatorSign?` takes a sign of the
table or a pair, and `Cursor.allocation?` takes `new` or `delete`, with a pair of brackets if one is
opened. The brackets decide the name, so a name without brackets is read back only where no bracket
follows (`Cursor.allocation?_plain`, `Cursor.allocation?_array`).
-/

namespace CppIndex

/-- The name of an allocation operator. -/
def Allocation.operatorName (a : Allocation) (isArray : Bool) : String :=
  "operator " ++ a.keyword ++ (if isArray then "[]" else "")

theorem Allocation.toList_operatorName (a : Allocation) (isArray : Bool) :
    (a.operatorName isArray).toList = "operator".toList ++
      ' ' :: (a.keyword.toList ++ if isArray then ['[', ']'] else []) := by
  cases isArray <;> simp [operatorName]

/-- The keyword of an allocation is a word. -/
theorem Allocation.isWord_keyword (a : Allocation) : Text.IsWord a.keyword.toList := by
  cases a <;> decide

namespace Cursor

variable {c c' : Cursor} {s : String}

/-! ### Signs -/

/-- Over a sign at the cursor. -/
theorem operatorSign?_eq_some (h : c.operatorSign? = some (s, c')) :
    ∃ taken, Text.operatorSign? c.rest = some (s, taken, c'.rest) ∧ c.rest = taken ++ c'.rest ∧
      c' = c.moved taken c'.rest ∧ taken ≠ [] := by
  obtain ⟨⟨s', taken, rest⟩, hr, he⟩ := Option.map_eq_some_iff.mp h
  obtain ⟨rfl, rfl⟩ := Prod.mk.inj he
  obtain ⟨hs, hcs, -⟩ := Text.operatorSign?_eq_some hr
  obtain ⟨x, w, hx, -⟩ := Text.exists_cons_of_isSign hs
  refine ⟨taken, hr, hcs, rfl, ?_⟩
  -- nothing would be taken only for a sign without characters or an empty pair without brackets
  rintro rfl
  obtain ⟨-, -, ht⟩ := Text.operatorSign?_eq_some hr
  rcases ht with ht | ⟨-, a, b, blanks, -, -, ht⟩
  · rw [hx] at ht
    cases ht
  · cases ht

theorem operatorSign?_of_text {taken rest : List Char}
    (h : Text.operatorSign? c.rest = some (s, taken, rest)) :
    c.operatorSign? = some (s, c.moved taken rest) := by
  rw [operatorSign?, h]
  rfl

theorem operatorSign?_eq_none_iff : c.operatorSign? = none ↔ Text.operatorSign? c.rest = none := by
  rw [operatorSign?, Option.map_eq_none_iff]

/-! ### Allocations -/

/-- **What is read as an allocation**: its keyword, and brackets exactly if one is opened. -/
theorem allocation?_eq_some (h : c.allocation? = some (.done s c')) :
    ∃ (a : Allocation) (isArray : Bool) (c₁ : Cursor), s = a.operatorName isArray ∧
      c.keyword? a.keyword = some c₁ ∧
      if isArray then
        ∃ c₂, c₁.skipBlank.skip? "[" = some c₂ ∧ c₂.skipBlank.skip? "]" = some c'
      else c₁.skipBlank.skip? "[" = none ∧ c' = c₁ := by
  obtain ⟨a, -, ha⟩ := List.exists_of_findSome?_eq_some h
  obtain ⟨c₁, hk, he⟩ := Option.map_eq_some_iff.mp ha
  -- Behind the keyword stands no bracket, or a bracket that is closed; one left open is no name.
  split at he
  next hb =>
    simp only [Reading.done.injEq] at he
    obtain ⟨rfl, rfl⟩ := he
    exact ⟨a, false, _, by simp [Allocation.operatorName], hk, hb, rfl⟩
  next c₂ hb =>
    split at he
    next => cases he
    next c₃ hc =>
      simp only [Reading.done.injEq] at he
      obtain ⟨rfl, rfl⟩ := he
      exact ⟨a, true, c₁, by simp [Allocation.operatorName], hk, c₂, hb, hc⟩

/-- The two keywords exclude each other. -/
theorem keyword?_of_other {a b : Allocation} (h : c.keyword? a.keyword = some c') (hne : b ≠ a) :
    c.keyword? b.keyword = none := by
  have hr := (keyword?_eq_some h).1
  refine keyword?_eq_none (w := if b = .new then 'n' else 'd') ?_ ?_
  · cases b <;> decide
  · rw [hr]
    cases a <;> cases b <;> first | exact absurd rfl hne | (intro hh; cases hh)

/-- At one of the keywords, the allocation with this keyword is read. -/
theorem allocation?_of_keyword {a : Allocation} {c₁ : Cursor} (h : c.keyword? a.keyword = some c₁) :
    c.allocation? = some (match c₁.skipBlank.skip? "[" with
      | none => .done ("operator " ++ a.keyword) c₁
      | some c₂ =>
        match c₂.skipBlank.skip? "]" with
        | none => .failed (.expectedClosingBracket a) c₂.skipBlank
        | some c₃ => .done ("operator " ++ a.keyword ++ "[]") c₃) := by
  cases a with
  | new =>
    rw [allocation?, List.findSome?_cons, h]
    rfl
  | delete =>
    -- `new` is asked for first, and it does not stand where `delete` does
    have hn : c.keyword? Allocation.new.keyword = none := keyword?_of_other h (by decide)
    rw [allocation?, List.findSome?_cons, hn, Option.map_none, List.findSome?_cons, h]
    rfl

/-- Without a bracket behind it, an allocation is read by its keyword alone. -/
theorem allocation?_plain {a : Allocation} {c₁ : Cursor} (h : c.keyword? a.keyword = some c₁)
    (hb : c₁.skipBlank.skip? "[" = none) :
    c.allocation? = some (.done (a.operatorName false) c₁) := by
  rw [allocation?_of_keyword h, hb]
  simp [Allocation.operatorName]

/-- With brackets behind it, an allocation takes them along. -/
theorem allocation?_array {a : Allocation} {c₁ c₂ c₃ : Cursor} (h : c.keyword? a.keyword = some c₁)
    (hb : c₁.skipBlank.skip? "[" = some c₂) (he : c₂.skipBlank.skip? "]" = some c₃) :
    c.allocation? = some (.done (a.operatorName true) c₃) := by
  rw [allocation?_of_keyword h, hb]
  simp [Allocation.operatorName, he]

/-- **An allocation between two seams is found**, with its brackets or where none opens. -/
theorem allocation?_of_seams {a : Allocation} {isArray : Bool} {back k : List Char}
    (hback : back = if isArray then ['[', ']'] else [])
    (hc : c.rest = a.keyword.toList ++ (back ++ k)) (hp : Text.IsSeam c.previous?)
    (hk : Text.IsSeam k.head?) (hopen : isArray = false → (Text.dropBlank k).head? ≠ some '[') :
    c.allocation? = some (.done (a.operatorName isArray) (c.moved (a.keyword.toList ++ back) k)) := by
  -- Only the form without brackets needs `hopen`: a bracket behind it would be taken for its own.
  cases isArray with
  | false =>
    obtain rfl : back = [] := hback
    have hkey := keyword?_of_seams hc hp hk
    rw [List.nil_append] at hkey
    rw [List.append_nil]
    exact allocation?_plain hkey (skip?_eq_none (w := '[') rfl (hopen rfl))
  | true =>
    obtain rfl : back = ['[', ']'] := hback
    have hkey := keyword?_of_seams hc hp (Text.isSeam_some_of_ascii (by decide) (by decide))
    have hfound := allocation?_array hkey (skip?_skipBlank (k := ']' :: k) rfl (by decide) rfl)
      (skip?_skipBlank (k := k) rfl (by decide) rfl)
    rw [hfound, moved_moved, moved_moved]
    rfl

/-- Where neither keyword stands, no allocation is read. -/
theorem allocation?_eq_none_iff :
    c.allocation? = none ↔ ∀ a : Allocation, c.keyword? a.keyword = none := by
  rw [allocation?, List.findSome?_eq_none_iff]
  constructor
  · intro h a
    exact Option.map_eq_none_iff.mp (h a (by cases a <;> decide))
  · intro h a _
    rw [h a]
    rfl

end Cursor

end CppIndex
