import CppIndex.Proofs.Declaration.Exprs
import CppIndex.Proofs.Declaration.Requests
import CppIndex.Proofs.Expr.Nodes
import Mathlib.Data.List.Basic

/-!
# Well-formed trees

The type of expressions has more trees than there are names and types: paths without components, paths inside
of paths, templates of templates, words around pointers. A tree that was read is none of them. Its paths join
two components or more, its templates have a name or a path for their head, words stand directly around a
primary expression and a `const` in front directly around these, and an array bound is a text of its own
(`Expr.IsFormed`). This is so at every node (`Expr.IsWellFormed`), for whatever is asked of a reader, wherever
it stands (`Request.isWellFormed_answer`).
-/

namespace CppIndex

/-! ### Array bounds -/

namespace Text

/-- A bound that is found lies on one line, and if it is not found at blanks in front of a bracket, it does not
end in a blank. -/
theorem not_isBlank_getLast?_of_boundText? {cs b rest : List Char} (h : boundText? cs = some (b, rest))
    (hcs : (∃ x ∈ cs.head?, isBlank x = false) ∨ (dropBlank cs).head? ≠ some ']') :
    '\n' ∉ b ∧ ∃ x ∈ b.getLast?, isBlank x = false := by
  fun_induction boundText? cs generalizing b with
  | case1 => cases h
  | case2 => cases h
  | case3 x cs hx rest' hclose =>
    -- the bracket follows: the bound is a single character
    obtain ⟨rfl, -⟩ := Prod.mk.inj (Option.some.inj h)
    refine ⟨by simpa using Ne.symm hx, x, rfl, ?_⟩
    rcases hcs with ⟨y, hy, hblank⟩ | hcs
    · exact Option.some.inj hy ▸ hblank
    · cases hblank : isBlank x with
      | false => rfl
      | true =>
        rw [dropBlank_cons_of_blank hblank, hclose] at hcs
        exact absurd rfl hcs
  | case4 x cs hx hopen ih =>
    obtain ⟨⟨b', rest'⟩, hb, he⟩ := Option.map_eq_some_iff.mp h
    obtain ⟨rfl, rfl⟩ := Prod.mk.inj he
    -- behind the first character no bracket follows, with or without blanks
    have hcs' : (dropBlank cs).head? ≠ some ']' := by
      intro hhead
      obtain ⟨tail, htail⟩ := List.head?_eq_some_iff.mp hhead
      exact hopen tail htail
    obtain ⟨hline, y, hy, hblank⟩ := ih hb (.inr hcs')
    refine ⟨?_, y, ?_, hblank⟩
    · rw [List.mem_cons, not_or]
      exact ⟨Ne.symm hx, hline⟩
    · rw [List.getLast?_cons, hy]
      rfl

/-- **A bound is a text of its own**: it is not empty, has no blanks around it, and lies on one line. -/
theorem IsBound.isTrimmed {b : List Char} (h : IsBound b) : b ≠ [] ∧ IsTrimmed b ∧ '\n' ∉ b := by
  obtain ⟨x, hx, hblank⟩ := h.start
  obtain ⟨b', rfl⟩ := List.head?_eq_some_iff.mp hx
  -- the end of a bound is where reading it stopped
  obtain ⟨hline, y, hy, hend⟩ :=
    not_isBlank_getLast?_of_boundText? (h.reads []) (.inl ⟨x, rfl, hblank⟩)
  refine ⟨List.cons_ne_nil x b', ⟨fun z hz => ?_, fun z hz => ?_⟩, hline⟩
  · rwa [Option.some.inj (hx.symm.trans hz)] at hblank
  · rwa [Option.some.inj (hy.symm.trans hz)] at hend

end Text

namespace Expr

/-! ### Well-formed nodes -/

/-- **Simple components**: names and conversions. -/
def isSimple : Expr → Bool
  | .name _ | .cast _ => true
  | .path _ | .template _ _ | .modified _ _ | .pointer _ | .reference _ | .array _ _ | .const _ _ => false

/-- Whether an expression is a path. -/
def isPath : Expr → Bool
  | .path _ => true
  | _ => false

/-- Whether an expression is a template. -/
def isTemplate : Expr → Bool
  | .template _ _ => true
  | _ => false

/-- Whether an expression begins with words. -/
def isModified : Expr → Bool
  | .modified _ _ => true
  | _ => false

/-- **Components of a path**: they are simple, but the first may be a template. -/
def AreComponents (ps : List Expr) : Prop :=
  (∀ p ∈ ps.head?, p.isSimple = true ∨ p.isTemplate = true) ∧ ∀ p ∈ ps.tail, p.isSimple = true

/-- **The head of a template**: a simple component, or a path of at least two components. -/
def IsHead : Expr → Prop
  | .path ps => 2 ≤ ps.length ∧ AreComponents ps
  | head => head.isSimple = true

/-- **A node is well formed** if what stands directly below it may stand there. -/
def IsFormed : Expr → Prop
  | .path ps => 2 ≤ ps.length ∧ AreComponents ps
  | .template head _ => head.IsHead
  | .modified words inner => words ≠ [] ∧ inner.isPrimary = true
  | .const .before inner => inner.isPrimary = true ∨ inner.isModified = true
  | .array _ size => ∀ s ∈ size, s ≠ "" ∧ Text.trimmed s = s ∧ '\n' ∉ s.toList
  | .name _ | .pointer _ | .reference _ | .const .after _ | .cast _ => True

/-- **A node is flat** if it is no path of fewer than two components, no path of a path, and no template of a
template. -/
def IsFlat : Expr → Prop
  | .path ps => 2 ≤ ps.length ∧ ∀ p ∈ ps, p.isPath = false
  | .template head _ => head.isTemplate = false
  | _ => True

/-- **An expression is well formed** if all its nodes are, and so flat, too. -/
structure IsWellFormed (e : Expr) : Prop where
  /-- Every node is well formed. -/
  formed : e.Throughout IsFormed
  /-- Every node is flat. -/
  flat : e.Throughout IsFlat

variable {e : Expr} {ps : List Expr}

/-- A name and a conversion are neither paths nor templates. -/
theorem isPath_isTemplate_of_isSimple (h : e.isSimple = true) : e.isPath = false ∧ e.isTemplate = false := by
  cases e with
  | name s => exact ⟨rfl, rfl⟩
  | cast target => exact ⟨rfl, rfl⟩
  | _ => cases h

theorem isPath_of_isTemplate (h : e.isTemplate = true) : e.isPath = false := by
  cases e with
  | template head args => rfl
  | _ => cases h

/-- No component of a path is a path. -/
theorem AreComponents.isPath (h : AreComponents ps) : ∀ p ∈ ps, p.isPath = false := by
  cases ps with
  | nil => simp
  | cons p ps =>
    refine List.forall_mem_cons.mpr ⟨?_, fun q hq => (isPath_isTemplate_of_isSimple (h.2 q hq)).1⟩
    rcases h.1 p rfl with hsimple | htemplate
    · exact (isPath_isTemplate_of_isSimple hsimple).1
    · exact isPath_of_isTemplate htemplate

/-- The head of a template is no template. -/
theorem IsHead.isTemplate (h : e.IsHead) : e.isTemplate = false := by
  cases e with
  | path ps => rfl
  | _ => exact (isPath_isTemplate_of_isSimple h).2

/-- **A well-formed node is flat.** -/
theorem IsFormed.isFlat (h : e.IsFormed) : e.IsFlat := by
  cases e with
  | path ps => exact ⟨h.1, h.2.isPath⟩
  | template head args => exact IsHead.isTemplate h
  | _ => exact trivial

/-! ### What is read is well formed -/

/-- What is read as a component is simple. -/
theorem IsComponent.isSimple (h : IsComponent e) : e.isSimple = true := by
  cases h <;> rfl

/-- A simple component may follow others, and may stand alone. -/
theorem AreComponents.concat (h : AreComponents ps) (he : e.isSimple = true) :
    AreComponents (ps ++ [e]) := by
  -- a single component is the first, any other is behind it
  cases ps with
  | nil =>
    refine ⟨fun p hp => .inl ?_, by simp⟩
    rwa [← Option.some.inj hp]
  | cons p ps =>
    refine ⟨h.1, ?_⟩
    rw [List.cons_append, List.tail_cons]
    exact List.forall_mem_append.mpr ⟨h.2, List.forall_mem_singleton.mpr he⟩

/-- **What is passed as components may be joined to a path.** -/
theorem IsParts.areComponents (h : IsParts ps) : AreComponents ps := by
  induction h using IsParts.induct with
  | nil => exact ⟨by simp, by simp⟩
  | part _ hp ih => exact ih.concat hp.isSimple
  | template _ _ _ _ => exact ⟨fun p hp => .inr (Option.some.inj hp ▸ rfl), by simp⟩

/-- Components behind which arguments are read are the head of a template. -/
theorem IsParts.isHead (h : IsParts ps) (he : IsComponent e) : (ofParts (ps ++ [e])).IsHead := by
  -- one component is its own head, several are a path
  cases ps with
  | nil =>
    have hsimple := he.isSimple
    cases he <;> exact hsimple
  | cons p ps =>
    rw [List.cons_append, ofParts_cons (by simp)]
    exact ⟨by simp, h.areComponents.concat he.isSimple⟩

/-- **The rules of reading put well-formed nodes together.** -/
theorem givenByRules_isFormed : GivenByRules IsFormed where
  word _ := trivial
  sign _ := trivial
  allocation _ _ := trivial
  cast _ := trivial
  path hps hlength := ⟨hlength, hps.areComponents⟩
  template hps hp := hps.isHead hp
  modified hne _ hprimary := ⟨hne, hprimary⟩
  constBefore {words base} hprimary := by
    cases words with
    | nil => exact .inl hprimary
    | cons w ws => exact .inr rfl
  constAfter _ := trivial
  pointer _ := trivial
  reference _ := trivial
  -- A bound is trimmed when it is read, and one that is left empty is none.
  array hsize s hs := by
    obtain ⟨hne, htrimmed, hline⟩ := (hsize s hs).isTrimmed
    refine ⟨fun he => hne (he ▸ rfl), ?_, hline⟩
    rw [Text.trimmed, htrimmed.trim_eq, String.ofList_toList]

theorem isWellFormed_of_throughout (h : e.Throughout IsFormed) : e.IsWellFormed :=
  ⟨h, h.imp fun _ => IsFormed.isFlat⟩

/-- What is read as a type is well formed. -/
theorem ReadsType.isWellFormed {b : Bool} {c c' : Cursor} (h : ReadsType b c e c') : e.IsWellFormed :=
  isWellFormed_of_throughout (h.isType.throughout givenByRules_isFormed)

/-- **Whatever is read from a place on is well formed.** -/
theorem ReadFrom.isWellFormed {c : Cursor} (h : e.ReadFrom c) : e.IsWellFormed :=
  isWellFormed_of_throughout (h.throughout givenByRules_isFormed trivial)

end Expr

/-! ### Answers -/

/-- **The expressions of an answer.** -/
def Answer.exprs : Answer → List Expr
  | .type e => [e]
  | .declaration d => d.exprs
  | .blanks _ | .ending => []

namespace Request

/-- **Whatever is asked of a reader and wherever it stands, the trees in its answer are well formed**, and so
are the tree of a text that is parsed as a type and all trees of a text that is parsed as a declaration. -/
theorem isWellFormed_answer (request : Request) (c : Cursor) (kind : ObjectKind) (text : String) :
    (∀ a c', request.answer c = .done a c' → ∀ e ∈ a.exprs, e.IsWellFormed) ∧
      (∀ e, Expr.parse text = .ok e → e.IsWellFormed) ∧
      ∀ d, Declaration.parse kind text = .ok d → ∀ e ∈ d.exprs, e.IsWellFormed := by
  refine ⟨fun a c' h => ?_, fun e h => ?_, fun d h e he => ?_⟩
  · -- an answer has the expressions that were read for it, and blanks and the ending have none
    cases request with
    | type =>
      obtain ⟨e, hread, rfl⟩ := Reading.map_eq_done.mp h
      exact List.forall_mem_singleton.mpr (Expr.read_eq_done_iff.mp hread).isWellFormed
    | declaration kind =>
      obtain ⟨d, hread, rfl⟩ := Reading.map_eq_done.mp h
      exact fun e he => ((Declaration.read_eq_done_iff.mp hread).forall_exprs e he).isWellFormed
    | blanks =>
      cases h
      simp [Answer.exprs]
    | ending =>
      obtain ⟨_, -, rfl⟩ := Reading.map_eq_done.mp h
      simp [Answer.exprs]
  · exact Expr.isWellFormed_of_throughout (Expr.throughout_of_parse h Expr.givenByRules_isFormed)
  · exact Expr.isWellFormed_of_throughout
      (Declaration.throughout_of_parse h Expr.givenByRules_isFormed trivial e he)

/-- Arguments behind components that already have arguments, conversions with a type of their own, words and a
`const` in front, and a function whose parameters hold all this. -/
theorem isWellFormed_answer_nested :
    ∃ text e a c' d,
      text = "const volatile std::map<operator T<x>*, A<b>::c[ 3 ]>::operator int* const &[n]" ∧
      Expr.parse text = .ok e ∧ e.IsWellFormed ∧ Request.type.answer (.ofText text) = .done a c' ∧
      (∀ e ∈ a.exprs, e.IsWellFormed) ∧
      Declaration.parse .function "unsigned const x::f(const T<a::b>::c& d = 0, ...)" = .ok d ∧
      d.exprs.length = 5 ∧ ∀ e ∈ d.exprs, e.IsWellFormed := by
  have hparse : Expr.parse
      "const volatile std::map<operator T<x>*, A<b>::c[ 3 ]>::operator int* const &[n]" =
        .ok (.const .before (.modified ["volatile"] (.path [
          .template (.path [.name "std", .name "map"])
            [.cast (.pointer (.template (.name "T") [.name "x"])),
              .array (.path [.template (.name "A") [.name "b"], .name "c"]) (some "3")],
          .cast (.array (.reference (.const .after (.pointer (.name "int")))) (some "n"))]))) := by
    decide +kernel
  have hfunction : Declaration.parse .function "unsigned const x::f(const T<a::b>::c& d = 0, ...)" =
      .ok ⟨.path [.name "x", .name "f"], .pub, false, .function ⟨false, false,
        some (.const .after (.modified ["unsigned"] (.name "int"))),
        [⟨some (.reference (.const .before (.path [
            .template (.name "T") [.path [.name "a", .name "b"]], .name "c"]))),
          some (.name "d"), some "0"⟩, ⟨none, some (.name "..."), none⟩], false, false⟩⟩ := by
    decide +kernel
  obtain ⟨c', hread, -⟩ := Expr.parse_eq_ok_iff.mp hparse
  have hanswer := (Reading.map_eq_done (f := Answer.type)).mpr ⟨_, Expr.read_eq_done_iff.mpr hread, rfl⟩
  obtain ⟨hrequest, htype, -⟩ := isWellFormed_answer .type (.ofText
    "const volatile std::map<operator T<x>*, A<b>::c[ 3 ]>::operator int* const &[n]") .function
    "const volatile std::map<operator T<x>*, A<b>::c[ 3 ]>::operator int* const &[n]"
  obtain ⟨-, -, hdeclaration⟩ := isWellFormed_answer .ending (.ofText "") .function
    "unsigned const x::f(const T<a::b>::c& d = 0, ...)"
  exact ⟨_, _, _, c', _, rfl, hparse, htype _ hparse, hanswer, hrequest _ _ hanswer, hfunction, rfl,
    hdeclaration _ hfunction⟩

end Request

end CppIndex
