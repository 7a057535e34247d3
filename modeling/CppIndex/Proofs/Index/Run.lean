import CppIndex.Index.Resolve
import CppIndex.Proofs.Index.Registry

/-!
# Runs of an index

An index is built by describing declarations and clearing documents, in any order and as often as one
likes (`Index.run`). A text that is rejected changes nothing. What holds of an index without objects and
is kept by every step holds of every index that is built (`Index.run_of_step`); the first such fact is
that the rows of the registry are sorted, so that every registered object is found by its full name
(`Index.get?_of_mem_objects`).
-/

namespace CppIndex

namespace Index

/-! ### Steps and runs -/

/-- **What can be done to an index.** -/
inductive Action
  /-- A declaration is described in a context. -/
  | describe (ctx : Context) (kind : ObjectKind) (text : String)
  /-- A document is cleared. -/
  | clear (docname : String)

/-- The index behind one step. -/
def step (ix : Index) : Action → Index
  | .describe ctx kind text =>
    match ix.describe ctx kind text with
    -- a text that is rejected leaves the index as it was
    | .error _ => ix
    | .ok (_, after) => after
  | .clear docname => ix.clear docname

/-- **The index behind a run.** -/
def run (ix : Index) (actions : List Action) : Index := actions.foldl step ix

variable {ix : Index} {ctx : Context} {kind : ObjectKind} {text : String}

/-- A text that is rejected is not described. -/
theorem describe_of_error {e : ParseError} (h : Declaration.parse kind text = .error e) :
    ix.describe ctx kind text = .error e := by
  rw [describe, h]
  rfl

/-- A text that is read is described as it is examined. -/
theorem describe_of_ok {d : Declaration} (h : Declaration.parse kind text = .ok d) :
    ix.describe ctx kind text =
      .ok (ix.examine ctx kind d, ix.add ctx.docname (ix.examine ctx kind d)) := by
  rw [describe, h]
  rfl

/-- **What a step does**: nothing, if a text is rejected; else an object is added or a document is
cleared. -/
theorem step_cases (ix : Index) (a : Action) :
    (∃ ctx kind text e, a = .describe ctx kind text ∧ Declaration.parse kind text = .error e ∧
        ix.step a = ix) ∨
      (∃ ctx kind text d, a = .describe ctx kind text ∧ Declaration.parse kind text = .ok d ∧
        ix.step a = ix.add ctx.docname (ix.examine ctx kind d)) ∨
      ∃ docname, a = .clear docname ∧ ix.step a = ix.clear docname := by
  cases a with
  | clear docname => exact Or.inr (Or.inr ⟨docname, rfl, rfl⟩)
  | describe ctx kind text =>
    cases hparse : Declaration.parse kind text with
    | error e =>
      exact Or.inl ⟨ctx, kind, text, e, rfl, hparse, by simp only [step, describe_of_error hparse]⟩
    | ok d =>
      exact Or.inr (Or.inl ⟨ctx, kind, text, d, rfl, hparse,
        by simp only [step, describe_of_ok hparse]⟩)

/-- **What every step keeps, a run keeps.** -/
theorem run_of_step {P : Index → Prop} (hs : ∀ ix a, P ix → P (ix.step a)) (h : P ix)
    (actions : List Action) : P (ix.run actions) := by
  induction actions generalizing ix with
  | nil => exact h
  | cons a actions ih => exact ih (hs ix a h)

/-! ### The rows of a run -/

/-- Adding an object keeps the rows sorted. -/
theorem sorted_add (h : Record.Sorted ix.objects) (docname : String) (d : Described) :
    Record.Sorted (ix.add docname d).objects := by
  rw [add]
  split
  · exact Registry.sorted_insert h _
  · exact h

/-- A step keeps the rows sorted. -/
theorem sorted_step (a : Action) (h : Record.Sorted ix.objects) :
    Record.Sorted (ix.step a).objects := by
  rcases ix.step_cases a with ⟨_, _, _, _, -, -, hstep⟩ | ⟨ctx, kind, _, d, -, -, hstep⟩ |
    ⟨docname, -, hstep⟩
  · rwa [hstep]
  · rw [hstep]
    exact sorted_add h _ _
  · rw [hstep]
    exact Registry.sorted_clear h docname

/-- **The rows of every index that is built are sorted.** -/
theorem sorted_run (config : Config) (actions : List Action) :
    Record.Sorted ((empty config).run actions).objects := by
  have hempty : Record.Sorted (empty config).objects := List.Pairwise.nil
  exact run_of_step (P := fun ix => Record.Sorted ix.objects) (fun _ a h => sorted_step a h) hempty
    actions

/-- **Every registered object is found by its full name.** -/
theorem get?_of_mem_objects {config : Config} {actions : List Action} {r : Record}
    (hr : r ∈ ((empty config).run actions).objects) :
    ((empty config).run actions).get? r.fullname = some r.entry :=
  (sorted_run config actions).find?_of_mem hr

end Index

end CppIndex
