import CppIndex.Project.Build
import CppIndex.Proofs.Index.Log

/-!
# A build is a run

Building a project describes objects and clears documents, and nothing else. Which objects in which
contexts is decided by the texts of the manifest alone: a text is read or rejected whatever the index
holds, and the scope of what stands inside an object is the name that was read. So a manifest has
**actions** of its own (`Manifest.actions`), and building it on an index is the run of these actions
(`Manifest.build_index`), whose log holds the objects of the report (`Manifest.build_objects`).

The objects of a document are described in that document (`ObjectSpec.describes_of_mem_actionsAll`), and
it is cleared once before the first of them.
-/

namespace CppIndex

open Index (Action Event)

/-- The entry of a report that an event leaves: that of a described object. -/
def Index.Event.report? : Event → Option ObjectReport
  | .described docname d => some ⟨docname, d⟩
  | .rejected _ | .cleared _ _ => none

/-! ### The actions of a manifest -/

namespace ObjectSpec

mutual

/-- **The actions of an object** and of the objects inside it, with the context for what follows. -/
def actions (ctx : Context) : ObjectSpec → Context × List Action
  | .mk kind signature children =>
    if kind = namespaceWord then
      match ctx.withNamespace signature with
      | .ok next => (next, [])
      | .error _ => (ctx, [])
    else
      match ObjectKind.ofLabel? kind with
      | none => (ctx, [])
      | some k =>
        match Declaration.parse k signature with
        -- a text that is rejected is described in vain, and nothing inside it is described
        | .error _ => (ctx, [.describe ctx k signature])
        | .ok d =>
          (ctx, .describe ctx k signature ::
            actionsAll (ctx.nestedIn (d.inScope? ctx.parent).name) children)

/-- The actions of objects one after the other. -/
def actionsAll (ctx : Context) : List ObjectSpec → List Action
  | [] => []
  | o :: os => (actions ctx o).2 ++ actionsAll (actions ctx o).1 os

end

end ObjectSpec

/-- **The actions of a document**: it is cleared, and its objects are described. -/
def DocumentSpec.actions (d : DocumentSpec) : List Action :=
  .clear d.name :: ObjectSpec.actionsAll ⟨d.name, none⟩ d.objects

/-- **The actions of a manifest**: those of its documents in order. -/
def Manifest.actions (m : Manifest) : List Action := m.documents.flatMap DocumentSpec.actions

/-! ### Surveys are runs -/

/-- **A survey is a run** of some actions on an index. -/
structure Survey.Runs (s : Survey) (ix : Index) (actions : List Action) : Prop where
  /-- The index afterwards is that behind the run. -/
  index : s.index = ix.run actions
  /-- The objects are those in the log of the run. -/
  objects : s.objects = (ix.log actions).filterMap Event.report?

namespace Survey

variable {ix : Index} {first second : List Action}

theorem runs_start : (start ix).Runs ix [] := ⟨rfl, rfl⟩

theorem runs_warn {docname : String} {problem : Problem} : (warn ix docname problem).Runs ix [] :=
  ⟨rfl, rfl⟩

/-- **Surveys one after the other** are one run. -/
theorem Runs.andThen {s : Survey} {next : Index → Survey} (hs : s.Runs ix first)
    (hnext : (next s.index).Runs s.index second) : (s.andThen next).Runs ix (first ++ second) := by
  refine ⟨?_, ?_⟩
  · rw [Index.run_append, ← hs.index]
    exact hnext.index
  · rw [Index.log_append, List.filterMap_append, ← hs.index, ← hs.objects, ← hnext.objects]
    rfl

/-- Warning about a text that is rejected is describing it in vain. -/
theorem runs_rejected {ctx : Context} {kind : ObjectKind} {text docname : String} {problem : Problem}
    {e : ParseError} (h : Declaration.parse kind text = .error e) :
    (warn ix docname problem).Runs ix [.describe ctx kind text] := by
  refine ⟨?_, ?_⟩
  · rw [Index.run_cons, Index.step_eq_after, Index.event_of_error h]
    rfl
  · rw [Index.log_cons, Index.event_of_error h]
    rfl

/-- The survey of one object that was read is describing it. -/
theorem runs_described {ctx : Context} {kind : ObjectKind} {text : String} {d : Declaration}
    (h : Declaration.parse kind text = .ok d) :
    Runs ⟨ix.add ctx.docname (ix.examine ctx kind d), [⟨ctx.docname, ix.examine ctx kind d⟩], []⟩ ix
      [.describe ctx kind text] := by
  refine ⟨?_, ?_⟩
  · rw [Index.run_cons, Index.step_eq_after, Index.event_of_ok h]
    rfl
  · rw [Index.log_cons, Index.event_of_ok h]
    rfl

end Survey

namespace ObjectSpec

variable {ix : Index} {ctx : Context}

mutual

/-- **Surveying an object is running its actions.** -/
theorem survey_runs (ix : Index) (ctx : Context) (o : ObjectSpec) :
    (survey ix ctx o).1 = (actions ctx o).1 ∧ (survey ix ctx o).2.Runs ix (actions ctx o).2 := by
  match o with
  | .mk kind signature children =>
    rw [survey, actions]
    -- Directives and entries of an unknown kind run no action; the others run one and then those
    -- inside.
    split
    next =>
      cases ctx.withNamespace signature with
      | ok next => exact ⟨rfl, Survey.runs_start⟩
      | error e => exact ⟨rfl, Survey.runs_warn⟩
    next =>
      cases ObjectKind.ofLabel? kind with
      | none => exact ⟨rfl, Survey.runs_warn⟩
      | some k =>
        cases hparse : Declaration.parse k signature with
        | error e =>
          simp only [hparse, Index.describe_of_error hparse]
          exact ⟨trivial, Survey.runs_rejected hparse⟩
        | ok d =>
          simp only [hparse, Index.describe_of_ok hparse]
          exact ⟨trivial, (Survey.runs_described hparse).andThen (surveyAll_runs _ _ children)⟩

/-- Surveying objects is running their actions. -/
theorem surveyAll_runs (ix : Index) (ctx : Context) (os : List ObjectSpec) :
    (surveyAll ix ctx os).Runs ix (actionsAll ctx os) := by
  match os with
  | [] =>
    rw [surveyAll, actionsAll]
    exact Survey.runs_start
  | o :: os =>
    obtain ⟨hnext, hfirst⟩ := survey_runs ix ctx o
    -- both go on in the context that the first entry leaves
    rw [surveyAll, actionsAll, ← hnext]
    exact hfirst.andThen (surveyAll_runs _ _ os)

end

/-! ### What the actions describe -/

/-- A namespace directive stays in the document. -/
theorem docname_withNamespace {text : String} {next : Context}
    (h : ctx.withNamespace text = .ok next) : next.docname = ctx.docname := by
  rw [Context.withNamespace] at h
  -- a directive changes the scope alone, whether it resets it or names one
  split at h
  · obtain rfl := Except.ok.inj h
    rfl
  · cases hparse : Expr.parse (Text.trimmed text) with
    | error e =>
      rw [hparse] at h
      cases h
    | ok scope =>
      rw [hparse] at h
      obtain rfl := Except.ok.inj h
      rfl

mutual

/-- An object is described in the document of its context, and so is what follows it. -/
theorem describes_of_mem_actions (ctx : Context) (o : ObjectSpec) :
    (actions ctx o).1.docname = ctx.docname ∧
      ∀ a ∈ (actions ctx o).2, ∃ parent kind text, a = .describe ⟨ctx.docname, parent⟩ kind text := by
  match o with
  | .mk kind signature children =>
    rw [actions]
    split
    next =>
      cases hnext : ctx.withNamespace signature with
      | ok next => exact ⟨docname_withNamespace hnext, by simp⟩
      | error e => exact ⟨rfl, by simp⟩
    next =>
      cases ObjectKind.ofLabel? kind with
      | none => exact ⟨rfl, by simp⟩
      | some k =>
        cases hparse : Declaration.parse k signature with
        | error e =>
          simp only [hparse]
          refine ⟨trivial, fun a ha => ?_⟩
          exact ⟨ctx.parent, k, signature, List.mem_singleton.mp ha⟩
        | ok d =>
          simp only [hparse]
          refine ⟨trivial, fun a ha => ?_⟩
          rcases List.mem_cons.mp ha with rfl | ha
          · exact ⟨ctx.parent, k, signature, rfl⟩
          · -- what stands inside is described in the same document
            exact describes_of_mem_actionsAll (ctx.nestedIn _) children a ha

/-- **The actions of objects describe** in the document of their context. -/
theorem describes_of_mem_actionsAll (ctx : Context) (os : List ObjectSpec) :
    ∀ a ∈ actionsAll ctx os, ∃ parent kind text, a = .describe ⟨ctx.docname, parent⟩ kind text := by
  match os with
  | [] =>
    rw [actionsAll]
    simp
  | o :: os =>
    obtain ⟨hdoc, hfirst⟩ := describes_of_mem_actions ctx o
    rw [actionsAll]
    intro a ha
    rcases List.mem_append.mp ha with ha | ha
    · exact hfirst a ha
    · -- the next entries have another scope, perhaps, but the same document
      rw [← hdoc]
      exact describes_of_mem_actionsAll _ os a ha

end

end ObjectSpec

/-! ### Builds are runs -/

/-- Surveying a document is running its actions. -/
theorem DocumentSpec.survey_runs (d : DocumentSpec) (ix : Index) : (d.survey ix).Runs ix d.actions := by
  have h := ObjectSpec.surveyAll_runs (ix.clear d.name) ⟨d.name, none⟩ d.objects
  -- clearing the document reports no object
  exact ⟨h.index, h.objects⟩

/-- Surveying documents is running their actions. -/
theorem DocumentSpec.surveyAll_runs (ix : Index) (ds : List DocumentSpec) :
    (DocumentSpec.surveyAll ix ds).Runs ix (ds.flatMap DocumentSpec.actions) := by
  induction ds generalizing ix with
  | nil => exact Survey.runs_start
  | cons d ds ih => exact (d.survey_runs ix).andThen (ih _)

namespace Manifest

variable (m : Manifest) (ix : Index)

/-- **The index behind a build** is that behind the run of its actions. -/
theorem build_index : (m.build ix).2 = ix.run m.actions :=
  (DocumentSpec.surveyAll_runs ix m.documents).index

/-- **The objects of the report** are those in the log of the run. -/
theorem build_objects : (m.build ix).1.objects = (ix.log m.actions).filterMap Event.report? :=
  (DocumentSpec.surveyAll_runs ix m.documents).objects

end Manifest

end CppIndex
