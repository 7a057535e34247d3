import CppIndex.Proofs.Project.Places
import Mathlib.Data.List.Forall2

/-!
# What is told of objects

A report tells of an object its document, kind, full name, anchor, index entry and signature, and whether it
was registered. Only the last depends on the index: everything else is determined by the declaration that
was read and the context in which it was described (`Told.ofDeclaration`). So what a manifest has told of
its objects does not depend on the index on which it is built (`Manifest.map_told_build`).

Objects are told of one by one. For each reported place there is one telling, of the entry there, and they
come in the same order (`Manifest.forall₂_build_objects`).
-/

namespace CppIndex

open Index (Action Event)

/-- **What is told of an object**, whether it was registered or not. -/
structure Told where
  /-- The name of the document. -/
  docname : String
  /-- The kind of the object. -/
  kind : ObjectKind
  /-- The full name. -/
  fullname : String
  /-- The anchor inside the document. -/
  anchor : String
  /-- The entry in a printed index. -/
  indexText : String
  /-- The signature as it was written. -/
  signature : Signature
  deriving DecidableEq, Repr

/-- What a report tells of its object. -/
def ObjectReport.told (o : ObjectReport) : Told :=
  ⟨o.docname, o.described.kind, o.described.fullname, o.described.anchor, o.described.indexText,
    o.described.signature⟩

namespace Told

/-- **What is told of a declaration** in a context. -/
def ofDeclaration (ctx : Context) (kind : ObjectKind) (d : Declaration) : Told :=
  let known := d.inScope? ctx.parent
  ⟨ctx.docname, kind, known.name.render, known.anchor, kind.indexText known.name.render,
    .ofDeclaration ctx.parent d⟩

/-- **A telling is of the entry at a place** if it is what is told of the declaration there, in some scope
of the document. -/
def IsOf (p : Place) (t : Told) : Prop :=
  ∃ kind d parent, ObjectKind.ofLabel? p.entry.kind = some kind ∧
    Declaration.parse kind p.entry.signature = .ok d ∧ t = ofDeclaration ⟨p.docname, parent⟩ kind d

/-- What is told of a declaration is what the report of it tells, on every index. -/
theorem told_examine (ix : Index) (ctx : Context) (kind : ObjectKind) (d : Declaration) :
    ObjectReport.told ⟨ctx.docname, ix.examine ctx kind d⟩ = ofDeclaration ctx kind d := rfl

end Told

/-! ### What a run tells -/

/-- What an action tells: that of an object which is described. -/
def Index.Action.told? : Action → Option Told
  | .describe ctx kind text => (Declaration.parse kind text).toOption.map (Told.ofDeclaration ctx kind)
  | .clear _ => none

/-- **What a run tells of objects** is decided by its actions, whatever the index holds. -/
theorem Index.map_told_log (ix : Index) (actions : List Action) :
    ((ix.log actions).filterMap Event.report?).map ObjectReport.told =
      actions.filterMap Action.told? := by
  induction actions generalizing ix with
  | nil => rfl
  | cons a actions ih =>
    have hevent : (ix.event a).report?.map ObjectReport.told = a.told? := by
      -- a text is read or rejected whatever the index holds
      cases a with
      | clear docname => rfl
      | describe ctx kind text =>
        cases hparse : Declaration.parse kind text with
        | error e =>
          rw [event_of_error hparse, Action.told?, hparse]
          rfl
        | ok d =>
          rw [event_of_ok hparse, Action.told?, hparse]
          exact congrArg some (Told.told_examine ix ctx kind d)
    rw [log_cons, List.filterMap_cons, List.filterMap_cons, ← hevent, ← ih (ix.step a)]
    cases (ix.event a).report? <;> rfl

namespace ObjectSpec

variable {ctx : Context} {o : ObjectSpec} {os : List ObjectSpec}

/-! ### What objects have told -/

/-- What an object has told of itself and of what stands inside it. -/
def told (ctx : Context) (o : ObjectSpec) : List Told := (actions ctx o).2.filterMap Action.told?

/-- **What objects have told**, one after the other. -/
def toldAll (ctx : Context) (os : List ObjectSpec) : List Told :=
  (actionsAll ctx os).filterMap Action.told?

theorem toldAll_nil : toldAll ctx [] = [] := by
  rw [toldAll, actionsAll]
  rfl

theorem toldAll_cons : toldAll ctx (o :: os) = told ctx o ++ toldAll (actions ctx o).1 os := by
  rw [toldAll, actionsAll, List.filterMap_append]
  rfl

/-- The context behind an object is in the same document. -/
theorem docname_actions (ctx : Context) (o : ObjectSpec) : (actions ctx o).1.docname = ctx.docname :=
  (describes_of_mem_actions ctx o).1

/-- **The text of an object is read** if it is a declaration of a kind. -/
theorem isRead_iff : o.isRead = true ↔ ∃ kind d, ObjectKind.ofLabel? o.kind = some kind ∧
    Declaration.parse kind o.signature = .ok d := by
  obtain ⟨word, signature, children⟩ := o
  rw [isRead]
  show _ ↔ ∃ kind d, ObjectKind.ofLabel? word = some kind ∧ Declaration.parse kind signature = .ok d
  cases hkind : ObjectKind.ofLabel? word with
  | none => simp
  | some kind =>
    cases hparse : Declaration.parse kind signature <;> simp [hparse, Except.isOk, Except.toBool]

/-- An object whose text is read comes first, and what stands inside it is described in its scope. -/
theorem told_of_read {kind : ObjectKind} {d : Declaration}
    (hkind : ObjectKind.ofLabel? o.kind = some kind) (hparse : Declaration.parse kind o.signature = .ok d) :
    told ctx o = .ofDeclaration ctx kind d ::
      toldAll (ctx.nestedIn (d.inScope? ctx.parent).name) o.children := by
  obtain ⟨word, signature, children⟩ := o
  have hkind : ObjectKind.ofLabel? word = some kind := hkind
  have hparse : Declaration.parse kind signature = .ok d := hparse
  -- the object itself is told first
  have htold : (Action.describe ctx kind signature).told? = some (.ofDeclaration ctx kind d) := by
    rw [Action.told?, hparse]
    rfl
  rw [told, actions, if_neg (ne_namespaceWord hkind)]
  simp only [hkind, hparse]
  rw [List.filterMap_cons_some htold]
  rfl

/-- Any other entry has nothing told, and nothing inside it has. -/
theorem told_of_not_read (h : o.isRead = false) : told ctx o = [] := by
  obtain ⟨word, signature, children⟩ := o
  rw [isRead] at h
  rw [told, actions]
  split
  -- a directive describes nothing, whether it is read or not
  next => cases ctx.withNamespace signature <;> rfl
  next =>
    cases hkind : ObjectKind.ofLabel? word with
    | none => rfl
    | some kind =>
      cases hparse : Declaration.parse kind signature with
      | ok d => simp [hkind, hparse, Except.isOk, Except.toBool] at h
      | error e => simp [hparse, Action.told?, Except.toOption]

/-- **Objects are told of one by one**: one telling for each reported place, in the same order. -/
theorem forall₂_toldAll {docname : String} {around : List ObjectSpec} (path : List Nat) (n : Nat)
    (ctx : Context) (os : List ObjectSpec) (haround : around.all isRead = true)
    (hctx : ctx.docname = docname) :
    List.Forall₂ Told.IsOf (reportedAll docname path around n os) (toldAll ctx os) := by
  match os with
  | [] =>
    rw [reportedAll_nil, toldAll_nil]
    exact .nil
  | .mk word signature children :: os =>
    rw [toldAll_cons]
    have hbehind : List.Forall₂ Told.IsOf (reportedAll docname path around (n + 1) os)
        (toldAll (actions ctx (.mk word signature children)).1 os) :=
      forall₂_toldAll path (n + 1) _ os haround ((docname_actions ctx _).trans hctx)
    cases hread : isRead (.mk word signature children) with
    | false =>
      rw [reportedAll_cons_of_not_read haround hread, told_of_not_read hread, List.nil_append]
      exact hbehind
    | true =>
      obtain ⟨kind, d, hkind, hparse⟩ := isRead_iff.mp hread
      rw [reportedAll_cons_of_read haround hread, told_of_read hkind hparse, List.cons_append]
      refine .cons ⟨kind, d, ctx.parent, hkind, hparse, hctx ▸ rfl⟩ (List.rel_append ?_ hbehind)
      -- the objects inside stand in the same document, and every object around them is read
      refine forall₂_toldAll (path ++ [n]) 0 _ children ?_ hctx
      rw [all_isRead_concat, haround, hread, Bool.true_and]

end ObjectSpec

/-! ### What a manifest has told -/

namespace Manifest

/-- **What a manifest has told of its objects**, document by document. -/
def told (m : Manifest) : List Told :=
  m.documents.flatMap fun d => ObjectSpec.toldAll ⟨d.name, none⟩ d.objects

/-- **A build tells the same on every index.** -/
theorem map_told_build (m : Manifest) (ix : Index) :
    (m.build ix).1.objects.map ObjectReport.told = m.told := by
  rw [build_objects, Index.map_told_log, actions, List.filterMap_flatMap]
  rfl

/-- One telling for each reported place of a manifest. -/
theorem forall₂_told (m : Manifest) : List.Forall₂ Told.IsOf m.reported m.told := by
  rw [reported_eq, told]
  induction m.documents with
  | nil => exact .nil
  | cons d ds ih =>
    -- each document begins at its top, with nothing around it
    have hdocument : List.Forall₂ Told.IsOf (ObjectSpec.reportedAll d.name [] [] 0 d.objects)
        (ObjectSpec.toldAll ⟨d.name, none⟩ d.objects) :=
      ObjectSpec.forall₂_toldAll [] 0 ⟨d.name, none⟩ d.objects List.all_nil rfl
    rw [List.flatMap_cons, List.flatMap_cons]
    exact List.rel_append hdocument ih

/-- **The report of a build** tells of the reported places one by one. -/
theorem forall₂_build_objects (m : Manifest) (ix : Index) :
    List.Forall₂ (fun p o => Told.IsOf p o.told) m.reported (m.build ix).1.objects := by
  have htold := m.forall₂_told
  rw [← m.map_told_build ix, List.forall₂_map_right_iff] at htold
  exact htold

end Manifest

end CppIndex
