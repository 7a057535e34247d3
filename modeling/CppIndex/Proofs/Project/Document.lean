import CppIndex.Proofs.Index.Describing
import CppIndex.Proofs.Project.Run

/-!
# What a document contributes

A document is cleared before its objects are described, so what is reported of it does not depend on the
index on which it is built (`DocumentSpec.objects_survey`, `DocumentSpec.warnings_survey`). It contributes
**reports** and **warnings** of its own to the report of a project, and to the registry the **entry** it
gave a name last (`DocumentSpec.latest?`).

In a build the documents come one after the other. If they have different names, none of them takes back
what another one registered, so a name has the entry of the last document that registered it; without any
it keeps its entry, unless that was one of a document that is built again
(`DocumentSpec.get?_surveyAll`). References come last; what comes of them depends on the settings and the
registered objects alone (`ReferenceSpec.outcome_eq`). The whole report is put together from these parts
(`Manifest.build_report`).
-/

namespace CppIndex

open Index (Action Event)

/-! ### Independence of the index -/

namespace ObjectSpec

/-- Objects are surveyed one after the other. -/
theorem surveyAll_cons (ix : Index) (ctx : Context) (o : ObjectSpec) (os : List ObjectSpec) :
    surveyAll ix ctx (o :: os) =
      (survey ix ctx o).2.andThen fun next => surveyAll next (survey ix ctx o).1 os := by
  rw [surveyAll]

mutual

/-- The warnings about an object do not depend on the index. -/
theorem warnings_survey_eq (ix ix' : Index) (ctx : Context) (o : ObjectSpec) :
    (survey ix ctx o).2.warnings = (survey ix' ctx o).2.warnings := by
  match o with
  | .mk kind signature children =>
    rw [survey, survey]
    split
    next => cases ctx.withNamespace signature <;> rfl
    next =>
      cases ObjectKind.ofLabel? kind with
      | none => rfl
      | some k =>
        cases hparse : Declaration.parse k signature with
        | error e => simp only [Index.describe_of_error hparse]; rfl
        | ok d =>
          simp only [Index.describe_of_ok hparse]
          -- the index inside differs, but no warning depends on it
          exact congrArg ([] ++ ·) (warnings_surveyAll_eq _ _ _ children)

/-- **The warnings about objects** do not depend on the index. -/
theorem warnings_surveyAll_eq (ix ix' : Index) (ctx : Context) (os : List ObjectSpec) :
    (surveyAll ix ctx os).warnings = (surveyAll ix' ctx os).warnings := by
  match os with
  | [] => rw [surveyAll, surveyAll]; rfl
  | o :: os =>
    have hfirst := warnings_survey_eq ix ix' ctx o
    -- the context moves along without looking at the index
    have hnext : (survey ix ctx o).1 = (survey ix' ctx o).1 :=
      (survey_runs ix ctx o).1.trans (survey_runs ix' ctx o).1.symm
    rw [surveyAll_cons, surveyAll_cons, ← hnext]
    exact congrArg₂ (· ++ ·) hfirst (warnings_surveyAll_eq _ _ _ os)

end

end ObjectSpec

/-- The row under which a reported object was registered, if it was. -/
def ObjectReport.record? (o : ObjectReport) : Option Record :=
  if o.described.registered then some (o.described.row o.docname) else none

/-- An event registers what its report says. -/
theorem Index.Event.record?_eq (e : Event) : e.record? = e.report?.bind ObjectReport.record? := by
  cases e <;> rfl

namespace DocumentSpec

/-- **The reports of a document**: what it reports on every index. -/
def reports (d : DocumentSpec) : List ObjectReport := (d.survey (.empty {})).objects

/-- **The warnings of a document**: what it warns of on every index, references apart. -/
def warnings (d : DocumentSpec) : List Warning := (d.survey (.empty {})).warnings

/-- **The entry that a document gives a name**: the last one it registers. -/
def latest? (d : DocumentSpec) (name : String) : Option Entry :=
  Record.find? name (d.reports.filterMap ObjectReport.record?).reverse

variable {ix : Index} {d : DocumentSpec} {ds : List DocumentSpec} {name : String}

/-- The actions of a document behind its clearing describe in it. -/
theorem describes_of_mem_actionsAll (d : DocumentSpec) :
    ∀ a ∈ ObjectSpec.actionsAll ⟨d.name, none⟩ d.objects, ∃ parent kind text,
      a = .describe ⟨d.name, parent⟩ kind text :=
  ObjectSpec.describes_of_mem_actionsAll ⟨d.name, none⟩ d.objects

/-- The objects of a document are those in the log of the run behind its clearing. -/
theorem objects_survey_eq (d : DocumentSpec) (ix : Index) : (d.survey ix).objects =
    ((ix.clear d.name).log (ObjectSpec.actionsAll ⟨d.name, none⟩ d.objects)).filterMap
      Event.report? :=
  (ObjectSpec.surveyAll_runs (ix.clear d.name) ⟨d.name, none⟩ d.objects).objects

/-- **A document reports the same on every index.** -/
theorem objects_survey (d : DocumentSpec) (ix : Index) : (d.survey ix).objects = d.reports := by
  have hclaims := Index.sameClaims_clear d.name ix (.empty {})
  rw [reports, objects_survey_eq, objects_survey_eq, hclaims.log_eq d.describes_of_mem_actionsAll]

/-- **A document warns of the same on every index.** -/
theorem warnings_survey (d : DocumentSpec) (ix : Index) : (d.survey ix).warnings = d.warnings :=
  ObjectSpec.warnings_surveyAll_eq _ _ _ _

/-- The reports of documents are those of each of them. -/
theorem objects_surveyAll (ix : Index) (ds : List DocumentSpec) :
    (surveyAll ix ds).objects = ds.flatMap reports := by
  induction ds generalizing ix with
  | nil => rfl
  | cons d ds ih =>
    rw [surveyAll, List.flatMap_cons, ← d.objects_survey ix, ← ih (d.survey ix).index]
    rfl

/-- The warnings of documents are those of each of them. -/
theorem warnings_surveyAll (ix : Index) (ds : List DocumentSpec) :
    (surveyAll ix ds).warnings = ds.flatMap warnings := by
  induction ds generalizing ix with
  | nil => rfl
  | cons d ds ih =>
    rw [surveyAll, List.flatMap_cons, ← d.warnings_survey ix, ← ih (d.survey ix).index]
    rfl

/-! ### Entries -/

/-- What is described in a document is reported there. -/
theorem docname_of_mem_log {actions : List Action} {o : ObjectReport}
    (ha : ∀ a ∈ actions, ∃ parent kind text, a = .describe ⟨d.name, parent⟩ kind text)
    (ho : o ∈ (ix.log actions).filterMap Event.report?) : o.docname = d.name := by
  induction actions generalizing ix with
  | nil => cases ho
  | cons a actions ih =>
    obtain ⟨parent, kind, text, rfl⟩ := ha a (List.mem_cons_self ..)
    have hrest := @ih (ix.step (.describe ⟨d.name, parent⟩ kind text)) fun a hm =>
      ha a (List.mem_cons_of_mem _ hm)
    rw [Index.log_cons] at ho
    -- A declaration that cannot be parsed leaves no report.
    cases hparse : Declaration.parse kind text with
    | error e =>
      rw [Index.event_of_error hparse, List.filterMap_cons] at ho
      exact hrest ho
    | ok decl =>
      rw [Index.event_of_ok hparse, List.filterMap_cons] at ho
      rcases List.mem_cons.mp ho with rfl | ho
      · rfl
      · exact hrest ho

/-- A reported object stands in the document that reports it. -/
theorem docname_of_mem_reports {o : ObjectReport} (h : o ∈ d.reports) : o.docname = d.name := by
  rw [reports, objects_survey_eq] at h
  exact docname_of_mem_log d.describes_of_mem_actionsAll h

/-- **An entry of a document** is that of an object it reports. -/
theorem exists_report_of_latest? {entry : Entry} (h : d.latest? name = some entry) :
    ∃ o ∈ d.reports, o.described.fullname = name ∧ entry.docname = d.name := by
  have hmem := List.mem_reverse.mp (Record.mem_of_find? h)
  -- the latest record is one of a report, which was registered
  obtain ⟨o, ho, hrecord⟩ := List.mem_filterMap.mp hmem
  rw [ObjectReport.record?] at hrecord
  split at hrecord
  next =>
    have hrow := Option.some.inj hrecord
    refine ⟨o, ho, congrArg Record.fullname hrow, ?_⟩
    rw [← docname_of_mem_reports ho]
    exact congrArg (·.entry.docname) hrow.symm
  next => cases hrecord

/-- **What a name is looked up as behind a document**: its last entry in the document, else what it was
looked up as before, unless that was an entry of the document. -/
theorem get?_survey (h : Record.Sorted ix.objects) (d : DocumentSpec) (name : String) :
    (d.survey ix).index.get? name =
      (d.latest? name).or ((ix.get? name).filter (·.docname ≠ d.name)) := by
  have hclear : (ix.clear d.name).get? name = (ix.get? name).filter (·.docname ≠ d.name) :=
    Registry.get?_clear h d.name name
  have hindex : (d.survey ix).index =
      (ix.clear d.name).run (ObjectSpec.actionsAll ⟨d.name, none⟩ d.objects) :=
    (ObjectSpec.surveyAll_runs (ix.clear d.name) ⟨d.name, none⟩ d.objects).index
  -- the records do not depend on the index: the reports hold them all
  have hrecords : ((ix.clear d.name).log (ObjectSpec.actionsAll ⟨d.name, none⟩ d.objects)).filterMap
      Event.record? = d.reports.filterMap ObjectReport.record? := by
    rw [← d.objects_survey ix, objects_survey_eq, List.filterMap_filterMap]
    exact congrArg₂ List.filterMap (funext Event.record?_eq) rfl
  rw [hindex, Index.get?_run_of_describes, hclear, hrecords, latest?]
  -- all that is left to know is that the actions describe, and in this document
  intro a ha
  obtain ⟨parent, kind, text, rfl⟩ := d.describes_of_mem_actionsAll a ha
  exact ⟨_, kind, text, rfl⟩

/-- A survey keeps the rows sorted. -/
theorem sorted_survey (h : Record.Sorted ix.objects) (d : DocumentSpec) :
    Record.Sorted (d.survey ix).index.objects := by
  rw [(d.survey_runs ix).index]
  exact Index.sorted_objects_run h _

/-- **What a name is looked up as behind documents of different names**: the last document that registers
the name decides, and without one the name keeps an entry of any other document. -/
theorem get?_surveyAll (h : Record.Sorted ix.objects) (hnames : (ds.map (·.name)).Nodup)
    (name : String) : (surveyAll ix ds).index.get? name =
      (ds.reverse.findSome? (·.latest? name)).or
        ((ix.get? name).filter (·.docname ∉ ds.map (·.name))) := by
  induction ds generalizing ix with
  | nil =>
    have hall : (ix.get? name).filter (fun _ => true) = ix.get? name := by
      cases ix.get? name <;> rfl
    simpa [surveyAll, Survey.start] using hall.symm
  | cons d ds ih =>
    obtain ⟨hd, hds⟩ := List.nodup_cons.mp hnames
    -- no later document takes back what this one registered
    have hkept : ∀ old : Option Entry,
        ((d.latest? name).or old).filter (·.docname ∉ ds.map (·.name)) =
          (d.latest? name).or (old.filter (·.docname ∉ ds.map (·.name))) := by
      intro old
      cases hentry : d.latest? name with
      | none => rfl
      | some entry =>
        obtain ⟨-, -, -, hdoc⟩ := exists_report_of_latest? hentry
        exact Option.filter_some_pos (by simpa [hdoc] using hd)
    have hindex : (surveyAll ix (d :: ds)).index = (surveyAll (d.survey ix).index ds).index := rfl
    rw [hindex, ih (sorted_survey h d) hds, get?_survey h, hkept,
      Option.filter_filter, List.reverse_cons, List.findSome?_append, Option.or_assoc,
      List.findSome?_singleton]
    have hfilter : ∀ entry : Entry,
        (decide (entry.docname ≠ d.name) && decide (entry.docname ∉ ds.map (·.name))) =
          decide (entry.docname ∉ (d :: ds).map (·.name)) := fun entry => by
      simp [not_or]
    simp only [hfilter]

end DocumentSpec

/-! ### The whole report -/

/-- **What comes of a reference** depends on the settings and the registered objects alone. -/
theorem ReferenceSpec.outcome_eq {ix ix' : Index} (hconfig : ix.config = ix'.config)
    (hobjects : ix.objects = ix'.objects) (docname : String) (r : ReferenceSpec) :
    r.outcome ix docname = r.outcome ix' docname := by
  have hlookUp : ∀ role name, ix.lookUp role name = ix'.lookUp role name := by
    intro role name
    have hget : ix.get? name.render = ix'.get? name.render :=
      congrArg (Record.find? name.render) hobjects
    rw [Index.lookUp, Index.lookUp, hget]
  -- All that resolving asks an index is to look names up.
  have hresolve : ∀ role target parent,
      ix.resolve role target parent = ix'.resolve role target parent := by
    intro role target parent
    rw [Index.resolve, Index.resolve, funext (hlookUp role)]
  have hresolution : ∀ role link scope,
      resolution ix role link scope = resolution ix' role link scope := by
    intro role link scope
    simp only [resolution, hresolve]
  simp only [outcome, report, hconfig, hresolution]

namespace DocumentSpec

/-- **The answers to the references of a document**, in order. -/
def answers (ix : Index) (d : DocumentSpec) : List ReferenceReport :=
  d.references.flatMap fun r => (r.outcome ix d.name).1

/-- **The warnings about the references of a document**, in order. -/
def doubts (ix : Index) (d : DocumentSpec) : List Warning :=
  d.references.flatMap fun r => (r.outcome ix d.name).2

/-- The answers to references depend on the settings and the registered objects alone. -/
theorem answers_eq {ix ix' : Index} (hconfig : ix.config = ix'.config)
    (hobjects : ix.objects = ix'.objects) : answers ix = answers ix' := by
  funext d
  simp only [answers, ReferenceSpec.outcome_eq hconfig hobjects]

/-- The warnings about references depend on the settings and the registered objects alone. -/
theorem doubts_eq {ix ix' : Index} (hconfig : ix.config = ix'.config)
    (hobjects : ix.objects = ix'.objects) : doubts ix = doubts ix' := by
  funext d
  simp only [doubts, ReferenceSpec.outcome_eq hconfig hobjects]

end DocumentSpec

namespace Manifest

/-- **The report of a build** is put together from what each document contributes. Only the answers to
the references and the warnings about them depend on the index, and this is the one behind the build. -/
theorem build_report (m : Manifest) (ix : Index) : (m.build ix).1 =
    ⟨m.documents.flatMap DocumentSpec.reports,
      m.documents.flatMap (DocumentSpec.answers (m.build ix).2),
      m.documents.flatMap DocumentSpec.warnings ++
        m.documents.flatMap (DocumentSpec.doubts (m.build ix).2)⟩ := by
  rw [← DocumentSpec.objects_surveyAll ix, ← DocumentSpec.warnings_surveyAll ix, build]
  simp only [references, List.map_flatMap, List.map_map, List.flatMap_assoc, List.flatMap_map]
  rfl

/-- **What a name is looked up as behind a build**: the last document that registers it decides. -/
theorem get?_build {m : Manifest} {ix : Index} (h : Record.Sorted ix.objects)
    (hnames : (m.documents.map (·.name)).Nodup) (name : String) : (m.build ix).2.get? name =
      (m.documents.reverse.findSome? (·.latest? name)).or
        ((ix.get? name).filter (·.docname ∉ m.documents.map (·.name))) :=
  DocumentSpec.get?_surveyAll h hnames name

/-- A build keeps the rows sorted. -/
theorem sorted_build {m : Manifest} {ix : Index} (h : Record.Sorted ix.objects) :
    Record.Sorted (m.build ix).2.objects := by
  rw [build_index]
  exact Index.sorted_objects_run h _

/-- A build keeps the settings. -/
theorem config_build (m : Manifest) (ix : Index) : (m.build ix).2.config = ix.config := by
  rw [build_index, Index.config_run]

end Manifest

end CppIndex
