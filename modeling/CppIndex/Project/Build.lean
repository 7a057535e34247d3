import CppIndex.Index.Resolve
import CppIndex.Link
import CppIndex.Project.Manifest

/-!
# Building a project

A project is built in two passes over its documents. The first clears each document and describes its
objects; the second resolves all references, so a reference may point at an object of a later document.

While objects are described, a **context** moves along: a namespace directive changes it for the objects
behind it on the same level, and the objects inside an object are described in the scope of its name.
Neither change is seen outside. An object or directive whose text is rejected leaves a warning and is
skipped, together with the objects inside it.

A build answers with a **report**: what was described, how each reference turned out, and the warnings in
the order in which they arose.
-/

namespace CppIndex

/-! ### Reports -/

/-- Why a reference could not be looked up. -/
inductive ReferenceError
  /-- Its scope is rejected. -/
  | scope (error : ParseError)
  /-- Its target is rejected. -/
  | target (error : ResolveError)
  deriving DecidableEq, Repr

/-- The wording of a reference that could not be looked up. -/
def ReferenceError.message : ReferenceError → String
  | .scope error => error.message
  | .target error => error.message

/-- **How a reference turned out.** -/
inductive Resolution
  /-- It points at a registered object. -/
  | resolved (found : Record)
  /-- It points at no registered object. -/
  | unresolved
  /-- It could not be looked up. -/
  | failed (error : ReferenceError)
  deriving DecidableEq, Repr

/-- Whether a reference points at a registered object. -/
def Resolution.isResolved : Resolution → Bool
  | .resolved _ => true
  | .unresolved | .failed _ => false

/-- **A described object** in a report. -/
structure ObjectReport where
  /-- The document. -/
  docname : String
  /-- What came of describing the object. -/
  described : Described
  deriving DecidableEq, Repr

/-- **A reference** in a report. -/
structure ReferenceReport where
  /-- The document. -/
  docname : String
  /-- The role. -/
  role : Role
  /-- The link that the reference stands for. -/
  link : Link
  /-- How it turned out. -/
  resolution : Resolution
  deriving DecidableEq, Repr

/-- What went wrong during a build. -/
inductive Problem
  /-- A declaration or the scope of a namespace directive is rejected. -/
  | rejected (error : ParseError)
  /-- A reference could not be looked up. -/
  | reference (error : ReferenceError)
  /-- A word stands for no kind. -/
  | unknownKind (kind : String)
  /-- A word stands for no role. -/
  | unknownRole (role : String)
  deriving DecidableEq, Repr

/-- The wording of a problem. -/
def Problem.message : Problem → String
  | .rejected error => error.message
  | .reference error => error.message
  | .unknownKind kind => "unknown object kind '" ++ kind ++ "'"
  | .unknownRole role => "unknown reference role '" ++ role ++ "'"

/-- **A warning**: a problem and the document in which it arose. -/
structure Warning where
  /-- The document. -/
  docname : String
  /-- What went wrong. -/
  problem : Problem
  deriving DecidableEq, Repr

/-- The wording of a warning. -/
def Warning.message (w : Warning) : String := w.docname ++ ": " ++ w.problem.message

/-- **The report of a build.** -/
structure Report where
  /-- The described objects, in order. -/
  objects : List ObjectReport
  /-- The references, in order. -/
  references : List ReferenceReport
  /-- The warnings, in order. -/
  warnings : List Warning
  deriving DecidableEq, Repr

namespace Report

/-- The references that point at a registered object. -/
def resolved (r : Report) : List ReferenceReport :=
  r.references.filter (·.resolution.isResolved)

/-- The references that do not. -/
def unresolved (r : Report) : List ReferenceReport :=
  r.references.filter (!·.resolution.isResolved)

end Report

/-! ### The first pass -/

/-- **What comes of describing a list of objects**: the index afterwards, the objects described and
the warnings. -/
structure Survey where
  /-- The index afterwards. -/
  index : Index
  /-- The described objects, in order. -/
  objects : List ObjectReport
  /-- The warnings, in order. -/
  warnings : List Warning

namespace Survey

/-- An index of which nothing was asked. -/
def start (ix : Index) : Survey := ⟨ix, [], []⟩

/-- A survey behind another; the second begins with the index that the first leaves. -/
def andThen (first : Survey) (next : Index → Survey) : Survey :=
  let second := next first.index
  ⟨second.index, first.objects ++ second.objects, first.warnings ++ second.warnings⟩

/-- A survey that only warns. -/
def warn (ix : Index) (docname : String) (problem : Problem) : Survey :=
  ⟨ix, [], [⟨docname, problem⟩]⟩

end Survey

namespace ObjectSpec

mutual

/-- Describe an object and the objects inside it. Also gives the context for what follows, which only
a namespace directive changes. -/
def survey (ix : Index) (ctx : Context) : ObjectSpec → Context × Survey
  | .mk kind signature children =>
    if kind = namespaceWord then
      -- a directive describes nothing; it only changes the context of what follows
      match ctx.withNamespace signature with
      | .ok next => (next, .start ix)
      | .error e => (ctx, .warn ix ctx.docname (.rejected e))
    else
      match ObjectKind.ofLabel? kind with
      | none => (ctx, .warn ix ctx.docname (.unknownKind kind))
      | some k =>
        match ix.describe ctx k signature with
        | .error e => (ctx, .warn ix ctx.docname (.rejected e))
        | .ok (described, ix) =>
          -- the objects inside have a context of their own, which ends with them
          let own : Survey := ⟨ix, [⟨ctx.docname, described⟩], []⟩
          (ctx, own.andThen fun ix => surveyAll ix (described.innerContext ctx) children)

/-- Describe objects one after the other. -/
def surveyAll (ix : Index) (ctx : Context) : List ObjectSpec → Survey
  | [] => .start ix
  | o :: os =>
    let (next, first) := survey ix ctx o
    first.andThen fun ix => surveyAll ix next os

end

end ObjectSpec

namespace DocumentSpec

/-- Clear a document and describe its objects. -/
def survey (d : DocumentSpec) (ix : Index) : Survey :=
  ObjectSpec.surveyAll (ix.clear d.name) ⟨d.name, none⟩ d.objects

/-- Describe the objects of documents one after the other. -/
def surveyAll (ix : Index) : List DocumentSpec → Survey
  | [] => .start ix
  | d :: ds => (d.survey ix).andThen fun ix => surveyAll ix ds

end DocumentSpec

/-! ### The second pass -/

namespace ReferenceSpec

/-- The link that a reference stands for. -/
def link (r : ReferenceSpec) (role : Role) (config : Config) : Link :=
  let style := LinkStyle.ofConfig role config
  match r.title with
  | some title => style.link title r.target true
  | none => style.link r.target r.target false

/-- How a reference turns out; its scope is read before its target. -/
def resolution (ix : Index) (role : Role) (link : Link) (scope : Option String) : Resolution :=
  match Expr.parseScope? scope with
  | .error e => .failed (.scope e)
  | .ok parent =>
    match ix.resolve role link.target parent with
    | .error e => .failed (.target e)
    | .ok none => .unresolved
    | .ok (some found) => .resolved found

/-- A reference of a document in a role, resolved. -/
def report (ix : Index) (docname : String) (role : Role) (r : ReferenceSpec) : ReferenceReport :=
  let link := r.link role ix.config
  ⟨docname, role, link, resolution ix role link r.scope⟩

end ReferenceSpec

/-- The warning about a reference that could not be looked up. -/
def ReferenceReport.warning? (r : ReferenceReport) : Option Warning :=
  match r.resolution with
  | .failed e => some ⟨r.docname, .reference e⟩
  | .resolved _ | .unresolved => none

/-- What comes of a reference: its report, or a warning that its role is unknown. -/
def ReferenceSpec.outcome (ix : Index) (docname : String) (r : ReferenceSpec) :
    List ReferenceReport × List Warning :=
  match Role.ofLabel? r.role with
  | none => ([], [⟨docname, .unknownRole r.role⟩])
  | some role =>
    let report := r.report ix docname role
    ([report], report.warning?.toList)

/-! ### The build -/

namespace Manifest

/-- The references of a manifest with their documents, in order. -/
def references (m : Manifest) : List (String × ReferenceSpec) :=
  m.documents.flatMap fun d => d.references.map fun r => (d.name, r)

/-- **Build a project** on an index: describe all objects, then resolve all references. -/
def build (m : Manifest) (ix : Index) : Report × Index :=
  let survey := DocumentSpec.surveyAll ix m.documents
  -- references are resolved only now, so they see the objects of every document
  let outcomes := m.references.map fun (docname, r) => r.outcome survey.index docname
  (⟨survey.objects, outcomes.flatMap (·.1), survey.warnings ++ outcomes.flatMap (·.2)⟩,
    survey.index)

end Manifest

end CppIndex
