import CppIndex.Json.Basic
import CppIndex.Project.Build

/-!
# Reports as JSON

The fields under which signatures, described objects and references appear in a JSON report. What is
absent is left out; an empty list of trailing words is left out as well.
-/

namespace CppIndex

/-- A mentioned type. -/
def TypeMention.toJson (t : TypeMention) : Json :=
  .obj (("text", .str t.text) :: Json.optional "parent" .str t.parent)

/-- A displayed leaf: its kind and its value. -/
def ShownName.toJson : ShownName → Json
  | .plain text => .obj [("kind", .str "plain"), ("value", .str text)]
  | .cast target => .obj [("kind", .str "cast-operator"), ("value", target.toJson)]

/-- A displayed parameter. -/
def ShownParam.toJson (p : ShownParam) : Json :=
  .obj (Json.optional "ty" TypeMention.toJson p.type ++ Json.optional "name" .str p.name ++
    Json.optional "default" .str p.default)

/-- A sequence of texts. -/
def Json.texts (texts : List String) : Json := .arr (texts.map .str)

/-- **A signature.** -/
def Signature.toJson (s : Signature) : Json :=
  .obj ([("annotations", Json.texts s.annotations)] ++
    Json.optional "leading_type" TypeMention.toJson s.leadingType ++
    Json.optional "owner" .str s.owner ++
    [("name", s.name.toJson)] ++
    Json.optional "params" (fun params => .arr (params.map ShownParam.toJson)) s.params ++
    Json.optional "value" .str s.value ++
    (if s.suffixes.isEmpty then [] else [("suffixes", Json.texts s.suffixes)]))

/-- **A described object.** -/
def ObjectReport.toJson (o : ObjectReport) : Json :=
  .obj [("docname", .str o.docname), ("kind", .str o.described.kind.label),
    ("fullname", .str o.described.fullname), ("anchor", .str o.described.anchor),
    ("registered", .bool o.described.registered), ("index_text", .str o.described.indexText),
    ("signature", o.described.signature.toJson)]

/-- How a reference turned out. -/
def Resolution.toJson : Resolution → Json
  | .resolved found =>
    .obj [("status", .str "resolved"), ("fullname", .str found.fullname),
      ("kind", .str found.entry.kind.label), ("docname", .str found.entry.docname),
      ("anchor", .str found.entry.anchor)]
  | .unresolved => .obj [("status", .str "unresolved")]
  | .failed error => .obj [("status", .str "error"), ("message", .str error.message)]

/-- **A reference.** -/
def ReferenceReport.toJson (r : ReferenceReport) : Json :=
  .obj [("docname", .str r.docname), ("role", .str r.role.label), ("title", .str r.link.title),
    ("target", .str r.link.target), ("resolution", r.resolution.toJson)]

/-- **The report of a build.** -/
def Report.toJson (r : Report) : Json :=
  .obj [("objects", .arr (r.objects.map ObjectReport.toJson)),
    ("references", .arr (r.references.map ReferenceReport.toJson)),
    ("warnings", Json.texts (r.warnings.map Warning.message))]

end CppIndex
