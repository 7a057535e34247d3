import CppIndex.Declaration.Basic
import CppIndex.Toml.Decode

/-!
# Manifests

A **manifest** lists the documents of a project. Each document describes objects, which may hold further
objects, and contains references. Among the objects stand namespace directives, which describe nothing
and change the scope of what follows them.

In a manifest kinds and roles are still words. `Manifest.check` says what is wrong with the first entry
that is: document by document, the document's name before its objects, its objects from the outside
inwards and in order, its references last.
-/

namespace CppIndex

/-- **An object** to describe, or a namespace directive. -/
inductive ObjectSpec
  /-- The word for the kind, the declaration or scope as text, and the objects inside. -/
  | mk (kind signature : String) (children : List ObjectSpec)

namespace ObjectSpec

/-- The word for the kind. -/
def kind : ObjectSpec → String
  | .mk kind _ _ => kind

/-- The declaration, or the scope of a namespace directive. -/
def signature : ObjectSpec → String
  | .mk _ signature _ => signature

/-- The objects inside. -/
def children : ObjectSpec → List ObjectSpec
  | .mk _ _ children => children

end ObjectSpec

/-- The word that marks a namespace directive. -/
def namespaceWord : String := "namespace"

/-- **A reference** to resolve. -/
structure ReferenceSpec where
  /-- The word for the role. -/
  role : String
  /-- What is referred to. -/
  target : String
  /-- The title to show instead of the target. -/
  title : Option String
  /-- The scope in which the reference is written. -/
  scope : Option String
  deriving DecidableEq, Repr

/-- **A document** of a project. -/
structure DocumentSpec where
  /-- The name of the document. -/
  name : String
  /-- The objects at the top level of the document. -/
  objects : List ObjectSpec
  /-- The references in the document. -/
  references : List ReferenceSpec

/-- **A manifest**: documents in the order in which they are built. -/
structure Manifest where
  /-- The documents. -/
  documents : List DocumentSpec

/-! ### Reading a manifest -/

namespace ReferenceSpec

/-- A reference in a configuration value. -/
def ofValue? (v : Toml.Value) : Option ReferenceSpec :=
  match v.recordFields ["role", "target", "title", "scope"] with
  | some [role, target, title, scope] =>
    match Toml.requiredField Toml.Value.asString? role,
        Toml.requiredField Toml.Value.asString? target,
        Toml.optionalField Toml.Value.asString? title,
        Toml.optionalField Toml.Value.asString? scope with
    | some role, some target, some title, some scope => some ⟨role, target, title, scope⟩
    | _, _, _, _ => none
  | _ => none

end ReferenceSpec

namespace ObjectSpec

/-- An object in a configuration value, with objects inside it down to a given depth. -/
def ofValueUpTo : Nat → Toml.Value → Option ObjectSpec
  | 0, _ => none
  | depth + 1, v =>
    match v.recordFields ["kind", "signature", "children"] with
    | some [kind, signature, children] =>
      match Toml.requiredField Toml.Value.asString? kind,
          Toml.requiredField Toml.Value.asString? signature,
          Toml.listField (ofValueUpTo depth) children with
      | some kind, some signature, some children => some (.mk kind signature children)
      | _, _, _ => none
    | _ => none

/-- An object in a configuration value. The objects inside an object are nested less deeply than it
is. -/
def ofValue? (v : Toml.Value) : Option ObjectSpec := ofValueUpTo v.depth v

end ObjectSpec

/-- A document in a configuration value. -/
def DocumentSpec.ofValue? (v : Toml.Value) : Option DocumentSpec :=
  match v.recordFields ["name", "object", "reference"] with
  | some [name, objects, references] =>
    match Toml.requiredField Toml.Value.asString? name,
        Toml.listField ObjectSpec.ofValue? objects,
        Toml.listField ReferenceSpec.ofValue? references with
    | some name, some objects, some references => some ⟨name, objects, references⟩
    | _, _, _ => none
  | _ => none

/-- **The manifest** in the fields of a configuration text. -/
def Manifest.ofFields? (fields : Toml.Fields) : Option Manifest :=
  match (Toml.Value.table fields).recordFields ["document"] with
  | some [documents] => (Toml.listField DocumentSpec.ofValue? documents).map Manifest.mk
  | _ => none

/-! ### Checking a manifest -/

/-- **What is wrong** with a manifest. -/
inductive ManifestError
  /-- A document has the name of an earlier one. -/
  | duplicateDocument (name : String)
  /-- A namespace directive has objects inside. -/
  | namespaceChildren (document : String)
  /-- A word stands for no kind. -/
  | unknownKind (document kind : String)
  /-- A word stands for no role. -/
  | unknownRole (document role : String)
  deriving DecidableEq, Repr

/-- The wording of a fault. -/
def ManifestError.message : ManifestError → String
  | .duplicateDocument name => "duplicate document name '" ++ name ++ "'"
  | .namespaceChildren document =>
    "document '" ++ document ++ "': a namespace cannot have children"
  | .unknownKind document kind =>
    "document '" ++ document ++ "': unknown object kind '" ++ kind ++ "'"
  | .unknownRole document role =>
    "document '" ++ document ++ "': unknown reference role '" ++ role ++ "'"

namespace ObjectSpec

/-- What is wrong with an object itself, whatever stands inside it. -/
def ownFault? (document : String) (o : ObjectSpec) : Option ManifestError :=
  if o.kind = namespaceWord then
    if o.children.isEmpty then none else some (.namespaceChildren document)
  else if (ObjectKind.ofLabel? o.kind).isNone then some (.unknownKind document o.kind)
  else none

mutual

/-- The first fault of an object and the objects inside it. -/
def fault? (document : String) : ObjectSpec → Option ManifestError
  | .mk kind signature children =>
    (ownFault? document (.mk kind signature children)).or (faultInAll? document children)

/-- The first fault of a list of objects. -/
def faultInAll? (document : String) : List ObjectSpec → Option ManifestError
  | [] => none
  | o :: os => (fault? document o).or (faultInAll? document os)

end

end ObjectSpec

/-- The fault of a reference: a word that stands for no role. -/
def ReferenceSpec.fault? (document : String) (r : ReferenceSpec) : Option ManifestError :=
  if (Role.ofLabel? r.role).isNone then some (.unknownRole document r.role) else none

/-- The first fault of a document, given the names of the documents before it. -/
def DocumentSpec.fault? (seen : List String) (d : DocumentSpec) : Option ManifestError :=
  if d.name ∈ seen then some (.duplicateDocument d.name)
  else
    (ObjectSpec.faultInAll? d.name d.objects).or
      (d.references.findSome? (ReferenceSpec.fault? d.name))

namespace Manifest

/-- The first fault of a list of documents, given the names of the documents before them. -/
def faultInAll? (seen : List String) : List DocumentSpec → Option ManifestError
  | [] => none
  | d :: ds => (d.fault? seen).or (faultInAll? (d.name :: seen) ds)

/-- **The first fault** of a manifest. -/
def fault? (m : Manifest) : Option ManifestError := faultInAll? [] m.documents

/-- A manifest without faults. -/
def check (m : Manifest) : Except ManifestError Manifest :=
  match m.fault? with
  | some fault => .error fault
  | none => .ok m

end Manifest

/-- Why a manifest cannot be loaded. -/
inductive LoadError
  /-- The text is no configuration text, or its fields are not those of a manifest. -/
  | malformed
  /-- An entry of the manifest is at fault. -/
  | faulty (error : ManifestError)
  deriving DecidableEq, Repr

namespace Manifest

/-- A manifest from the fields of a configuration text, checked. -/
def load (fields : Option Toml.Fields) : Except LoadError Manifest :=
  match fields.bind ofFields? with
  | none => .error .malformed
  | some m =>
    match m.check with
    | .error e => .error (.faulty e)
    | .ok m => .ok m

/-- A manifest from a text, checked, with any reader of configuration texts. -/
def parseWith (read : TextReader) (text : String) : Except LoadError Manifest := load (read text)

/-- **A manifest from a text**, checked. -/
def parse (text : String) : Except LoadError Manifest := parseWith Toml.parse text

end Manifest

end CppIndex
