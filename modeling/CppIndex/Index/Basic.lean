import CppIndex.Declaration.Anchor
import CppIndex.Index.Anchors
import CppIndex.Index.Context
import CppIndex.Index.Registry
import CppIndex.Signature

/-!
# The index

An **index** is built by describing declarations in contexts. Describing reads a declaration, moves its
name into the scope of the context and claims its anchor in the document. If the anchor was still free
the object is registered under its full name, which is the text of the declared name; if not, the
description is complete all the same but nothing is registered.

Clearing a document takes back its registrations and its claims. What was replaced by them does not
come back.
-/

namespace CppIndex

/-- **What comes of describing a declaration.** -/
structure Described where
  /-- The kind that was asked for. -/
  kind : ObjectKind
  /-- The declaration with its name moved into the scope. -/
  declaration : Declaration
  /-- The signature as it was written. -/
  signature : Signature
  /-- Whether the object was registered; if not, its anchor was taken. -/
  registered : Bool
  deriving DecidableEq, Repr

namespace Described

variable (d : Described)

/-- The full name: the text of the declared name. -/
def fullname : String := d.declaration.name.render

/-- The anchor of the declaration. -/
def anchor : String := d.declaration.anchor

/-- The entry of the object in a printed index. -/
def indexText : String := d.kind.indexText d.fullname

/-- The context of what is declared inside the object. -/
def innerContext (ctx : Context) : Context := ctx.nestedIn d.declaration.name

end Described

/-- **An index of declarations.** -/
structure Index where
  /-- The registered objects. -/
  registry : Registry
  /-- The claimed anchors. -/
  anchors : Anchors
  /-- The settings. -/
  config : Config
  deriving DecidableEq, Repr

namespace Index

/-- The index without objects. -/
def empty (config : Config) : Index := ⟨⟨config.policy, [], []⟩, ⟨[]⟩, config⟩

variable (ix : Index)

/-- The registered objects, in increasing order of their full names. -/
def objects : List Record := ix.registry.rows

/-- The entry registered under a full name. -/
def get? (fullname : String) : Option Entry := ix.registry.get? fullname

/-- The number of registered objects. -/
def size : Nat := ix.registry.size

/-- The collisions so far. -/
def collisions : List Collision := ix.registry.collisions

/-- The index after an object was described: its anchor claimed, and the object registered if the
anchor was free. -/
def add (docname : String) (d : Described) : Index :=
  if d.registered then
    { ix with
      registry := ix.registry.insert ⟨d.fullname, ⟨docname, d.kind, d.anchor⟩⟩
      anchors := ix.anchors.claim docname d.anchor }
  else ix

/-- What describing a declaration that was read amounts to, before anything is registered. -/
def examine (ctx : Context) (kind : ObjectKind) (d : Declaration) : Described :=
  -- the signature shows the name as written, everything else the name in its scope
  let known := d.inScope? ctx.parent
  ⟨kind, known, .ofDeclaration ctx.parent d, !ix.anchors.contains ctx.docname known.anchor⟩

/-- **Describe** the declaration that a text stands for. A text that is rejected changes nothing. -/
def describe (ctx : Context) (kind : ObjectKind) (text : String) :
    Except ParseError (Described × Index) :=
  (Declaration.parse kind text).map fun d =>
    let described := ix.examine ctx kind d
    (described, ix.add ctx.docname described)

/-- **Clear a document**: forget its objects and its anchors. -/
def clear (docname : String) : Index :=
  { ix with registry := ix.registry.clear docname, anchors := ix.anchors.clear docname }

end Index

end CppIndex
