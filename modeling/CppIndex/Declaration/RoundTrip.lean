import CppIndex.Declaration.Parse
import CppIndex.Declaration.Render

/-!
# Reading back what was written

The canonical text of a declaration is meant to be read as the same declaration. `Declaration.reread`
puts this to the test for one text: it reads the text, writes what was read, reads that again and
compares the two trees.
-/

namespace CppIndex

/-- Why a text does not survive being read, written and read again. -/
inductive RereadError
  /-- The text or its canonical form is rejected. -/
  | rejected (error : ParseError)
  /-- The canonical form is read as another tree. -/
  | changed (text rendering : String)

/-- The wording of a failed comparison. -/
def RereadError.message : RereadError → String
  | .rejected error => "Parse error: " ++ error.message
  | .changed text rendering =>
    "Round trip of " ++ Text.quoted text ++ " via " ++ Text.quoted rendering ++
      " changed the tree"

/-- **Read, write, read again**: the declaration that comes back, if it is the one first read. -/
def Declaration.reread (kind : ObjectKind) (text : String) : Except RereadError Declaration :=
  match Declaration.parse kind text with
  | .error e => .error (.rejected e)
  | .ok first =>
    match Declaration.parse kind first.render with
    | .error e => .error (.rejected e)
    | .ok second =>
      if first = second then .ok second else .error (.changed text first.render)

end CppIndex
