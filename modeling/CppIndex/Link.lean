import CppIndex.Config
import CppIndex.Declaration.Basic

/-!
# Links

A link has a **title**, which is shown, and a **target**, which is looked up. Where no title is
written the target serves as both, and two conventions adjust it:

* a link in a style that **fixes parentheses** drops one pair `()` from the end of its target, and
  its title ends in `()` exactly if the style adds them;
* a `~` in front of the target is dropped from it, however many there are, and cuts a title that
  begins with one down to what stands behind its last `::`.

A title that is written is shown as it is, and its target only loses the parentheses.
-/

namespace CppIndex

/-- **How links in a role are written.** -/
structure LinkStyle where
  /-- The role. -/
  role : Role
  /-- Whether parentheses behind targets and titles are normalised. -/
  fixParens : Bool
  /-- Whether a normalised title is given parentheses. -/
  addParens : Bool
  deriving DecidableEq, Repr

/-- A link. -/
structure Link where
  /-- What is shown. -/
  title : String
  /-- What is looked up. -/
  target : String
  deriving DecidableEq, Repr

namespace Text

/-- A text without one pair of parentheses at its end. -/
def dropParens (cs : List Char) : List Char :=
  if ['(', ')'].isSuffixOf cs then cs.take (cs.length - 2) else cs

/-- What stands behind the last `::` of a text, if there is one. -/
def afterLastColons? : List Char → Option (List Char)
  | [] => none
  | c :: cs =>
    match afterLastColons? cs with
    | some rest => some rest
    | none => if [':', ':'].isPrefixOf (c :: cs) then some (cs.drop 1) else none

end Text

namespace LinkStyle

/-- The style of a role: only functions have their parentheses fixed, and none are added. -/
def ofRole (role : Role) : LinkStyle := ⟨role, role == .function, false⟩

/-- The style of a role under some settings. -/
def ofConfig (role : Role) (config : Config) : LinkStyle :=
  { ofRole role with addParens := config.addParens }

variable (style : LinkStyle)

/-- A target with its parentheses fixed. -/
def fixTarget (target : List Char) : List Char :=
  if style.fixParens then Text.dropParens target else target

/-- A title with its parentheses fixed. -/
def fixTitle (title : List Char) : List Char :=
  if style.fixParens then
    Text.dropParens title ++ (if style.addParens then ['(', ')'] else [])
  else title

/-- A title cut down to its last component if a `~` asks for it. -/
def shortTitle : List Char → List Char
  | '~' :: cs => (Text.afterLastColons? cs).getD cs
  | cs => cs

/-- **The link** written with a title and a target. Where the title `isExplicit`, it is shown as it
is. -/
def link (title target : String) (isExplicit : Bool) : Link :=
  if isExplicit then ⟨title, String.ofList (style.fixTarget target.toList)⟩
  else
    ⟨String.ofList (shortTitle (style.fixTitle title.toList)),
      String.ofList ((style.fixTarget target.toList).dropWhile (· == '~'))⟩

end LinkStyle

end CppIndex
