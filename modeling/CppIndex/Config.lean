/-!
# Settings

Three settings govern an index: what to do when a name is registered twice, whether a link to a
function shows parentheses, and how loudly unresolved references are reported. The last has no effect
on any answer.
-/

namespace CppIndex

/-- What happens when a name is registered twice. The later registration wins in either case. -/
inductive CollisionPolicy
  /-- Nothing is kept of the earlier registration. -/
  | overwrite
  /-- A replacement by a different entry is recorded as a collision. -/
  | warn
  deriving DecidableEq, Repr

namespace CollisionPolicy

/-- The written name of a policy. -/
def label : CollisionPolicy → String
  | .overwrite => "overwrite"
  | .warn => "warn"

/-- The policy with a given name. -/
def ofLabel? (text : String) : Option CollisionPolicy :=
  [overwrite, warn].find? (·.label == text)

/-- Every policy is found by its name. -/
@[simp] theorem ofLabel?_label (p : CollisionPolicy) : ofLabel? p.label = some p := by
  cases p <;> decide

end CollisionPolicy

/-- **The settings of an index.** -/
structure Config where
  /-- What happens when a name is registered twice. -/
  policy : CollisionPolicy := .overwrite
  /-- Whether the title of a link to a function is given parentheses. -/
  addParens : Bool := true
  /-- Whether unresolved references are worth a warning in a log. -/
  warnUnresolved : Bool := false
  deriving DecidableEq, Repr

end CppIndex
