import CppIndex.Cursor.Lexeme
import CppIndex.Expr.Scope

/-!
# Declarations

A declaration introduces a name: a class, a function, a member (a variable with a type) or a type
alias. All four share name, access level and the word `static` (`Declaration`); what only one of
them has is in its `Body`. The **kind** of a declaration is the constructor of its body, and each
kind has one **role** in which references point at it.
-/

namespace CppIndex

/-! ### Kinds and roles -/

/-- The kinds of declared object. -/
inductive ObjectKind
  /-- A class or struct. -/
  | classType
  /-- A function, method, constructor, destructor or operator. -/
  | function
  /-- A data member or variable. -/
  | member
  /-- A type alias or the bare name of a type. -/
  | typeName
  deriving DecidableEq, Repr

/-- The roles in which a reference points at an object. -/
inductive Role
  /-- A reference to a class. -/
  | classType
  /-- A reference to a function. -/
  | function
  /-- A reference to a member. -/
  | member
  /-- A reference to a type. -/
  | typeName
  deriving DecidableEq, Repr

namespace Role

/-- All roles. -/
def all : List Role := [.classType, .function, .member, .typeName]

/-- The written name of a role. -/
def label : Role → String
  | .classType => "class"
  | .function => "func"
  | .member => "member"
  | .typeName => "type"

/-- The role with a given name. -/
def ofLabel? (text : String) : Option Role := all.find? (·.label == text)

/-- Every role is found by its name. -/
@[simp] theorem ofLabel?_label (r : Role) : ofLabel? r.label = some r := by
  cases r <;> decide

end Role

namespace ObjectKind

/-- All kinds. -/
def all : List ObjectKind := [.classType, .function, .member, .typeName]

/-- The written name of a kind. -/
def label : ObjectKind → String
  | .classType => "class"
  | .function => "function"
  | .member => "member"
  | .typeName => "type"

/-- The kind with a given name. -/
def ofLabel? (text : String) : Option ObjectKind := all.find? (·.label == text)

/-- Every kind is found by its name. -/
@[simp] theorem ofLabel?_label (k : ObjectKind) : ofLabel? k.label = some k := by
  cases k <;> decide

/-- The role in which references point at a kind. -/
def role : ObjectKind → Role
  | .classType => .classType
  | .function => .function
  | .member => .member
  | .typeName => .typeName

/-- Different kinds have different roles. -/
theorem role_injective : ∀ {k l : ObjectKind}, k.role = l.role → k = l := by
  intro k l h
  cases k <;> cases l <;> simp_all [role]

/-- The entry of an object of this kind in a printed index. -/
def indexText (kind : ObjectKind) (fullname : String) : String :=
  fullname ++ " (C++ " ++ kind.label ++ ")"

end ObjectKind

/-- Whether a reference in a role may point at an object of a kind. -/
def Role.allows (role : Role) (kind : ObjectKind) : Bool := kind.role == role

/-! ### The parts of a declaration -/

/-- **A parameter** of a function. An ellipsis is a parameter without a type, named by its three
points. -/
structure Param where
  /-- The type. -/
  type : Option Expr
  /-- The name. -/
  name : Option Expr
  /-- The default value as it was written. -/
  default : Option String
  deriving DecidableEq, Repr

/-- What only a function has. -/
structure FunctionInfo where
  /-- Whether `explicit` was written. -/
  isExplicit : Bool
  /-- Whether `virtual` was written. -/
  isVirtual : Bool
  /-- The return type; constructors, destructors and conversion operators have none. -/
  returns : Option Expr
  /-- The parameters, in order. -/
  params : List Param
  /-- Whether `const` stands behind the parameter list. -/
  isConst : Bool
  /-- Whether the function is pure virtual. -/
  isPure : Bool
  deriving DecidableEq, Repr

/-- What only one kind of declaration has. -/
inductive Body
  /-- A class. -/
  | classType
  /-- A function. -/
  | function (info : FunctionInfo)
  /-- A member with its type and the text of its initial value. -/
  | member (type : Expr) (value : Option String)
  /-- An alias of a type, or a bare type name. -/
  | typeName (target : Option Expr)
  deriving DecidableEq, Repr

/-- **A declaration.** -/
structure Declaration where
  /-- The declared name, possibly qualified and possibly under wrappers. -/
  name : Expr
  /-- The access level. -/
  visibility : Visibility
  /-- Whether `static` was written. -/
  isStatic : Bool
  /-- What is declared. -/
  body : Body
  deriving DecidableEq, Repr

namespace Declaration

/-- The words that every declaration may begin with: its access level unless it is open to
everyone, and `static`. -/
def leadingWords (d : Declaration) : List String :=
  (if d.visibility = .pub then [] else [d.visibility.keyword]) ++
    (if d.isStatic then ["static"] else [])

/-- The declaration with its name moved into a scope. -/
def inScope (scope : Expr) (d : Declaration) : Declaration :=
  { d with name := scope.qualify d.name }

/-- The declaration as it is known inside an enclosing scope, if there is one. -/
def inScope? (scope : Option Expr) (d : Declaration) : Declaration :=
  match scope with
  | some scope => d.inScope scope
  | none => d

end Declaration

end CppIndex
