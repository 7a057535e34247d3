import CppIndex.Span
import CppIndex.Text.Quoted

/-!
# What can be wrong with a declaration

A declaration that does not follow the grammar is rejected with a **cause**, the place where reading
stopped and the whole text that was read. Causes are data; their wording is in `Cause.message`, and
`ParseError.message` puts cause, offset and text together.
-/

namespace CppIndex

/-- The two allocation operators, which may be followed by a pair of brackets. -/
inductive Allocation
  /-- `operator new`. -/
  | new
  /-- `operator delete`. -/
  | delete
  deriving DecidableEq, Repr

/-- The keyword of an allocation operator. -/
def Allocation.keyword : Allocation → String
  | .new => "new"
  | .delete => "delete"

/-- **Why a declaration is rejected.** -/
inductive Cause
  /-- No identifier stands where a name has to. -/
  | expectedName
  /-- No component of a type stands where a type has to. -/
  | expectedType
  /-- A template argument is followed neither by a comma nor by the closing angle. -/
  | expectedTemplateDelimiter
  /-- The bracket behind an allocation operator is not closed. -/
  | expectedClosingBracket (allocation : Allocation)
  /-- A function has no parameter list. -/
  | expectedParameterList
  /-- The text ends inside a parameter list. -/
  | missingClosingParen
  /-- A parameter is followed neither by a comma nor by the closing parenthesis. -/
  | expectedComma
  /-- A default value does not end before the text does. -/
  | unterminatedDefault
  /-- Something other than a null constant stands behind the equals sign of a function. -/
  | invalidPureVirtual
  /-- Text is left behind a complete declaration. -/
  | trailingInput (rest : String)
  deriving DecidableEq, Repr

/-- The wording of a cause. -/
def Cause.message : Cause → String
  | .expectedName => "expected name"
  | .expectedType => "expected type"
  | .expectedTemplateDelimiter => "\",\" or \">\" in template expected"
  | .expectedClosingBracket allocation => "expected \"]\" for " ++ allocation.keyword
  | .expectedParameterList => "expected parentheses for function"
  | .missingClosingParen => "missing closing parentheses"
  | .expectedComma => "expected comma between arguments"
  | .unterminatedDefault => "unexpected end in default expression"
  | .invalidPureVirtual =>
    "pure virtual functions must be defined with either 0, NULL or nullptr, " ++
      "other macros are not allowed"
  | .trailingInput rest => "expected end of definition, got " ++ Text.quoted rest

/-- **A rejected declaration**: the cause, where reading stopped, and the text that was read. -/
structure ParseError where
  /-- Why the declaration is rejected. -/
  cause : Cause
  /-- Where reading stopped. -/
  span : Span
  /-- The declaration without the blanks around it. -/
  definition : String
  deriving DecidableEq, Repr

namespace ParseError

/-- The byte offset at which reading stopped. -/
def offset (e : ParseError) : Nat := e.span.offset

/-- The full message: cause and offset on the first line, the declaration on the second. -/
def message (e : ParseError) : String :=
  "invalid definition: " ++ e.cause.message ++ " [error at " ++ toString e.offset ++ "]\n  " ++
    e.definition

end ParseError

end CppIndex
