/-!
# Failures of templates

Why a template cannot be read or rendered.
-/

namespace ResourceOperator.Template

/-- Why a template cannot be read or rendered. -/
inductive Failure where
  | badSyntax
  | undefinedValue
  | invalidOperation
  | unknownFilter
  | unknownTest
  | unknownFunction
  | unknownMethod
  | unknownBlock
  | missingArgument
  | tooManyArguments
  | cannotUnpack
  | templateNotFound
  | badEscape
  | badSerialization
  | nonKey
  | nonPrimitive
  deriving DecidableEq, Repr

/-- The text of a failure. -/
def Failure.message : Failure → String
  | .badSyntax => "syntax error"
  | .undefinedValue => "undefined value"
  | .invalidOperation => "invalid operation"
  | .unknownFilter => "unknown filter"
  | .unknownTest => "unknown test"
  | .unknownFunction => "unknown function"
  | .unknownMethod => "unknown method"
  | .unknownBlock => "unknown block"
  | .missingArgument => "missing argument"
  | .tooManyArguments => "too many arguments"
  | .cannotUnpack => "cannot unpack"
  | .templateNotFound => "template not found"
  | .badEscape => "bad string escape"
  | .badSerialization => "could not serialize to value"
  | .nonKey => "not a key type"
  | .nonPrimitive => "not a primitive"

end ResourceOperator.Template
