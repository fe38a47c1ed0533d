/-
# Document.Fault -- what is wrong with a document

A document is at fault when it is no text of its format, or when its data is not
what the reader asks for.  `Fault.detail` words a fault without saying where it
stands.
-/

namespace DeferredBinding.Document

set_option autoImplicit false

/-- What is wrong with a document. -/
inductive Fault where
  | malformed
  | invalidType
  | invalidLength
  | invalidValue
  | missingField (name : String)
  | duplicateField (name : String)
  | unknownField (name : String) (expected : List String)
  | unknownVariant (name : String) (expected : List String)
  deriving DecidableEq, Repr

namespace Fault

/-- A name between backticks. -/
def ticked (name : String) : String :=
  "`" ++ name ++ "`"

/-- The names a reader would have taken. -/
def expectation : List String → String
  | [a, b] => "expected " ++ ticked a ++ " or " ++ ticked b
  | [a] => "expected " ++ ticked a
  | names => "expected one of " ++ ", ".intercalate (names.map ticked)

def detail : Fault → String
  | .malformed => "syntax"
  | .invalidType => "invalid type"
  | .invalidLength => "invalid length"
  | .invalidValue => "invalid value"
  | .missingField name => "missing field " ++ ticked name
  | .duplicateField name => "duplicate field " ++ ticked name
  | .unknownField name expected => "unknown field " ++ ticked name ++ ", " ++ expectation expected
  | .unknownVariant name expected =>
      "unknown variant " ++ ticked name ++ ", " ++ expectation expected

end Fault

end DeferredBinding.Document
