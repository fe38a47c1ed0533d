/-
# Property.Error -- why a property operation is refused

Each cause carries what its sentence names.  `Error.message` is the only place
that words them.
-/

namespace DeferredBinding.Property

set_option autoImplicit false

/-- The two kinds of property. -/
inductive Kind where
  | binding
  | configuration
  deriving DecidableEq, Repr

def Kind.label : Kind → String
  | .binding => "binding"
  | .configuration => "configuration"

/-- Why an operation on a property, or a reading of one, is refused. -/
inductive Error where
  | invalidName (text : String)
  | unknown (name : String)
  | kindMismatch (name : String) (existing : Kind)
  | notMultiValued (name : String)
  | notSingleValued (name : String) (count : Nat)
  | tooManyValues (name : String) (count : Nat)
  | undefinedValue (name value : String)
  | valueNotAllowed (name value : String)
  | noValue (name : String)
  deriving DecidableEq, Repr

def Error.message : Error → String
  | .invalidName text => "invalid identifier '" ++ text ++ "'"
  | .unknown name => "unknown property '" ++ name ++ "'"
  | .kindMismatch name existing =>
      "property '" ++ name ++ "' is already declared as a " ++ existing.label ++ " property"
  | .notMultiValued name =>
      "configuration property '" ++ name ++ "' does not allow multiple values"
  | .notSingleValued name count =>
      "configuration property '" ++ name ++ "' has " ++ toString count ++
        " values, expected exactly one"
  | .tooManyValues name count =>
      "configuration property '" ++ name ++ "' is single-valued but " ++ toString count ++
        " values were supplied"
  | .undefinedValue name value =>
      "value '" ++ value ++ "' is not defined for binding property '" ++ name ++ "'"
  | .valueNotAllowed name value =>
      "value '" ++ value ++ "' is not allowed for binding property '" ++ name ++ "'"
  | .noValue name =>
      "binding property '" ++ name ++ "' has no value for this permutation"

end DeferredBinding.Property
