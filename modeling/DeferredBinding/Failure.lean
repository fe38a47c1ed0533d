/-
# Failure -- why a resolution ends without an answer

A failure of a condition, of the action a rule takes, or of a rule's claim on its
properties.  It always ends the whole resolution.
-/
import DeferredBinding.Property.Error

namespace DeferredBinding

set_option autoImplicit false

/-- Why a resolution ends without an answer. -/
inductive Failure where
  | unresolvedType (type : String)
  | generatorNotFound (generator : String)
  | generatorFailed (generator type reason : String)
  | explicitFailure (type : String)
  | missingProperty (type property : String)
  | property (error : Property.Error)
  deriving DecidableEq, Repr

def Failure.message : Failure → String
  | .unresolvedType type => "unable to find requested type '" ++ type ++ "'"
  | .generatorNotFound generator => "generator '" ++ generator ++ "' could not be found"
  | .generatorFailed generator type reason =>
      "generator '" ++ generator ++ "' failed for type '" ++ type ++ "': " ++ reason
  | .explicitFailure type =>
      "deferred binding failed for '" ++ type ++ "'; expect subsequent failures"
  | .missingProperty type name =>
      "rule for '" ++ type ++ "' requires property '" ++ name ++ "', which is not available"
  | .property error => error.message

end DeferredBinding
