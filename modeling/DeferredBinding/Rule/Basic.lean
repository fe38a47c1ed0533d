/-
# Rule -- what is done where its conditions hold

A rule has root conditions, all of which must hold, and an action: answer a fixed
name, ask a generator, or fail.  A rule that asked a generator holds on to the
instance that answered until it asks again or is disposed.
-/
import DeferredBinding.Condition.Basic
import DeferredBinding.Trace

namespace DeferredBinding

set_option autoImplicit false

/-- What a rule does for the types it applies to. -/
inductive Action where
  | replaceWith (type : String)
  | generateWith (generator : String)
  | fail
  deriving DecidableEq, Repr

/-- A rule, with the generator instance it holds. -/
structure Rule where
  action : Action
  roots : List Condition := []
  held : Option Instance := none
  deriving DecidableEq, Repr

namespace Action

def tag : Action → String
  | .replaceWith _ => "replace-with"
  | .generateWith _ => "generate-with"
  | .fail => "fail"

def opening : Action → String
  | .replaceWith type => "<replace-with class='" ++ type ++ "'>"
  | .generateWith generator => "<generate-with class='" ++ generator ++ "'>"
  | .fail => "<fail>"

end Action

namespace Rule

/-- One more root condition, at the end. -/
def addRoot (r : Rule) (c : Condition) : Rule :=
  { r with roots := r.roots ++ [c] }

def required (r : Rule) : List String :=
  Condition.requiredList r.roots

def render (r : Rule) : String :=
  r.action.opening ++ Condition.renderList r.roots ++ "</" ++ r.action.tag ++ ">"

/-- The record of letting go of what is held. -/
def release : Option Instance → List Entry
  | none => []
  | some instance_ => [.generator instance_ .released]

/-- Let go of the generator instance that is held. -/
def dispose (r : Rule) : Rule :=
  { r with held := none }

end Rule

end DeferredBinding
