/-
# Inspect -- the structure of a rule or registry as text

Unlike the markup of `Rule.render`, which shows what a rule means, the texts of
this module show every field, with texts quoted.
-/
import DeferredBinding.Generator.Registry
import DeferredBinding.Rule.Basic
import DeferredBinding.Text.Quoted

namespace DeferredBinding

set_option autoImplicit false

/-- Named fields in braces after the name of what they belong to. -/
def recordText (name : String) (fields : List (String × String)) : String :=
  name ++ " \x7b " ++ ", ".intercalate (fields.map fun field => field.1 ++ ": " ++ field.2) ++
    " \x7d"

def listText (elements : List String) : String :=
  "[" ++ ", ".intercalate elements ++ "]"

/-- One value in parentheses after a name. -/
def appliedText (name argument : String) : String :=
  name ++ "(" ++ argument ++ ")"

namespace Condition

mutual

def inspect : Condition → String
  | .typeIs name => appliedText "WhenTypeIs" (Text.quoted name)
  | .assignableTo name => appliedText "WhenTypeAssignableTo" (Text.quoted name)
  | .propertyIs property value =>
      recordText "WhenPropertyIs"
        [("property", Text.quoted property), ("value", Text.quoted value)]
  | .all children => appliedText "All" (recordText "Conditions" [("list", listText (inspectList children))])
  | .any children => appliedText "Any" (recordText "Conditions" [("list", listText (inspectList children))])
  | .noneOf children =>
      appliedText "NoneOf" (recordText "Conditions" [("list", listText (inspectList children))])

def inspectList : List Condition → List String
  | [] => []
  | c :: rest => inspect c :: inspectList rest

end

end Condition

def Action.inspect : Action → String
  | .replaceWith type => appliedText "ReplaceWith" (Text.quoted type)
  | .generateWith generator => appliedText "GenerateWith" (Text.quoted generator)
  | .fail => "Fail"

/-- The structure of a rule; of the generator it holds only that it holds one. -/
def Rule.inspect (r : Rule) : String :=
  recordText "Rule"
    [("root", recordText "Conditions" [("list", listText (Condition.inspectList r.roots))]),
      ("action", r.action.inspect),
      ("holds_generator", toString r.held.isSome)]

def Registry.inspect {γ : Type} (r : Registry γ) : String :=
  recordText "GeneratorRegistry"
    [("count", toString r.size), ("names", listText (r.names.map Text.quoted))]

end DeferredBinding
