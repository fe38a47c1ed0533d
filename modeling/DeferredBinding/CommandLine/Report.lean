/-
# CommandLine.Report -- what a module declares, line by line
-/
import DeferredBinding.Module.Basic

namespace DeferredBinding.CommandLine

set_option autoImplicit false

def bracketed (texts : List String) : String :=
  "[" ++ ", ".intercalate texts ++ "]"

def propertyLine : Property → String
  | .binding b =>
      "  binding " ++ b.name ++ " defined=" ++ bracketed b.defined ++ " allowed=" ++
        bracketed b.allowed ++
        match b.fallback with
        | some value => " fallback=" ++ value
        | none => ""
  | .configuration c =>
      "  configuration " ++ c.name ++ " " ++
        bracketed (c.slots.map fun slot => slot.getD "<unset>") ++
        if c.multi then " multi-valued" else ""

def ruleLine (position : Nat) (r : Rule) : String :=
  "  [" ++ toString position ++ "] " ++ r.render

def ruleLines : Nat → List Rule → List String
  | _, [] => []
  | position, r :: rest => ruleLine position r :: ruleLines (position + 1) rest

def reportLines (m : Module) : List String :=
  ("module " ++ m.name) ::
    ("properties: " ++ toString m.properties.size) :: m.properties.entries.map propertyLine ++
    ("types: " ++ toString m.types.size) ::
    ("rules: " ++ toString m.rules.size) :: ruleLines 0 m.rules.toList ++
    ["required properties: " ++ bracketed m.rules.required]

def ofLines (lines : List String) : String :=
  String.join (lines.map fun line => line ++ "\n")

def report (m : Module) : String :=
  ofLines (reportLines m)

end DeferredBinding.CommandLine
