/-
# Manifest -- what a module file declares

A manifest is the content of a module file as it is written, before anything is
made of it: properties to declare, adjustments to make to them in order, types,
and rules, of which a later one is meant to come before an earlier one.
-/
import DeferredBinding.Rule.Basic
import DeferredBinding.Types.Declaration

namespace DeferredBinding

set_option autoImplicit false

namespace Manifest

/-- A property to declare. -/
inductive PropertyEntry where
  | binding (name : String) (values : List String) (fallback : Option String)
  | configuration (name : String) (multi : Bool) (values : List String)
  deriving DecidableEq, Repr

/-- An adjustment to a declared property. -/
inductive Directive where
  | restrict (name : String) (values : List String)
  | setFallback (name value : String)
  | set (name value : String)
  | append (name value : String)
  | clear (name : String)
  deriving DecidableEq, Repr

/-- A type to declare. -/
structure TypeEntry where
  name : String
  kind : Types.Kind := .classKind
  parent : Option String := none
  interfaces : List String := []
  deriving DecidableEq, Repr

/-- A rule to install. -/
structure RuleEntry where
  action : Action
  roots : List Condition := []
  deriving DecidableEq, Repr

def PropertyEntry.name : PropertyEntry → String
  | .binding name _ _ => name
  | .configuration name _ _ => name

def Directive.name : Directive → String
  | .restrict name _ => name
  | .setFallback name _ => name
  | .set name _ => name
  | .append name _ => name
  | .clear name => name

def TypeEntry.declaration (entry : TypeEntry) : Types.Declaration :=
  let start := Types.Declaration.ofKind entry.kind entry.name
  let extended := match entry.parent with
    | some parent => start.extends_ parent
    | none => start
  entry.interfaces.foldl Types.Declaration.implements extended

/-- The rule of an entry, which holds no generator. -/
def RuleEntry.rule (entry : RuleEntry) : Rule :=
  { action := entry.action, roots := entry.roots }

end Manifest

/-- The content of a module file. -/
structure Manifest where
  name : String
  properties : List Manifest.PropertyEntry := []
  directives : List Manifest.Directive := []
  types : List Manifest.TypeEntry := []
  rules : List Manifest.RuleEntry := []
  deriving DecidableEq, Repr

end DeferredBinding
