/-
# Module -- what a manifest amounts to

A module is made of a manifest in this order: the name is looked at, properties are
declared, directives carried out, types declared, rules installed.  The first thing
that does not fit ends it.

A rule that stands later comes before the earlier ones.  Its conditions may only
compare declared binding properties with values that are defined for them.
-/
import DeferredBinding.Manifest.Basic
import DeferredBinding.Module.Error
import DeferredBinding.Property.Permutation
import DeferredBinding.Resolution.Rules
import DeferredBinding.Text.Blank
import DeferredBinding.Types.Hierarchy

namespace DeferredBinding

set_option autoImplicit false

/-- Properties, types and rules under one name. -/
structure Module where
  name : String
  properties : Property.Table
  types : Types.Hierarchy
  rules : Rules

namespace Module

open Manifest

/-! ## Properties -/

def declare (t : Property.Table) : PropertyEntry → Except Property.Error Property.Table
  | .binding name values fallback => do
      let declared ← t.declareBinding name
      declared.modifyBinding name fun b => do
        let defined ← b.defineAll values
        match fallback with
        | some value => defined.setFallback value
        | none => pure defined
  | .configuration name multi values => do
      let declared ← t.declareConfiguration name multi
      declared.modifyConfiguration name fun c =>
        if c.multi then c.appendAll values
        else if values.isEmpty then pure c
        else c.setAll values

/-- Carry out a directive. -/
def adjust (t : Property.Table) : Directive → Except Property.Error Property.Table
  | .restrict name values => t.modifyBinding name fun b => b.restrict values
  | .setFallback name value => t.modifyBinding name fun b => b.setFallback value
  | .set name value => t.modifyConfiguration name fun c => pure (c.set value)
  | .append name value => t.modifyConfiguration name fun c => c.append value
  | .clear name => t.modifyConfiguration name fun c => pure c.clear

/-- The properties a manifest declares and adjusts. -/
def propertyTable (m : Manifest) : Except Property.Error Property.Table := do
  let declared ← m.properties.foldlM declare {}
  m.directives.foldlM adjust declared

/-! ## Rules -/

/-- Whether a comparison in the rule at a position makes sense. -/
def checkComparison (t : Property.Table) (rule : Nat) (comparison : String × String) :
    Except Error Unit :=
  match t.binding? comparison.1 with
  | none => .error (.unknownProperty rule comparison.1)
  | some b =>
      if comparison.2 ∈ b.defined then .ok ()
      else .error (.property (.undefinedValue comparison.1 comparison.2))

def checkComparisons (t : Property.Table) (rule : Nat) :
    List (String × String) → Except Error Unit
  | [] => .ok ()
  | comparison :: rest => (checkComparison t rule comparison).bind fun _ =>
      checkComparisons t rule rest

def checkRules (t : Property.Table) : Nat → List RuleEntry → Except Error Unit
  | _, [] => .ok ()
  | rule, entry :: rest =>
      (checkComparisons t rule (Condition.comparisonsList entry.roots)).bind fun _ =>
        checkRules t (rule + 1) rest

/-- The rules of a manifest, the one written last first. -/
def installed (entries : List RuleEntry) : Rules :=
  (entries.map RuleEntry.rule).foldl Rules.prepend {}

/-! ## Modules -/

def build (m : Manifest) : Except Error Module := do
  if Text.allBlank m.name then .error .blankName
  let properties ← (propertyTable m).mapError Error.property
  checkRules properties 0 m.rules
  pure
    { name := m.name
      properties
      types := Types.Hierarchy.ofList (m.types.map TypeEntry.declaration)
      rules := installed m.rules }

/-- What is noted of a module that was made. -/
def loaded (m : Module) : Note :=
  .moduleLoaded m.name m.properties.size m.types.size m.rules.size

/-- Make a module of a manifest, and note it. -/
def ofManifest (manifest : Manifest) : Traced (Except Error Module) :=
  match build manifest with
  | .ok m => { value := .ok m, trace := [.note m.loaded] }
  | .error error => { value := .error error }

/-- The properties of a module, nothing being selected yet. -/
def permutation (m : Module) : Property.Permutation :=
  { table := m.properties }

/-- What resolutions in a module are made against. -/
def context {γ : Type} (m : Module) (properties : Property.Source)
    (generators : String → Option γ) : Context γ :=
  { properties, types := m.types.source, generators }

def resolve {γ : Type} [Generator γ] (m : Module) (properties : Property.Source)
    (generators : String → Option γ) (type : String) (census : Census) : Resolution :=
  m.rules.resolve (m.context properties generators) type census

/-- The record of letting go of a module. -/
def unloading (m : Module) : List Entry :=
  .note (.moduleUnloaded m.name) :: m.rules.disposal

end Module

end DeferredBinding
