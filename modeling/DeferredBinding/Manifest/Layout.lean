/-
# Manifest.Layout -- a manifest taken out of a document

The layouts of a manifest and of everything in it.  Only the manifest itself
refuses keys it does not know; elsewhere they are passed over.

A condition is a record with exactly one member, whose key says which condition it
is.  It occurs only inside of rules, which have been taken in whole before.
-/
import DeferredBinding.Document.Layout
import DeferredBinding.Manifest.Basic

namespace DeferredBinding.Manifest

open Document

set_option autoImplicit false

/-! ## Conditions -/

/-- What the key of a condition announces. -/
inductive ConditionKey where
  | typeIs
  | assignableTo
  | propertyIs
  | any
  | all
  | noneOf
  deriving DecidableEq, Repr

def conditionKeys : List (String × ConditionKey) :=
  [("when-type-is", .typeIs), ("when-type-assignable", .assignableTo),
    ("when-property-is", .propertyIs), ("any", .any), ("all", .all), ("none", .noneOf)]

def propertyIsLayout : Layout Condition where
  fields := [.of "name" Decoder.text, .of "value" Decoder.text]
  build members missing := do
    let name ← Field.required members missing "name" Decoder.text
    let value ← Field.required members missing "value" Decoder.text
    pure (.propertyIs name value)

/-- Why a node is no condition. -/
def noCondition : Node → Fault
  | .record _ _ => .invalidValue
  | .moment => .unknownVariant momentKey (conditionKeys.map Prod.fst)
  | .text name =>
      match choose conditionKeys name with
      | .ok _ => .invalidType
      | .error fault => fault
  | node => Decoder.unexpected node

/-- A condition whose value is no list: what is left of it is a leaf. -/
def leaf (value : Node) : ConditionKey → Except Fault Condition
  | .typeIs => (Decoder.text value).map .typeIs
  | .assignableTo => (Decoder.text value).map .assignableTo
  | .propertyIs => propertyIsLayout.decoder ignored (.error .invalidLength) value
  | _ => .error (Decoder.unexpected value)

mutual

def condition : Node → Except Fault Condition
  | .record [(key, .list items ending)] _ => do
      match ← choose conditionKeys key with
      | .any => (conditionList items).map .any
      | .all => (conditionList items).map .all
      | .noneOf => (conditionList items).map .noneOf
      | other => leaf (.list items ending) other
  | .record [(key, value)] _ => (choose conditionKeys key).bind (leaf value)
  | node => .error (noCondition node)

def conditionList : List Node → Except Fault (List Condition)
  | [] => .ok []
  | item :: rest => do
      let first ← condition item
      let others ← conditionList rest
      pure (first :: others)

end

def conditions : Decoder (List Condition)
  | .list items _ => conditionList items
  | node => .error (Decoder.unexpected node)

/-! ## Properties, directives, types and rules -/

def texts : Decoder (List String) :=
  Decoder.list Decoder.text

def bindingLayout : Layout PropertyEntry where
  fields :=
    [.of "name" Decoder.text, .of "values" texts, .of "fallback" (Decoder.optional Decoder.text)]
  build members missing := do
    let name ← Field.required members missing "name" Decoder.text
    let values ← Field.withDefault members "values" texts []
    let fallback ← Field.withDefault members "fallback" (Decoder.optional Decoder.text) none
    pure (.binding name values fallback)

def configurationLayout : Layout PropertyEntry where
  fields := [.of "name" Decoder.text, .of "multi-valued" Decoder.truth, .of "values" texts]
  build members missing := do
    let name ← Field.required members missing "name" Decoder.text
    let multi ← Field.withDefault members "multi-valued" Decoder.truth false
    let values ← Field.withDefault members "values" texts []
    pure (.configuration name multi values)

def propertyTagged : Tagged PropertyEntry where
  tag := "kind"
  variants := [("binding", bindingLayout), ("configuration", configurationLayout)]

/-- A directive with a list of values. -/
def restrictLayout : Layout Directive where
  fields := [.of "name" Decoder.text, .of "values" texts]
  build members missing := do
    let name ← Field.required members missing "name" Decoder.text
    let values ← Field.required members missing "values" texts
    pure (.restrict name values)

/-- A directive with one value. -/
def valueLayout (directive : String → String → Directive) : Layout Directive where
  fields := [.of "name" Decoder.text, .of "value" Decoder.text]
  build members missing := do
    let name ← Field.required members missing "name" Decoder.text
    let value ← Field.required members missing "value" Decoder.text
    pure (directive name value)

def clearLayout : Layout Directive where
  fields := [.of "name" Decoder.text]
  build members missing := do
    let name ← Field.required members missing "name" Decoder.text
    pure (.clear name)

def directiveTagged : Tagged Directive where
  tag := "op"
  variants :=
    [("set-property", restrictLayout), ("set-property-fallback", valueLayout .setFallback),
      ("set-configuration-property", valueLayout .set),
      ("extend-configuration-property", valueLayout .append),
      ("clear-configuration-property", clearLayout)]

def kinds : List (String × Types.Kind) :=
  [("class", .classKind), ("interface", .interfaceKind)]

def typeLayout (dialect : Dialect) : Layout TypeEntry where
  fields :=
    [.of "name" Decoder.text, .of "kind" (choice dialect kinds),
      .of "extends" (Decoder.optional Decoder.text), .of "implements" texts]
  build members missing := do
    let name ← Field.required members missing "name" Decoder.text
    let kind ← Field.withDefault members "kind" (choice dialect kinds) .classKind
    let parent ← Field.withDefault members "extends" (Decoder.optional Decoder.text) none
    let interfaces ← Field.withDefault members "implements" texts []
    pure { name, kind, parent, interfaces }

def classRuleLayout (action : String → Action) : Layout RuleEntry where
  fields := [.of "class" Decoder.text, .of "when" conditions]
  build members missing := do
    let name ← Field.required members missing "class" Decoder.text
    let roots ← Field.withDefault members "when" conditions []
    pure { action := action name, roots }

def failRuleLayout : Layout RuleEntry where
  fields := [.of "when" conditions]
  build members _ := do
    let roots ← Field.withDefault members "when" conditions []
    pure { action := .fail, roots }

def ruleTagged : Tagged RuleEntry where
  tag := "kind"
  variants :=
    [("replace-with", classRuleLayout .replaceWith), ("generate-with", classRuleLayout .generateWith),
      ("fail", failRuleLayout)]

/-! ## Manifests -/

/-- How many brackets may be open inside of a tagged record of a manifest. -/
def room : Dialect → Option Nat
  | .json => some 124
  | .toml => none

/-- What surplus items of a list that stands for a record come to. -/
def surplus : Dialect → Passage
  | .json => .error .malformed
  | .toml => .ok ()

def propertyList (dialect : Dialect) : Decoder (List PropertyEntry) :=
  Decoder.list (propertyTagged.decoder (room dialect))

def directiveList (dialect : Dialect) : Decoder (List Directive) :=
  Decoder.list (directiveTagged.decoder (room dialect))

def typeList (dialect : Dialect) : Decoder (List TypeEntry) :=
  Decoder.list ((typeLayout dialect).decoder skipped (surplus dialect))

def ruleList (dialect : Dialect) : Decoder (List RuleEntry) :=
  Decoder.list (ruleTagged.decoder (room dialect))

def layout (dialect : Dialect) : Layout Manifest where
  fields :=
    [.of "name" Decoder.text, .of "property" (propertyList dialect),
      .of "configure" (directiveList dialect), .of "type" (typeList dialect),
      .of "rule" (ruleList dialect)]
  build members missing := do
    let name ← Field.required members missing "name" Decoder.text
    let properties ← Field.withDefault members "property" (propertyList dialect) []
    let directives ← Field.withDefault members "configure" (directiveList dialect) []
    let types ← Field.withDefault members "type" (typeList dialect) []
    let rules ← Field.withDefault members "rule" (ruleList dialect) []
    pure { name, properties, directives, types, rules }

/-- Keys that a manifest does not know are refused. -/
def refused (names : List String) : Stranger := fun key _ => .error (.unknownField key names)

def decoder (dialect : Dialect) : Decoder Manifest :=
  (layout dialect).decoder (refused (layout dialect).names) (surplus dialect)

end DeferredBinding.Manifest
