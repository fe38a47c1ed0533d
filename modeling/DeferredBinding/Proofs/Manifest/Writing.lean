/-
# Proofs.Manifest.Writing -- manifests as trees

A manifest is written as a record of its clauses, and so is everything in it; a property, a
directive and a rule begin with the clause of their tag, which need not stand first.  A
condition is a record with one member, whose key says which condition it is.  What equals the
default of its field may be left out.

`clauses` lists what a value of each kind has to say, and the layout of that kind serves those
clauses (`layout_serves` and the lemmas before it); with the way conditions are read
(`reads_conditions`) this makes the decoder of manifests answer the manifest that was written
(`decoder_of_writes`).  None of it depends on the format of the file, apart from the room that
it leaves for brackets.  Every manifest can be written (`expresses_manifest`).
-/
import DeferredBinding.Manifest.Layout
import DeferredBinding.Proofs.Document.Clauses

namespace DeferredBinding.Manifest

open Document Document.Node

set_option autoImplicit false

/-! ## Conditions -/

/-- What a condition on a property says about it. -/
def propertyIsClauses (property value : String) : List Clause :=
  [.required "name" WritesText property, .required "value" WritesText value]

inductive WritesCondition : Condition → Node → Prop
  | typeIs {name : String} :
      WritesCondition (.typeIs name) (.record [("when-type-is", .text name)] .closed)
  | assignableTo {name : String} :
      WritesCondition (.assignableTo name)
        (.record [("when-type-assignable", .text name)] .closed)
  | propertyIs {property value : String} {members : Members}
      (states : States (propertyIsClauses property value) members) :
      WritesCondition (.propertyIs property value)
        (.record [("when-property-is", .record members .closed)] .closed)
  | any {children : List Condition} {items : List Node}
      (written : List.Forall₂ WritesCondition children items) :
      WritesCondition (.any children) (.record [("any", .list items .closed)] .closed)
  | all {children : List Condition} {items : List Node}
      (written : List.Forall₂ WritesCondition children items) :
      WritesCondition (.all children) (.record [("all", .list items .closed)] .closed)
  | noneOf {children : List Condition} {items : List Node}
      (written : List.Forall₂ WritesCondition children items) :
      WritesCondition (.noneOf children) (.record [("none", .list items .closed)] .closed)

theorem propertyIsLayout_serves (limit : Option Nat) (property value : String) :
    propertyIsLayout.Serves limit (propertyIsClauses property value)
      (.propertyIs property value) where
  fields := .cons (takes_required (reads_text limit) ..) <|
    .cons (takes_required (reads_text limit) ..) .nil
  builds states within missing := by
    have named := states.required within List.mem_cons_self (reads_text limit) missing
    have valued := states.required within (.tail _ List.mem_cons_self) (reads_text limit) missing
    simp only [propertyIsLayout, named, valued]
    rfl

mutual

theorem condition_of_writes : ∀ (c : Condition) (node : Node), WritesCondition c node →
    node.Whole → condition node = .ok c
  | .typeIs _, _, .typeIs, _ => rfl
  | .assignableTo _, _, .assignableTo, _ => rfl
  | .propertyIs property value, _, .propertyIs states, ⟨_, ⟨_, whole⟩, _⟩ =>
      (propertyIsLayout_serves none property value).ofMembers ignored states
        fun m member => ⟨wholeRecord_iff.1 whole m member, nofun⟩
  | .any children, _, .any written, ⟨_, ⟨_, whole⟩, _⟩ => by
      show (conditionList _).map Condition.any = _
      rw [conditionList_of_writes children _ written whole]
      rfl
  | .all children, _, .all written, ⟨_, ⟨_, whole⟩, _⟩ => by
      show (conditionList _).map Condition.all = _
      rw [conditionList_of_writes children _ written whole]
      rfl
  | .noneOf children, _, .noneOf written, ⟨_, ⟨_, whole⟩, _⟩ => by
      show (conditionList _).map Condition.noneOf = _
      rw [conditionList_of_writes children _ written whole]
      rfl

theorem conditionList_of_writes : ∀ (cs : List Condition) (items : List Node),
    List.Forall₂ WritesCondition cs items → WholeList items → conditionList items = .ok cs
  | [], _, .nil, _ => rfl
  | c :: cs, _, .cons head tail, ⟨whole, others⟩ => by
      rw [conditionList, condition_of_writes c _ head whole,
        conditionList_of_writes cs _ tail others]
      rfl

end

theorem reads_conditions (limit : Option Nat) :
    Reads limit (WritesList WritesCondition) conditions := by
  rintro cs _ within ⟨items, rfl, written⟩
  exact conditionList_of_writes cs items written within.whole.2

/-! ## Properties -/

/-- What the entry of a property says. -/
def PropertyEntry.clauses : PropertyEntry → List Clause
  | .binding name values fallback =>
      [.required "kind" WritesText "binding", .required "name" WritesText name,
        .withDefault "values" (WritesList WritesText) values [],
        .withDefault "fallback" (WritesOptional WritesText) fallback none]
  | .configuration name multi values =>
      [.required "kind" WritesText "configuration", .required "name" WritesText name,
        .withDefault "multi-valued" WritesTruth multi false,
        .withDefault "values" (WritesList WritesText) values []]

theorem bindingLayout_serves (limit : Option Nat) (name : String) (values : List String)
    (fallback : Option String) :
    bindingLayout.Serves limit (PropertyEntry.binding name values fallback).clauses.tail
      (.binding name values fallback) where
  fields := .cons (takes_required (reads_text limit) ..) <|
    .cons (takes_withDefault (reads_texts limit) ..) <|
    .cons (takes_withDefault (reads_optionalText limit) ..) .nil
  builds states within missing := by
    have named := states.required within List.mem_cons_self (reads_text limit) missing
    have valued := states.withDefault within (.tail _ List.mem_cons_self) (reads_texts limit)
    have fallen := states.withDefault within (.tail _ (.tail _ List.mem_cons_self))
      (reads_optionalText limit)
    simp only [bindingLayout, texts, named, valued, fallen]
    rfl

theorem configurationLayout_serves (limit : Option Nat) (name : String) (multi : Bool)
    (values : List String) :
    configurationLayout.Serves limit (PropertyEntry.configuration name multi values).clauses.tail
      (.configuration name multi values) where
  fields := .cons (takes_required (reads_text limit) ..) <|
    .cons (takes_withDefault (reads_truth limit) ..) <|
    .cons (takes_withDefault (reads_texts limit) ..) .nil
  builds states within missing := by
    have named := states.required within List.mem_cons_self (reads_text limit) missing
    have counted := states.withDefault within (.tail _ List.mem_cons_self) (reads_truth limit)
    have valued := states.withDefault within (.tail _ (.tail _ List.mem_cons_self))
      (reads_texts limit)
    simp only [configurationLayout, texts, named, counted, valued]
    rfl

theorem reads_property (room : Option Nat) :
    Reads (around room) (WritesRecord PropertyEntry.clauses) (propertyTagged.decoder room) := by
  refine Tagged.reads fun entry => ?_
  match entry with
  | .binding name values fallback =>
      exact ⟨"binding", bindingLayout, _, rfl, rfl, by decide, bindingLayout_serves room ..⟩
  | .configuration name multi values =>
      exact ⟨"configuration", configurationLayout, _, rfl, rfl, by decide,
        configurationLayout_serves room ..⟩

/-! ## Directives -/

def Directive.clauses : Directive → List Clause
  | .restrict name values =>
      [.required "op" WritesText "set-property", .required "name" WritesText name,
        .required "values" (WritesList WritesText) values]
  | .setFallback name value =>
      [.required "op" WritesText "set-property-fallback", .required "name" WritesText name,
        .required "value" WritesText value]
  | .set name value =>
      [.required "op" WritesText "set-configuration-property", .required "name" WritesText name,
        .required "value" WritesText value]
  | .append name value =>
      [.required "op" WritesText "extend-configuration-property",
        .required "name" WritesText name, .required "value" WritesText value]
  | .clear name =>
      [.required "op" WritesText "clear-configuration-property", .required "name" WritesText name]

theorem restrictLayout_serves (limit : Option Nat) (name : String) (values : List String) :
    restrictLayout.Serves limit (Directive.restrict name values).clauses.tail
      (.restrict name values) where
  fields := .cons (takes_required (reads_text limit) ..) <|
    .cons (takes_required (reads_texts limit) ..) .nil
  builds states within missing := by
    have named := states.required within List.mem_cons_self (reads_text limit) missing
    have valued := states.required within (.tail _ List.mem_cons_self) (reads_texts limit) missing
    simp only [restrictLayout, texts, named, valued]
    rfl

theorem valueLayout_serves (directive : String → String → Directive) (limit : Option Nat)
    (name value : String) :
    (valueLayout directive).Serves limit
      [.required "name" WritesText name, .required "value" WritesText value]
      (directive name value) where
  fields := .cons (takes_required (reads_text limit) ..) <|
    .cons (takes_required (reads_text limit) ..) .nil
  builds states within missing := by
    have named := states.required within List.mem_cons_self (reads_text limit) missing
    have valued := states.required within (.tail _ List.mem_cons_self) (reads_text limit) missing
    simp only [valueLayout, named, valued]
    rfl

theorem clearLayout_serves (limit : Option Nat) (name : String) :
    clearLayout.Serves limit (Directive.clear name).clauses.tail (.clear name) where
  fields := .cons (takes_required (reads_text limit) ..) .nil
  builds states within missing := by
    have named := states.required within List.mem_cons_self (reads_text limit) missing
    simp only [clearLayout, named]
    rfl

theorem reads_directive (room : Option Nat) :
    Reads (around room) (WritesRecord Directive.clauses) (directiveTagged.decoder room) := by
  refine Tagged.reads fun directive => ?_
  match directive with
  | .restrict name values =>
      exact ⟨_, restrictLayout, _, rfl, rfl, by decide, restrictLayout_serves room ..⟩
  | .setFallback name value =>
      exact ⟨_, valueLayout .setFallback, _, rfl, rfl, by decide, valueLayout_serves _ room ..⟩
  | .set name value =>
      exact ⟨_, valueLayout .set, _, rfl, rfl, by decide, valueLayout_serves _ room ..⟩
  | .append name value =>
      exact ⟨_, valueLayout .append, _, rfl, rfl, by decide, valueLayout_serves _ room ..⟩
  | .clear name =>
      exact ⟨_, clearLayout, _, rfl, rfl, by decide, clearLayout_serves room ..⟩

/-! ## Types -/

/-- A kind of type, as the text that names it. -/
def WritesKind : Types.Kind → Node → Prop
  | .classKind => WritesText "class"
  | .interfaceKind => WritesText "interface"

def TypeEntry.clauses (entry : TypeEntry) : List Clause :=
  [.required "name" WritesText entry.name,
    .withDefault "kind" WritesKind entry.kind .classKind,
    .withDefault "extends" (WritesOptional WritesText) entry.parent none,
    .withDefault "implements" (WritesList WritesText) entry.interfaces []]

theorem reads_kind (dialect : Dialect) (limit : Option Nat) :
    Reads limit WritesKind (choice dialect kinds) := by
  rintro (_ | _) _ - rfl <;> rfl

theorem typeLayout_serves (dialect : Dialect) (limit : Option Nat) (entry : TypeEntry) :
    (typeLayout dialect).Serves limit entry.clauses entry where
  fields := .cons (takes_required (reads_text limit) ..) <|
    .cons (takes_withDefault (reads_kind dialect limit) ..) <|
    .cons (takes_withDefault (reads_optionalText limit) ..) <|
    .cons (takes_withDefault (reads_texts limit) ..) .nil
  builds states within missing := by
    have named := states.required within List.mem_cons_self (reads_text limit) missing
    have sorted := states.withDefault within (.tail _ List.mem_cons_self)
      (reads_kind dialect limit)
    have extended := states.withDefault within (.tail _ (.tail _ List.mem_cons_self))
      (reads_optionalText limit)
    have implemented := states.withDefault within
      (.tail _ (.tail _ (.tail _ List.mem_cons_self))) (reads_texts limit)
    simp only [typeLayout, texts, named, sorted, extended, implemented]
    rfl

/-! ## Rules -/

/-- What the entry of a rule says, by what the rule does. -/
def ruleClauses (roots : List Condition) : Action → List Clause
  | .replaceWith name =>
      [.required "kind" WritesText "replace-with", .required "class" WritesText name,
        .withDefault "when" (WritesList WritesCondition) roots []]
  | .generateWith name =>
      [.required "kind" WritesText "generate-with", .required "class" WritesText name,
        .withDefault "when" (WritesList WritesCondition) roots []]
  | .fail =>
      [.required "kind" WritesText "fail",
        .withDefault "when" (WritesList WritesCondition) roots []]

def RuleEntry.clauses (entry : RuleEntry) : List Clause :=
  ruleClauses entry.roots entry.action

theorem classRuleLayout_serves (action : String → Action) (limit : Option Nat) (name : String)
    (roots : List Condition) :
    (classRuleLayout action).Serves limit
      [.required "class" WritesText name,
        .withDefault "when" (WritesList WritesCondition) roots []]
      { action := action name, roots } where
  fields := .cons (takes_required (reads_text limit) ..) <|
    .cons (takes_withDefault (reads_conditions limit) ..) .nil
  builds states within missing := by
    have named := states.required within List.mem_cons_self (reads_text limit) missing
    have restricted := states.withDefault within (.tail _ List.mem_cons_self)
      (reads_conditions limit)
    simp only [classRuleLayout, named, restricted]
    rfl

theorem failRuleLayout_serves (limit : Option Nat) (roots : List Condition) :
    failRuleLayout.Serves limit [.withDefault "when" (WritesList WritesCondition) roots []]
      { action := .fail, roots } where
  fields := .cons (takes_withDefault (reads_conditions limit) ..) .nil
  builds states within missing := by
    have restricted := states.withDefault within List.mem_cons_self (reads_conditions limit)
    simp only [failRuleLayout, restricted]
    rfl

theorem reads_rule (room : Option Nat) :
    Reads (around room) (WritesRecord RuleEntry.clauses) (ruleTagged.decoder room) := by
  refine Tagged.reads fun entry => ?_
  match entry with
  | ⟨.replaceWith name, roots⟩ =>
      exact ⟨_, classRuleLayout .replaceWith, _, rfl, rfl, by decide,
        classRuleLayout_serves _ room ..⟩
  | ⟨.generateWith name, roots⟩ =>
      exact ⟨_, classRuleLayout .generateWith, _, rfl, rfl, by decide,
        classRuleLayout_serves _ room ..⟩
  | ⟨.fail, roots⟩ =>
      exact ⟨_, failRuleLayout, _, rfl, rfl, by decide, failRuleLayout_serves room ..⟩

/-! ## Manifests -/

def clauses (manifest : Manifest) : List Clause :=
  [.required "name" WritesText manifest.name,
    .withDefault "property" (WritesList (WritesRecord PropertyEntry.clauses))
      manifest.properties [],
    .withDefault "configure" (WritesList (WritesRecord Directive.clauses))
      manifest.directives [],
    .withDefault "type" (WritesList (WritesRecord TypeEntry.clauses)) manifest.types [],
    .withDefault "rule" (WritesList (WritesRecord RuleEntry.clauses)) manifest.rules []]

def Writes (manifest : Manifest) (root : Node) : Prop :=
  WritesRecord clauses manifest root

theorem layout_serves (dialect : Dialect) (manifest : Manifest) :
    (layout dialect).Serves (around (around (room dialect))) manifest.clauses manifest := by
  have properties : Reads _ _ (propertyList dialect) := reads_list (reads_property (room dialect))
  have directives : Reads _ _ (directiveList dialect) :=
    reads_list (reads_directive (room dialect))
  have types : Reads (around (around (room dialect))) _ (typeList dialect) :=
    reads_list (Layout.reads (typeLayout_serves dialect _) skipped (surplus dialect))
  have rules : Reads _ _ (ruleList dialect) := reads_list (reads_rule (room dialect))
  exact {
    fields := .cons (takes_required (reads_text _) ..) <|
      .cons (takes_withDefault properties ..) <| .cons (takes_withDefault directives ..) <|
      .cons (takes_withDefault types ..) <| .cons (takes_withDefault rules ..) .nil
    builds := fun states within missing => by
      have named := states.required within List.mem_cons_self (reads_text _) missing
      have declared := states.withDefault within (.tail _ List.mem_cons_self) properties
      have adjusted := states.withDefault within (.tail _ (.tail _ List.mem_cons_self)) directives
      have typed := states.withDefault within
        (.tail _ (.tail _ (.tail _ List.mem_cons_self))) types
      have ruled := states.withDefault within
        (.tail _ (.tail _ (.tail _ (.tail _ List.mem_cons_self)))) rules
      simp only [layout, named, declared, adjusted, typed, ruled]
      rfl }

/-- **A manifest is taken out of every tree that it is written as.** -/
theorem decoder_of_writes (dialect : Dialect) {manifest : Manifest} {root : Node}
    (within : root.Within (around (around (around (room dialect)))))
    (written : manifest.Writes root) : decoder dialect root = .ok manifest :=
  Layout.reads (layout_serves dialect) _ (surplus dialect) manifest root within written

/-! ## Every manifest can be written -/

theorem distinct_propertyIs (property value : String) :
    ((propertyIsClauses property value).map Clause.key).Nodup := by
  simp [propertyIsClauses]

mutual

theorem expresses_condition : ∀ c : Condition, ∃ node : Node, node.Whole ∧ WritesCondition c node
  | .typeIs name => ⟨_, whole_single (whole_text name), .typeIs⟩
  | .assignableTo name => ⟨_, whole_single (whole_text name), .assignableTo⟩
  | .propertyIs property value => by
      have sayable : ∀ clause ∈ propertyIsClauses property value, clause.Sayable := by
        simp [propertyIsClauses, sayable_required expresses_text]
      obtain ⟨members, whole, states⟩ :=
        exists_states (distinct_propertyIs property value) sayable
      exact ⟨_, whole_single (whole_record whole), .propertyIs states⟩
  | .any children => by
      obtain ⟨items, whole, written⟩ := expresses_conditionList children
      exact ⟨_, whole_single (whole_list whole), .any written⟩
  | .all children => by
      obtain ⟨items, whole, written⟩ := expresses_conditionList children
      exact ⟨_, whole_single (whole_list whole), .all written⟩
  | .noneOf children => by
      obtain ⟨items, whole, written⟩ := expresses_conditionList children
      exact ⟨_, whole_single (whole_list whole), .noneOf written⟩

theorem expresses_conditionList : ∀ cs : List Condition, ∃ items : List Node,
    WholeList items ∧ List.Forall₂ WritesCondition cs items
  | [] => ⟨[], trivial, .nil⟩
  | c :: cs => by
      obtain ⟨node, whole, written⟩ := expresses_condition c
      obtain ⟨items, others, later⟩ := expresses_conditionList cs
      exact ⟨node :: items, ⟨whole, others⟩, .cons written later⟩

end

theorem expresses_conditions : Expresses (WritesList WritesCondition) := fun cs => by
  obtain ⟨items, whole, written⟩ := expresses_conditionList cs
  exact ⟨_, whole_list whole, items, rfl, written⟩

theorem distinct_property (entry : PropertyEntry) : (entry.clauses.map Clause.key).Nodup := by
  cases entry <;> simp [PropertyEntry.clauses]

theorem distinct_directive (directive : Directive) :
    (directive.clauses.map Clause.key).Nodup := by
  cases directive <;> simp [Directive.clauses]

theorem distinct_type (entry : TypeEntry) : (entry.clauses.map Clause.key).Nodup := by
  simp [TypeEntry.clauses]

theorem distinct_rule (entry : RuleEntry) : (entry.clauses.map Clause.key).Nodup := by
  rcases entry with ⟨_ | _ | _, roots⟩ <;> simp [RuleEntry.clauses, ruleClauses]

theorem expresses_property : Expresses (WritesRecord PropertyEntry.clauses) := by
  refine expresses_record distinct_property fun entry => ?_
  cases entry <;> simp [PropertyEntry.clauses, sayable_required expresses_text,
    sayable_withDefault (expresses_list expresses_text), sayable_withDefault expresses_truth,
    sayable_withDefault (expresses_optional expresses_text)]

theorem expresses_directive : Expresses (WritesRecord Directive.clauses) := by
  refine expresses_record distinct_directive fun directive => ?_
  cases directive <;> simp [Directive.clauses, sayable_required expresses_text,
    sayable_required (expresses_list expresses_text)]

theorem expresses_kind : Expresses WritesKind
  | .classKind => expresses_text "class"
  | .interfaceKind => expresses_text "interface"

theorem expresses_type : Expresses (WritesRecord TypeEntry.clauses) := by
  refine expresses_record distinct_type fun entry => ?_
  simp [TypeEntry.clauses, sayable_required expresses_text, sayable_withDefault expresses_kind,
    sayable_withDefault (expresses_list expresses_text),
    sayable_withDefault (expresses_optional expresses_text)]

theorem expresses_rule : Expresses (WritesRecord RuleEntry.clauses) := by
  refine expresses_record distinct_rule fun entry => ?_
  rcases entry with ⟨_ | _ | _, roots⟩ <;>
    simp [RuleEntry.clauses, ruleClauses, sayable_required expresses_text,
      sayable_withDefault expresses_conditions]

/-- Every manifest can be written. -/
theorem expresses_manifest : Expresses Writes := by
  refine expresses_record (fun manifest => ?_) (fun manifest => ?_)
  · simp [clauses]
  · simp [clauses, sayable_required expresses_text,
      sayable_withDefault (expresses_list expresses_property),
      sayable_withDefault (expresses_list expresses_directive),
      sayable_withDefault (expresses_list expresses_type),
      sayable_withDefault (expresses_list expresses_rule)]

end DeferredBinding.Manifest
