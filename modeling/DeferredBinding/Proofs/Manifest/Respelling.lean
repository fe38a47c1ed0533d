/-
# Proofs.Manifest.Respelling -- respellings of a manifest

A document is a respelling of another (`Respelled`) where it can be reached by steps of
rewriting and their converses: at the manifest itself, at a property, a directive, a type or a
rule in it, or at a condition that asks for a property, however deep.  `manifestSlots` and the
tables before it say of every record which fields it has, in the order in which a list gives
their values, and which values they have by default.

Respellings are read as the same manifest.  Where there is no limit to brackets, each step is
read alike, from the conditions (`alike_condition`) up to the manifest (`alike_of_respelled`).
The limit that there is does not matter for documents that keep within it (`decoder_room`), so
what was accepted with it is accepted without it, and what keeps within it the other way round
(`decoder_of_respelled`).
-/
import DeferredBinding.Module.Load
import DeferredBinding.Proofs.Document.Labelled
import DeferredBinding.Proofs.Document.Room

namespace DeferredBinding.Manifest

open Document

set_option autoImplicit false

/-! ## Rewriting -/

/-- A field with a list that is empty by default. -/
def listSlot (key : String) (rewrites : Node → Node → Prop) : Slot :=
  { key, defaults := [.list [] .closed], rewrites := OneItem rewrites }

def textsSlot (key : String) : Slot :=
  { key, defaults := [.list [] .closed] }

/-- The fields of what has a name and a value. -/
def valueSlots : List Slot :=
  [{ key := "name" }, { key := "value" }]

/-- The keys of the conditions that hold others. -/
def branchKeys : List String :=
  ["any", "all", "none"]

/-- One step of writing a condition otherwise. -/
inductive ConditionRewrites : Node → Node → Prop
  | property {v w : Node} {ending : Ending}
      (inside : Rewrites valueSlots Node.Takeable v w) :
      ConditionRewrites (.record [("when-property-is", v)] ending)
        (.record [("when-property-is", w)] ending)
  | child {key : String} {before after : List Node} {v w : Node} {ending outer : Ending}
      (branch : key ∈ branchKeys) (inside : ConditionRewrites v w) :
      ConditionRewrites (.record [(key, .list (before ++ v :: after) ending)] outer)
        (.record [(key, .list (before ++ w :: after) ending)] outer)

def bindingSlots : List Slot :=
  [{ key := "name" }, textsSlot "values", { key := "fallback", defaults := [.null] }]

def configurationSlots : List Slot :=
  [{ key := "name" }, { key := "multi-valued", defaults := [.truth false] }, textsSlot "values"]

def propertyVariants : List (String × List Slot) :=
  [("binding", bindingSlots), ("configuration", configurationSlots)]

def restrictSlots : List Slot :=
  [{ key := "name" }, { key := "values" }]

def clearSlots : List Slot :=
  [{ key := "name" }]

def directiveVariants : List (String × List Slot) :=
  [("set-property", restrictSlots), ("set-property-fallback", valueSlots),
    ("set-configuration-property", valueSlots), ("extend-configuration-property", valueSlots),
    ("clear-configuration-property", clearSlots)]

/-- A type, a class by default. -/
def typeSlots : List Slot :=
  [{ key := "name" },
    { key := "kind", defaults := [.text "class", .record [("class", .null)] .closed] },
    { key := "extends", defaults := [.null] }, textsSlot "implements"]

def whenSlot : Slot :=
  listSlot "when" ConditionRewrites

def classRuleSlots : List Slot :=
  [{ key := "class" }, whenSlot]

def failRuleSlots : List Slot :=
  [whenSlot]

def ruleVariants : List (String × List Slot) :=
  [("replace-with", classRuleSlots), ("generate-with", classRuleSlots), ("fail", failRuleSlots)]

def manifestSlots : List Slot :=
  [{ key := "name" },
    listSlot "property" (TaggedRewrites "kind" propertyVariants Node.Takeable),
    listSlot "configure" (TaggedRewrites "op" directiveVariants Node.Takeable),
    listSlot "type" (Rewrites typeSlots Node.Passable),
    listSlot "rule" (TaggedRewrites "kind" ruleVariants Node.Takeable)]

/-- A document that says the same as another, by steps of rewriting and their converses.  The
manifest itself takes no keys that it does not know. -/
def Respelled : Node → Node → Prop :=
  Relation.EqvGen (Rewrites manifestSlots fun _ => False)

/-! ## Conditions -/

def valueIntakes : List Intake :=
  [.required "name" Decoder.text, .required "value" Decoder.text]

theorem propertyIsLayout_made : propertyIsLayout.MadeOf valueIntakes where
  fields := rfl
  builds told _ _ _ := by
    simp only [valueIntakes, List.forall_mem_cons] at told
    obtain ⟨name, value, -⟩ := told
    exact Attempt.bind_ok_congr (required_congr name) fun _ =>
      Attempt.bind_ok_congr (required_congr value) fun _ => Iff.rfl

/-- A field without a default whose value is written in one way only. -/
theorem suits_required {α : Type} (key : String) (decode : Decoder α) :
    (Intake.required key decode).Suits { key } where
  key := rfl
  defaults _ member := absurd member List.not_mem_nil
  rewrites _ _ rewritten := rewritten.elim

theorem alike_propertyIs {v w : Node} (inside : Rewrites valueSlots Node.Takeable v w) :
    Alike (propertyIsLayout.decoder ignored (.error .invalidLength)) v w :=
  propertyIsLayout_made.alike_of_rewrites
    (.cons (suits_required ..) (.cons (suits_required ..) .nil)) (by decide) Tagged.lets_ignored _
    inside

theorem condition_propertyIs (value : Node) (ending : Ending) :
    condition (.record [("when-property-is", value)] ending) =
      propertyIsLayout.decoder ignored (.error .invalidLength) value := by
  cases value <;> rfl

theorem conditionList_eq_mapM (items : List Node) :
    conditionList items = items.mapM condition := by
  induction items with
  | nil => rfl
  | cons item rest ih =>
      rw [conditionList, ih, List.mapM_cons]

/-- How a branch is made of its children. -/
def branchOf (key : String) : List Condition → Condition :=
  if key = "any" then .any else if key = "all" then .all else .noneOf

theorem condition_branch {key : String} (branch : key ∈ branchKeys) (items : List Node)
    (ending outer : Ending) : condition (.record [(key, .list items ending)] outer) =
      (items.mapM condition).map (branchOf key) := by
  rw [← conditionList_eq_mapM]
  simp only [branchKeys, List.mem_cons, List.not_mem_nil, or_false] at branch
  obtain rfl | rfl | rfl := branch <;> rfl

theorem takeable_condition {node other : Node} (rewritten : ConditionRewrites node other) :
    node.Takeable ↔ other.Takeable := by
  induction rewritten with
  | property inside =>
      refine hereditary_takeable.member_replaced ?_ [] [] _ _
      exact hereditary_takeable.rewrites (by simp [valueSlots]) (by simp [valueSlots])
        (fun _ fits => fits) inside
  | child _ _ ih =>
      exact hereditary_takeable.member_replaced (hereditary_takeable.item_replaced ih _ _ _)
        [] [] _ _

/-- A condition that is rewritten is read alike, whatever stands around it. -/
theorem alike_condition {node other : Node} (rewritten : ConditionRewrites node other) :
    Alike condition node other := by
  induction rewritten with
  | property inside =>
      intro c
      rw [condition_propertyIs, condition_propertyIs]
      exact alike_propertyIs inside c
  | child branch _ ih =>
      intro c
      rw [condition_branch branch, condition_branch branch, Attempt.map_ok_iff,
        Attempt.map_ok_iff]
      exact exists_congr fun children => and_congr_left fun _ => ih.mapM _ _ children

theorem alike_conditions {node other : Node} (rewritten : OneItem ConditionRewrites node other) :
    Alike conditions node other := by
  obtain ⟨inside⟩ := rewritten
  intro cs
  rw [conditions, conditions, conditionList_eq_mapM, conditionList_eq_mapM]
  exact (alike_condition inside).mapM _ _ cs

/-! ## Properties, directives, types and rules -/

theorem suits_withDefault {α : Type} {key : String} {decode : Decoder α} {default : α}
    {defaults : List Node} (decodes : ∀ node ∈ defaults, decode node = .ok default) :
    (Intake.withDefault key decode default).Suits { key, defaults } where
  key := rfl
  defaults node member := ⟨default, rfl, decodes node member⟩
  rewrites _ _ rewritten := rewritten.elim

theorem suits_texts (key : String) : (Intake.withDefault key texts []).Suits (textsSlot key) :=
  suits_withDefault (List.forall_mem_singleton.2 rfl)

theorem suits_listSlot {α : Type} {key : String} {decode : Decoder (List α)}
    {rewrites : Node → Node → Prop} (empty : decode (.list [] .closed) = .ok [])
    (step : ∀ v w, OneItem rewrites v w → Alike decode v w) :
    (Intake.withDefault key decode []).Suits (listSlot key rewrites) where
  key := rfl
  defaults := List.forall_mem_singleton.2 ⟨[], rfl, empty⟩
  rewrites := step

def bindingIntakes : List Intake :=
  [.required "name" Decoder.text, .withDefault "values" texts [],
    .withDefault "fallback" (Decoder.optional Decoder.text) none]

theorem bindingLayout_made : bindingLayout.MadeOf bindingIntakes where
  fields := rfl
  builds told _ _ _ := by
    simp only [bindingIntakes, List.forall_mem_cons] at told
    obtain ⟨name, values, fallback, -⟩ := told
    exact Attempt.bind_ok_congr (required_congr name) fun _ =>
      Attempt.bind_ok_congr (withDefault_congr values) fun _ =>
      Attempt.bind_ok_congr (withDefault_congr fallback) fun _ => Iff.rfl

theorem reads_binding :
    propertyTagged.Reads "binding" bindingSlots bindingLayout bindingIntakes where
  finds := rfl
  made := bindingLayout_made
  suits := .cons (suits_required ..) <| .cons (suits_texts _) <|
    .cons (suits_withDefault (List.forall_mem_singleton.2 rfl)) .nil
  distinct := by decide
  defaults := by simp [bindingSlots, textsSlot]
  values := by simp [bindingSlots, textsSlot]

def configurationIntakes : List Intake :=
  [.required "name" Decoder.text, .withDefault "multi-valued" Decoder.truth false,
    .withDefault "values" texts []]

theorem configurationLayout_made : configurationLayout.MadeOf configurationIntakes where
  fields := rfl
  builds told _ _ _ := by
    simp only [configurationIntakes, List.forall_mem_cons] at told
    obtain ⟨name, multi, values, -⟩ := told
    exact Attempt.bind_ok_congr (required_congr name) fun _ =>
      Attempt.bind_ok_congr (withDefault_congr multi) fun _ =>
      Attempt.bind_ok_congr (withDefault_congr values) fun _ => Iff.rfl

theorem reads_configuration : propertyTagged.Reads "configuration" configurationSlots
    configurationLayout configurationIntakes where
  finds := rfl
  made := configurationLayout_made
  suits := .cons (suits_required ..) <|
    .cons (suits_withDefault (List.forall_mem_singleton.2 rfl)) <|
    .cons (suits_texts _) .nil
  distinct := by decide
  defaults := by simp [configurationSlots, textsSlot]
  values := by simp [configurationSlots, textsSlot]

/-- A property that is rewritten is read alike. -/
theorem alike_property (node other : Node)
    (rewritten : TaggedRewrites "kind" propertyVariants Node.Takeable node other) :
    Alike (propertyTagged.decoder none) node other := by
  refine propertyTagged.alike_of_rewrites ?_ rewritten
  exact List.forall_mem_cons.2 ⟨⟨_, _, reads_binding⟩,
    List.forall_mem_singleton.2 ⟨_, _, reads_configuration⟩⟩

theorem valueLayout_made (directive : String → String → Directive) :
    (valueLayout directive).MadeOf valueIntakes where
  fields := rfl
  builds told _ _ _ := by
    simp only [valueIntakes, List.forall_mem_cons] at told
    obtain ⟨name, value, -⟩ := told
    exact Attempt.bind_ok_congr (required_congr name) fun _ =>
      Attempt.bind_ok_congr (required_congr value) fun _ => Iff.rfl

theorem reads_value {name : String} {directive : String → String → Directive}
    (finds : directiveTagged.variants.lookup name = some (valueLayout directive)) :
    directiveTagged.Reads name valueSlots (valueLayout directive) valueIntakes where
  finds := finds
  made := valueLayout_made directive
  suits := .cons (suits_required ..) (.cons (suits_required ..) .nil)
  distinct := by decide
  defaults := by simp [valueSlots]
  values := by simp [valueSlots]

def restrictIntakes : List Intake :=
  [.required "name" Decoder.text, .required "values" texts]

theorem reads_restrict :
    directiveTagged.Reads "set-property" restrictSlots restrictLayout restrictIntakes where
  finds := rfl
  made := {
    fields := rfl
    builds := fun told _ _ _ => by
      simp only [restrictIntakes, List.forall_mem_cons] at told
      obtain ⟨name, values, -⟩ := told
      exact Attempt.bind_ok_congr (required_congr name) fun _ =>
        Attempt.bind_ok_congr (required_congr values) fun _ => Iff.rfl }
  suits := .cons (suits_required ..) (.cons (suits_required ..) .nil)
  distinct := by decide
  defaults := by simp [restrictSlots]
  values := by simp [restrictSlots]

def clearIntakes : List Intake :=
  [.required "name" Decoder.text]

theorem reads_clear : directiveTagged.Reads "clear-configuration-property" clearSlots clearLayout
    clearIntakes where
  finds := rfl
  made := {
    fields := rfl
    builds := fun told _ _ _ =>
      Attempt.bind_ok_congr (required_congr (told _ List.mem_cons_self)) fun _ => Iff.rfl }
  suits := .cons (suits_required ..) .nil
  distinct := by decide
  defaults := by simp [clearSlots]
  values := by simp [clearSlots]

/-- A directive that is rewritten is read alike. -/
theorem alike_directive (node other : Node)
    (rewritten : TaggedRewrites "op" directiveVariants Node.Takeable node other) :
    Alike (directiveTagged.decoder none) node other := by
  refine directiveTagged.alike_of_rewrites ?_ rewritten
  simp only [directiveVariants, List.forall_mem_cons]
  exact ⟨⟨_, _, reads_restrict⟩, ⟨_, _, reads_value rfl⟩, ⟨_, _, reads_value rfl⟩,
    ⟨_, _, reads_value rfl⟩, ⟨_, _, reads_clear⟩, List.forall_mem_nil _⟩

/-! ### Types -/

def typeIntakes : List Intake :=
  [.required "name" Decoder.text, .withDefault "kind" (choice .json kinds) .classKind,
    .withDefault "extends" (Decoder.optional Decoder.text) none,
    .withDefault "implements" texts []]

theorem typeLayout_made : (typeLayout .json).MadeOf typeIntakes where
  fields := rfl
  builds told _ _ _ := by
    simp only [typeIntakes, List.forall_mem_cons] at told
    obtain ⟨name, kind, parent, interfaces, -⟩ := told
    exact Attempt.bind_ok_congr (required_congr name) fun _ =>
      Attempt.bind_ok_congr (withDefault_congr kind) fun _ =>
      Attempt.bind_ok_congr (withDefault_congr parent) fun _ =>
      Attempt.bind_ok_congr (withDefault_congr interfaces) fun _ => Iff.rfl

theorem lets_skipped : Stranger.Lets skipped Node.Passable where
  foreign _ _ passable := passable
  shuffled _ _ _ inside := hereditary_passable.shuffled inside

/-- A type that is rewritten is read alike. -/
theorem alike_type (node other : Node) (rewritten : Rewrites typeSlots Node.Passable node other) :
    Alike ((typeLayout .json).decoder skipped (surplus .json)) node other := by
  refine typeLayout_made.alike_of_rewrites ?_ (by decide) lets_skipped _ rewritten
  exact .cons (suits_required ..) <|
    .cons (suits_withDefault (List.forall_mem_cons.2 ⟨rfl, List.forall_mem_singleton.2 rfl⟩)) <|
    .cons (suits_withDefault (List.forall_mem_singleton.2 rfl)) <|
    .cons (suits_texts _) .nil

/-! ### Rules -/

def classRuleIntakes : List Intake :=
  [.required "class" Decoder.text, .withDefault "when" conditions []]

theorem suits_when : (Intake.withDefault "when" conditions []).Suits whenSlot :=
  suits_listSlot rfl fun _ _ => alike_conditions

theorem takeable_when (v w : Node) (rewritten : whenSlot.rewrites v w) :
    v.Takeable ↔ w.Takeable :=
  hereditary_takeable.oneItem (fun _ _ => takeable_condition) rewritten

theorem reads_classRule {name : String} {action : String → Action}
    (finds : ruleTagged.variants.lookup name = some (classRuleLayout action)) :
    ruleTagged.Reads name classRuleSlots (classRuleLayout action) classRuleIntakes where
  finds := finds
  made := {
    fields := rfl
    builds := fun told _ _ _ => by
      simp only [classRuleIntakes, List.forall_mem_cons] at told
      obtain ⟨name, roots, -⟩ := told
      exact Attempt.bind_ok_congr (required_congr name) fun _ =>
        Attempt.bind_ok_congr (withDefault_congr roots) fun _ => Iff.rfl }
  suits := .cons (suits_required ..) (.cons suits_when .nil)
  distinct := by decide
  defaults := by simp [classRuleSlots, whenSlot, listSlot]
  values := List.forall_mem_cons.2
    ⟨fun _ _ rewritten => rewritten.elim, List.forall_mem_singleton.2 takeable_when⟩

def failRuleIntakes : List Intake :=
  [.withDefault "when" conditions []]

theorem reads_failRule :
    ruleTagged.Reads "fail" failRuleSlots failRuleLayout failRuleIntakes where
  finds := rfl
  made := {
    fields := rfl
    builds := fun told _ _ _ =>
      Attempt.bind_ok_congr (withDefault_congr (told _ List.mem_cons_self)) fun _ =>
        Iff.rfl }
  suits := .cons suits_when .nil
  distinct := by decide
  defaults := by simp [failRuleSlots, whenSlot, listSlot]
  values := List.forall_mem_singleton.2 takeable_when

/-- A rule that is rewritten is read alike. -/
theorem alike_rule (node other : Node)
    (rewritten : TaggedRewrites "kind" ruleVariants Node.Takeable node other) :
    Alike (ruleTagged.decoder none) node other := by
  refine ruleTagged.alike_of_rewrites ?_ rewritten
  simp only [ruleVariants, List.forall_mem_cons]
  exact ⟨⟨_, _, reads_classRule rfl⟩, ⟨_, _, reads_classRule rfl⟩, ⟨_, _, reads_failRule⟩,
    List.forall_mem_nil _⟩

/-! ## Manifests -/

/-- The layout of a manifest with some room inside of its tagged records. -/
def layoutWithin (room : Option Nat) : Layout Manifest where
  fields :=
    [.of "name" Decoder.text, .of "property" (Decoder.list (propertyTagged.decoder room)),
      .of "configure" (Decoder.list (directiveTagged.decoder room)), .of "type" (typeList .json),
      .of "rule" (Decoder.list (ruleTagged.decoder room))]
  build members missing := do
    let name ← Field.required members missing "name" Decoder.text
    let properties ← Field.withDefault members "property"
      (Decoder.list (propertyTagged.decoder room)) []
    let directives ← Field.withDefault members "configure"
      (Decoder.list (directiveTagged.decoder room)) []
    let types ← Field.withDefault members "type" (typeList .json) []
    let rules ← Field.withDefault members "rule" (Decoder.list (ruleTagged.decoder room)) []
    pure { name, properties, directives, types, rules }

/-- Take a manifest out of a document with some room inside of its tagged records. -/
def decoderWithin (room : Option Nat) : Decoder Manifest :=
  (layoutWithin room).decoder (refused (layoutWithin room).names) (surplus .json)

theorem decoder_eq_decoderWithin : decoder .json = decoderWithin (some 124) :=
  rfl

def manifestIntakes (room : Option Nat) : List Intake :=
  [.required "name" Decoder.text,
    .withDefault "property" (Decoder.list (propertyTagged.decoder room)) [],
    .withDefault "configure" (Decoder.list (directiveTagged.decoder room)) [],
    .withDefault "type" (typeList .json) [],
    .withDefault "rule" (Decoder.list (ruleTagged.decoder room)) []]

theorem layoutWithin_made (room : Option Nat) :
    (layoutWithin room).MadeOf (manifestIntakes room) where
  fields := rfl
  builds told _ _ _ := by
    simp only [manifestIntakes, List.forall_mem_cons] at told
    obtain ⟨name, properties, directives, types, rules, -⟩ := told
    exact Attempt.bind_ok_congr (required_congr name) fun _ =>
      Attempt.bind_ok_congr (withDefault_congr properties) fun _ =>
      Attempt.bind_ok_congr (withDefault_congr directives) fun _ =>
      Attempt.bind_ok_congr (withDefault_congr types) fun _ =>
      Attempt.bind_ok_congr (withDefault_congr rules) fun _ => Iff.rfl

theorem lets_refused (names : List String) : Stranger.Lets (refused names) fun _ => False where
  foreign _ _ fits := fits.elim
  shuffled _ _ _ _ := Iff.rfl

/-- Without a limit to brackets, respellings are read alike. -/
theorem alike_of_respelled {root other : Node} (respelled : Respelled root other) :
    Alike (decoderWithin none) root other := by
  refine alike_of_eqvGen (fun node next rewritten => ?_) respelled
  refine (layoutWithin_made none).alike_of_rewrites ?_ (by decide) (lets_refused _) _ rewritten
  exact .cons (suits_required ..) <|
    .cons (suits_listSlot rfl fun _ _ => alike_of_oneItem alike_property) <|
    .cons (suits_listSlot rfl fun _ _ => alike_of_oneItem alike_directive) <|
    .cons (suits_listSlot rfl fun _ _ => alike_of_oneItem alike_type) <|
    .cons (suits_listSlot rfl fun _ _ => alike_of_oneItem alike_rule) .nil

/-! ## Room for brackets -/

/-- So high may the values in a manifest be with some room inside of its tagged records. -/
def Low (room : Option Nat) (node : Node) : Prop :=
  ∀ n, room = some n → node.height ≤ n + 2

theorem refines_text (room : Option Nat) (name : String) :
    Field.Refines (Low room) (.of name Decoder.text) (.of name Decoder.text) :=
  ⟨rfl, fun _ _ passes => passes⟩

theorem refines_tagged {α : Type} (tagged : Tagged α) (room other : Option Nat) (name : String) :
    Field.Refines (Low other) (.of name (Decoder.list (tagged.decoder room)))
      (.of name (Decoder.list (tagged.decoder other))) where
  name := rfl
  check v low passes := by
    obtain ⟨values, read⟩ := check_ok_iff.1 passes
    exact check_ok_iff.2 ⟨values, Tagged.list_room read low⟩

theorem layoutWithin_refines (room other : Option Nat) :
    (layoutWithin room).Refines (Low other) (layoutWithin other) where
  fields := .cons (refines_text ..) <| .cons (refines_tagged ..) <| .cons (refines_tagged ..) <|
    .cons ⟨rfl, fun _ _ passes => passes⟩ <| .cons (refines_tagged ..) .nil
  builds := by
    intro members all missing value built
    obtain ⟨name, named, rest⟩ := Attempt.bind_ok_iff.1 built
    obtain ⟨properties, declared, rest⟩ := Attempt.bind_ok_iff.1 rest
    obtain ⟨directives, directed, rest⟩ := Attempt.bind_ok_iff.1 rest
    obtain ⟨types, typed, rest⟩ := Attempt.bind_ok_iff.1 rest
    obtain ⟨rules, ruled, same⟩ := Attempt.bind_ok_iff.1 rest
    have mono {α : Type} (tagged : Tagged α) (values : List α) : ∀ v, Low other v →
        Decoder.list (tagged.decoder room) v = .ok values →
          Decoder.list (tagged.decoder other) v = .ok values :=
      fun _ low read => Tagged.list_room read low
    exact Attempt.bind_ok_iff.2 ⟨name, named,
      Attempt.bind_ok_iff.2 ⟨properties, withDefault_mono all (mono _ _) declared,
      Attempt.bind_ok_iff.2 ⟨directives, withDefault_mono all (mono _ _) directed,
      Attempt.bind_ok_iff.2 ⟨types, typed,
      Attempt.bind_ok_iff.2 ⟨rules, withDefault_mono all (mono _ _) ruled, same⟩⟩⟩⟩⟩

/-- A manifest is read with any room in which the brackets of the document find place. -/
theorem decoderWithin_room {room other : Option Nat} {root : Node} {manifest : Manifest}
    (read : decoderWithin room root = .ok manifest)
    (low : ∀ n, other = some n → root.height ≤ n + 3) :
    decoderWithin other root = .ok manifest := by
  refine (layoutWithin_refines room other).decoder (fun v part n same => ?_) read
  have inside := Node.height_part part
  have outside := low n same
  omega

/-! ## Respellings -/

/-- Respellings that keep within the brackets are read as the same manifest. -/
theorem decoder_of_respelled {root other : Node} {manifest : Manifest}
    (read : decoder .json root = .ok manifest) (respelled : Respelled root other)
    (low : other.height ≤ 127) : decoder .json other = .ok manifest := by
  rw [decoder_eq_decoderWithin] at read ⊢
  have unlimited : decoderWithin none root = .ok manifest :=
    decoderWithin_room read fun n same => by cases same
  refine decoderWithin_room ((alike_of_respelled respelled manifest).1 unlimited) ?_
  intro n same
  cases same
  exact low

theorem ofText_ok_iff {text : String} {manifest : Manifest} :
    ofText .json text = .ok manifest ↔
      decoder .json (Json.read text).1 = .ok manifest ∧ (Json.read text).2 = false := by
  show (decoder .json (Json.read text).1).bind
    (fun value => if (Json.read text).2 then .error .malformed else pure value) = _ ↔ _
  rw [Attempt.bind_ok_iff]
  cases (Json.read text).2 with
  | true => exact iff_of_false (fun ⟨_, _, refused⟩ => nomatch refused) fun both => nomatch both.2
  | false =>
      rw [and_iff_left rfl]
      exact ⟨fun ⟨_, read, same⟩ => Except.ok.inj same ▸ read, fun read => ⟨_, read, rfl⟩⟩

/-- **Equivalent spellings are read alike.**  However the document of a text that is accepted is
respelled, as long as it keeps within 127 brackets, it is accepted again and is the same manifest,
and so is every text in which it is written. -/
theorem respelled_alike {text : String} {manifest : Manifest}
    (accepted : ofText .json text = .ok manifest) {root : Node}
    (respelled : Respelled (Json.read text).1 root) (low : root.height ≤ 127) :
    decoder .json root = .ok manifest ∧
      ∀ other, Json.read other = (root, false) → ofText .json other = .ok manifest := by
  have read := decoder_of_respelled (ofText_ok_iff.1 accepted).1 respelled low
  refine ⟨read, fun other written => ofText_ok_iff.2 ?_⟩
  rw [written]
  exact ⟨read, rfl⟩

namespace Example

/-- A manifest with one rule. -/
def refusing : Manifest :=
  { name := "m", rules := [{ action := .fail }] }

/-- Its document, the rule written as `rule`. -/
def around (rule : Node) : Node :=
  .record [("name", .text "m"), ("rule", .list [rule] .closed)] .closed

/-- The rule says more than it has to, and something that nothing asks for. -/
def wordyText : String :=
  "\x7b\"name\":\"m\",\"rule\":[\x7b\"kind\":\"fail\",\"note\":7,\"when\":[]\x7d]\x7d"

/-- The rule is a list, and before it stands a member that says no more than leaving it out. -/
def briefText : String :=
  "\x7b\"configure\":[],\"name\":\"m\",\"rule\":[[\"fail\"]]\x7d"

def briefRoot : Node :=
  .record [("configure", .list [] .closed), ("name", .text "m"),
    ("rule", .list [.list [.text "fail"] .closed] .closed)] .closed

theorem respelled_rule {v w : Node} (named : Names "kind" "fail" v)
    (still : Names "kind" "fail" w)
    (rewritten : Rewrites ({ key := "kind" } :: failRuleSlots) Node.Takeable v w) :
    Respelled (around v) (around w) := by
  have known : ("fail", failRuleSlots) ∈ ruleVariants := by simp [ruleVariants]
  have item : OneItem (TaggedRewrites "kind" ruleVariants Node.Takeable) (.list [v] .closed)
      (.list [w] .closed) := @OneItem.item _ [] [] v w .closed (.variant known named still rewritten)
  have slot : listSlot "rule" (TaggedRewrites "kind" ruleVariants Node.Takeable) ∈ manifestSlots := by
    simp [manifestSlots]
  exact .rel _ _ (@Rewrites.value _ _ _ _ _ [("name", .text "m")] [] .closed slot item)

/-! The members of the wordy rule. -/

def tagMember : String × Node := ("kind", .text "fail")

def noteMember : String × Node := ("note", .number .signed)

def whenMember : String × Node := ("when", .list [] .closed)

theorem respelled_brief : Respelled (Json.read wordyText).1 briefRoot := by
  have tokens : Json.tokens wordyText.toList =
      [.openRecord, .text "name", .colon, .text "m", .comma, .text "rule", .colon, .openList,
        .openRecord, .text "kind", .colon, .text "fail", .comma, .text "note", .colon,
        .number true, .comma, .text "when", .colon, .openList, .closeList, .closeRecord,
        .closeList, .closeRecord] := by
    decide +kernel
  have read : (Json.read wordyText).1 =
      around (.record [tagMember, noteMember, whenMember] .closed) := by
    rw [Json.read, tokens]
    rfl
  have moved : Respelled (around (.record [tagMember, noteMember, whenMember] .closed))
      (around (.record [noteMember, whenMember, tagMember] .closed)) :=
    respelled_rule List.mem_cons_self (.tail _ (.tail _ List.mem_cons_self))
      (.permuted ((List.Perm.swap noteMember tagMember [whenMember]).trans
        ((List.Perm.swap whenMember tagMember []).cons noteMember)))
  have unnoted : Respelled (around (.record [whenMember, tagMember] .closed))
      (around (.record [noteMember, whenMember, tagMember] .closed)) :=
    respelled_rule (.tail _ List.mem_cons_self) (.tail _ (.tail _ List.mem_cons_self))
      (.stranger (by decide) (Node.takeable_number nofun))
  have leftOut : Respelled (around (.record [tagMember] .closed))
      (around (.record [whenMember, tagMember] .closed)) :=
    respelled_rule List.mem_cons_self (.tail _ List.mem_cons_self)
      (@Rewrites.default _ _ whenSlot _ _ _ (by simp [failRuleSlots]) List.mem_cons_self
        (by decide))
  have listed : Respelled (around (.record [tagMember] .closed))
      (around (.list [.text "fail"] .closed)) :=
    respelled_rule List.mem_cons_self rfl (@Rewrites.listed _ _ [.text "fail"] (by decide))
  have added : Respelled (around (.list [.text "fail"] .closed)) briefRoot := by
    have slot : listSlot "configure" (TaggedRewrites "op" directiveVariants Node.Takeable) ∈
        manifestSlots := by
      simp [manifestSlots]
    exact .rel _ _ (.default slot List.mem_cons_self (by decide))
  rw [read]
  exact moved.trans _ _ _ <| (unnoted.symm _ _).trans _ _ _ <|
    (leftOut.symm _ _).trans _ _ _ <| listed.trans _ _ _ added

theorem read_brief : Json.read briefText = (briefRoot, false) := by
  with_unfolding_all rfl

theorem briefText_alike :
    ofText .json wordyText = .ok refusing ∧ Respelled (Json.read wordyText).1 briefRoot ∧
      briefRoot.height ≤ 127 ∧ ofText .json briefText = .ok refusing := by
  have accepted : ofText .json wordyText = .ok refusing := by decide +kernel
  have low : briefRoot.height ≤ 127 := by decide
  exact ⟨accepted, respelled_brief, low,
    (respelled_alike accepted respelled_brief low).2 briefText read_brief⟩

end Example

end DeferredBinding.Manifest
