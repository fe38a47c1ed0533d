/-
# Proofs.Module.Violations -- which manifests are valid, and what is wrong with the others

`Manifest.Valid` says what makes a manifest valid, condition by condition, without an order
among them and without a table.  `Manifest.violations` lists what is wrong with a manifest
in the order of the file.  Both speak of the manifest as a whole: a property is what all its
declarations say, wherever they stand, and the first of them says which kind it has and
whether it takes several values.

A manifest is valid just where nothing is wrong with it (`violations_eq_nil_iff`).
-/
import DeferredBinding.Proofs.Identifier
import DeferredBinding.Proofs.Module.PropertyTable

namespace DeferredBinding

set_option autoImplicit false

/-! ## Comparisons -/

namespace Condition

/-- A comparison of the property with the value stands in a condition, at any depth. -/
inductive Compares (property value : String) : Condition → Prop
  | here : Compares property value (.propertyIs property value)
  | all {c : Condition} {children : List Condition} (member : c ∈ children)
      (below : Compares property value c) : Compares property value (.all children)
  | any {c : Condition} {children : List Condition} (member : c ∈ children)
      (below : Compares property value c) : Compares property value (.any children)
  | noneOf {c : Condition} {children : List Condition} (member : c ∈ children)
      (below : Compares property value c) : Compares property value (.noneOf children)

mutual

theorem mem_comparisons_iff {property value : String} :
    ∀ c : Condition, (property, value) ∈ comparisons c ↔ Compares property value c
  | .typeIs name => ⟨nofun, nofun⟩
  | .assignableTo name => ⟨nofun, nofun⟩
  | .propertyIs name other => by
      rw [comparisons, List.mem_singleton, Prod.mk.injEq]
      constructor
      · rintro ⟨rfl, rfl⟩
        exact .here
      · rintro ⟨⟩
        exact ⟨rfl, rfl⟩
  | .all children => by
      rw [comparisons, mem_comparisonsList_iff children]
      exact ⟨fun ⟨_, member, below⟩ => .all member below,
        fun | .all member below => ⟨_, member, below⟩⟩
  | .any children => by
      rw [comparisons, mem_comparisonsList_iff children]
      exact ⟨fun ⟨_, member, below⟩ => .any member below,
        fun | .any member below => ⟨_, member, below⟩⟩
  | .noneOf children => by
      rw [comparisons, mem_comparisonsList_iff children]
      exact ⟨fun ⟨_, member, below⟩ => .noneOf member below,
        fun | .noneOf member below => ⟨_, member, below⟩⟩

theorem mem_comparisonsList_iff {property value : String} :
    ∀ cs : List Condition,
      (property, value) ∈ comparisonsList cs ↔ ∃ c ∈ cs, Compares property value c
  | [] => by simp [comparisonsList]
  | c :: rest => by
      simp only [comparisonsList, List.mem_append, mem_comparisons_iff c,
        mem_comparisonsList_iff rest, List.mem_cons, exists_eq_or_imp]

end

end Condition

namespace Manifest

/-! ## What all declarations of a name say -/

/-- The values a permutation can select by an entry: those of a binding property, and its
fallback. -/
def PropertyEntry.choices : PropertyEntry → List String
  | .binding _ values fallback => values ++ fallback.toList
  | .configuration _ _ _ => []

def Directive.kind : Directive → Property.Kind
  | .restrict _ _ => .binding
  | .setFallback _ _ => .binding
  | .set _ _ => .configuration
  | .append _ _ => .configuration
  | .clear _ => .configuration

section

variable (entries : List PropertyEntry) (name : String)

def firstNamed? : Option PropertyEntry :=
  entries.find? fun entry => entry.name == name

def kindOf? : Option Property.Kind :=
  (firstNamed? entries name).map PropertyEntry.kind

def multiOf : Bool :=
  (firstNamed? entries name).any PropertyEntry.multi

def valuesOf : List String :=
  (about PropertyEntry.name name entries).flatMap PropertyEntry.values

/-- A property of the kind is declared under the name. -/
def Declares (kind : Property.Kind) : Prop :=
  ∃ entry ∈ entries, entry.name = name ∧ entry.kind = kind

/-- A binding property is declared under the name, and the value is defined for it. -/
def Defines (value : String) : Prop :=
  ∃ entry ∈ entries, entry.name = name ∧ entry.kind = .binding ∧ value ∈ entry.values

/-- All declarations of one name are of one kind. -/
def OneKind : Prop :=
  ∀ entry ∈ entries, ∀ other ∈ entries, entry.name = other.name → entry.kind = other.kind

end

/-! ## Valid manifests -/

/-- A directive fits the declarations: its property is declared with its kind, and its
values are such as that property takes. -/
def Fits (entries : List PropertyEntry) : Directive → Prop
  | .restrict name values =>
      Declares entries name .binding ∧ ∀ value ∈ values, Defines entries name value
  | .setFallback name value => Declares entries name .binding ∧ Identifier.Spelled value
  | .set name _ => Declares entries name .configuration
  | .append name _ => Declares entries name .configuration ∧ multiOf entries name = true
  | .clear name => Declares entries name .configuration

/-- What makes a manifest valid. -/
structure Valid (m : Manifest) : Prop where
  /-- the name is not blank -/
  named : ∃ c ∈ m.name.toList, Text.isBlank c = false
  /-- a name stands for one kind of property -/
  kinds : OneKind m.properties
  /-- declared names are identifiers -/
  names : ∀ entry ∈ m.properties, Identifier.Spelled entry.name
  /-- so are the values of binding properties and their fallbacks -/
  choices : ∀ entry ∈ m.properties, ∀ value ∈ entry.choices, Identifier.Spelled value
  /-- a property that takes one value is not given several at once -/
  single : ∀ entry ∈ m.properties, entry.kind = .configuration →
    multiOf m.properties entry.name = false → entry.values.length ≤ 1
  /-- directives are for properties they fit -/
  directives : ∀ directive ∈ m.directives, Fits m.properties directive
  /-- comparisons, at any depth of any rule, are with defined values of binding properties -/
  comparisons : ∀ entry ∈ m.rules, ∀ c ∈ entry.roots, ∀ property value,
    c.Compares property value → Defines m.properties property value

/-! ## Violations -/

/-- What is wrong with texts that must be identifiers. -/
def invalid (texts : List String) : List Property.Error :=
  (texts.filter fun text => !Identifier.valid text).map .invalidName

/-- What is wrong with taking the property of a name for one of the kind. -/
def kindFaults (known : Option Property.Kind) (kind : Property.Kind) (name : String) :
    List Property.Error :=
  match known with
  | none => [.unknown name]
  | some other => if other = kind then [] else [.kindMismatch name other]

/-- What is wrong with how many values a declaration lists. -/
def PropertyEntry.countFaults (entries : List PropertyEntry) :
    PropertyEntry → List Property.Error
  | .binding _ _ _ => []
  | .configuration name _ values =>
      if multiOf entries name = true ∨ values.length ≤ 1 then []
      else [.tooManyValues name values.length]

/-- What is wrong with a declaration: with its kind and name, then with its values and its
fallback. -/
def PropertyEntry.faults (entries : List PropertyEntry) (entry : PropertyEntry) :
    List Property.Error :=
  kindFaults (kindOf? entries entry.name) entry.kind entry.name ++ invalid [entry.name] ++
    (invalid entry.choices ++ entry.countFaults entries)

/-- What is wrong with the values of a directive. -/
def Directive.valueFaults (entries : List PropertyEntry) : Directive → List Property.Error
  | .restrict name values =>
      (values.filter fun value => decide (value ∉ valuesOf entries name)).map
        (.undefinedValue name)
  | .setFallback _ value => invalid [value]
  | .set _ _ => []
  | .append name _ => if multiOf entries name = true then [] else [.notMultiValued name]
  | .clear _ => []

/-- What is wrong with a directive: with the property it is for, and with its values. -/
def Directive.faults (entries : List PropertyEntry) (directive : Directive) :
    List Property.Error :=
  kindFaults (kindOf? entries directive.name) directive.kind directive.name ++
    directive.valueFaults entries

def comparisonFaults (entries : List PropertyEntry) (rule : Nat)
    (comparison : String × String) : List Module.Error :=
  if kindOf? entries comparison.1 = some .binding then
    if comparison.2 ∈ valuesOf entries comparison.1 then []
    else [.property (.undefinedValue comparison.1 comparison.2)]
  else [.unknownProperty rule comparison.1]

/-- What is wrong with a rule at a position: the comparisons of its conditions, left to
right and depth first. -/
def ruleFaults (entries : List PropertyEntry) (placed : RuleEntry × Nat) : List Module.Error :=
  (Condition.comparisonsList placed.1.roots).flatMap (comparisonFaults entries placed.2)

/-- What is wrong with a manifest: with its name, its declarations, its directives, its
rules. -/
def violations (m : Manifest) : List Module.Error :=
  (if Text.allBlank m.name then [.blankName] else []) ++
    ((m.properties.flatMap (PropertyEntry.faults m.properties) ++
      m.directives.flatMap (Directive.faults m.properties)).map .property ++
    m.rules.zipIdx.flatMap (ruleFaults m.properties))

/-! ## Nothing is wrong with a valid manifest -/

theorem invalid_append (texts others : List String) :
    invalid (texts ++ others) = invalid texts ++ invalid others := by
  rw [invalid, List.filter_append, List.map_append]
  rfl

theorem invalid_singleton (text : String) :
    invalid [text] = if Identifier.valid text = true then [] else [.invalidName text] := by
  cases valid : Identifier.valid text with
  | true => simp [invalid, valid]
  | false => simp [invalid, valid]

theorem invalid_eq_nil_iff {texts : List String} :
    invalid texts = [] ↔ ∀ text ∈ texts, Identifier.Spelled text := by
  simp only [invalid, List.map_eq_nil_iff, List.filter_eq_nil_iff, Bool.not_eq_true',
    Bool.not_eq_false, Identifier.valid_iff]

theorem kindFaults_eq_nil_iff {known : Option Property.Kind} {kind : Property.Kind}
    {name : String} : kindFaults known kind name = [] ↔ known = some kind := by
  cases known with
  | none => exact ⟨nofun, nofun⟩
  | some other =>
      by_cases same : other = kind
      · simp [kindFaults, same]
      · simp [kindFaults, same]

section

variable {entries : List PropertyEntry} {name : String}

theorem firstNamed?_some {first : PropertyEntry} (found : firstNamed? entries name = some first) :
    first ∈ entries ∧ first.name = name :=
  ⟨List.mem_of_find?_eq_some found, by simpa using List.find?_some found⟩

theorem firstNamed?_of_mem {entry : PropertyEntry} (member : entry ∈ entries) :
    ∃ first, firstNamed? entries entry.name = some first := by
  refine Option.isSome_iff_exists.1 ?_
  rw [firstNamed?, List.find?_isSome]
  exact ⟨entry, member, beq_self_eq_true _⟩

theorem firstNamed?_eq_none_iff :
    firstNamed? entries name = none ↔ name ∉ entries.map PropertyEntry.name := by
  rw [firstNamed?, List.find?_eq_none, List.mem_map]
  constructor
  · rintro absent ⟨entry, member, rfl⟩
    exact absent entry member (beq_self_eq_true _)
  · intro absent entry member same
    exact absent ⟨entry, member, eq_of_beq same⟩

/-- The first declaration of a name is one of those before, or the one that follows. -/
theorem firstNamed?_split (done rest : List PropertyEntry) (entry : PropertyEntry) :
    firstNamed? (done ++ entry :: rest) entry.name =
      (firstNamed? done entry.name).or (some entry) := by
  have same : (entry.name == entry.name) = true := beq_self_eq_true _
  rw [firstNamed?, List.find?_append, List.find?_cons, same]
  rfl

/-- Names have one kind where each declaration has the kind of the first of its name. -/
theorem oneKind_iff :
    OneKind entries ↔ ∀ entry ∈ entries, kindOf? entries entry.name = some entry.kind := by
  constructor
  · intro one entry member
    obtain ⟨first, found⟩ := firstNamed?_of_mem member
    obtain ⟨there, named⟩ := firstNamed?_some found
    rw [kindOf?, found, Option.map_some, one first there entry member named]
  · intro firsts entry member other there same
    have kind := firsts entry member
    rw [same, firsts other there] at kind
    exact (Option.some.inj kind).symm

theorem kindOf?_eq_some_iff (one : OneKind entries) {kind : Property.Kind} :
    kindOf? entries name = some kind ↔ Declares entries name kind := by
  constructor
  · intro known
    obtain ⟨first, found, same⟩ := Option.map_eq_some_iff.1 known
    obtain ⟨member, named⟩ := firstNamed?_some found
    exact ⟨first, member, named, same⟩
  · rintro ⟨entry, member, rfl, rfl⟩
    exact oneKind_iff.1 one entry member

theorem mem_valuesOf_iff {value : String} :
    value ∈ valuesOf entries name ↔
      ∃ entry ∈ entries, entry.name = name ∧ value ∈ entry.values := by
  simp only [valuesOf, List.mem_flatMap, mem_about_iff, and_assoc]

/-- Where names have one kind, the values of a binding property are all defined for it. -/
theorem defines_iff (one : OneKind entries) {value : String} :
    Defines entries name value ↔
      kindOf? entries name = some .binding ∧ value ∈ valuesOf entries name := by
  rw [kindOf?_eq_some_iff one, mem_valuesOf_iff]
  constructor
  · rintro ⟨entry, member, named, kind, listed⟩
    exact ⟨⟨entry, member, named, kind⟩, entry, member, named, listed⟩
  · rintro ⟨⟨first, there, same, kind⟩, entry, member, named, listed⟩
    have other : entry.kind = first.kind := one entry member first there (named.trans same.symm)
    exact ⟨entry, member, named, other.trans kind, listed⟩

theorem PropertyEntry.faults_eq_nil_iff {entry : PropertyEntry} :
    entry.faults entries = [] ↔
      kindOf? entries entry.name = some entry.kind ∧ Identifier.Spelled entry.name ∧
        (∀ value ∈ entry.choices, Identifier.Spelled value) ∧
        (entry.kind = .configuration → multiOf entries entry.name = false →
          entry.values.length ≤ 1) := by
  rw [faults, List.append_eq_nil_iff, List.append_eq_nil_iff, List.append_eq_nil_iff,
    kindFaults_eq_nil_iff, invalid_eq_nil_iff, invalid_eq_nil_iff, List.forall_mem_singleton,
    and_assoc]
  refine and_congr_right fun _ => and_congr_right fun _ => and_congr_right fun _ => ?_
  cases entry with
  | binding name values fallback => exact ⟨fun _ => nofun, fun _ => rfl⟩
  | configuration name multi values =>
      show _ ↔ (_ = _ → multiOf entries name = false → values.length ≤ 1)
      rw [countFaults]
      cases flag : multiOf entries name with
      | true => simp
      | false => simp [kind]

theorem Directive.faults_eq_nil_iff (one : OneKind entries) {directive : Directive} :
    directive.faults entries = [] ↔ Fits entries directive := by
  rw [faults, List.append_eq_nil_iff, kindFaults_eq_nil_iff]
  cases directive with
  | restrict name values =>
      rw [valueFaults, List.map_eq_nil_iff, List.filter_eq_nil_iff, Fits,
        ← kindOf?_eq_some_iff one]
      refine and_congr_right fun known => forall₂_congr fun value _ => ?_
      rw [decide_eq_true_iff, Decidable.not_not, defines_iff one]
      exact (and_iff_right known).symm
  | setFallback name value =>
      rw [valueFaults, invalid_eq_nil_iff, List.forall_mem_singleton, kindOf?_eq_some_iff one]
      rfl
  | set name value =>
      rw [kindOf?_eq_some_iff one]
      exact and_iff_left rfl
  | append name value =>
      rw [kindOf?_eq_some_iff one]
      refine and_congr_right fun _ => ?_
      rw [valueFaults]
      cases multiOf entries name with
      | true => simp
      | false => simp
  | clear name =>
      rw [kindOf?_eq_some_iff one]
      exact and_iff_left rfl

theorem comparisonFaults_eq_nil_iff (one : OneKind entries) {rule : Nat}
    {property value : String} :
    comparisonFaults entries rule (property, value) = [] ↔ Defines entries property value := by
  rw [defines_iff one, comparisonFaults]
  by_cases known : kindOf? entries property = some .binding
  · by_cases listed : value ∈ valuesOf entries property
    · simp [known, listed]
    · simp [known, listed]
  · simp [known]

theorem ruleFaults_eq_nil_iff (one : OneKind entries) {placed : RuleEntry × Nat} :
    ruleFaults entries placed = [] ↔
      ∀ c ∈ placed.1.roots, ∀ property value, c.Compares property value →
        Defines entries property value := by
  rw [ruleFaults, List.flatMap_eq_nil_iff]
  constructor
  · intro clean c member property value compares
    have listed := (Condition.mem_comparisonsList_iff placed.1.roots).2 ⟨c, member, compares⟩
    exact (comparisonFaults_eq_nil_iff one).1 (clean (property, value) listed)
  · rintro defined ⟨property, value⟩ listed
    obtain ⟨c, member, compares⟩ := (Condition.mem_comparisonsList_iff placed.1.roots).1 listed
    exact (comparisonFaults_eq_nil_iff one).2 (defined c member property value compares)

end

theorem allBlank_eq_false_iff {text : String} :
    Text.allBlank text = false ↔ ∃ c ∈ text.toList, Text.isBlank c = false := by
  rw [Text.allBlank, List.all_eq_false]
  simp only [Bool.not_eq_true]

/-- A manifest is valid where nothing is wrong with it. -/
theorem violations_eq_nil_iff {m : Manifest} : m.violations = [] ↔ m.Valid := by
  have blank : (if Text.allBlank m.name = true then [Module.Error.blankName] else []) = [] ↔
      ∃ c ∈ m.name.toList, Text.isBlank c = false := by
    rw [← allBlank_eq_false_iff]
    cases Text.allBlank m.name with
    | true => exact ⟨nofun, nofun⟩
    | false => exact ⟨fun _ => rfl, fun _ => rfl⟩
  simp only [violations, List.append_eq_nil_iff, List.map_eq_nil_iff, List.flatMap_eq_nil_iff,
    blank]
  constructor
  · rintro ⟨named, ⟨entries, directives⟩, rules⟩
    have declared := fun entry member => PropertyEntry.faults_eq_nil_iff.1 (entries entry member)
    have one : OneKind m.properties := oneKind_iff.2 fun entry member => (declared entry member).1
    exact
      { named
        kinds := one
        names := fun entry member => (declared entry member).2.1
        choices := fun entry member => (declared entry member).2.2.1
        single := fun entry member => (declared entry member).2.2.2
        directives := fun directive member =>
          (Directive.faults_eq_nil_iff one).1 (directives directive member)
        comparisons := fun entry member => by
          obtain ⟨rule, there⟩ := List.mem_iff_getElem?.1 member
          have placed : (entry, rule) ∈ m.rules.zipIdx :=
            List.mem_zipIdx_iff_getElem?.2 there
          exact (ruleFaults_eq_nil_iff one).1 (rules (entry, rule) placed) }
  · intro valid
    refine ⟨valid.named, ⟨fun entry member => ?_, fun directive member => ?_⟩,
      fun placed member => ?_⟩
    · exact PropertyEntry.faults_eq_nil_iff.2 ⟨oneKind_iff.1 valid.kinds entry member,
        valid.names entry member, valid.choices entry member, valid.single entry member⟩
    · exact (Directive.faults_eq_nil_iff valid.kinds).2 (valid.directives directive member)
    · exact (ruleFaults_eq_nil_iff valid.kinds).2
        (valid.comparisons placed.1 (List.fst_mem_of_mem_zipIdx member))

end Manifest

end DeferredBinding
