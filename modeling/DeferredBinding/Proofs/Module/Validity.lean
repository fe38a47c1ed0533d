/-
# Proofs.Module.Validity -- a manifest becomes a module, or its first violation is reported

Making a module goes through a manifest once, with a table that is still growing, and ends
at the first thing that does not fit.  `Manifest.violations` reads the whole manifest at
once.  That both meet the same fault first is shown piece by piece: each operation has the
faults that are listed for it (`Attempt.Reports`), provided the table it works on is what
the declarations before it amount to (`Tracks`).

A declaration is the only place where the two differ in what they look at: the table knows
the declarations before it, the list knows those behind it too.  But the first declaration
of a name is before all others, or it is this one (`firstNamed?_split`).
-/
import DeferredBinding.Proofs.FirstFault
import DeferredBinding.Proofs.Module.Violations

namespace DeferredBinding

set_option autoImplicit false

/-! ## Operations on one property -/

namespace Property

open Attempt Manifest

/-- What fails unless a text is an identifier. -/
theorem reports_valid {α : Type} (text : String) (a : α) :
    Reports (if Identifier.valid text = true then .ok a else .error (.invalidName text))
      (invalid [text]) := by
  rw [invalid_singleton]
  exact reports_ite _ _ _

theorem Binding.reports_define (b : Binding) (value : String) :
    Reports (b.define value) (invalid [value]) :=
  reports_valid value _

/-- Values are looked at left to right. -/
theorem Binding.reports_defineAll (b : Binding) (values : List String) :
    Reports (b.defineAll values) (invalid values) := by
  induction values generalizing b with
  | nil => exact .value b
  | cons value rest ih =>
      have split : invalid (value :: rest) = invalid [value] ++ invalid rest :=
        invalid_append [value] rest
      rw [split, defineAll]
      exact (b.reports_define value).bind fun middle _ => ih middle

theorem Binding.reports_setFallback (b : Binding) (value : String) :
    Reports (b.setFallback value) (invalid [value]) :=
  reports_valid value _

theorem Binding.reports_restrict (b : Binding) (values : List String) :
    Reports (b.restrict values)
      ((values.filter fun value => decide (value ∉ b.defined)).map (.undefinedValue b.name)) := by
  rw [restrict, ← List.head?_filter]
  cases values.filter fun value => decide (value ∉ b.defined) with
  | nil => exact .value _
  | cons value others => exact .fault _ _

theorem Configuration.reports_append (c : Configuration) (value : String) :
    Reports (c.append value) (if c.multi = true then [] else [.notMultiValued c.name]) :=
  reports_ite _ _ _

theorem Configuration.reports_setAll {c : Configuration} (single : c.multi = false)
    (values : List String) :
    Reports (c.setAll values)
      (if values.length ≤ 1 then [] else [.tooManyValues c.name values.length]) := by
  rw [setAll, single]
  by_cases few : values.length ≤ 1
  · rw [if_pos few, if_neg (by simpa using few)]
    exact .value _
  · rw [if_neg few, if_pos (by simpa using few)]
    exact .fault _ []

namespace Table

def kind? (t : Table) (name : String) : Option Kind :=
  (t.find? name).map Property.kind

theorem reports_getBinding (t : Table) (name : String) :
    Reports (t.getBinding name) (kindFaults (t.kind? name) .binding name) := by
  rw [getBinding, kind?]
  cases t.find? name with
  | none => exact .fault _ []
  | some p =>
      cases p with
      | binding b => exact .value b
      | configuration c => exact .fault _ []

theorem reports_getConfiguration (t : Table) (name : String) :
    Reports (t.getConfiguration name) (kindFaults (t.kind? name) .configuration name) := by
  rw [getConfiguration, kind?]
  cases t.find? name with
  | none => exact .fault _ []
  | some p =>
      cases p with
      | binding b => exact .fault _ []
      | configuration c => exact .value c

section

variable {t : Table} {name : String} {faults : List Error}

theorem reports_modifyBinding {change : Binding → Except Error Binding}
    (changes : ∀ b, t.find? name = some (.binding b) → Reports (change b) faults) :
    Reports (t.modifyBinding name change) (kindFaults (t.kind? name) .binding name ++ faults) :=
  (t.reports_getBinding name).bind fun b got => (changes b (getBinding_ok_iff.1 got)).map _

theorem reports_modifyConfiguration {change : Configuration → Except Error Configuration}
    (changes : ∀ c, t.find? name = some (.configuration c) → Reports (change c) faults) :
    Reports (t.modifyConfiguration name change)
      (kindFaults (t.kind? name) .configuration name ++ faults) :=
  (t.reports_getConfiguration name).bind fun c got =>
    (changes c (getConfiguration_ok_iff.1 got)).map _

end

/-- What is wrong with declaring a property of the kind: a name that is new must be an
identifier, and one that is known must be of that kind. -/
def declareFaults (known : Option Kind) (kind : Kind) (name : String) : List Error :=
  match known with
  | none => invalid [name]
  | some _ => kindFaults known kind name

theorem reports_declareBinding (t : Table) (name : String) :
    Reports (t.declareBinding name) (declareFaults (t.kind? name) .binding name) := by
  rw [declareBinding, kind?]
  cases t.find? name with
  | none => exact (reports_valid name _).map _
  | some p =>
      cases p with
      | binding b => exact .value t
      | configuration c => exact .fault _ []

theorem reports_declareConfiguration (t : Table) (name : String) (multi : Bool) :
    Reports (t.declareConfiguration name multi)
      (declareFaults (t.kind? name) .configuration name) := by
  rw [declareConfiguration, kind?]
  cases t.find? name with
  | none => exact reports_valid name _
  | some p =>
      cases p with
      | binding b => exact .fault _ []
      | configuration c => exact .value t

theorem kind?_of_declareBinding {t u : Table} {name : String}
    (declares : t.declareBinding name = .ok u) : u.kind? name = some .binding := by
  rw [kind?]
  obtain ⟨b, found, rfl⟩ | ⟨absent, -, rfl⟩ := declareBinding_cases declares
  · rw [found]
    rfl
  · rw [find?_append_of_absent absent rfl]
    rfl

theorem kind?_of_declareConfiguration {t u : Table} {name : String} {multi : Bool}
    (declares : t.declareConfiguration name multi = .ok u) :
    u.kind? name = some .configuration := by
  rw [kind?]
  obtain ⟨c, found, rfl⟩ | ⟨absent, -, rfl⟩ := declareConfiguration_cases declares
  · rw [found]
    rfl
  · rw [find?_append_of_absent absent rfl]
    rfl

end Table

end Property

namespace Module

open Manifest Attempt

/-! ## What a table knows of the declarations so far -/

section

variable {entries : List PropertyEntry} {directives : List Directive} {t : Property.Table}
  {name : String}

theorem Tracks.find?_of_first (tracks : Tracks entries directives t) {first : PropertyEntry}
    (found : firstNamed? entries name = some first) :
    t.find? name = some (first.settled (about PropertyEntry.name name entries)
      (about Directive.name name directives)) := by
  obtain ⟨member, rfl⟩ := firstNamed?_some found
  exact tracks.found first member

theorem Tracks.find?_of_none (tracks : Tracks entries directives t)
    (absent : firstNamed? entries name = none) : t.find? name = none := by
  rw [Property.Table.find?_eq_none_iff, tracks.names, List.mem_eraseDups]
  exact firstNamed?_eq_none_iff.1 absent

theorem Tracks.kind?_eq (tracks : Tracks entries directives t) (name : String) :
    t.kind? name = kindOf? entries name := by
  rw [Property.Table.kind?, kindOf?]
  cases first : firstNamed? entries name with
  | none => rw [tracks.find?_of_none first, Option.map_none, Option.map_none]
  | some entry =>
      rw [tracks.find?_of_first first, Option.map_some, Option.map_some,
        PropertyEntry.settled_kind]

/-- What a table knows goes back to a first declaration. -/
theorem Tracks.first_of_find? (tracks : Tracks entries directives t) {p : Property}
    (there : t.find? name = some p) :
    ∃ first, firstNamed? entries name = some first ∧
      p = first.settled (about PropertyEntry.name name entries)
        (about Directive.name name directives) := by
  cases first : firstNamed? entries name with
  | none =>
      rw [tracks.find?_of_none first] at there
      cases there
  | some entry =>
      rw [tracks.find?_of_first first, Option.some.injEq] at there
      exact ⟨entry, rfl, there.symm⟩

theorem Tracks.multi_eq (tracks : Tracks entries directives t) {c : Property.Configuration}
    (there : t.find? name = some (.configuration c)) : c.multi = multiOf entries name := by
  obtain ⟨first, -, same⟩ := tracks.first_of_find? there
  cases first with
  | binding n values fallback => cases same
  | configuration n multi values =>
      cases same
      show (about PropertyEntry.name name entries).head?.any _ = _
      rw [about, List.head?_filter]
      rfl

theorem Tracks.defined_eq (tracks : Tracks entries directives t) {b : Property.Binding}
    (there : t.find? name = some (.binding b)) :
    b.defined = (valuesOf entries name).eraseDups := by
  obtain ⟨first, -, same⟩ := tracks.first_of_find? there
  cases first with
  | binding n values fallback =>
      cases same
      rfl
  | configuration n multi values => cases same

end

/-! ## Declarations -/

section

variable {entries : List PropertyEntry} {t : Property.Table}

theorem reports_define_fallback (b : Property.Binding) (values : List String)
    (fallback : Option String) :
    Reports (do
        let defined ← b.defineAll values
        match fallback with
        | some value => defined.setFallback value
        | none => pure defined)
      (invalid values ++ invalid fallback.toList) := by
  refine (b.reports_defineAll values).bind fun defined _ => ?_
  cases fallback with
  | none => exact .value defined
  | some value => exact defined.reports_setFallback value

theorem reports_extend (c : Property.Configuration) (values : List String) :
    Reports (if c.multi then c.appendAll values
        else if values.isEmpty then pure c
        else c.setAll values)
      (if c.multi = true ∨ values.length ≤ 1 then []
        else [.tooManyValues c.name values.length]) := by
  cases multi : c.multi with
  | true =>
      rw [if_pos rfl, if_pos (Or.inl rfl),
        (Property.Configuration.appendAll_ok_iff multi).2 rfl]
      exact .value _
  | false =>
      have setAll := Property.Configuration.reports_setAll multi values
      rw [if_neg Bool.false_ne_true]
      cases values with
      | nil => exact .value c
      | cons value rest => simpa using setAll

/-- A declaration has the faults listed for it, where the table knows of its name what the
list does. -/
theorem reports_declare {entry : PropertyEntry}
    (kind : Property.Table.declareFaults (t.kind? entry.name) entry.kind entry.name =
      kindFaults (kindOf? entries entry.name) entry.kind entry.name ++ invalid [entry.name])
    (flag : ∀ c, t.find? entry.name = some (.configuration c) →
      c.multi = multiOf entries entry.name)
    (fresh : t.find? entry.name = none → entry.multi = multiOf entries entry.name) :
    Reports (declare t entry) (entry.faults entries) := by
  rw [PropertyEntry.faults, ← kind]
  cases entry with
  | binding name values fallback =>
      refine (t.reports_declareBinding name).bind fun declared declares => ?_
      have step := Property.Table.reports_modifyBinding
        fun b (_ : declared.find? name = some (.binding b)) =>
          reports_define_fallback b values fallback
      rw [Property.Table.kind?_of_declareBinding declares, ← invalid_append] at step
      rw [PropertyEntry.countFaults, List.append_nil]
      exact step
  | configuration name multi values =>
      refine (t.reports_declareConfiguration name multi).bind fun declared declares => ?_
      have changes : ∀ c, declared.find? name = some (.configuration c) →
          Reports (if c.multi then c.appendAll values
            else if values.isEmpty then pure c
            else c.setAll values)
          (PropertyEntry.countFaults entries (.configuration name multi values)) := by
        intro c there
        have named : c.name = name := Property.Table.name_of_find? there
        have known : c.multi = multiOf entries name := by
          obtain ⟨d, found, rfl⟩ | ⟨absent, -, rfl⟩ :=
            Property.Table.declareConfiguration_cases declares
          · exact flag c there
          · rw [Property.Table.find?_append_of_absent absent rfl] at there
            cases there
            exact fresh absent
        rw [PropertyEntry.countFaults, ← known, ← named]
        exact reports_extend c values
      have step := Property.Table.reports_modifyConfiguration changes
      rw [Property.Table.kind?_of_declareConfiguration declares] at step
      exact step

/-- The table knows the declarations before this one, which have no faults.  So a name it
does not know is declared here first, and one it knows is an identifier. -/
theorem Tracks.reports_declare {done rest : List PropertyEntry} {entry : PropertyEntry}
    (tracks : Tracks done [] t) (split : entries = done ++ entry :: rest)
    (clean : ∀ other ∈ done, PropertyEntry.faults entries other = []) :
    Reports (Module.declare t entry) (entry.faults entries) := by
  have first := firstNamed?_split done rest entry
  rw [← split] at first
  apply Module.reports_declare
  · rw [tracks.kind?_eq, kindOf?, kindOf?, first]
    cases known : firstNamed? done entry.name with
    | none =>
        have own : kindFaults (some entry.kind) entry.kind entry.name = [] :=
          kindFaults_eq_nil_iff.2 rfl
        show invalid [entry.name] = kindFaults (some entry.kind) entry.kind entry.name ++ _
        rw [own, List.nil_append]
    | some before =>
        obtain ⟨member, named⟩ := firstNamed?_some known
        have spelled : invalid [entry.name] = [] := by
          rw [invalid_eq_nil_iff, List.forall_mem_singleton, ← named]
          exact (PropertyEntry.faults_eq_nil_iff.1 (clean before member)).2.1
        rw [spelled, List.append_nil]
        rfl
  · intro c there
    obtain ⟨before, known, -⟩ := tracks.first_of_find? there
    rw [tracks.multi_eq there, multiOf, multiOf, first, known]
    rfl
  · intro absent
    rw [multiOf, first]
    cases known : firstNamed? done entry.name with
    | none => rfl
    | some before =>
        rw [tracks.find?_of_first known] at absent
        cases absent

end

/-! ## Directives -/

section

variable {entries : List PropertyEntry} {directives : List Directive} {t : Property.Table}

theorem Tracks.reports_adjust (tracks : Tracks entries directives t) (directive : Directive) :
    Reports (Module.adjust t directive) (directive.faults entries) := by
  rw [Directive.faults, ← tracks.kind?_eq]
  cases directive with
  | restrict name values =>
      refine Property.Table.reports_modifyBinding fun b there => ?_
      have named : b.name = name := Property.Table.name_of_find? there
      have restricted := b.reports_restrict values
      rw [tracks.defined_eq there, named] at restricted
      simp only [List.mem_eraseDups] at restricted
      exact restricted
  | setFallback name value =>
      exact Property.Table.reports_modifyBinding fun b _ => b.reports_setFallback value
  | set name value => exact Property.Table.reports_modifyConfiguration fun c _ => .value _
  | append name value =>
      refine Property.Table.reports_modifyConfiguration fun c there => ?_
      have named : c.name = name := Property.Table.name_of_find? there
      have appended := c.reports_append value
      rw [tracks.multi_eq there, named] at appended
      exact appended
  | clear name => exact Property.Table.reports_modifyConfiguration fun c _ => .value _

theorem reports_propertyTable (manifest : Manifest) :
    Reports (propertyTable manifest)
      (manifest.properties.flatMap (PropertyEntry.faults manifest.properties) ++
        manifest.directives.flatMap (Directive.faults manifest.properties)) := by
  have declares : Reports (manifest.properties.foldlM declare {})
      (manifest.properties.flatMap (PropertyEntry.faults manifest.properties)) :=
    Reports.foldlM (fun done t => Tracks done [] t)
      (fun _ _ _ _ tracks step => tracks.declare step)
      (fun _ _ _ _ split clean tracks => tracks.reports_declare split clean)
      tracks_nil
  refine declares.bind fun declared declared_ok => ?_
  exact Reports.foldlM (fun done t => Tracks manifest.properties done t)
    (fun _ _ _ _ tracks step => tracks.adjust step)
    (fun _ directive _ _ _ _ tracks => tracks.reports_adjust directive)
    (tracks_declarations declared_ok)

/-! ## Rules -/

theorem Tracks.reports_checkComparison (tracks : Tracks entries directives t) (rule : Nat)
    (comparison : String × String) :
    Reports (checkComparison t rule comparison) (comparisonFaults entries rule comparison) := by
  rw [checkComparison, comparisonFaults, ← tracks.kind?_eq, Property.Table.kind?,
    Property.Table.binding?]
  cases there : t.find? comparison.1 with
  | none => exact .fault _ []
  | some p =>
      cases p with
      | binding b =>
          have same : comparison.2 ∈ b.defined ↔ comparison.2 ∈ valuesOf entries comparison.1 := by
            rw [tracks.defined_eq there, List.mem_eraseDups]
          simp only [same]
          exact reports_ite _ _ _
      | configuration c => exact .fault _ []

theorem Tracks.reports_checkComparisons (tracks : Tracks entries directives t) (rule : Nat)
    (comparisons : List (String × String)) :
    Reports (checkComparisons t rule comparisons)
      (comparisons.flatMap (comparisonFaults entries rule)) := by
  induction comparisons with
  | nil => exact .value ()
  | cons comparison rest ih =>
      rw [checkComparisons, List.flatMap_cons]
      exact (tracks.reports_checkComparison rule comparison).bind fun _ _ => ih

theorem Tracks.reports_checkRules (tracks : Tracks entries directives t) (rule : Nat)
    (rules : List RuleEntry) :
    Reports (checkRules t rule rules) ((rules.zipIdx rule).flatMap (ruleFaults entries)) := by
  induction rules generalizing rule with
  | nil => exact .value ()
  | cons entry rest ih =>
      rw [checkRules, List.zipIdx_cons, List.flatMap_cons]
      exact (tracks.reports_checkComparisons rule _).bind fun _ _ => ih (rule + 1)

end

/-! ## Manifests -/

theorem reports_build (manifest : Manifest) : Reports (build manifest) manifest.violations := by
  rw [violations]
  cases blank : Text.allBlank manifest.name with
  | true =>
      rw [build_of_allBlank blank]
      exact .fault _ _
  | false =>
      rw [build_of_not_allBlank blank]
      refine ((reports_propertyTable manifest).mapError _).bind fun table settled => ?_
      have tracks : Tracks manifest.properties manifest.directives table :=
        tracks_propertyTable (mapError_ok_iff.1 settled)
      exact (tracks.reports_checkRules 0 manifest.rules).map _

/-- **A module is made of a manifest just where the manifest is valid.**  Where it is not,
the first violation in the order of the file is reported. -/
theorem build_valid_or_first_violation (manifest : Manifest) :
    ((∃ m, build manifest = .ok m) ↔ manifest.Valid) ∧
      ∀ error, build manifest = .error error ↔ manifest.violations.head? = some error := by
  have reports := reports_build manifest
  exact ⟨reports.ok_iff.trans violations_eq_nil_iff, reports.error_iff⟩

namespace Example

/-- A value and a fallback that are no identifiers, and a directive of the other kind. -/
def unruly : Manifest :=
  { name := "a.Modes"
    properties := [.binding "mode" ["fast"] none, .binding "mode" ["slow", "2nd"] (some "?")]
    directives := [.clear "mode"] }

/-- Of three violations the one that stands first in the file is reported. -/
example :
    unruly.violations = [.property (.invalidName "2nd"), .property (.invalidName "?"),
        .property (.kindMismatch "mode" .binding)] ∧
      build unruly = .error (.property (.invalidName "2nd")) :=
  ⟨by decide, rfl⟩

end Example

end Module

end DeferredBinding
