/-
# Proofs.Resolution.Gate -- what a table refuses before and after rules are decided about

A rule is decided about only if all properties it mentions are declared.  The names are looked
up one by one, as they are gathered from the conditions; what the conditions read later they
look up in another way, for a binding property.  Here both are put together for a permutation
of a table: whatever a condition may read was looked up before, so an unknown property never
comes to light while a rule is decided about, and ends the resolution as a missing one
(`resolve_of_undeclared`).

What may still be refused is a value for a property that is declared (`refuses_of_property`):
for a configuration property because of its kind, for a binding property because of what was
chosen for it.  `gate_complete` puts this together for every table, every choice and all rules,
be they rules of a module or not.
-/
import DeferredBinding.Proofs.Condition.Aborts
import DeferredBinding.Proofs.Property.Answers
import DeferredBinding.Proofs.Resolution.Ending

namespace DeferredBinding

set_option autoImplicit false

namespace Property

def Error.subject : Error → String
  | .invalidName text => text
  | .unknown name => name
  | .kindMismatch name _ => name
  | .notMultiValued name => name
  | .notSingleValued name _ => name
  | .tooManyValues name _ => name
  | .undefinedValue name _ => name
  | .valueNotAllowed name _ => name
  | .noValue name => name

def Table.sources (t : Table) (choices : List (String × String)) (types : Types.Source) :
    Sources :=
  { properties := (({ table := t } : Permutation).selectAll choices).source, types }

section

variable {t : Table} {choices : List (String × String)} {name : String} {error : Error}

theorem Table.has_sources (t : Table) (choices : List (String × String)) (types : Types.Source)
    (name : String) : (t.sources choices types).properties.has name = t.contains name := by
  show (({ table := t } : Permutation).selectAll choices).table.contains name = _
  rw [Permutation.selectAll_table]

/-- The name that is refused a value is the one the error is about. -/
theorem Refuses.subject_eq (refuses : Refuses t choices name error) : error.subject = name := by
  cases refuses <;> rfl

/-- A configuration property is refused for its kind. -/
theorem Refuses.eq_of_configuration (refuses : Refuses t choices name error) {c : Configuration}
    (there : t.find? name = some (.configuration c)) :
    error = .kindMismatch name .configuration := by
  cases refuses with
  | unknown absent => rw [there] at absent; cases absent
  | kind other => rfl
  | ruledOut other last notAllowed => rw [there] at other; cases other
  | undecided other unchosen open_ bare => rw [there] at other; cases other

/-- What is declared is not refused as unknown. -/
theorem Refuses.ne_unknown (refuses : Refuses t choices name error)
    (declared : t.contains name = true) (other : String) : error ≠ .unknown other := by
  rintro rfl
  cases refuses with
  | unknown absent =>
      rw [Table.contains, absent] at declared
      cases declared

end

end Property

open Property

/-- `name` is the first property that a rule mentions and a table does not declare. -/
def Rule.FirstUndeclared (t : Table) (r : Rule) (name : String) : Prop :=
  ∃ earlier later, Condition.mentionedList r.roots = earlier ++ name :: later ∧
    (∀ other ∈ earlier, t.contains other = true) ∧ t.contains name = false

section

variable {t : Table} {choices : List (String × String)} {types : Types.Source} {type : String}

/-! ## One rule -/

theorem Rule.firstUnknown_iff {r : Rule} {name : String} :
    r.FirstUnknown (t.sources choices types).properties name ↔ r.FirstUndeclared t name := by
  rw [← firstMissing_eq_some_iff, firstMissing_eq_find?_mentioned, find?_not_eq_some_iff,
    FirstUndeclared]
  simp only [Table.has_sources]

/-- Where a rule mentions an undeclared property, there is a first one. -/
theorem Rule.exists_firstUndeclared {r : Rule} {name : String}
    (mentioned : name ∈ Condition.mentionedList r.roots) (undeclared : t.contains name = false) :
    ∃ first, r.FirstUndeclared t first := by
  cases found : (Condition.mentionedList r.roots).find? fun name => !t.contains name with
  | some first => exact ⟨first, find?_not_eq_some_iff.1 found⟩
  | none =>
      have declared := find?_not_eq_none_iff.1 found name mentioned
      rw [undeclared] at declared
      cases declared

/-- A rule that fails over a property mentions it, and is refused a value for it. -/
theorem Rule.refuses_of_applies {r : Rule} {error : Property.Error}
    (fails : (r.applies (t.sources choices types) type).value = .error (.property error)) :
    error.subject ∈ Condition.mentionedList r.roots ∧ Refuses t choices error.subject error := by
  rw [applies_value] at fails
  cases Condition.aborts_of_allHold r.roots fails with
  | property mentioned refused =>
      have refuses := Permutation.selection_error_iff.1 refused
      rw [refuses.subject_eq]
      exact ⟨mentioned, refuses⟩

/-- Any comparison with a configuration property fails because of its kind. -/
theorem Condition.isTrue_of_configuration {name : String} {c : Configuration}
    (there : t.find? name = some (.configuration c)) (value : String) :
    isTrue (t.sources choices types) type (.propertyIs name value) =
      .error (.property (.kindMismatch name .configuration)) := by
  have refused : (t.sources choices types).properties.selection name =
      .error (.kindMismatch name .configuration) :=
    Permutation.selection_error_iff.2 (.kind there)
  rw [isTrue, check, framed_value, selected, refused]

/-! ## A whole resolution -/

variable {γ : Type} [Generator γ] {rs : Rules}

/-- A rule that is reached and mentions an undeclared property ends the resolution, and leaves
nothing of itself behind. -/
theorem Rules.resolve_of_undeclared (generators : String → Option γ) (census : Census)
    (reach : Reach (t.sources choices types) type rs) {name : String}
    (first : reach.rule.FirstUndeclared t name) :
    rs.resolve ((t.sources choices types).providing generators) type census =
      { outcome := .error (.missingProperty type name), rules := rs, census
        trace := .enter (.resolution type) ::
          decisions (t.sources choices types) type reach.earlier ++
            [.leave (.resolution type)] } := by
  rw [resolve_of_missing generators census reach (Rule.firstUnknown_iff.2 first), ended, closing,
    List.append_nil]

/-- A resolution fails over a property only at a rule that is reached and mentions it, after
all that this rule mentions was found to be declared. -/
theorem Rules.refuses_of_property {generators : String → Option γ} {census : Census}
    {error : Property.Error}
    (fails : (rs.resolve ((t.sources choices types).providing generators) type census).outcome =
      .error (.property error)) :
    ∃ reach : Reach (t.sources choices types) type rs,
      (∀ name ∈ Condition.mentionedList reach.rule.roots, t.contains name = true) ∧
        error.subject ∈ Condition.mentionedList reach.rule.roots ∧
          Refuses t choices error.subject error := by
  obtain ⟨ending, leaves⟩ := exists_ending (t.sources choices types) type rs
  rw [leaves] at fails
  cases ending with
  | kept passed => cases fails
  | missing reach name unknown => cases fails
  | undecided reach failure known undecided =>
      cases fails
      refine ⟨reach, fun name mentioned => ?_, Rule.refuses_of_applies undecided⟩
      rw [← t.has_sources choices types]
      exact known name (Condition.mem_requiredList.2 mentioned)
  | acts reach fires =>
      -- no action fails over a property
      rw [Ending.leaves, outcome_acted] at fails
      obtain ⟨-, other⟩ | ⟨_, -, ⟨-, other⟩ | ⟨_, _, -, other⟩⟩ :=
        Rule.realize_error_cases (Attempt.map_error_iff.1 fails) <;> cases other

/-- What becomes of the properties that rules mention, in a resolution under the choices made
for a table. -/
structure Rules.Gated (t : Table) (choices : List (String × String)) (types : Types.Source)
    (type : String) (rs : Rules) (census : Census) (resolution : Resolution) : Prop where
  /-- No property is ever found to be unknown where a rule is decided about. -/
  known : ∀ name, resolution.outcome ≠ .error (.property (.unknown name))
  /-- A rule that is reached and mentions an undeclared property ends the resolution.  The first
  such property is missing, and behind the record of the rules before there is nothing. -/
  missing : ∀ (reach : Reach (t.sources choices types) type rs),
    (∃ name ∈ Condition.mentionedList reach.rule.roots, t.contains name = false) →
      ∃ first, reach.rule.FirstUndeclared t first ∧
        resolution =
          { outcome := .error (.missingProperty type first), rules := rs, census
            trace := .enter (.resolution type) ::
              decisions (t.sources choices types) type reach.earlier ++
                [.leave (.resolution type)] }
  /-- Any other failure over a property is that of a rule that is reached, mentions it and
  mentions nothing that is undeclared. -/
  refused : ∀ error, resolution.outcome = .error (.property error) →
    ∃ reach : Reach (t.sources choices types) type rs,
      (∀ name ∈ Condition.mentionedList reach.rule.roots, t.contains name = true) ∧
        error.subject ∈ Condition.mentionedList reach.rule.roots ∧
          Refuses t choices error.subject error
  /-- Over a configuration property a resolution fails because of its kind only. -/
  mismatched : ∀ name c, t.find? name = some (.configuration c) → ∀ error,
    resolution.outcome = .error (.property error) → error.subject = name →
      error = .kindMismatch name .configuration
  /-- So does every rule that is decided about. -/
  rules : ∀ name c, t.find? name = some (.configuration c) → ∀ (r : Rule) error,
    (r.applies (t.sources choices types) type).value = .error (.property error) →
      error.subject = name → error = .kindMismatch name .configuration
  /-- A comparison with a configuration property always fails so. -/
  comparisons : ∀ name c, t.find? name = some (.configuration c) → ∀ value,
    Condition.isTrue (t.sources choices types) type (.propertyIs name value) =
      .error (.property (.kindMismatch name .configuration))

/-- **The gate in front of the rules is complete.**  Whatever is declared in a table and chosen
for it, whatever the rules, the types and the generators: an undeclared property is missing
before anything is decided about the rule that mentions it, and is never found to be unknown
later.  Only declared properties are refused a value, those of the other kind for their kind. -/
theorem Rules.gate_complete (t : Table) (choices : List (String × String)) (types : Types.Source)
    (type : String) (rs : Rules) (generators : String → Option γ) (census : Census) :
    Gated t choices types type rs census
      (rs.resolve ((t.sources choices types).providing generators) type census) where
  known name failed := by
    obtain ⟨reach, declared, mentioned, refuses⟩ := refuses_of_property failed
    exact refuses.ne_unknown (declared _ mentioned) name rfl
  missing reach := by
    rintro ⟨name, mentioned, undeclared⟩
    obtain ⟨first, isFirst⟩ := Rule.exists_firstUndeclared mentioned undeclared
    exact ⟨first, isFirst, resolve_of_undeclared generators census reach isFirst⟩
  refused _ failed := refuses_of_property failed
  mismatched name c there error failed about := by
    obtain ⟨-, -, -, refuses⟩ := refuses_of_property failed
    rw [about] at refuses
    exact refuses.eq_of_configuration there
  rules name c there r error failed about := by
    obtain ⟨-, refuses⟩ := Rule.refuses_of_applies failed
    rw [about] at refuses
    exact refuses.eq_of_configuration there
  comparisons _ _ there value := Condition.isTrue_of_configuration there value

end

namespace Rules.Example

/-- One configuration property is declared. -/
def styles : Table :=
  { entries := [.configuration (Configuration.declare "extra.css" true)] }

/-- Compares that property, and mentions one that is not declared behind it. -/
def styled : Rule :=
  { action := .replaceWith "a.Styled"
    roots := [.noneOf [.propertyIs "extra.css" "a.css"], .any [.all [.propertyIs "skin" "dark"]]] }

def reachesStyled (given : Sources) : Reach given "a.Api" { toList := [otherOnly, styled] } :=
  ⟨[otherOnly], styled, [], rfl, List.forall_mem_singleton.2 (otherOnly_passedOver given)⟩

/-- The comparison would fail, but is not made: the property behind it is missing. -/
theorem missing_before_mismatch :
    let given := styles.sources [] Types.Hierarchy.root.source
    (∃ reach : Reach given "a.Api" { toList := [otherOnly, styled] }, reach.rule = styled) ∧
      (Rules.resolve { toList := [otherOnly, styled] }
        (given.providing fun _ => (none : Option Recipe)) "a.Api" {}).outcome =
          .error (.missingProperty "a.Api" "skin") ∧
      Condition.isTrue given "a.Api" (.propertyIs "extra.css" "a.css") =
        .error (.property (.kindMismatch "extra.css" .configuration)) := by
  intro given
  have gated := gate_complete styles [] Types.Hierarchy.root.source "a.Api"
    { toList := [otherOnly, styled] } (fun _ => (none : Option Recipe)) {}
  have mentioned : "skin" ∈ Condition.mentionedList styled.roots := by decide
  obtain ⟨first, isFirst, same⟩ := gated.missing (reachesStyled given) ⟨"skin", mentioned, rfl⟩
  have unknown : firstMissing given.properties styled = some first :=
    Rule.firstMissing_eq_some_iff.2 (Rule.firstUnknown_iff.2 isFirst)
  have skin : firstMissing given.properties styled = some "skin" := rfl
  obtain rfl : first = "skin" := Option.some.inj (unknown.symm.trans skin)
  exact ⟨⟨reachesStyled given, rfl⟩, congrArg Resolution.outcome same,
    gated.comparisons "extra.css" _ rfl "a.css"⟩

end Rules.Example

end DeferredBinding
