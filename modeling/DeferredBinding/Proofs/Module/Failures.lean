/-
# Proofs.Module.Failures -- what can still go wrong in a module that was made

Making a module checks every comparison of every rule against the finished table, so
whatever a resolution reads of a property is there and of the right kind
(`binding?_of_mem_required`).  What is left to fail are the choices made for the binding
properties, a requested type nobody declared, and what rules and generators do on
purpose: these are the failures that are `Foreseen`, and there are no others, however
often the module was asked before (`resolve_error_foreseen`).
-/
import DeferredBinding.Generator.Recipe
import DeferredBinding.Proofs.Condition.Aborts
import DeferredBinding.Proofs.Module.Building
import DeferredBinding.Proofs.Property.Answers
import DeferredBinding.Proofs.Resolution.Calls

namespace DeferredBinding

set_option autoImplicit false

namespace Module

open Property

/-- Every property a rule of a module mentions is a binding property of the module. -/
theorem binding?_of_mem_required {manifest : Manifest} {m : Module}
    (built : build manifest = .ok m) {r : Rule} (member : r ∈ m.rules.toList) {name : String}
    (mentioned : name ∈ r.required) : ∃ b, m.properties.binding? name = some b := by
  obtain ⟨-, table, -, defined, rfl⟩ := build_ok_iff.1 built
  obtain ⟨entry, written, rfl⟩ := mem_installed_iff.1 member
  rw [Rule.required, Condition.mem_requiredList, ← Condition.map_fst_comparisonsList,
    List.mem_map] at mentioned
  obtain ⟨comparison, compared, rfl⟩ := mentioned
  obtain ⟨b, bound, -⟩ := defined entry written comparison compared
  exact ⟨b, bound⟩

/-- Some rule of the module asks the generator `name`. -/
def Asks (m : Module) (name : String) : Prop :=
  ∃ r ∈ m.rules.toList, r.action = .generateWith name

/-- The failures of a request for `type` that do not come from what the module declares. -/
def Foreseen (m : Module) (choices : List (String × String)) (type : String) : Failure → Prop
  | .unresolvedType requested => requested = type ∧ m.types.find? type = none
  | .generatorNotFound name => m.Asks name
  | .generatorFailed name requested _ => requested = type ∧ m.Asks name
  | .explicitFailure requested => requested = type
  | .missingProperty _ _ => False
  | .property (.valueNotAllowed name value) =>
      ∃ b, m.properties.binding? name = some b ∧ name ∈ m.rules.required ∧
        LastChosen choices name value ∧ value ∉ b.allowed
  | .property (.noValue name) =>
      ∃ b, m.properties.binding? name = some b ∧ name ∈ m.rules.required ∧
        name ∉ choices.map Prod.fst ∧ b.allowed.length ≠ 1 ∧ b.fallback = none
  | .property _ => False

section

variable {manifest : Manifest} {m : Module} {choices : List (String × String)} {type : String}

/-- A refused selection of a property that a rule mentions is foreseen. -/
theorem foreseen_of_refused (built : build manifest = .ok m) {r : Rule}
    (member : r ∈ m.rules.toList) {name : String} (mentioned : name ∈ r.required)
    {error : Property.Error}
    (refused : (m.permutation.selectAll choices).selection name = .error error) :
    m.Foreseen choices type (.property error) := by
  have required : name ∈ m.rules.required := Rules.mem_required.2 ⟨r, member, mentioned⟩
  obtain ⟨b, bound⟩ := binding?_of_mem_required built member mentioned
  have there := Table.find?_of_binding? bound
  have refuses : Refuses m.properties choices name error :=
    Permutation.selection_error_iff.1 refused
  cases refuses with
  | unknown absent =>
      rw [there] at absent
      cases absent
  | kind other =>
      rw [there] at other
      cases other
  | ruledOut same last notAllowed =>
      rw [there] at same
      cases same
      exact ⟨b, bound, required, last, notAllowed⟩
  | undecided same unchosen open_ bare =>
      rw [there] at same
      cases same
      exact ⟨b, bound, required, unchosen, open_, bare⟩

/-- A rule of a module whose conditions cannot be decided fails in a foreseen way. -/
theorem foreseen_of_undecided (built : build manifest = .ok m) {r : Rule}
    (member : r ∈ m.rules.toList) {failure : Failure}
    (fails : (r.applies
      { properties := (m.permutation.selectAll choices).source, types := m.types.source }
      type).value = .error failure) :
    m.Foreseen choices type failure := by
  cases Condition.aborts_of_allHold r.roots fails with
  | type undeclared => exact ⟨rfl, undeclared⟩
  | property mentioned refused =>
      exact foreseen_of_refused built member (Condition.mem_requiredList.2 mentioned) refused

variable {γ : Type} [Generator γ]

/-- A module as some calls left its rules. -/
def withRules (m : Module) (s : Stage) : Module :=
  { m with rules := s.rules }

/-- **A module that was made cannot fail because of its own declarations.**  Whatever was
asked of it before, whatever is chosen for its properties, whatever its generators do and
whatever type is requested: no property is missing, unknown or of the wrong kind, and the
failures that are left say what brought them about. -/
theorem resolve_error_foreseen (built : build manifest = .ok m) (census : Census)
    (calls : List (Call γ)) (choices : List (String × String))
    (generators : String → Option γ) (type : String) (failure : Failure)
    (failed :
      let s := Stage.run { rules := m.rules, census } calls
      ((m.withRules s).resolve (m.permutation.selectAll choices).source generators type
        s.census).outcome = .error failure) :
    m.Foreseen choices type failure := by
  let s := Stage.run { rules := m.rules, census } calls
  let ctx := m.context (m.permutation.selectAll choices).source generators
  obtain ⟨left, here, reason⟩ := (s.rules.resolve_course ctx type s.census).error_cases failed
  obtain ⟨r, member, action, roots⟩ := Stage.mem_run here
  have required : left.required = r.required := by rw [Rule.required, Rule.required, roots]
  obtain ⟨name, unknown, rfl⟩ | fails | failing := reason
  · -- every property the rule mentions is declared, so the source knows it
    refine unknown.not_propertiesKnown fun other mentioned => ?_
    rw [required] at mentioned
    obtain ⟨b, bound⟩ := binding?_of_mem_required built member mentioned
    show (m.permutation.selectAll choices).table.contains other = true
    rw [Permutation.selectAll_table]
    exact Table.contains_of_binding? bound
  · rw [Rule.applies_value, ← roots, ← Rule.applies_value] at fails
    exact foreseen_of_undecided built member fails
  · obtain ⟨-, rfl⟩ | ⟨name, calls, ⟨-, rfl⟩ | ⟨generator, reason, -, rfl⟩⟩ :=
      Rule.realize_error_cases failing
    · rfl
    · exact ⟨r, member, action.trans calls⟩
    · exact ⟨rfl, r, member, action.trans calls⟩

end

/-! ## A choice that is ruled out -/

namespace Example

/-- A property restricted to one of its two values, and a rule that reads it. -/
def browsers : Manifest :=
  { name := "a.Browsers"
    properties := [.binding "user.agent" ["safari", "ie9"] none]
    directives := [.restrict "user.agent" ["safari"]]
    rules := [{ action := .replaceWith "a.Legacy"
                roots := [.noneOf [.propertyIs "user.agent" "ie9"]] }] }

def browserTable : Property.Table :=
  { entries := [.binding
      { name := "user.agent", defined := ["safari", "ie9"], allowed := ["safari"] }] }

theorem build_browsers : build browsers = .ok (made browsers browserTable) := rfl

theorem ruled_out_choice_foreseen :
    let m := made browsers browserTable
    let s := Stage.run { rules := m.rules, census := {} } ([.dispose] : List (Call Recipe))
    build browsers = .ok m ∧
      ((m.withRules s).resolve (m.permutation.selectAll [("user.agent", "ie9")]).source
        (fun _ => (none : Option Recipe)) "a.Api" s.census).outcome =
          .error (.property (.valueNotAllowed "user.agent" "ie9")) ∧
      m.Foreseen [("user.agent", "ie9")] "a.Api"
        (.property (.valueNotAllowed "user.agent" "ie9")) :=
  ⟨build_browsers, rfl, resolve_error_foreseen build_browsers {} [.dispose]
    [("user.agent", "ie9")] (fun _ => (none : Option Recipe)) "a.Api" _ rfl⟩

end Example

end Module

end DeferredBinding
