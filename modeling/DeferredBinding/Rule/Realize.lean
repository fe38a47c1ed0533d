/-
# Rule.Realize -- whether a rule applies, and what it answers

`applies` decides the root conditions in order, inside the span of the rule.

`realize` takes the action.  A generator is looked up anew every time: the new
instance takes the place of the one held before, which is released before the new
one is asked.  So a generator that fails is held all the same, and one that is
unknown leaves everything as it was.
-/
import DeferredBinding.Generator.Basic
import DeferredBinding.Rule.Basic

namespace DeferredBinding

set_option autoImplicit false

namespace Rule

/-- Whether all root conditions hold for the requested type. -/
def applies (given : Sources) (type : String) (r : Rule) : Traced Verdict :=
  let decision := Condition.allHold given type r.roots
  { value := decision.value
    trace := .enter (.rule r.render) :: decision.trace ++ [.leave (.rule r.render)] }

@[simp] theorem applies_value (given : Sources) (type : String) (r : Rule) :
    (r.applies given type).value = (Condition.allHold given type r.roots).value := rfl

/-- What taking an action leaves behind. -/
structure Realization where
  outcome : Except Failure String
  rule : Rule
  census : Census
  trace : List Entry

variable {γ : Type} [Generator γ]

/-- Put a new instance of `generator`, which goes by `name`, to work. -/
def generate (ctx : Context γ) (type : String) (r : Rule) (census : Census) (name : String)
    (generator : γ) : Realization :=
  let made := census.make name (Generator.silent generator)
  let production := Generator.produce generator ctx made.2 type
  { outcome := production.answer.mapError fun reason => .generatorFailed name type reason
    rule := { r with held := some made.1 }
    census := made.2.plus production.made
    trace := .generator made.1 .created :: release r.held ++
      .generator made.1 (.asked type) :: production.helpers.map fun h => .helper h.1 h.2 }

def realize (ctx : Context γ) (type : String) (r : Rule) (census : Census) : Realization :=
  match r.action with
  | .replaceWith replacement => { outcome := .ok replacement, rule := r, census, trace := [] }
  | .generateWith name =>
      match ctx.generators name with
      | none =>
          { outcome := .error (.generatorNotFound name), rule := r, census
            trace := [.note (.generatorUnknown name)] }
      | some generator => generate ctx type r census name generator
  | .fail =>
      { outcome := .error (.explicitFailure type), rule := r, census
        trace := [.note (.bindingRefused type)] }

/-! ## What taking an action does -/

section

variable {r : Rule} {name : String} (ctx : Context γ) (type : String) (census : Census)

theorem realize_replaceWith (action : r.action = .replaceWith name) :
    r.realize ctx type census = { outcome := .ok name, rule := r, census, trace := [] } := by
  rw [realize, action]

theorem realize_unknown (action : r.action = .generateWith name)
    (unknown : ctx.generators name = none) :
    r.realize ctx type census =
      { outcome := .error (.generatorNotFound name), rule := r, census
        trace := [.note (.generatorUnknown name)] } := by
  simp only [realize, action, unknown]

theorem realize_known {generator : γ} (action : r.action = .generateWith name)
    (known : ctx.generators name = some generator) :
    r.realize ctx type census = r.generate ctx type census name generator := by
  simp only [realize, action, known]

theorem realize_fail (action : r.action = .fail) :
    r.realize ctx type census =
      { outcome := .error (.explicitFailure type), rule := r, census
        trace := [.note (.bindingRefused type)] } := by
  rw [realize, action]

variable {ctx : Context γ} {type : String} {census : Census}

/-- Taking an action fails where the rule says so, where nothing goes by the name of its
generator, and where the generator has a reason to. -/
theorem realize_error_cases {failure : Failure}
    (failed : (r.realize ctx type census).outcome = .error failure) :
    (r.action = .fail ∧ failure = .explicitFailure type) ∨
      ∃ name, r.action = .generateWith name ∧
        ((ctx.generators name = none ∧ failure = .generatorNotFound name) ∨
          ∃ generator reason, ctx.generators name = some generator ∧
            failure = .generatorFailed name type reason) := by
  cases action : r.action with
  | replaceWith name =>
      rw [realize_replaceWith ctx type census action] at failed
      cases failed
  | generateWith name =>
      refine Or.inr ⟨name, rfl, ?_⟩
      cases found : ctx.generators name with
      | none =>
          rw [realize_unknown ctx type census action found] at failed
          cases failed
          exact Or.inl ⟨rfl, rfl⟩
      | some generator =>
          rw [realize_known ctx type census action found, generate] at failed
          dsimp only at failed
          generalize (Generator.produce generator ctx _ type).answer = answer at failed
          cases answer with
          | error reason =>
              cases failed
              exact Or.inr ⟨generator, reason, rfl, rfl⟩
          | ok replacement => cases failed
  | fail =>
      rw [realize_fail ctx type census action] at failed
      cases failed
      exact Or.inl ⟨rfl, rfl⟩

end

end Rule

end DeferredBinding
