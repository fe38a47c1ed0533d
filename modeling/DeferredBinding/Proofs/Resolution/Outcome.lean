/-
# Proofs.Resolution.Outcome -- what a resolution answers, apart from what it leaves behind

Of a resolution only the outcome is looked at here.  A rule either settles a request or
leaves it to the rules behind it (`Rule.settles`), and the first rule that settles it gives
the outcome (`outcome_resolve`).  What a rule holds on to is never read for that
(`outcome_resolve_congr`), and how many instances were made is read by generators alone
(`outcome_resolve_of_deterministic`).
-/
import DeferredBinding.Generator.Recipe
import DeferredBinding.Resolution.Rules

namespace DeferredBinding

set_option autoImplicit false

variable {γ : Type} [Generator γ]

/-- What the generator of a name answers, where there is one. -/
def Context.answer? (ctx : Context γ) (type : String) (census : Census) (name : String) :
    Option (Except String String) :=
  (ctx.generators name).map fun generator =>
    (Generator.produce generator ctx (census.make name (Generator.silent generator)).2 type).answer

/-- No generator of the context looks at how many instances were made. -/
def Context.Deterministic (ctx : Context γ) : Prop :=
  ∀ name generator, ctx.generators name = some generator → ∀ type (before after : Census),
    (Generator.produce generator ctx before type).answer =
      (Generator.produce generator ctx after type).answer

theorem Context.Deterministic.answer?_eq {ctx : Context γ} (deterministic : ctx.Deterministic)
    (type : String) (before after : Census) :
    ctx.answer? type before = ctx.answer? type after := by
  funext name
  rw [answer?, answer?]
  cases found : ctx.generators name with
  | none => rfl
  | some generator => exact congrArg some (deterministic name generator found type _ _)

/-- No recipe looks at how many instances were made. -/
theorem Recipe.follow_answer (ctx : Context Recipe) (type : String) (links : Nat)
    (recipe : Recipe) (before after : Census) :
    (follow ctx type links before recipe).answer =
      (follow ctx type links after recipe).answer := by
  induction links generalizing recipe before after with
  | zero =>
      cases recipe with
      | handOn name =>
          unfold follow
          cases ctx.generators name with
          | none => rfl
          | some other => rfl
      | _ => rfl
  | succ links ih =>
      cases recipe with
      | handOn name =>
          unfold follow
          cases ctx.generators name with
          | none => rfl
          | some other =>
              have onward := ih other (before.make name other.isSilent).2
                (after.make name other.isSilent).2
              dsimp only
              rw [onward]
      | _ => rfl

/-- Recipes count instances only to tell them apart. -/
theorem Context.deterministic_of_recipes (ctx : Context Recipe) : ctx.Deterministic :=
  fun _ recipe _ type before after =>
    Recipe.follow_answer ctx type Recipe.longestChain recipe before after

/-- What an action yields, where `answer?` says what generators answer. -/
def Action.yield (answer? : String → Option (Except String String)) (type : String) :
    Action → Except Failure String
  | .replaceWith replacement => .ok replacement
  | .generateWith name =>
      match answer? name with
      | none => .error (.generatorNotFound name)
      | some answer => answer.mapError fun reason => .generatorFailed name type reason
  | .fail => .error (.explicitFailure type)

namespace Rule

theorem outcome_realize (ctx : Context γ) (type : String) (r : Rule) (census : Census) :
    (r.realize ctx type census).outcome = r.action.yield (ctx.answer? type census) type := by
  cases action : r.action with
  | replaceWith name => rw [realize_replaceWith ctx type census action, Action.yield]
  | generateWith name =>
      cases found : ctx.generators name with
      | none =>
          rw [realize_unknown ctx type census action found]
          simp only [Action.yield, Context.answer?, found, Option.map_none]
      | some generator =>
          rw [realize_known ctx type census action found]
          simp only [Action.yield, Context.answer?, found, Option.map_some, generate]
  | fail => rw [realize_fail ctx type census action, Action.yield]

/-- What a rule makes of a request; nothing where it leaves it to the rules behind it. -/
def settles (given : Sources) (answer? : String → Option (Except String String))
    (type : String) (r : Rule) : Option (Except Failure String) :=
  match Rules.firstMissing given.properties r with
  | some property => some (.error (.missingProperty type property))
  | none =>
      match (r.applies given type).value with
      | .error failure => some (.error failure)
      | .ok false => none
      | .ok true => some (r.action.yield answer? type)

/-- Whether and how a rule settles a request depends on its action and its conditions. -/
theorem settles_congr {r q : Rule} (action : r.action = q.action) (roots : r.roots = q.roots)
    (given : Sources) (answer? : String → Option (Except String String)) (type : String) :
    r.settles given answer? type = q.settles given answer? type := by
  have missing : Rules.firstMissing given.properties r =
      Rules.firstMissing given.properties q := by
    rw [Rules.firstMissing, Rules.firstMissing, required, required, roots]
  rw [settles, settles, missing, applies_value, applies_value, roots, action]

end Rule

namespace Rules

/-- The answer of the rule at a position, where it settles the request. -/
def settledAt (given : Sources) (answer? : String → Option (Except String String))
    (type : String) (placed : Rule × Nat) : Option (Except Failure Answer) :=
  (placed.1.settles given answer? type).map fun outcome =>
    outcome.map fun replacement => { type := replacement, rule := some placed.2 }

theorem outcome_scan (ctx : Context γ) (type : String) (census : Census) (index : Nat)
    (rules : List Rule) :
    (scan ctx type census index rules).outcome =
      ((rules.zipIdx index).findSome?
        (settledAt ctx.toSources (ctx.answer? type census) type)).getD
          (.ok { type, rule := none }) := by
  induction rules generalizing index with
  | nil => rfl
  | cons r rest ih =>
      rw [scan, List.zipIdx_cons, List.findSome?_cons, settledAt, Rule.settles]
      dsimp only
      cases firstMissing ctx.properties r with
      | some property => rfl
      | none =>
          dsimp only
          cases (r.applies ctx.toSources type).value with
          | error failure => rfl
          | ok holds =>
              cases holds with
              | false => exact ih (index + 1)
              | true =>
                  rw [← Rule.outcome_realize]
                  unfold answered
                  dsimp only
                  cases (r.realize ctx type census).outcome with
                  | error failure => rfl
                  | ok replacement => rfl

/-- The first rule that settles the request gives the outcome. -/
theorem outcome_resolve (rs : Rules) (ctx : Context γ) (type : String) (census : Census) :
    (rs.resolve ctx type census).outcome =
      (rs.toList.zipIdx.findSome?
        (settledAt ctx.toSources (ctx.answer? type census) type)).getD
          (.ok { type, rule := none }) :=
  outcome_scan ctx type census 0 rs.toList

theorem settledAt_dispose (given : Sources) (answer? : String → Option (Except String String))
    (type : String) :
    settledAt given answer? type ∘ Prod.map Rule.dispose id = settledAt given answer? type := by
  funext placed
  show (placed.1.dispose.settles given answer? type).map _ = _
  rw [Rule.settles_congr (r := placed.1.dispose) (q := placed.1) rfl rfl]
  rfl

theorem outcome_resolve_dispose (rs : Rules) (ctx : Context γ) (type : String)
    (census : Census) :
    (rs.dispose.resolve ctx type census).outcome = (rs.resolve ctx type census).outcome := by
  rw [outcome_resolve, outcome_resolve, dispose, List.zipIdx_map, List.findSome?_map,
    settledAt_dispose]

/-- What rules hold on to makes no difference to what they answer. -/
theorem outcome_resolve_congr {rs others : Rules} (same : rs.dispose = others.dispose)
    (ctx : Context γ) (type : String) (census : Census) :
    (rs.resolve ctx type census).outcome = (others.resolve ctx type census).outcome := by
  rw [← outcome_resolve_dispose, same, outcome_resolve_dispose]

/-- Where generators do not look at it, the census makes no difference either. -/
theorem outcome_resolve_of_deterministic {rs others : Rules}
    (same : rs.dispose = others.dispose) {ctx : Context γ} (deterministic : ctx.Deterministic)
    (type : String) (before after : Census) :
    (rs.resolve ctx type before).outcome = (others.resolve ctx type after).outcome := by
  rw [outcome_resolve_congr same, outcome_resolve, outcome_resolve,
    deterministic.answer?_eq type before after]

end Rules

end DeferredBinding
