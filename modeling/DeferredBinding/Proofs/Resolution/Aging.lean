/-
# Proofs.Resolution.Aging -- rules that were used answer like rules built anew

A rule that asked a generator holds the instance from then on, and every later call may
replace it or let it go.  That is all that ages: a run of calls leaves actions and
conditions alone (`Stage.dispose_run`), and an answer is read off those two
(`Rules.outcome_resolve_congr`).

So requests can be made one after the other in any order and any number of times, and each
gets the answer that rules `rebuilt` from the same actions and conditions would give
(`Stage.answers_eq_map`).  The instances that earlier requests left behind are only ever
released: whoever is put to work is new, and of a generator that the context of the request
provides (`Rules.new_of_step_resolve`).
-/
import DeferredBinding.Proofs.Resolution.LifeCycle
import DeferredBinding.Proofs.Resolution.Outcome

namespace DeferredBinding

set_option autoImplicit false

variable {γ : Type} [Generator γ]

/-! ## Who is put to work -/

/-- An instance that the census has yet to count, of a generator of the context. -/
def Context.Provides (ctx : Context γ) (census : Census) (who : Instance) : Prop :=
  (∃ generator, ctx.generators who.generator = some generator) ∧ census.counts who = false

section

variable {ctx : Context γ} {type : String} {census : Census} {who : Instance} {step : Step}

/-- Of the steps an action brings about, only releases are those of older instances. -/
theorem Rule.new_of_step_realize {r : Rule}
    (told : (who, step) ∈ steps (r.realize ctx type census).trace) (work : step ≠ .released) :
    ctx.Provides census who := by
  obtain ⟨-, -, quiet⟩ | ⟨name, generator, -, provided, generates⟩ :=
    r.realize_quiet_or_generates ctx type census
  · rw [quiet] at told
    cases told
  · have new : ctx.Provides census (census.make name (Generator.silent generator)).1 := by
      refine ⟨⟨generator, ?_⟩, (census.counts_make name _).1⟩
      rw [Census.make_generator, provided]
    rw [generates, steps_generate, List.mem_append, List.mem_cons, List.mem_singleton] at told
    obtain (made | old) | asked := told
    · cases made
      exact new
    · obtain ⟨held, -, same⟩ := List.mem_map.1 old
      cases same
      exact absurd rfl work
    · cases asked
      exact new

theorem Rules.Course.new_of_step {rs left : Rules} {count : Census}
    {outcome : Except Failure Answer} {entries : List Entry}
    (course : Course ctx type census rs outcome left count entries)
    (told : (who, step) ∈ steps entries) (work : step ≠ .released) :
    ctx.Provides census who := by
  cases course with
  | kept passed => cases told
  | missing member unknown => cases told
  | undecided member fails => cases told
  | fired split fires =>
      rw [steps_generatorWork] at told
      exact Rule.new_of_step_realize told work

/-- Whoever is put to work in a resolution is new. -/
theorem Rules.new_of_step_resolve {rs : Rules}
    (told : (who, step) ∈ steps (rs.resolve ctx type census).trace) (work : step ≠ .released) :
    ctx.Provides census who := by
  rw [← steps_generatorWork] at told
  exact (rs.resolve_course ctx type census).new_of_step told work

end

/-! ## What used rules answer -/

/-- Rules with the same actions and conditions that were never used. -/
def Rules.rebuilt (rs : Rules) : Rules :=
  { toList := rs.toList.map fun r => { action := r.action, roots := r.roots } }

theorem Rules.dispose_rebuilt (rs : Rules) : rs.rebuilt.dispose = rs.dispose := by
  rw [rebuilt, dispose, dispose, List.map_map]
  rfl

namespace Stage

/-- The outcomes of requests made one after the other. -/
def answers (s : Stage) (ctx : Context γ) : List String → List (Except Failure Answer)
  | [] => []
  | type :: rest =>
      (s.rules.resolve ctx type s.census).outcome :: answers (s.step (.resolve ctx type)) ctx rest

/-- No request has a part in the answers to those behind it. -/
theorem answers_eq_map {ctx : Context γ} (deterministic : ctx.Deterministic) {s : Stage}
    {rs : Rules} (same : s.rules.dispose = rs.dispose) (count : Census) (types : List String) :
    s.answers ctx types = types.map fun type => (rs.resolve ctx type count).outcome := by
  induction types generalizing s with
  | nil => rfl
  | cons type rest ih =>
      have onward : (s.step (.resolve ctx type)).rules.dispose = rs.dispose :=
        (s.dispose_step (.resolve ctx type)).trans same
      rw [answers, List.map_cons, ih onward,
        Rules.outcome_resolve_of_deterministic same deterministic type s.census count]

/-- What the rules of a stage have in common with the rules `rs` built anew. -/
structure AsNew (rs : Rules) (s : Stage) : Prop where
  /-- what was held before makes no difference to an answer -/
  outcome : ∀ (ctx : Context γ) (type : String),
    (s.rules.resolve ctx type s.census).outcome =
      (rs.rebuilt.resolve ctx type s.census).outcome
  /-- nor does anything else of what went before, where generators do not look at it -/
  forgetful : ∀ ctx : Context γ, ctx.Deterministic → ∀ (type : String) (count : Census),
    (s.rules.resolve ctx type s.census).outcome = (rs.rebuilt.resolve ctx type count).outcome
  /-- so requests can change places and be repeated -/
  answers : ∀ ctx : Context γ, ctx.Deterministic → ∀ (types : List String) (count : Census),
    s.answers ctx types = types.map fun type => (rs.rebuilt.resolve ctx type count).outcome
  /-- no instance of an earlier request is put to work again, and none of a generator that
  the context does not provide -/
  own : ∀ (ctx : Context γ) (type : String) (who : Instance) (step : Step),
    (who, step) ∈ steps (s.rules.resolve ctx type s.census).trace → step ≠ .released →
    ctx.Provides s.census who

/-- **Resolution does not depend on what went before.**  After any run of calls, against
whatever contexts, the rules answer like rules built anew, and ask generators of the context
at hand only. -/
theorem run_asNew (rs : Rules) (census : Census) (calls : List (Call γ)) :
    AsNew (γ := γ) rs (run { rules := rs, census } calls) := by
  have same : (run { rules := rs, census } calls).rules.dispose = rs.rebuilt.dispose :=
    (dispose_run _ calls).trans rs.dispose_rebuilt.symm
  constructor
  · intro ctx type
    exact Rules.outcome_resolve_congr same ctx type _
  · intro ctx deterministic type count
    exact Rules.outcome_resolve_of_deterministic same deterministic type _ count
  · intro ctx deterministic types count
    exact answers_eq_map deterministic same count types
  · intro ctx type who step told work
    exact Rules.new_of_step_resolve told work

/-! ## A generator that is provided in one request and not in the next -/

namespace Example

def provider : Context Recipe :=
  { properties := Rules.Example.context.properties
    types := Rules.Example.context.types
    generators := fun name => if name = "a.Proxies" then some (.suffix "_Proxy") else none }

def barren : Context Recipe :=
  { provider with generators := fun _ => none }

/-- One rule for every type. -/
def proxying : Rules :=
  { toList := [{ action := .generateWith "a.Proxies" }] }

theorem provider_forgotten :
    let s := run { rules := proxying, census := {} } [.resolve provider "a.Api"]
    (∃ r ∈ s.rules.toList, r.held.isSome) ∧
      s.answers provider ["a.Api", "a.Other", "a.Api"] =
        [.ok ⟨"a.Api_Proxy", some 0⟩, .ok ⟨"a.Other_Proxy", some 0⟩, .ok ⟨"a.Api_Proxy", some 0⟩] ∧
      (s.rules.resolve barren "a.Api" s.census).outcome = .error (.generatorNotFound "a.Proxies") ∧
      steps (s.rules.resolve barren "a.Api" s.census).trace = [] := by
  have asNew := run_asNew (γ := Recipe) proxying {} [.resolve provider "a.Api"]
  refine ⟨⟨_, List.mem_cons_self, rfl⟩, ?_, ?_, rfl⟩
  · exact (asNew.answers provider provider.deterministic_of_recipes _ {}).trans rfl
  · exact (asNew.outcome barren "a.Api").trans rfl

end Example

end Stage

end DeferredBinding
