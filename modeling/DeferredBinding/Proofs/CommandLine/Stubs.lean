/-
# Proofs.CommandLine.Stubs -- what the stubs of a request can change

Stubs are generators, and generators have no part in which rule takes its action
(`Rules.exists_ending`).  So to name more stubs changes a request only where the rule that
takes its action calls for one of those that were added: then a failure to find it becomes an
answer (`resolution_added`).  Every other request comes to what it came to before, to the last
entry of its record.

`generators_apart` says both: what holds of all families of generators, and what follows for
the stubs of the command line.
-/
import DeferredBinding.Proofs.CommandLine.Resolving
import DeferredBinding.Proofs.Condition.Aborts
import DeferredBinding.Proofs.Resolution.Ending

namespace DeferredBinding

set_option autoImplicit false

/-- Where a generator is not found, no generator goes by its name. -/
theorem Rules.generators_of_notFound {γ : Type} [Generator γ] {rs : Rules} {ctx : Context γ}
    {type name : String} {census : Census}
    (failed : (rs.resolve ctx type census).outcome = .error (.generatorNotFound name)) :
    ctx.generators name = none := by
  obtain ⟨r, -, ⟨_, -, other⟩ | undecided | failing⟩ :=
    (rs.resolve_course ctx type census).error_cases failed
  · cases other
  · rw [Rule.applies_value] at undecided
    cases Condition.aborts_of_allHold r.roots undecided
  · obtain ⟨-, other⟩ | ⟨_, -, ⟨absent, same⟩ | ⟨_, _, -, other⟩⟩ :=
      Rule.realize_error_cases failing
    · cases other
    · cases same
      exact absent
    · cases other

namespace CommandLine

/-! ## Adding stubs -/

section

variable {names more : List String}

/-- With more stubs a rule takes its action as before, unless it calls for one that was added:
that one was not found, and answers now. -/
theorem realize_added (added : names ⊆ more) (given : Sources) (type : String) (r : Rule)
    (census : Census) :
    r.realize (given.providing (stubs more).get?) type census =
        r.realize (given.providing (stubs names).get?) type census ∨
      ∃ name ∈ more,
        (r.realize (given.providing (stubs names).get?) type census).outcome =
          .error (.generatorNotFound name) ∧
        (r.realize (given.providing (stubs more).get?) type census).outcome =
          .ok (type ++ stubSuffix) := by
  cases action : r.action with
  | replaceWith replacement =>
      rw [Rule.realize_replaceWith _ type census action,
        Rule.realize_replaceWith _ type census action]
      exact .inl rfl
  | fail =>
      rw [Rule.realize_fail _ type census action, Rule.realize_fail _ type census action]
      exact .inl rfl
  | generateWith name =>
      have before := get?_stubs names name
      have after := get?_stubs more name
      by_cases there : name ∈ names
      · rw [if_pos there] at before
        rw [if_pos (added there)] at after
        rw [Rule.realize_known _ type census action after,
          Rule.realize_known _ type census action before]
        exact .inl rfl
      · rw [if_neg there] at before
        by_cases new : name ∈ more
        · rw [if_pos new] at after
          rw [Rule.realize_known _ type census action after,
            Rule.realize_unknown _ type census action before]
          exact .inr ⟨name, new, rfl, rfl⟩
        · rw [if_neg new] at after
          rw [Rule.realize_unknown _ type census action after,
            Rule.realize_unknown _ type census action before]
          exact .inl rfl

variable (m : Module) (type : String) (choices : List (String × String))

theorem not_mem_of_notFound {name : String}
    (failed : (resolution m type choices names).outcome = .error (.generatorNotFound name)) :
    name ∉ names := by
  intro there
  have absent : (stubs names).get? name = none := Rules.generators_of_notFound failed
  rw [get?_stubs, if_pos there] at absent
  cases absent

/-- With more stubs a request is resolved as before, unless one that was added was not found:
now it answers. -/
theorem resolution_added (added : names ⊆ more) :
    resolution m type choices more = resolution m type choices names ∨
      ∃ name ∈ more, ∃ index,
        (resolution m type choices names).outcome = .error (.generatorNotFound name) ∧
        (resolution m type choices more).outcome =
          .ok { type := type ++ stubSuffix, rule := some index } := by
  let properties : Property.Permutation :=
    { table := m.properties, selections := .ofList choices }
  let given : Sources := { properties := properties.source, types := m.types.source }
  obtain ⟨ending, leaves⟩ := Rules.exists_ending given type m.rules
  have before : resolution m type choices names = ending.leaves (stubs names).get? {} :=
    leaves Recipe _ {}
  have after : resolution m type choices more = ending.leaves (stubs more).get? {} :=
    leaves Recipe _ {}
  rw [before, after]
  cases ending with
  | kept passed => exact .inl rfl
  | missing reach name unknown => exact .inl rfl
  | undecided reach failure known fails => exact .inl rfl
  | acts reach fires =>
      obtain same | ⟨name, new, failed, answered⟩ :=
        realize_added added given type reach.rule {}
      · rw [Rules.Ending.leaves, Rules.Ending.leaves, same]
        exact .inl rfl
      · refine .inr ⟨name, new, reach.earlier.length, ?_, ?_⟩
        · rw [Rules.Ending.leaves, Rules.outcome_acted, failed]
          rfl
        · rw [Rules.Ending.leaves, Rules.outcome_acted, answered]
          rfl

/-- An attempt fails for want of a generator that is among the names `more`. -/
def Wants (names more : List String) (name : String) : Prop :=
  Declares m choices ∧ m.ResolvesTo choices names type (.error (.generatorNotFound name)) ∧
    name ∈ more

theorem attempt_added (added : names ⊆ more) :
    attempt m type choices more = attempt m type choices names ∧
        (∀ name, ¬ Wants m type choices names more name) ∨
      ∃ name, Wants m type choices names more name ∧
        ∃ index, (attempt m type choices more).outcome =
          .ok { type := type ++ stubSuffix, rule := some index } := by
  cases found : undeclared m choices with
  | some name =>
      have first := undeclared_eq_some_iff.1 found
      refine .inl ⟨?_, fun _ wants => not_declares first wants.1⟩
      rw [attempt, attempt, found]
  | none =>
      have declares := undeclared_eq_none_iff.1 found
      obtain same | ⟨name, new, index, failed, answered⟩ := resolution_added m type choices added
      · refine .inl ⟨?_, fun name wants => ?_⟩
        · rw [attempt_of_declares declares, attempt_of_declares declares, same]
        · have failed := resolvesTo_iff_resolution.1 wants.2.1
          rw [← same] at failed
          exact not_mem_of_notFound m type choices failed wants.2.2
      · refine .inr ⟨name, ⟨declares, resolvesTo_iff_resolution.2 failed, new⟩, index, ?_⟩
        rw [attempt_of_declares declares, answered]
        rfl

theorem outcome_attempt_of_wants {name : String} (wants : Wants m type choices names more name) :
    (attempt m type choices names).outcome =
      .error (unresolved type (.generatorNotFound name)) :=
  outcome_attempt_of_resolvesTo wants.1 wants.2.1

end

/-! ## Requests with more stubs -/

/-- What to name `more` stubs beside `names` makes of a request for a type. -/
structure StubsAdded (read : FileReader) (path type : String) (choices : List (String × String))
    (names more : List String) : Prop where
  /-- an answer stays, with everything that was done on the way -/
  answered : (resolve read path type choices names).failure = none →
    resolve read path type choices more = resolve read path type choices names
  /-- a generator that was not found, and is among those named now, answers -/
  wanted : ∀ m name, (Module.ofFile path (read path)).value = .ok m →
    Wants m type choices names more name →
    (resolve read path type choices names).failure =
        some (unresolved type (.generatorNotFound name)) ∧
      (resolve read path type choices more).failure = none ∧
      (resolve read path type choices more).printed = type ++ stubSuffix ++ "\n"
  /-- every other failure stays -/
  failed : ∀ chain, (resolve read path type choices names).failure = some chain →
    (∀ m name, (Module.ofFile path (read path)).value = .ok m →
      ¬ Wants m type choices names more name) →
    resolve read path type choices more = resolve read path type choices names

section

variable {read : FileReader} {path type : String} {choices : List (String × String)}
  {names more : List String}

theorem failure_of_wants {m : Module} {name : String}
    (loaded : (Module.ofFile path (read path)).value = .ok m)
    (wants : Wants m type choices names more name) :
    (resolve read path type choices names).failure =
      some (unresolved type (.generatorNotFound name)) := by
  rw [resolve_of_failed loaded (outcome_attempt_of_wants m type choices wants)]

/-- Where no generator that is named now was wanted, nothing changes. -/
theorem resolve_added (added : names ⊆ more)
    (content : ∀ m name, (Module.ofFile path (read path)).value = .ok m →
      ¬ Wants m type choices names more name) :
    resolve read path type choices more = resolve read path type choices names := by
  refine resolve_congr fun m loaded => ?_
  obtain ⟨same, -⟩ | ⟨name, wants, -⟩ := attempt_added m type choices added
  · exact same
  · exact absurd wants (content m name loaded)

theorem stubsAdded (added : names ⊆ more) : StubsAdded read path type choices names more where
  answered done := by
    refine resolve_added added fun m name loaded wants => ?_
    rw [failure_of_wants loaded wants] at done
    cases done
  wanted m name loaded wants := by
    obtain ⟨-, none_⟩ | ⟨_, -, index, answers⟩ := attempt_added m type choices added
    · exact absurd wants (none_ name)
    · refine ⟨failure_of_wants loaded wants, ?_, ?_⟩
      · rw [resolve_of_answered loaded answers]
      · rw [resolve_of_answered loaded answers, printed_answered]
  failed _ _ content := resolve_added added content

end

/-! ## Generators apart -/

/-- What generators have no part in, in a request for a type. -/
structure GeneratorsApart (given : Sources) (type : String) (rs : Rules) : Prop where
  /-- All generators are left with the same ending: the same answer that no rule gave, the same
  failure before any action is taken, or the same rule that takes its action. -/
  ending : ∃ ending : Rules.Ending given type rs,
    ∀ (γ : Type) [Generator γ] (generators : String → Option γ) (census : Census),
      rs.resolve (given.providing generators) type census = ending.leaves generators census
  /-- So outcomes differ just where that rule asks for a generator, and this one is answered for
  differently. -/
  differ : ∀ (γ δ : Type) [Generator γ] [Generator δ] (here : String → Option γ)
      (there : String → Option δ) (before likewise : Census),
    (rs.resolve (given.providing here) type before).outcome ≠
        (rs.resolve (given.providing there) type likewise).outcome ↔
      ∃ reach : Rules.Reach given type rs, reach.rule.Fires given type ∧
        ∃ name, reach.rule.action = .generateWith name ∧
          (given.providing here).answer? type before name ≠
            (given.providing there).answer? type likewise name

/-- **Generators have no part in which rule is taken.**  Whatever generators there are, going
through the rules ends the same way, and only the rule that takes its action may ask one of
them.  So more stubs on a command line change nothing but a failure to find one of them, which
becomes its answer. -/
theorem generators_apart (given : Sources) (type : String) (rs : Rules) (read : FileReader)
    (path : String) (choices : List (String × String)) {names more : List String}
    (added : names ⊆ more) :
    GeneratorsApart given type rs ∧ StubsAdded read path type choices names more :=
  ⟨⟨Rules.exists_ending given type rs, fun _ _ => Rules.outcome_ne_iff given type rs⟩,
    stubsAdded added⟩

namespace Example

/-- A rule that calls for one generator, whatever is requested. -/
def calling : Rules :=
  { toList := [{ action := .generateWith "stub" }] }

def bare : Sources :=
  { properties := ({} : Property.Permutation).source, types := Types.Hierarchy.root.source }

def callingFile : FileReader := fun _ =>
  .ok ("\x7b\"name\":\"a.M\"," ++
    "\"rule\":[\x7b\"kind\":\"generate-with\",\"class\":\"stub\"\x7d]\x7d")

/-- A stub that was not found is added, and answers. -/
theorem added_stub_answers :
    ["other"] ⊆ ["other", "stub"] ∧
      (∃ reach : Rules.Reach bare "a.Api" calling, reach.rule.Fires bare "a.Api") ∧
      (resolve callingFile "m.json" "a.Api" [] ["other"]).failure =
        some (unresolved "a.Api" (.generatorNotFound "stub")) ∧
      (resolve callingFile "m.json" "a.Api" [] ["other", "stub"]).printed =
        "a.Api_Generated\n" := by
  have added : ["other"] ⊆ ["other", "stub"] := by decide
  obtain ⟨apart, stubs_⟩ := generators_apart bare "a.Api" calling callingFile "m.json" [] added
  have fails : (resolve callingFile "m.json" "a.Api" [] ["other"]).failure =
      some (unresolved "a.Api" (.generatorNotFound "stub")) := by decide +kernel
  have answers : (resolve callingFile "m.json" "a.Api" [] ["other", "stub"]).failure = none := by
    decide +kernel
  refine ⟨added, ?_, fails, ?_⟩
  · have differ : (calling.resolve (bare.providing (stubs ["other"]).get?) "a.Api" {}).outcome ≠
        (calling.resolve (bare.providing (stubs ["other", "stub"]).get?) "a.Api" {}).outcome := by
      decide
    obtain ⟨reach, fires, -⟩ := (apart.differ Recipe Recipe _ _ {} {}).1 differ
    exact ⟨reach, fires⟩
  · -- were nothing wanted that is named now, the failure would have stayed
    refine Classical.byContradiction fun silent => ?_
    have same := stubs_.failed _ fails fun m name loaded wants =>
      silent (stubs_.wanted m name loaded wants).2.2
    rw [same, fails] at answers
    cases answers

end Example

end CommandLine

end DeferredBinding
