/-
# Proofs.Resolution.Ending -- which rule takes its action is settled without generators

Going through the rules asks nothing of generators.  An `Ending` says what it comes to: no
rule stays, or one that is reached (`Reach`) misses a property, cannot be decided, or takes its
action.  It is made of the sources, the type and the rules alone; what a resolution leaves
behind, record and all, is read off it once the generators are given (`Ending.leaves`), and one
ending does for all of them (`exists_ending`).

So the outcome tells two families of generators apart only where a rule that asks for one of
them takes its action, and does so just if that one is answered for differently
(`outcome_ne_iff`).
-/
import DeferredBinding.Proofs.Resolution.FirstMatch
import DeferredBinding.Proofs.Resolution.Outcome

namespace DeferredBinding

set_option autoImplicit false

/-- A context of these sources and of some generators. -/
def Sources.providing {γ : Type} (given : Sources) (generators : String → Option γ) : Context γ :=
  { toSources := given, generators }

namespace Rules

/-! ## What is left behind -/

section

variable (given : Sources) (type : String)

/-- The record of deciding about rules, one after the other. -/
def decisions (rules : List Rule) : List Entry :=
  rules.flatMap fun q => (q.applies given type).trace

/-- What is noted at the end of a resolution in which no rule takes its action. -/
def closing : Except Failure Answer → List Entry
  | .ok _ => [.note .noRuleMatched]
  | .error _ => []

/-- What is left behind where the rules `tried` are decided about, and no action is taken. -/
def ended (rs : Rules) (census : Census) (tried : List Rule)
    (outcome : Except Failure Answer) : Resolution :=
  { outcome, rules := rs, census
    trace := .enter (.resolution type) :: (decisions given type tried ++ closing outcome) ++
      [.leave (.resolution type)] }

/-- What is left behind where `r` is decided about after the rules `earlier`, and takes its
action. -/
def acted (earlier : List Rule) (r : Rule) (later : List Rule)
    (realization : Rule.Realization) : Resolution :=
  let last := answered earlier.length realization later
  { last with
    rules := { toList := earlier ++ last.rules.toList }
    trace := .enter (.resolution type) ::
      (decisions given type (earlier ++ [r]) ++ last.trace) ++ [.leave (.resolution type)] }

theorem decisions_concat (earlier : List Rule) (r : Rule) :
    decisions given type (earlier ++ [r]) =
      decisions given type earlier ++ (r.applies given type).trace := by
  rw [decisions, List.flatMap_append, List.flatMap_singleton, decisions]

theorem outcome_acted (earlier : List Rule) (r : Rule) (later : List Rule)
    (realization : Rule.Realization) :
    (acted given type earlier r later realization).outcome =
      realization.outcome.map fun replacement =>
        { type := replacement, rule := some earlier.length } := by
  unfold acted answered
  cases realization.outcome with
  | ok replacement => rfl
  | error failure => rfl

end

/-! ## Where going through the rules ends -/

/-- A rule that is reached: all rules in front of it are passed over. -/
structure Reach (given : Sources) (type : String) (rs : Rules) where
  earlier : List Rule
  rule : Rule
  later : List Rule
  split : rs.toList = earlier ++ rule :: later
  passed : ∀ q ∈ earlier, q.PassedOver given type

/-- What going through the rules comes to. -/
inductive Ending (given : Sources) (type : String) (rs : Rules)
  /-- no rule stays -/
  | kept (passed : ∀ q ∈ rs.toList, q.PassedOver given type)
  /-- a rule that is reached mentions an unknown property -/
  | missing (reach : Reach given type rs) (name : String)
      (unknown : reach.rule.FirstUnknown given.properties name)
  /-- the conditions of a rule that is reached cannot be decided -/
  | undecided (reach : Reach given type rs) (failure : Failure)
      (known : reach.rule.PropertiesKnown given.properties)
      (fails : (reach.rule.applies given type).value = .error failure)
  /-- a rule that is reached takes its action -/
  | acts (reach : Reach given type rs) (fires : reach.rule.Fires given type)

section

variable {γ : Type} [Generator γ] {given : Sources} {type : String} {rs : Rules}

/-- What is left behind by a resolution that ends so, with generators to take an action by. -/
def Ending.leaves (generators : String → Option γ) (census : Census) :
    Ending given type rs → Resolution
  | .kept _ => ended given type rs census rs.toList (.ok { type, rule := none })
  | .missing reach name _ =>
      ended given type rs census reach.earlier (.error (.missingProperty type name))
  | .undecided reach failure _ _ =>
      ended given type rs census (reach.earlier ++ [reach.rule]) (.error failure)
  | .acts reach _ =>
      acted given type reach.earlier reach.rule reach.later
        (reach.rule.realize (given.providing generators) type census)

variable (generators : String → Option γ) (census : Census)

theorem resolve_of_all (passed : ∀ q ∈ rs.toList, q.PassedOver given type) :
    rs.resolve (given.providing generators) type census =
      ended given type rs census rs.toList (.ok { type, rule := none }) := by
  rw [resolve, @scan_all_passedOver _ _ (given.providing generators) _ _ passed]
  rfl

theorem resolve_of_missing (reach : Reach given type rs) {name : String}
    (unknown : reach.rule.FirstUnknown given.properties name) :
    rs.resolve (given.providing generators) type census =
      ended given type rs census reach.earlier (.error (.missingProperty type name)) := by
  obtain ⟨rules⟩ := rs
  obtain ⟨earlier, r, later, split, passed⟩ := reach
  obtain rfl : rules = earlier ++ r :: later := split
  rw [resolve]
  dsimp only
  rw [@scan_append _ _ (given.providing generators) _ _ passed,
    @scan_missing _ _ (given.providing generators) _ _ _ unknown]
  rfl

theorem resolve_of_undecided (reach : Reach given type rs) {failure : Failure}
    (known : reach.rule.PropertiesKnown given.properties)
    (fails : (reach.rule.applies given type).value = .error failure) :
    rs.resolve (given.providing generators) type census =
      ended given type rs census (reach.earlier ++ [reach.rule]) (.error failure) := by
  obtain ⟨rules⟩ := rs
  obtain ⟨earlier, r, later, split, passed⟩ := reach
  obtain rfl : rules = earlier ++ r :: later := split
  rw [resolve, ended, decisions_concat, closing, List.append_nil]
  dsimp only
  rw [@scan_append _ _ (given.providing generators) _ _ passed,
    @scan_undecided _ _ (given.providing generators) _ _ _ known fails]
  rfl

theorem resolve_of_fires (reach : Reach given type rs)
    (fires : reach.rule.Fires given type) :
    rs.resolve (given.providing generators) type census =
      acted given type reach.earlier reach.rule reach.later
        (reach.rule.realize (given.providing generators) type census) := by
  obtain ⟨rules⟩ := rs
  obtain ⟨earlier, r, later, split, passed⟩ := reach
  obtain rfl : rules = earlier ++ r :: later := split
  rw [resolve, acted, decisions_concat, List.append_assoc]
  dsimp only
  rw [@scan_append _ _ (given.providing generators) _ _ passed,
    @scan_fires _ _ (given.providing generators) _ _ fires, Nat.zero_add]
  rfl

end

/-- Going through the rules comes to the same, whatever generators there are. -/
theorem exists_ending (given : Sources) (type : String) (rs : Rules) :
    ∃ ending : Ending given type rs,
      ∀ (γ : Type) [Generator γ] (generators : String → Option γ) (census : Census),
        rs.resolve (given.providing generators) type census =
          ending.leaves generators census := by
  obtain all | ⟨earlier, r, later, split, passed, stays⟩ :=
    all_passedOver_or_first given type rs.toList
  · exact ⟨.kept all, fun γ _ generators census => resolve_of_all generators census all⟩
  · let reach : Reach given type rs := ⟨earlier, r, later, split, passed⟩
    obtain none_ | ⟨name, unknown⟩ | ⟨known, failure, fails⟩ | fires :=
      r.passedOver_or given type
    · exact absurd none_ stays
    · exact ⟨.missing reach name unknown, fun γ _ generators census =>
        resolve_of_missing generators census reach unknown⟩
    · exact ⟨.undecided reach failure known fails, fun γ _ generators census =>
        resolve_of_undecided generators census reach known fails⟩
    · exact ⟨.acts reach fires, fun γ _ generators census =>
        resolve_of_fires generators census reach fires⟩

end Rules

/-! ## Where generators make a difference -/

/-- What an action yields tells what generators answer just where it asks for one. -/
theorem Action.yield_eq_iff {action : Action} {type : String}
    {here there : String → Option (Except String String)} :
    action.yield here type = action.yield there type ↔
      ∀ name, action = .generateWith name → here name = there name := by
  cases action with
  | replaceWith replacement => exact ⟨fun _ _ asks => (nomatch asks), fun _ => rfl⟩
  | fail => exact ⟨fun _ _ asks => (nomatch asks), fun _ => rfl⟩
  | generateWith name =>
      constructor
      · intro same other asks
        cases asks
        rw [yield, yield] at same
        cases first : here name with
        | none =>
            cases second : there name with
            | none => rfl
            | some answer => rw [first, second] at same; cases answer <;> cases same
        | some answer =>
            cases second : there name with
            | none => rw [first, second] at same; cases answer <;> cases same
            | some other =>
                rw [first, second] at same
                cases answer <;> cases other <;> cases same <;> rfl
      · intro same
        rw [yield, yield, same name rfl]

/-- An answer tells the type that the rule at a position gives. -/
theorem eq_of_answers_eq {first second : Except Failure String} {index : Nat}
    (same : (first.map fun replacement => Answer.mk replacement (some index)) =
      second.map fun replacement => Answer.mk replacement (some index)) : first = second := by
  cases first <;> cases second <;> cases same <;> rfl

/-- The outcome tells two families of generators apart just where a rule takes its action that
asks for a generator, and this one is answered for differently. -/
theorem Rules.outcome_ne_iff {γ δ : Type} [Generator γ] [Generator δ] (given : Sources)
    (type : String) (rs : Rules) (here : String → Option γ) (there : String → Option δ)
    (before likewise : Census) :
    (rs.resolve (given.providing here) type before).outcome ≠
        (rs.resolve (given.providing there) type likewise).outcome ↔
      ∃ reach : Reach given type rs, reach.rule.Fires given type ∧
        ∃ name, reach.rule.action = .generateWith name ∧
          (given.providing here).answer? type before name ≠
            (given.providing there).answer? type likewise name := by
  constructor
  · intro differ
    obtain ⟨ending, leaves⟩ := exists_ending given type rs
    rw [leaves, leaves] at differ
    cases ending with
    | kept passed => exact absurd rfl differ
    | missing reach name unknown => exact absurd rfl differ
    | undecided reach failure known fails => exact absurd rfl differ
    | acts reach fires =>
        refine ⟨reach, fires, Classical.byContradiction fun alike => differ ?_⟩
        rw [Ending.leaves, Ending.leaves, outcome_acted, outcome_acted, Rule.outcome_realize,
          Rule.outcome_realize]
        congr 1
        refine Action.yield_eq_iff.2 fun name asks => ?_
        exact Classical.byContradiction fun different => alike ⟨name, asks, different⟩
  · rintro ⟨reach, fires, name, asks, different⟩ same
    rw [resolve_of_fires here before reach fires, resolve_of_fires there likewise reach fires,
      outcome_acted, outcome_acted, Rule.outcome_realize, Rule.outcome_realize] at same
    exact different (Action.yield_eq_iff.1 (eq_of_answers_eq same) name asks)

end DeferredBinding
