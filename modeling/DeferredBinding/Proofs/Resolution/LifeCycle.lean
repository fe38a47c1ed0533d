/-
# Proofs.Resolution.LifeCycle -- generator instances from their making to their release

Every instance a rule obtains is made, asked once, held on to, and in the end released;
nothing happens to it after that.  `Phase` lists the three states an instance can be in
between two calls: not made yet, held by one rule, or released.

`Stage.Kept` is the invariant of a collection of rules together with the record of all
that was done with them.  Taking an action keeps it (`Kept.realize`), so a resolution
does (`Kept.resolve`), so does letting go of all rules (`Kept.dispose`), and therefore
every run of calls (`Kept.run`).  That a new instance is none of those made before is the
work of the census.
-/
import DeferredBinding.Module.Basic
import DeferredBinding.Proofs.Resolution.Calls

namespace DeferredBinding

set_option autoImplicit false

/-! ## The life of an instance in a record -/

/-- The step in the life of an instance of a rule that an entry tells of. -/
def Entry.step? : Entry → Option (Instance × Step)
  | .generator who step => some (who, step)
  | _ => none

/-- The steps in the lives of the instances of rules, in order. -/
def steps (entries : List Entry) : List (Instance × Step) :=
  entries.filterMap Entry.step?

/-- What happened to an instance, in order. -/
def life (who : Instance) (entries : List Entry) : List Step :=
  ((steps entries).filter fun event => event.1 = who).map Prod.snd

@[simp] theorem steps_append (xs ys : List Entry) : steps (xs ++ ys) = steps xs ++ steps ys :=
  List.filterMap_append

@[simp] theorem steps_cons_generator (who : Instance) (step : Step) (rest : List Entry) :
    steps (.generator who step :: rest) = (who, step) :: steps rest := rfl

theorem steps_generatorWork (entries : List Entry) :
    steps (generatorWork entries) = steps entries := by
  refine filterMap_generatorWork (fun entry untold => ?_) entries
  match entry with
  | .enter _ | .leave _ | .note _ | .helper _ _ => rfl
  | .generator _ _ => cases untold

theorem life_append (who : Instance) (xs ys : List Entry) :
    life who (xs ++ ys) = life who xs ++ life who ys := by
  rw [life, steps_append, List.filter_append, List.map_append]
  rfl

theorem life_of_steps_nil {entries : List Entry} (nothing : steps entries = [])
    (who : Instance) : life who entries = [] := by
  rw [life, nothing]
  rfl

theorem life_generatorWork (who : Instance) (entries : List Entry) :
    life who (generatorWork entries) = life who entries := by
  rw [life, steps_generatorWork]
  rfl

theorem steps_release (held : Option Instance) :
    steps (Rule.release held) = held.toList.map fun who => (who, .released) := by
  cases held <;> rfl

theorem steps_helpers (helpers : List (Instance × Step)) :
    steps (helpers.map fun h => .helper h.1 h.2) = [] := by
  rw [steps, List.filterMap_map, List.filterMap_eq_nil_iff]
  intro h _
  rfl

/-! ## Who holds an instance -/

/-- How many rules hold an instance. -/
def holders (rs : Rules) (who : Instance) : Nat :=
  rs.toList.countP fun r => decide (r.held = some who)

/-- Whether a rule holds an instance, as a number. -/
def holding (r : Rule) (who : Instance) : Nat :=
  if r.held = some who then 1 else 0

theorem holders_split (earlier : List Rule) (r : Rule) (later : List Rule) (who : Instance) :
    holders { toList := earlier ++ r :: later } who =
      holders { toList := earlier ++ later } who + holding r who := by
  simp only [holders, holding, List.countP_append, List.countP_cons, decide_eq_true_eq]
  omega

theorem holders_eq_zero_of_idle {rs : Rules} (idle : ∀ r ∈ rs.toList, r.held = none)
    (who : Instance) : holders rs who = 0 := by
  rw [holders, List.countP_eq_zero]
  intro r member
  rw [idle r member]
  simp

theorem holders_dispose (rs : Rules) (who : Instance) : holders rs.dispose who = 0 := by
  refine holders_eq_zero_of_idle (fun r member => ?_) who
  obtain ⟨q, there, rfl⟩ := List.mem_map.1 member
  rfl

/-- Disposing the rules releases an instance as often as it is held. -/
theorem life_disposal (rs : Rules) (who : Instance) :
    life who rs.disposal = List.replicate (holders rs who) .released := by
  obtain ⟨rules⟩ := rs
  induction rules with
  | nil => rfl
  | cons r rest ih =>
      have onward : life who (Rules.disposal { toList := r :: rest }) =
          life who (Rule.release r.held) ++ life who (Rules.disposal { toList := rest }) :=
        life_append who _ _
      have split : holders { toList := r :: rest } who =
          holders { toList := rest } who + holding r who := holders_split [] r rest who
      have here : life who (Rule.release r.held) =
          List.replicate (holding r who) .released := by
        rw [life, steps_release, holding]
        cases held : r.held with
        | none => rfl
        | some old =>
            by_cases same : old = who
            · simp [same]
            · simp [same]
      rw [onward, split, here, ih, List.replicate_append_replicate, Nat.add_comm]

/-- What can be told of an instance between two calls: what happened to it so far, and by
how many rules it is held. -/
inductive Phase : List Step → Nat → Prop
  | unmade : Phase [] 0
  | held (type : String) : Phase [.created, .asked type] 1
  | released (type : String) : Phase [.created, .asked type, .released] 0

theorem Phase.unheld {count : Nat} (phase : Phase [] count) : count = 0 := by
  cases phase
  rfl

theorem Phase.of_held {events : List Step} {count : Nat} (phase : Phase events (count + 1)) :
    count = 0 ∧ ∃ type, events = [.created, .asked type] := by
  cases phase with
  | held type => exact ⟨rfl, type, rfl⟩

/-- An instance no rule holds was never made, or was released. -/
theorem Phase.of_unheld {events : List Step} (phase : Phase events 0) :
    events = [] ∨ ∃ type, events = [.created, .asked type, .released] := by
  cases phase with
  | unmade => exact Or.inl rfl
  | released type => exact Or.inr ⟨type, rfl⟩

/-- A release is the last thing that happens to an instance. -/
theorem Phase.release_last {events before after : List Step} {count : Nat}
    (phase : Phase events count) (split : events = before ++ .released :: after) :
    after = [] := by
  cases phase with
  | unmade => simp at split
  | held type =>
      have member : Step.released ∈ [Step.created, .asked type] := by
        rw [split]
        exact List.mem_append_right _ List.mem_cons_self
      simp at member
  | released type =>
      match before, split with
      | [], split => simp at split
      | [_], split => simp at split
      | [_, _], split =>
          simp only [List.cons_append, List.nil_append, List.cons.injEq, true_and] at split
          exact split.2.2.symm
      | _ :: _ :: _ :: _, split => simp at split

/-- Letting go of an instance as often as it is held releases it for good. -/
theorem Phase.dispose {events : List Step} {count : Nat} (phase : Phase events count) :
    Phase (events ++ List.replicate count .released) 0 := by
  cases phase with
  | unmade => exact .unmade
  | held type => exact .released type
  | released type => exact .released type

/-! ## What taking an action does to instances -/

namespace Rule

variable {γ : Type} [Generator γ] {ctx : Context γ} {type : String}

theorem steps_generate (r : Rule) (census : Census) (name : String) (generator : γ) :
    steps (r.generate ctx type census name generator).trace =
      ((census.make name (Generator.silent generator)).1, .created) ::
        (r.held.toList.map fun who => (who, .released)) ++
          [((census.make name (Generator.silent generator)).1, .asked type)] := by
  rw [generate]
  simp only [List.cons_append, steps_cons_generator, steps_append, steps_release, steps_helpers]

section

variable {r : Rule} {census : Census} {name : String} {generator : γ} {who : Instance}

theorem life_generate_new (new : (census.make name (Generator.silent generator)).1 = who)
    (unheld : r.held ≠ some who) :
    life who (r.generate ctx type census name generator).trace = [.created, .asked type] := by
  rw [life, steps_generate, new]
  cases held : r.held with
  | none => simp
  | some old =>
      have other : old ≠ who := fun same => unheld (same ▸ held)
      simp [other]

theorem life_generate_old (other : (census.make name (Generator.silent generator)).1 ≠ who)
    (held : r.held = some who) :
    life who (r.generate ctx type census name generator).trace = [.released] := by
  rw [life, steps_generate, held]
  simp [other]

theorem life_generate_other (other : (census.make name (Generator.silent generator)).1 ≠ who)
    (unheld : r.held ≠ some who) :
    life who (r.generate ctx type census name generator).trace = [] := by
  rw [life, steps_generate]
  cases held : r.held with
  | none => simp [other]
  | some old =>
      have distinct : old ≠ who := fun same => unheld (same ▸ held)
      simp [other, distinct]

end

/-- An action either leaves the rule, the census and every instance alone, or puts a new
instance of the generator it calls for to work, which the context provides. -/
theorem realize_quiet_or_generates (ctx : Context γ) (type : String) (r : Rule)
    (census : Census) :
    ((r.realize ctx type census).rule = r ∧ (r.realize ctx type census).census = census ∧
        steps (r.realize ctx type census).trace = []) ∨
      ∃ name generator, r.action = .generateWith name ∧ ctx.generators name = some generator ∧
        r.realize ctx type census = r.generate ctx type census name generator := by
  cases action : r.action with
  | replaceWith name =>
      rw [realize_replaceWith ctx type census action]
      exact Or.inl ⟨rfl, rfl, rfl⟩
  | generateWith name =>
      cases found : ctx.generators name with
      | none =>
          rw [realize_unknown ctx type census action found]
          exact Or.inl ⟨rfl, rfl, rfl⟩
      | some generator =>
          exact Or.inr ⟨name, generator, rfl, found, realize_known ctx type census action found⟩
  | fail =>
      rw [realize_fail ctx type census action]
      exact Or.inl ⟨rfl, rfl, rfl⟩

/-- What a failing action leaves behind. -/
structure FailsOrderly (ctx : Context γ) (type : String) (r : Rule) (census : Census) :
    Prop where
  /-- where the generator is unknown, the rule keeps what it holds -/
  notFound : ∀ name, (r.realize ctx type census).outcome = .error (.generatorNotFound name) →
    (r.realize ctx type census).rule = r ∧
      (r.realize ctx type census).trace = [.note (.generatorUnknown name)]
  /-- where the generator fails, it is held, and the instance held before was released -/
  failed : ∀ name asked reason,
    (r.realize ctx type census).outcome = .error (.generatorFailed name asked reason) →
    ∃ new, census.counts new = false ∧ (r.realize ctx type census).rule.held = some new ∧
      steps (r.realize ctx type census).trace =
        (new, .created) :: (r.held.toList.map fun who => (who, .released)) ++
          [(new, .asked type)]

theorem failsOrderly (ctx : Context γ) (type : String) (r : Rule) (census : Census) :
    FailsOrderly ctx type r census := by
  constructor
  · intro name notFound
    obtain ⟨refuses, same⟩ | ⟨called, calls, ⟨unknown, same⟩ | ⟨generator, reason, known, same⟩⟩ :=
      realize_error_cases notFound
    · cases same
    · cases same
      rw [realize_unknown ctx type census calls unknown]
      exact ⟨rfl, rfl⟩
    · cases same
  · intro name asked reason failed
    obtain ⟨refuses, same⟩ | ⟨called, calls, ⟨unknown, same⟩ | ⟨generator, _, known, same⟩⟩ :=
      realize_error_cases failed
    · cases same
    · cases same
    · rw [realize_known ctx type census calls known]
      exact ⟨_, (census.counts_make called (Generator.silent generator)).1, rfl,
        r.steps_generate census called generator⟩

end Rule

/-! ## What holds between two calls -/

namespace Stage

variable {γ : Type} [Generator γ]

/-- The invariant of runs: rules hold instances of their own generators only, what was
made is counted, and every instance is in one of its phases. -/
structure Kept (s : Stage) : Prop where
  own : ∀ r ∈ s.rules.toList, ∀ who, r.held = some who →
    r.action = .generateWith who.generator
  counted : ∀ who, life who s.record ≠ [] → s.census.counts who = true
  phase : ∀ who, Phase (life who s.record) (holders s.rules who)

theorem kept_of_idle {rs : Rules} (idle : ∀ r ∈ rs.toList, r.held = none) (census : Census) :
    Kept { rules := rs, census } := by
  constructor
  · intro r member who held
    rw [idle r member] at held
    cases held
  · intro who alive
    exact absurd rfl alive
  · intro who
    rw [holders_eq_zero_of_idle idle]
    exact .unmade

/-- The invariant reads the record through the lives in it only. -/
theorem Kept.of_same_lives {s t : Stage} (kept : s.Kept) (rules : t.rules = s.rules)
    (census : t.census = s.census) (same : ∀ who, life who t.record = life who s.record) :
    t.Kept := by
  constructor
  · rw [rules]
    exact kept.own
  · intro who alive
    rw [census]
    rw [same] at alive
    exact kept.counted who alive
  · intro who
    rw [same, rules]
    exact kept.phase who

theorem Kept.append_quiet {rs : Rules} {census : Census} {record entries : List Entry}
    (kept : Kept { rules := rs, census, record }) (quiet : steps entries = []) :
    Kept { rules := rs, census, record := record ++ entries } := by
  refine kept.of_same_lives rfl rfl fun who => ?_
  rw [life_append, life_of_steps_nil quiet, List.append_nil]

/-- A rule of the stage holds no instance that is yet to be made, and what it holds is
held by it alone and was made and asked. -/
theorem Kept.holding_cases {earlier later : List Rule} {r : Rule} {census : Census}
    {record : List Entry}
    (kept : Kept { rules := { toList := earlier ++ r :: later }, census, record })
    (who : Instance) :
    (r.held = some who ∧ holders { toList := earlier ++ later } who = 0 ∧
        (∃ type, life who record = [.created, .asked type]) ∧ census.counts who = true) ∨
      (r.held ≠ some who ∧
        Phase (life who record) (holders { toList := earlier ++ later } who)) := by
  have phase : Phase (life who record) (holders { toList := earlier ++ r :: later } who) :=
    kept.phase who
  rw [holders_split] at phase
  by_cases held : r.held = some who
  · rw [holding, if_pos held] at phase
    obtain ⟨alone, asked, happened⟩ := phase.of_held
    have counted : census.counts who = true := by
      refine kept.counted who ?_
      show life who record ≠ []
      rw [happened]
      exact List.cons_ne_nil _ _
    exact Or.inl ⟨held, alone, ⟨asked, happened⟩, counted⟩
  · rw [holding, if_neg held, Nat.add_zero] at phase
    exact Or.inr ⟨held, phase⟩

/-- What the census has yet to count was not made, and no rule holds it. -/
theorem Kept.unmade {earlier later : List Rule} {r : Rule} {census : Census}
    {record : List Entry} {who : Instance}
    (kept : Kept { rules := { toList := earlier ++ r :: later }, census, record })
    (fresh : census.counts who = false) :
    r.held ≠ some who ∧ life who record = [] ∧ holders { toList := earlier ++ later } who = 0 := by
  obtain ⟨held, alone, happened, counted⟩ | ⟨unheld, phase⟩ := kept.holding_cases who
  · rw [fresh] at counted
    cases counted
  · have nothing : life who record = [] := by
      refine Decidable.byContradiction fun alive => ?_
      have counted : census.counts who = true := kept.counted who alive
      rw [fresh] at counted
      cases counted
    rw [nothing] at phase
    exact ⟨unheld, nothing, phase.unheld⟩

section

variable {earlier later : List Rule} {r : Rule} {census : Census} {record : List Entry}
  {name : String}

/-- A new instance was never made before, and the one it takes the place of is released. -/
theorem Kept.phase_generate
    (kept : Kept { rules := { toList := earlier ++ r :: later }, census, record })
    (ctx : Context γ) (type : String) (generator : γ) (who : Instance) :
    Phase (life who (record ++ (r.generate ctx type census name generator).trace))
      (holders { toList := earlier ++ (r.generate ctx type census name generator).rule :: later }
        who) := by
  have fresh := (census.counts_make name (Generator.silent generator)).1
  rw [life_append, holders_split]
  by_cases new : (census.make name (Generator.silent generator)).1 = who
  · rw [new] at fresh
    obtain ⟨unheld, unmade, alone⟩ := kept.unmade fresh
    have holds : holding (r.generate ctx type census name generator).rule who = 1 :=
      if_pos (congrArg some new)
    rw [Rule.life_generate_new new unheld, unmade, alone, holds]
    exact .held type
  · have idle : holding (r.generate ctx type census name generator).rule who = 0 :=
      if_neg fun same => new (Option.some.inj same)
    rw [idle, Nat.add_zero]
    obtain ⟨held, alone, ⟨asked, happened⟩, counted⟩ | ⟨unheld, phase⟩ := kept.holding_cases who
    · rw [Rule.life_generate_old new held, happened, alone]
      exact .released asked
    · rw [Rule.life_generate_other new unheld, List.append_nil]
      exact phase

theorem Kept.counted_generate
    (kept : Kept { rules := { toList := earlier ++ r :: later }, census, record })
    (ctx : Context γ) (type : String) (generator : γ) (who : Instance)
    (alive : life who (record ++ (r.generate ctx type census name generator).trace) ≠ []) :
    (r.generate ctx type census name generator).census.counts who = true := by
  refine Census.counts_plus_of_counts _ ?_
  by_cases new : (census.make name (Generator.silent generator)).1 = who
  · rw [← new]
    exact (census.counts_make name (Generator.silent generator)).2
  · refine Census.counts_make_of_counts name (Generator.silent generator) ?_
    obtain ⟨held, alone, happened, counted⟩ | ⟨unheld, phase⟩ := kept.holding_cases who
    · exact counted
    · rw [life_append, Rule.life_generate_other new unheld, List.append_nil] at alive
      exact kept.counted who alive

/-- Putting a new instance to work keeps the invariant. -/
theorem Kept.generate
    (kept : Kept { rules := { toList := earlier ++ r :: later }, census, record })
    (action : r.action = .generateWith name) (ctx : Context γ) (type : String)
    (generator : γ) :
    Kept
      { rules := { toList :=
          earlier ++ (r.generate ctx type census name generator).rule :: later }
        census := (r.generate ctx type census name generator).census
        record := record ++ (r.generate ctx type census name generator).trace } := by
  refine ⟨?_, kept.counted_generate ctx type generator, kept.phase_generate ctx type generator⟩
  intro q member who held
  obtain before | rfl | behind : q ∈ earlier ∨ q = _ ∨ q ∈ later := by
    simpa only [List.mem_append, List.mem_cons] using member
  · exact kept.own q (List.mem_append_left _ before) who held
  · rw [← Option.some.inj held, Census.make_generator]
    exact action
  · exact kept.own q (List.mem_append_right _ (List.mem_cons_of_mem _ behind)) who held

/-- Taking an action keeps the invariant. -/
theorem Kept.realize
    (kept : Kept { rules := { toList := earlier ++ r :: later }, census, record })
    (ctx : Context γ) (type : String) :
    Kept
      { rules := { toList := earlier ++ (r.realize ctx type census).rule :: later }
        census := (r.realize ctx type census).census
        record := record ++ (r.realize ctx type census).trace } := by
  obtain ⟨rule, count, quiet⟩ | ⟨name, generator, action, -, generates⟩ :=
    r.realize_quiet_or_generates ctx type census
  · rw [rule, count]
    exact kept.append_quiet quiet
  · rw [generates]
    exact kept.generate action ctx type generator

end

/-! ## What a call does to instances -/

variable {s : Stage}

theorem Kept.course {ctx : Context γ} {type : String} {outcome : Except Failure Answer}
    {left : Rules} {count : Census} {work : List Entry} (kept : s.Kept)
    (course : Rules.Course ctx type s.census s.rules outcome left count work) :
    Kept { rules := left, census := count, record := s.record ++ work } := by
  obtain ⟨⟨rules⟩, census, record⟩ := s
  cases course with
  | kept passed => exact kept.append_quiet rfl
  | missing member unknown => exact kept.append_quiet rfl
  | undecided member fails => exact kept.append_quiet rfl
  | fired split fires =>
      dsimp only at split
      subst split
      refine (kept.realize ctx type).of_same_lives rfl rfl fun who => ?_
      rw [life_append, life_append, life_generatorWork]

theorem Kept.resolve (kept : s.Kept) (ctx : Context γ) (type : String) :
    (s.step (.resolve ctx type)).Kept := by
  refine (kept.course (Rules.resolve_course s.rules ctx type s.census)).of_same_lives rfl rfl
    fun who => ?_
  rw [life_append, life_generatorWork, ← life_append]
  rfl

theorem Kept.ask (kept : s.Kept) (answers : List (String × Answer)) (ctx : Context γ)
    (type : String) : (s.step (.ask answers ctx type)).Kept := by
  obtain remembered | asked := s.step_ask answers ctx type
  · rw [remembered]
    exact kept.append_quiet rfl
  · rw [asked]
    exact kept.resolve ctx type

/-- Disposing the rules keeps the invariant: what was held is released. -/
theorem Kept.dispose (kept : s.Kept) : (s.step (.dispose : Call γ)).Kept := by
  constructor
  · intro r member who held
    obtain ⟨q, there, rfl⟩ := List.mem_map.1 member
    cases held
  · intro who alive
    refine kept.counted who fun unmade => alive ?_
    have phase := kept.phase who
    rw [unmade] at phase
    show life who (s.record ++ s.rules.disposal) = []
    rw [life_append, life_disposal, phase.unheld, unmade]
    rfl
  · intro who
    show Phase (life who (s.record ++ s.rules.disposal)) (holders s.rules.dispose who)
    rw [life_append, life_disposal, holders_dispose]
    exact (kept.phase who).dispose

theorem Kept.step (kept : s.Kept) (call : Call γ) : (s.step call).Kept := by
  cases call with
  | resolve ctx type => exact kept.resolve ctx type
  | ask answers ctx type => exact kept.ask answers ctx type
  | dispose => exact kept.dispose

theorem Kept.run (kept : s.Kept) (calls : List (Call γ)) : (s.run calls).Kept := by
  induction calls generalizing s with
  | nil => exact kept
  | cons call rest ih => exact ih (kept.step call)

/-- An instance that was made is released once and for all when the rules are disposed. -/
theorem Kept.released_of_disposal (kept : s.Kept) {who : Instance}
    (made : life who s.record ≠ []) :
    ∃ type, life who (s.record ++ s.rules.disposal) = [.created, .asked type, .released] := by
  have settled := (kept.phase who).dispose
  rw [← life_disposal, ← life_append] at settled
  obtain nothing | released := settled.of_unheld
  · rw [life_append] at nothing
    exact absurd (List.append_eq_nil_iff.1 nothing).1 made
  · exact released

/-! ## Every instance is released once -/

/-- What is known of generator instances between two calls. -/
structure Settled (s : Stage) : Prop where
  /-- a rule holds instances of the generator it calls for only -/
  own : ∀ r ∈ s.rules.toList, ∀ who, r.held = some who → r.action = .generateWith who.generator
  /-- an instance is held by one rule, or it was released, or it was never made -/
  phase : ∀ who, Phase (life who s.record) (holders s.rules who)
  /-- nothing happens to an instance after its release -/
  last : ∀ who before after, life who s.record = before ++ .released :: after → after = []
  /-- disposing the rules leaves no instance behind -/
  disposed : ∀ who, life who s.record ≠ [] → ∃ type,
    life who (s.record ++ s.rules.disposal) = [.created, .asked type, .released]
  /-- nor does unloading a module that has these rules -/
  unloaded : ∀ m : Module, m.rules = s.rules → ∀ who, life who s.record ≠ [] → ∃ type,
    life who (s.record ++ m.unloading) = [.created, .asked type, .released]

theorem Kept.settled (kept : s.Kept) : s.Settled := by
  constructor
  · exact kept.own
  · exact kept.phase
  · intro who before after split
    exact (kept.phase who).release_last split
  · intro who made
    exact kept.released_of_disposal made
  · intro m same who made
    obtain ⟨type, released⟩ := kept.released_of_disposal made
    refine ⟨type, ?_⟩
    rw [Module.unloading, same, ← released, life_append, life_append]
    rfl

/-- **Generator instances are released once.**  Whatever is asked of rules that hold
nothing at first, and however often they are disposed in between, an instance is made,
asked once, held by one rule and released once, and nothing happens to it after that. -/
theorem run_settled (rs : Rules) (idle : ∀ r ∈ rs.toList, r.held = none) (census : Census)
    (calls : List (Call γ)) :
    let s := run { rules := rs, census } calls
    s.Settled ∧
      ((s.step (.dispose : Call γ)).step (.dispose : Call γ)).record =
        (s.step (.dispose : Call γ)).record ∧
      ∀ r ∈ s.rules.toList, ∀ (ctx : Context γ) (type : String),
        r.FailsOrderly ctx type s.census := by
  intro s
  have kept : s.Kept := (kept_of_idle idle census).run calls
  refine ⟨kept.settled, ?_, fun r _ ctx type => r.failsOrderly ctx type s.census⟩
  have nothing : s.rules.dispose.disposal = [] := by
    rw [Rules.disposal, List.flatMap_eq_nil_iff]
    intro r member
    obtain ⟨q, there, rfl⟩ := List.mem_map.1 member
    rfl
  show (s.step .dispose).record ++ s.rules.dispose.disposal = (s.step .dispose).record
  rw [nothing, List.append_nil]

namespace Example

/-- A generator that fails is known, and another that is looked up in vain. -/
def context : Context Recipe :=
  { properties := Rules.Example.context.properties
    types := Rules.Example.context.types
    generators := fun name => if name = "a.Broken" then some (.fails "broken") else none }

def broken : Rule := { action := .generateWith "a.Broken", roots := [.typeIs "a.Api"] }

def unknown : Rule := { action := .generateWith "a.Unknown" }

/-- Two failing requests, one in vain, one more through a memo, and the end. -/
def calls : List (Call Recipe) :=
  [.resolve context "a.Api", .resolve context "a.Api", .resolve context "a.Other",
    .ask [] context "a.Api", .dispose]

theorem broken_released_thrice :
    (∀ r ∈ [broken, unknown], r.held = none) ∧
      (run { rules := { toList := [broken, unknown] }, census := {} } calls).Settled ∧
      steps (run { rules := { toList := [broken, unknown] }, census := {} } calls).record =
        [(⟨"a.Broken", false, 1⟩, .created), (⟨"a.Broken", false, 1⟩, .asked "a.Api"),
          (⟨"a.Broken", false, 2⟩, .created), (⟨"a.Broken", false, 1⟩, .released),
          (⟨"a.Broken", false, 2⟩, .asked "a.Api"),
          (⟨"a.Broken", false, 3⟩, .created), (⟨"a.Broken", false, 2⟩, .released),
          (⟨"a.Broken", false, 3⟩, .asked "a.Api"), (⟨"a.Broken", false, 3⟩, .released)] := by
  have idle : ∀ r ∈ [broken, unknown], r.held = none := by decide
  exact ⟨idle, (run_settled { toList := [broken, unknown] } idle {} calls).1, by decide⟩

end Example

end Stage

end DeferredBinding
