/-
# Proofs.Resolution.Record -- the record of a resolution

A resolution writes one span.  Inside stand the spans of the rules whose conditions were looked
at, in the order of the rules (`Reached`), each with the decisions of its root conditions; then
what the rule that applied wrote when it took its action; and at the end the note of the answer,
unless the resolution failed (`Faithful`).  Nothing is left open, whatever the outcome.
-/
import DeferredBinding.Proofs.Condition.Record
import DeferredBinding.Proofs.Resolution.FirstMatch

namespace DeferredBinding

set_option autoImplicit false

/-! ## Rules -/

namespace Rule

variable (given : Sources) (type : String)

/-- The tree that deciding whether a rule applies writes: a span with the decisions of the root
conditions that were visited, and nothing else. -/
def Recorded (r : Rule) (log : Log) : Prop :=
  ∃ visited logs, Condition.Visits given type true r.roots visited ∧
    List.Forall₂ (Condition.Recorded given type) visited logs ∧ log = .span (.rule r.render) logs

theorem exists_recorded (r : Rule) :
    ∃ log, r.Recorded given type log ∧ (r.applies given type).trace = log.entries := by
  obtain ⟨visited, visits, written⟩ := Condition.exists_visits given type true r.roots
  obtain ⟨logs, each, inside⟩ :=
    Condition.exists_logs fun c (_ : c ∈ visited) => Condition.exists_recorded given type c
  refine ⟨_, ⟨visited, logs, visits, each, rfl⟩, ?_⟩
  rw [Log.entries, ← inside]
  show _ :: (Condition.visit given type true r.roots).trace ++ _ = _
  rw [written]
  rfl

end Rule

namespace Log

/-- What taking an action writes: single entries, of which the notes tell of errors. -/
def IsDeed : Log → Prop
  | .note n => n.level = .error
  | .generator _ _ => True
  | .helper _ _ => True
  | .span _ _ => False

theorem exists_deeds_release (held : Option Instance) :
    ∃ deeds, (∀ log ∈ deeds, log.IsDeed) ∧ Rule.release held = entriesOf deeds := by
  cases held with
  | none => exact ⟨[], nofun, rfl⟩
  | some who => exact ⟨[.generator who .released], List.forall_mem_singleton.2 trivial, rfl⟩

theorem exists_deeds_helpers (helpers : List (Instance × Step)) :
    ∃ deeds, (∀ log ∈ deeds, log.IsDeed) ∧
      helpers.map (fun h => .helper h.1 h.2) = entriesOf deeds := by
  refine ⟨helpers.map fun h => .helper h.1 h.2, List.forall_mem_map.2 fun _ _ => trivial, ?_⟩
  induction helpers with
  | nil => rfl
  | cons h rest ih => rw [List.map_cons, ih]; rfl

variable {γ : Type} [Generator γ]

/-- Taking an action opens no span, and notes nothing but errors. -/
theorem exists_deeds (ctx : Context γ) (type : String) (r : Rule) (census : Census) :
    ∃ deeds, (∀ log ∈ deeds, log.IsDeed) ∧
      (r.realize ctx type census).trace = entriesOf deeds := by
  cases action : r.action with
  | replaceWith name =>
      rw [Rule.realize_replaceWith ctx type census action]
      exact ⟨[], nofun, rfl⟩
  | generateWith name =>
      cases found : ctx.generators name with
      | none =>
          rw [Rule.realize_unknown ctx type census action found]
          exact ⟨[.note (.generatorUnknown name)], List.forall_mem_singleton.2 rfl, rfl⟩
      | some generator =>
          let who := (census.make name (Generator.silent generator)).1
          obtain ⟨released, quiet, before⟩ := exists_deeds_release r.held
          obtain ⟨helped, silent, behind⟩ := exists_deeds_helpers (Generator.produce generator ctx
            (census.make name (Generator.silent generator)).2 type).helpers
          rw [Rule.realize_known ctx type census action found, Rule.generate]
          dsimp only
          rw [before, behind]
          refine ⟨.generator who .created :: (released ++ .generator who (.asked type) :: helped),
            List.forall_mem_cons.2 ⟨trivial, List.forall_mem_append.2
              ⟨quiet, List.forall_mem_cons.2 ⟨trivial, silent⟩⟩⟩, ?_⟩
          rw [entriesOf, entriesOf_append, entriesOf]
          rfl
  | fail =>
      rw [Rule.realize_fail ctx type census action]
      exact ⟨[.note (.bindingRefused type)], List.forall_mem_singleton.2 rfl, rfl⟩

end Log

namespace Rules

variable (given : Sources) (type : String)

/-! ## The rules that are reached -/

/-- Of rules that are tried in order, those whose conditions are looked at: all of them where
each is passed over, and otherwise those up to the first that is not, which itself is left out
where it mentions a property that is not known. -/
inductive Reached (rules : List Rule) : List Rule → Prop
  | all (passed : ∀ q ∈ rules, q.PassedOver given type) : Reached rules rules
  | upTo {earlier later : List Rule} {last : Rule} (split : rules = earlier ++ last :: later)
      (passed : ∀ q ∈ earlier, q.PassedOver given type) (stays : ¬ last.PassedOver given type)
      (known : last.PropertiesKnown given.properties) : Reached rules (earlier ++ [last])
  | before {earlier later : List Rule} {last : Rule} (split : rules = earlier ++ last :: later)
      (passed : ∀ q ∈ earlier, q.PassedOver given type)
      (unknown : ¬ last.PropertiesKnown given.properties) : Reached rules earlier

/-- The note of an answer. -/
def answering : Except Failure Answer → List Log
  | .ok ⟨name, some index⟩ => [.note (.ruleMatched index name)]
  | .ok ⟨_, none⟩ => [.note .noRuleMatched]
  | .error _ => []

variable {given : Sources} {type : String}

/-- The trees of rules that are decided one after the other. -/
theorem exists_spans (given : Sources) (type : String) (reached : List Rule) :
    ∃ spans, List.Forall₂ (Rule.Recorded given type) reached spans ∧
      reached.flatMap (fun q => (q.applies given type).trace) = Log.entriesOf spans :=
  Condition.exists_logs fun q (_ : q ∈ reached) => Rule.exists_recorded given type q

variable {γ : Type} [Generator γ] {ctx : Context γ}

/-! ## The record of a resolution -/

/-- What stands inside of the span of a resolution before the note of its answer: the trees of
the rules that were reached, then what the rule that fired wrote when it took its action. -/
structure Within (ctx : Context γ) (type : String) (census : Census) (rules : List Rule)
    (spans deeds : List Log) : Prop where
  reached : ∃ reached, Reached ctx.toSources type rules reached ∧
    List.Forall₂ (Rule.Recorded ctx.toSources type) reached spans
  single : ∀ log ∈ deeds, log.IsDeed
  fired : deeds = [] ∨ ∃ r ∈ rules, r.Fires ctx.toSources type ∧
    (r.realize ctx type census).trace = Log.entriesOf deeds

theorem answered_trace (index : Nat) (realization : Rule.Realization) (rest : List Rule) :
    (answered index realization rest).trace = realization.trace ++
      Log.entriesOf (answering (answered index realization rest).outcome) := by
  unfold answered
  split
  · rfl
  · exact (List.append_nil _).symm

theorem exists_within (ctx : Context γ) (type : String) (census : Census) (rules : List Rule) :
    ∃ spans deeds, Within ctx type census rules spans deeds ∧
      (scan ctx type census 0 rules).trace =
        Log.entriesOf (spans ++ deeds ++ answering (scan ctx type census 0 rules).outcome) := by
  obtain all | ⟨earlier, r, later, rfl, passed, stays⟩ :=
    all_passedOver_or_first ctx.toSources type rules
  · obtain ⟨spans, each, before⟩ := exists_spans ctx.toSources type rules
    refine ⟨spans, [], ⟨⟨rules, .all all, each⟩, nofun, .inl rfl⟩, ?_⟩
    rw [scan_all_passedOver all, List.append_nil, Log.entriesOf_append, before]
    rfl
  obtain ⟨spans, each, before⟩ := exists_spans ctx.toSources type earlier
  obtain ⟨log, own, decided⟩ := Rule.exists_recorded ctx.toSources type r
  have through : List.Forall₂ (Rule.Recorded ctx.toSources type) (earlier ++ [r])
      (spans ++ [log]) := List.rel_append each (.cons own .nil)
  rw [scan_append passed, before]
  obtain none_ | ⟨name, unknown⟩ | ⟨known, failure, fails⟩ | fires :=
    r.passedOver_or ctx.toSources type
  · exact absurd none_ stays
  · refine ⟨spans, [], ⟨⟨earlier, .before rfl passed unknown.not_propertiesKnown, each⟩,
      nofun, .inl rfl⟩, ?_⟩
    rw [scan_missing unknown]
    simp only [answering, List.append_nil]
  · refine ⟨spans ++ [log], [], ⟨⟨earlier ++ [r], .upTo rfl passed stays known, through⟩,
      nofun, .inl rfl⟩, ?_⟩
    rw [scan_undecided known fails, decided]
    simp only [answering, Log.entriesOf_append, Log.entriesOf, List.append_nil]
  · obtain ⟨deeds, single, acted⟩ := Log.exists_deeds ctx type r census
    refine ⟨spans ++ [log], deeds, ⟨⟨earlier ++ [r], .upTo rfl passed stays fires.1, through⟩,
      single, .inr ⟨r, List.mem_append_right _ List.mem_cons_self, fires, acted⟩⟩, ?_⟩
    rw [scan_fires fires, answered_trace, decided, acted]
    simp only [Log.entriesOf_append, Log.entriesOf, List.append_nil, List.append_assoc]

/-! ## The note that ends the record -/

/-- A type that no rule answered is the one requested. -/
theorem Course.kept_type {rs left : Rules} {census count : Census} {work : List Entry}
    {outcome : Except Failure Answer} (course : Course ctx type census rs outcome left count work)
    {kept : String} (answer : outcome = .ok { type := kept, rule := none }) : kept = type := by
  cases course with
  | kept passed => cases answer; rfl
  | missing member unknown => cases answer
  | undecided member fails => cases answer
  | @fired _ _ r split fires =>
      cases realized : (r.realize ctx type census).outcome with
      | ok replacement => rw [realized] at answer; cases answer
      | error failure => rw [realized] at answer; cases answer

/-- The tree of a rule is a span, with no note outside of it. -/
theorem debugNotes_of_recorded {rules : List Rule} {spans : List Log} {given : Sources}
    (each : List.Forall₂ (Rule.Recorded given type) rules spans) : Log.debugNotes spans = [] := by
  induction each with
  | nil => rfl
  | cons head _ ih =>
      obtain ⟨_, _, _, _, rfl⟩ := head
      exact ih

/-- Before the note of its answer a resolution makes none of its kind. -/
theorem Within.quiet {rules : List Rule} {census : Census} {spans deeds : List Log}
    (within : Within ctx type census rules spans deeds) :
    Log.debugNotes (spans ++ deeds) = [] := by
  obtain ⟨reached, _, each⟩ := within.reached
  rw [Log.debugNotes_eq_nil_iff]
  intro note member
  obtain member | member := List.mem_append.1 member
  · exact Log.debugNotes_eq_nil_iff.1 (debugNotes_of_recorded each) note member
  · have error : note.level = .error := within.single _ member
    rw [error]
    decide

/-- The note that ends what stands inside of the span of a resolution tells the outcome: the
rule that answered and its answer, or that no rule did, or nothing where it failed. -/
structure TellsOutcome (type : String) (outcome : Except Failure Answer) (inside : List Log) :
    Prop where
  matched : ∀ index name, inside.getLast? = some (.note (.ruleMatched index name)) ↔
    outcome = .ok { type := name, rule := some index }
  kept : inside.getLast? = some (.note .noRuleMatched) ↔ outcome = .ok { type, rule := none }
  failed : (∀ note, note.level = .debug → inside.getLast? ≠ some (.note note)) ↔
    ∃ failure, outcome = .error failure

theorem tellsOutcome_of_quiet {outcome : Except Failure Answer} {before : List Log}
    (quiet : Log.debugNotes before = [])
    (same : ∀ kept, outcome = .ok { type := kept, rule := none } → kept = type) :
    TellsOutcome type outcome (before ++ answering outcome) := by
  match outcome with
  | .error failure =>
      have silent : ∀ note : Note, note.level = .debug →
          (before ++ answering (.error failure)).getLast? ≠ some (.note note) := by
        intro note level last
        rw [answering, List.append_nil] at last
        exact Log.debugNotes_eq_nil_iff.1 quiet note (List.mem_of_getLast? last) level
      exact ⟨fun index name => iff_of_false (silent _ rfl) nofun, iff_of_false (silent _ rfl) nofun,
        iff_of_true silent ⟨failure, rfl⟩⟩
  | .ok ⟨name, some index⟩ =>
      have last : (before ++ answering (.ok ⟨name, some index⟩)).getLast? =
          some (.note (.ruleMatched index name)) := List.getLast?_concat
      refine ⟨fun other answer => ?_, ?_, iff_of_false (fun silent => silent _ rfl last) nofun⟩
      · simp [last, and_comm]
      · simp [last]
  | .ok ⟨kept, none⟩ =>
      obtain rfl := same kept rfl
      have last : (before ++ answering (.ok ⟨kept, none⟩)).getLast? = some (.note .noRuleMatched) :=
        List.getLast?_concat
      refine ⟨fun other answer => ?_, ?_, iff_of_false (fun silent => silent _ rfl last) nofun⟩
      · simp [last]
      · simp [last]

/-- The record of a resolution is faithful: it has the shape of `spans`, `deeds` and the note of
the answer inside of one span. -/
structure Faithful (ctx : Context γ) (type : String) (census : Census) (rs : Rules)
    (resolution : Resolution) (spans deeds : List Log) : Prop where
  within : Within ctx type census rs.toList spans deeds
  trace : resolution.trace = (Log.span (.resolution type)
    (spans ++ deeds ++ answering resolution.outcome)).entries
  /-- whatever was opened is closed, innermost first -/
  balanced : unwind [] resolution.trace = some []
  /-- each condition in the record tells its answer, once, or has none to tell -/
  told : ∀ c log, Condition.Recorded ctx.toSources type c log →
    Condition.TellsAnswer type c (Condition.isTrue ctx.toSources type c) log
  ends : TellsOutcome type resolution.outcome (spans ++ deeds ++ answering resolution.outcome)

/-- **The record of a resolution is faithful**, whatever the outcome: well nested spans of the
rules and conditions that were visited, in order, each of which tells the answer it came to. -/
theorem resolve_recorded (rs : Rules) (ctx : Context γ) (type : String) (census : Census) :
    ∃ spans deeds, Faithful ctx type census rs (rs.resolve ctx type census) spans deeds := by
  obtain ⟨spans, deeds, within, written⟩ := exists_within ctx type census rs.toList
  have trace : (rs.resolve ctx type census).trace = (Log.span (.resolution type)
      (spans ++ deeds ++ answering (rs.resolve ctx type census).outcome)).entries := by
    rw [resolve, Log.entries, ← List.cons_append]
    dsimp only
    rw [written]
  refine ⟨spans, deeds, within, trace, ?_, fun c log recorded => recorded.tellsAnswer,
    tellsOutcome_of_quiet within.quiet fun kept answer =>
      (resolve_course rs ctx type census).kept_type answer⟩
  rw [trace, ← List.append_nil (Log.entries _), unwind_entries, unwind]

end Rules

end DeferredBinding
