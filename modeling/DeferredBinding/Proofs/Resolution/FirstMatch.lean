/-
# Proofs.Resolution.FirstMatch -- the first rule that is not passed over decides

A rule is *passed over* when the source knows every property the rule mentions and
its conditions do not hold.  Rules passed over leave nothing behind but their record
(`scan_append`), so a resolution comes down to the first rule that stays, and there
are three ways for a rule to stay (`Rule.passedOver_or`):

* a property it mentions is unknown: the first of them ends the resolution before any
  condition is looked at (`scan_missing`);
* its conditions cannot be decided: their failure ends it (`scan_undecided`);
* it *fires*: what taking its action yields is the outcome (`scan_fires`).

None of the three reads the rules behind it.  `resolve_course` keeps what later
theories need of this: at most one rule takes its action, and whatever a resolution
does to generators is what that rule does.
-/
import DeferredBinding.Generator.Recipe
import DeferredBinding.Proofs.FirstFault
import DeferredBinding.Proofs.Resolution.GeneratorWork
import DeferredBinding.Resolution.Rules

namespace DeferredBinding

set_option autoImplicit false

/-! ## A rule and its request -/

namespace Rule

/-- The source knows every property the rule mentions. -/
def PropertiesKnown (properties : Property.Source) (r : Rule) : Prop :=
  ∀ name ∈ r.required, properties.has name = true

/-- `name` is the first property the rule mentions that the source does not know. -/
def FirstUnknown (properties : Property.Source) (r : Rule) (name : String) : Prop :=
  ∃ earlier later, r.required = earlier ++ name :: later ∧
    (∀ other ∈ earlier, properties.has other = true) ∧ properties.has name = false

/-- The rule leaves the request to the rules behind it. -/
def PassedOver (given : Sources) (type : String) (r : Rule) : Prop :=
  r.PropertiesKnown given.properties ∧ (r.applies given type).value = .ok false

/-- The rule takes its action for the request. -/
def Fires (given : Sources) (type : String) (r : Rule) : Prop :=
  r.PropertiesKnown given.properties ∧ (r.applies given type).value = .ok true

def generator? (r : Rule) : Option String :=
  match r.action with
  | .generateWith name => some name
  | _ => none

theorem firstMissing_eq_some_iff {properties : Property.Source} {r : Rule} {name : String} :
    Rules.firstMissing properties r = some name ↔ r.FirstUnknown properties name :=
  find?_not_eq_some_iff

/-- The first property required that is not known is the first one mentioned. -/
theorem firstMissing_eq_find?_mentioned (properties : Property.Source) (r : Rule) :
    Rules.firstMissing properties r =
      (Condition.mentionedList r.roots).find? fun name => !properties.has name := by
  show (Condition.gatherList [] r.roots).find? _ = _
  rw [Condition.gatherList_eq, FirstSeen.find?_addAll, List.nil_append]

theorem firstMissing_eq_none_iff {properties : Property.Source} {r : Rule} :
    Rules.firstMissing properties r = none ↔ r.PropertiesKnown properties :=
  find?_not_eq_none_iff

/-- A rule is passed over, or it stays in one of three ways. -/
theorem passedOver_or (given : Sources) (type : String) (r : Rule) :
    r.PassedOver given type ∨ (∃ name, r.FirstUnknown given.properties name) ∨
      (r.PropertiesKnown given.properties ∧
        ∃ failure, (r.applies given type).value = .error failure) ∨
      r.Fires given type := by
  cases missing : Rules.firstMissing given.properties r with
  | some name => exact Or.inr (Or.inl ⟨name, firstMissing_eq_some_iff.1 missing⟩)
  | none =>
      have known := firstMissing_eq_none_iff.1 missing
      cases verdict : (r.applies given type).value with
      | error failure => exact Or.inr (Or.inr (Or.inl ⟨known, failure, rfl⟩))
      | ok holds =>
          cases holds with
          | false => exact Or.inl ⟨known, verdict⟩
          | true => exact Or.inr (Or.inr (Or.inr ⟨known, verdict⟩))

theorem FirstUnknown.not_propertiesKnown {properties : Property.Source} {r : Rule}
    {name : String} (unknown : r.FirstUnknown properties name) :
    ¬ r.PropertiesKnown properties := by
  intro known
  have missing := firstMissing_eq_some_iff.2 unknown
  rw [firstMissing_eq_none_iff.2 known] at missing
  cases missing

theorem generatorWork_applies (given : Sources) (type : String) (r : Rule) :
    generatorWork (r.applies given type).trace = [] := by
  simp only [applies, List.cons_append, generatorWork_enter, generatorWork_append,
    Condition.generatorWork_allHold, generatorWork_leave, generatorWork_nil, List.append_nil]

variable {γ : Type} [Generator γ]

theorem lookups_release (held : Option Instance) : lookups (release held) = [] := by
  cases held <;> rfl

theorem lookups_helpers (helpers : List (Instance × Step)) :
    lookups (helpers.map fun h => .helper h.1 h.2) = [] := by
  rw [lookups, List.filterMap_map, List.filterMap_eq_nil_iff]
  intro h _
  rfl

/-- Taking an action looks up the generator it calls for, and no other. -/
theorem lookups_realize (ctx : Context γ) (type : String) (r : Rule) (census : Census) :
    lookups (r.realize ctx type census).trace = r.generator?.toList := by
  cases action : r.action with
  | replaceWith replacement =>
      rw [realize_replaceWith ctx type census action, generator?, action]
      rfl
  | generateWith name =>
      have calls : r.generator? = some name := by rw [generator?, action]
      cases found : ctx.generators name with
      | none =>
          rw [realize_unknown ctx type census action found, calls]
          rfl
      | some generator =>
          rw [realize_known ctx type census action found, calls]
          simp only [generate, lookups_cons_created, lookups_append, lookups_release,
            lookups_cons_asked, lookups_helpers, Census.make_generator, List.append_nil,
            Option.toList_some]
  | fail =>
      rw [realize_fail ctx type census action, generator?, action]
      rfl

end Rule

/-! ## One rule at a time -/

/-- What a resolution that ended at a rule leaves behind, with more rules behind that
rule. -/
def Resolution.before (resolution : Resolution) (rest : List Rule) :
    Resolution :=
  { resolution with rules := { toList := resolution.rules.toList ++ rest } }

namespace Rules

variable {γ : Type} [Generator γ] {ctx : Context γ} {type : String} {r : Rule}

theorem scan_passedOver (passed : r.PassedOver ctx.toSources type) (census : Census)
    (index : Nat) (rest : List Rule) :
    scan ctx type census index (r :: rest) =
      passedOver r (r.applies ctx.toSources type).trace
        (scan ctx type census (index + 1) rest) := by
  rw [scan, Rule.firstMissing_eq_none_iff.2 passed.1]
  simp only [passed.2]

theorem scan_missing {name : String} (unknown : r.FirstUnknown ctx.properties name)
    (census : Census) (index : Nat) (rest : List Rule) :
    scan ctx type census index (r :: rest) =
      { outcome := .error (.missingProperty type name)
        rules := { toList := r :: rest }, census, trace := [] } := by
  rw [scan, Rule.firstMissing_eq_some_iff.2 unknown]

theorem scan_undecided {failure : Failure} (known : r.PropertiesKnown ctx.properties)
    (fails : (r.applies ctx.toSources type).value = .error failure) (census : Census)
    (index : Nat) (rest : List Rule) :
    scan ctx type census index (r :: rest) =
      { outcome := .error failure, rules := { toList := r :: rest }, census
        trace := (r.applies ctx.toSources type).trace } := by
  rw [scan, Rule.firstMissing_eq_none_iff.2 known]
  simp only [fails]

theorem scan_fires (fires : r.Fires ctx.toSources type) (census : Census) (index : Nat)
    (rest : List Rule) :
    scan ctx type census index (r :: rest) =
      { answered index (r.realize ctx type census) rest with
        trace := (r.applies ctx.toSources type).trace ++
          (answered index (r.realize ctx type census) rest).trace } := by
  rw [scan, Rule.firstMissing_eq_none_iff.2 fires.1]
  simp only [fires.2]

/-- Rules passed over leave nothing behind but their record. -/
theorem scan_append {earlier : List Rule}
    (passed : ∀ q ∈ earlier, q.PassedOver ctx.toSources type) (census : Census) (index : Nat)
    (rest : List Rule) :
    scan ctx type census index (earlier ++ rest) =
      { scan ctx type census (index + earlier.length) rest with
        rules := { toList := earlier ++
          (scan ctx type census (index + earlier.length) rest).rules.toList }
        trace := (earlier.flatMap fun q => (q.applies ctx.toSources type).trace) ++
          (scan ctx type census (index + earlier.length) rest).trace } := by
  induction earlier generalizing index with
  | nil => rfl
  | cons q earlier ih =>
      obtain ⟨overHead, overTail⟩ := List.forall_mem_cons.1 passed
      have shift : index + 1 + earlier.length = index + (q :: earlier).length := by
        rw [List.length_cons]; omega
      rw [List.cons_append, scan_passedOver overHead, ih overTail, shift]
      simp only [passedOver, List.flatMap_cons, List.append_assoc, List.cons_append]

/-- A rule that stays ends the resolution alone. -/
theorem scan_of_not_passedOver (stays : ¬ r.PassedOver ctx.toSources type) (census : Census)
    (index : Nat) (rest : List Rule) :
    scan ctx type census index (r :: rest) =
      (scan ctx type census index [r]).before rest := by
  obtain passed | ⟨name, unknown⟩ | ⟨known, failure, fails⟩ | fires :=
    r.passedOver_or ctx.toSources type
  · exact absurd passed stays
  · rw [scan_missing unknown, scan_missing unknown]; rfl
  · rw [scan_undecided known fails, scan_undecided known fails]; rfl
  · rw [scan_fires fires, scan_fires fires]
    unfold answered
    split <;> rfl

/-! ## A whole resolution -/

theorem scan_all_passedOver {rules : List Rule}
    (passed : ∀ q ∈ rules, q.PassedOver ctx.toSources type) (census : Census) (index : Nat) :
    scan ctx type census index rules =
      { outcome := .ok { type, rule := none }, rules := { toList := rules }, census
        trace := (rules.flatMap fun q => (q.applies ctx.toSources type).trace) ++
          [.note .noRuleMatched] } := by
  have whole := scan_append passed census index []
  rw [List.append_nil] at whole
  rw [whole, scan, List.append_nil]

/-- The decisions of rules passed over do nothing to generators. -/
theorem generatorWork_decisions (given : Sources) (rules : List Rule) :
    generatorWork (rules.flatMap fun q => (q.applies given type).trace) = [] := by
  rw [generatorWork, List.filter_flatMap, List.flatMap_eq_nil_iff]
  exact fun q _ => q.generatorWork_applies given type

/-- The resolution of a request that comes down to `r`, position and all. -/
def ending (ctx : Context γ) (type : String) (census : Census) (index : Nat) (r : Rule) :
    Resolution :=
  scan ctx type census index [r]

theorem resolve_of_not_passedOver {earlier : List Rule}
    (passed : ∀ q ∈ earlier, q.PassedOver ctx.toSources type)
    (stays : ¬ r.PassedOver ctx.toSources type) (census : Census) (later : List Rule) :
    Rules.resolve { toList := earlier ++ r :: later } ctx type census =
      { outcome := (ending ctx type census earlier.length r).outcome
        rules := { toList := earlier ++
          ((ending ctx type census earlier.length r).rules.toList ++ later) }
        census := (ending ctx type census earlier.length r).census
        trace := .enter (.resolution type) ::
          ((earlier.flatMap fun q => (q.applies ctx.toSources type).trace) ++
            (ending ctx type census earlier.length r).trace) ++ [.leave (.resolution type)] } := by
  rw [resolve]
  dsimp only
  rw [scan_append passed, Nat.zero_add, scan_of_not_passedOver stays]
  rfl

theorem generatorWork_resolve (rs : Rules) (census : Census) :
    generatorWork (rs.resolve ctx type census).trace =
      generatorWork (scan ctx type census 0 rs.toList).trace := by
  rw [resolve]
  simp only [List.cons_append, generatorWork_enter, generatorWork_append, generatorWork_leave,
    generatorWork_nil, List.append_nil]

theorem generatorWork_ending_of_fires (fires : r.Fires ctx.toSources type) (census : Census)
    (index : Nat) :
    generatorWork (ending ctx type census index r).trace =
      generatorWork (r.realize ctx type census).trace := by
  have noted : generatorWork (answered index (r.realize ctx type census) []).trace =
      generatorWork (r.realize ctx type census).trace := by
    unfold answered
    split
    · rw [generatorWork_append]
      exact List.append_nil _
    · rfl
  rw [ending, scan_fires fires, generatorWork_append, r.generatorWork_applies, noted,
    List.nil_append]

theorem generatorWork_ending_of_not_fires (stays : ¬ r.PassedOver ctx.toSources type)
    (idle : ¬ r.Fires ctx.toSources type) (census : Census) (index : Nat) :
    generatorWork (ending ctx type census index r).trace = [] := by
  rw [ending]
  obtain passed | ⟨name, unknown⟩ | ⟨known, failure, fails⟩ | fires :=
    r.passedOver_or ctx.toSources type
  · exact absurd passed stays
  · rw [scan_missing unknown, generatorWork_nil]
  · rw [scan_undecided known fails, r.generatorWork_applies]
  · exact absurd fires idle

theorem outcome_ending_of_fires (fires : r.Fires ctx.toSources type) (census : Census)
    (index : Nat) :
    (ending ctx type census index r).outcome =
      (r.realize ctx type census).outcome.map fun replacement =>
        { type := replacement, rule := some index } := by
  rw [ending, scan_fires fires]
  unfold answered
  split <;> rename_i realized <;> rw [realized] <;> rfl

theorem left_ending_of_fires (fires : r.Fires ctx.toSources type) (census : Census)
    (index : Nat) :
    (ending ctx type census index r).rules.toList = [(r.realize ctx type census).rule] ∧
      (ending ctx type census index r).census = (r.realize ctx type census).census := by
  rw [ending, scan_fires fires]
  unfold answered
  split <;> exact ⟨rfl, rfl⟩

/-- Either every rule is passed over, or one of them is the first that stays. -/
theorem all_passedOver_or_first (given : Sources) (type : String) (rules : List Rule) :
    (∀ q ∈ rules, q.PassedOver given type) ∨
      ∃ earlier r later, rules = earlier ++ r :: later ∧
        (∀ q ∈ earlier, q.PassedOver given type) ∧ ¬ r.PassedOver given type := by
  induction rules with
  | nil => exact Or.inl fun q member => absurd member List.not_mem_nil
  | cons r rest ih =>
      by_cases passed : r.PassedOver given type
      · obtain all | ⟨earlier, s, later, rfl, before, stays⟩ := ih
        · exact Or.inl (List.forall_mem_cons.2 ⟨passed, all⟩)
        · exact Or.inr ⟨r :: earlier, s, later, rfl,
            List.forall_mem_cons.2 ⟨passed, before⟩, stays⟩
      · exact Or.inr ⟨[], r, rest, rfl, fun q member => absurd member List.not_mem_nil, passed⟩

/-- Everything a resolution can come to: its outcome, the rules and the census it leaves,
and what it does to generators. -/
inductive Course (ctx : Context γ) (type : String) (census : Census) (rs : Rules) :
    Except Failure Answer → Rules → Census → List Entry → Prop
  /-- no rule stays, and the requested type is kept -/
  | kept (passed : ∀ q ∈ rs.toList, q.PassedOver ctx.toSources type) :
      Course ctx type census rs (.ok { type, rule := none }) rs census []
  /-- a rule mentions an unknown property -/
  | missing {r : Rule} {name : String} (member : r ∈ rs.toList)
      (unknown : r.FirstUnknown ctx.properties name) :
      Course ctx type census rs (.error (.missingProperty type name)) rs census []
  /-- the conditions of a rule cannot be decided -/
  | undecided {r : Rule} {failure : Failure} (member : r ∈ rs.toList)
      (fails : (r.applies ctx.toSources type).value = .error failure) :
      Course ctx type census rs (.error failure) rs census []
  /-- a rule takes its action -/
  | fired {earlier later : List Rule} {r : Rule} (split : rs.toList = earlier ++ r :: later)
      (fires : r.Fires ctx.toSources type) :
      Course ctx type census rs
        ((r.realize ctx type census).outcome.map fun replacement =>
          { type := replacement, rule := some earlier.length })
        { toList := earlier ++ (r.realize ctx type census).rule :: later }
        (r.realize ctx type census).census
        (generatorWork (r.realize ctx type census).trace)

theorem resolve_course (rs : Rules) (ctx : Context γ) (type : String) (census : Census) :
    Course ctx type census rs (rs.resolve ctx type census).outcome
      (rs.resolve ctx type census).rules (rs.resolve ctx type census).census
      (generatorWork (rs.resolve ctx type census).trace) := by
  obtain ⟨rules⟩ := rs
  obtain all | ⟨earlier, r, later, rfl, passed, stays⟩ :=
    all_passedOver_or_first ctx.toSources type rules
  · rw [generatorWork_resolve, resolve, scan_all_passedOver all, generatorWork_append,
      generatorWork_decisions]
    exact .kept all
  · have member : r ∈ earlier ++ r :: later := List.mem_append_right _ List.mem_cons_self
    rw [generatorWork_resolve, resolve_of_not_passedOver passed stays]
    dsimp only
    rw [scan_append passed, Nat.zero_add, scan_of_not_passedOver stays, generatorWork_append,
      generatorWork_decisions, List.nil_append]
    change Course ctx type census _ _ _ _ (generatorWork (ending ctx type census _ r).trace)
    obtain none_ | ⟨name, unknown⟩ | ⟨known, failure, fails⟩ | fires :=
      r.passedOver_or ctx.toSources type
    · exact absurd none_ stays
    · rw [ending, scan_missing unknown]
      exact .missing member unknown
    · rw [ending, scan_undecided known fails, r.generatorWork_applies]
      exact .undecided member fails
    · rw [generatorWork_ending_of_fires fires, outcome_ending_of_fires fires]
      have left := left_ending_of_fires fires census earlier.length
      rw [left.1, left.2]
      exact .fired rfl fires

/-- A resolution fails because of one of its rules. -/
theorem Course.error_cases {rs left : Rules} {census count : Census} {work : List Entry}
    {outcome : Except Failure Answer} {failure : Failure}
    (course : Course ctx type census rs outcome left count work)
    (failed : outcome = .error failure) :
    ∃ q ∈ rs.toList,
      (∃ name, q.FirstUnknown ctx.properties name ∧ failure = .missingProperty type name) ∨
        (q.applies ctx.toSources type).value = .error failure ∨
        (q.realize ctx type census).outcome = .error failure := by
  cases course with
  | kept passed => cases failed
  | missing member unknown =>
      cases failed
      exact ⟨_, member, Or.inl ⟨_, unknown, rfl⟩⟩
  | undecided member fails =>
      cases failed
      exact ⟨_, member, Or.inr (Or.inl fails)⟩
  | fired split fires =>
      refine ⟨_, ?_, Or.inr (Or.inr (Attempt.map_error_iff.1 failed))⟩
      rw [split]
      exact List.mem_append_right _ List.mem_cons_self

/-! ## The first rule that stays decides -/

/-- The rule `r`, tried after the rules `earlier`, decides the request on its own. -/
structure Decides (ctx : Context γ) (type : String) (census : Census) (earlier : List Rule)
    (r : Rule) (resolution : Resolution) : Prop where
  /-- an unknown property wins over whatever the conditions would have said -/
  missing : ∀ name, r.FirstUnknown ctx.properties name →
    resolution.outcome = .error (.missingProperty type name)
  undecided : r.PropertiesKnown ctx.properties → ∀ failure,
    (r.applies ctx.toSources type).value = .error failure → resolution.outcome = .error failure
  fired : r.Fires ctx.toSources type →
    resolution.outcome = (r.realize ctx type census).outcome.map fun replacement =>
      { type := replacement, rule := some earlier.length }
  /-- generators are looked up by this rule only, and only when it takes its action -/
  looksUp : r.Fires ctx.toSources type → lookups resolution.trace = r.generator?.toList
  leavesAlone : ¬ r.Fires ctx.toSources type → lookups resolution.trace = []

theorem decides_resolve {earlier : List Rule}
    (passed : ∀ q ∈ earlier, q.PassedOver ctx.toSources type)
    (stays : ¬ r.PassedOver ctx.toSources type) (census : Census) (later : List Rule) :
    Decides ctx type census earlier r
      (Rules.resolve { toList := earlier ++ r :: later } ctx type census) := by
  have work : lookups (Rules.resolve { toList := earlier ++ r :: later } ctx type census).trace =
      lookups (generatorWork (ending ctx type census earlier.length r).trace) := by
    rw [← lookups_generatorWork, generatorWork_resolve]
    dsimp only
    rw [scan_append passed, Nat.zero_add, scan_of_not_passedOver stays, generatorWork_append,
      generatorWork_decisions, List.nil_append]
    rfl
  rw [resolve_of_not_passedOver passed stays] at work ⊢
  constructor
  · intro name unknown
    dsimp only
    rw [ending, scan_missing unknown]
  · intro known failure fails
    dsimp only
    rw [ending, scan_undecided known fails]
  · intro fires
    exact outcome_ending_of_fires fires census earlier.length
  · intro fires
    rw [work, generatorWork_ending_of_fires fires, lookups_generatorWork, r.lookups_realize]
  · intro idle
    rw [work, generatorWork_ending_of_not_fires stays idle, lookups_nil]

theorem outcome_resolve_of_all {rs : Rules}
    (all : ∀ q ∈ rs.toList, q.PassedOver ctx.toSources type) (census : Census) :
    (rs.resolve ctx type census).outcome = .ok { type, rule := none } := by
  rw [resolve, scan_all_passedOver all]

/-- A rule that stays never leads to the answer that no rule gave. -/
theorem Decides.outcome_ne_kept {earlier : List Rule} {census : Census} {resolution : Resolution}
    (decides : Decides ctx type census earlier r resolution)
    (stays : ¬ r.PassedOver ctx.toSources type) :
    resolution.outcome ≠ .ok { type, rule := none } := by
  obtain passed | ⟨name, unknown⟩ | ⟨known, failure, fails⟩ | fires :=
    r.passedOver_or ctx.toSources type
  · exact absurd passed stays
  · rw [decides.missing name unknown]
    exact fun same => by cases same
  · rw [decides.undecided known failure fails]
    exact fun same => by cases same
  · rw [decides.fired fires]
    cases (r.realize ctx type census).outcome with
    | error failure => exact fun same => by cases same
    | ok replacement => exact fun same => by cases same

/-- **First-match resolution is exact.**  The requested type is kept just where every
rule is passed over, and then no generator is looked up.  Otherwise the first rule that
is not passed over decides, whatever rules stand behind it. -/
theorem resolve_firstMatch (rs : Rules) (ctx : Context γ) (type : String) (census : Census) :
    ((rs.resolve ctx type census).outcome = .ok { type, rule := none } ↔
        ∀ q ∈ rs.toList, q.PassedOver ctx.toSources type) ∧
      ((∀ q ∈ rs.toList, q.PassedOver ctx.toSources type) →
        lookups (rs.resolve ctx type census).trace = []) ∧
      ∀ earlier r later, rs.toList = earlier ++ r :: later →
        (∀ q ∈ earlier, q.PassedOver ctx.toSources type) →
        ¬ r.PassedOver ctx.toSources type →
        Decides ctx type census earlier r (rs.resolve ctx type census) ∧
          ∀ others,
            let other := Rules.resolve { toList := earlier ++ r :: others } ctx type census
            other.outcome = (rs.resolve ctx type census).outcome ∧
              other.census = (rs.resolve ctx type census).census ∧
              other.trace = (rs.resolve ctx type census).trace := by
  obtain ⟨rules⟩ := rs
  refine ⟨⟨?_, fun all => outcome_resolve_of_all all census⟩, ?_, ?_⟩
  · intro kept
    obtain all | ⟨earlier, r, later, rfl, passed, stays⟩ :=
      all_passedOver_or_first ctx.toSources type rules
    · exact all
    · exact absurd kept ((decides_resolve passed stays census later).outcome_ne_kept stays)
  · intro all
    rw [← lookups_generatorWork, generatorWork_resolve, scan_all_passedOver all,
      generatorWork_append, generatorWork_decisions]
    rfl
  · rintro earlier r later rfl passed stays
    refine ⟨decides_resolve passed stays census later, fun others => ?_⟩
    rw [resolve_of_not_passedOver passed stays, resolve_of_not_passedOver passed stays]
    exact ⟨rfl, rfl, rfl⟩

/-! ## An unknown property beats a condition that does not hold -/

namespace Example

/-- A context that knows no property. -/
def context : Context Recipe :=
  { properties :=
      { has := fun _ => false
        selection := fun name => .error (.unknown name)
        configuration := fun name => .error (.unknown name) }
    types := Types.Hierarchy.root.source
    generators := fun _ => none }

/-- Passed over for every type but `a.Other`. -/
def otherOnly : Rule := { action := .fail, roots := [.typeIs "a.Other"] }

/-- Asks for a property it would not come to look at. -/
def localized : Rule :=
  { action := .generateWith "a.Localizer"
    roots := [.typeIs "a.Other", .propertyIs "locale" "en"] }

/-- Applies to every type. -/
def anything : Rule := { action := .replaceWith "a.Default" }

theorem otherOnly_passedOver (given : Sources) : otherOnly.PassedOver given "a.Api" :=
  ⟨fun _ member => absurd member List.not_mem_nil, rfl⟩

theorem localized_firstUnknown : localized.FirstUnknown context.properties "locale" :=
  ⟨[], [], rfl, fun _ member => absurd member List.not_mem_nil, rfl⟩

theorem localized_not_passedOver : ¬ localized.PassedOver context.toSources "a.Api" :=
  fun passed => localized_firstUnknown.not_propertiesKnown passed.1

theorem unknown_property_wins :
    (∀ q ∈ [otherOnly], q.PassedOver context.toSources "a.Api") ∧
      ¬ localized.PassedOver context.toSources "a.Api" ∧
      (Rules.resolve { toList := [otherOnly, localized, anything] } context "a.Api" {}).outcome =
        .error (.missingProperty "a.Api" "locale") := by
  have passed : ∀ q ∈ [otherOnly], q.PassedOver context.toSources "a.Api" :=
    List.forall_mem_singleton.2 (otherOnly_passedOver _)
  have settled := resolve_firstMatch { toList := [otherOnly, localized, anything] } context
    "a.Api" {}
  have decided := (settled.2.2 [otherOnly] localized [anything] rfl passed
    localized_not_passedOver).1
  exact ⟨passed, localized_not_passedOver, decided.missing "locale" localized_firstUnknown⟩

end Example

end Rules

end DeferredBinding
