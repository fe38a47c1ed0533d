/-
# Proofs.Resolution.ReadSet -- what a resolution may read of the properties

`required` lists the properties of a condition, a rule or a list of rules by going through
the whole tree; an evaluation goes through a part of it.  Here the list is shown to cover
every part: two property sources that are `Alike` on it cannot be told apart, whatever
they say of other names and whatever values they carry in configuration properties.

Conditions read selections only (`Condition.check_alike`), and a resolution asks besides
whether a property is known (`firstMissing_alike`).  A generator is handed the whole
context, so what it reads is its own affair: where it `IgnoresProperties`, the work of the
rule that calls for it is the same under both sources (`Rule.realize_alike`).

The equations are between whole records, not between answers alone: the trace, the rules
that are left and the census agree as well (`Context.reads_only_required`).
-/
import Mathlib.Data.List.Find
import DeferredBinding.Generator.Recipe
import DeferredBinding.Resolution.Rules

namespace DeferredBinding

set_option autoImplicit false

/-! ## Sources that are alike -/

namespace Property.Source

/-- For each of the names, one source selects what the other does, or refuses for the same
reason. -/
def SelectsAlike (names : List String) (p q : Source) : Prop :=
  ∀ name ∈ names, p.selection name = q.selection name

/-- Two sources know the same among the names, and select alike for them. -/
structure Alike (names : List String) (p q : Source) : Prop where
  has : ∀ name ∈ names, p.has name = q.has name
  selects : SelectsAlike names p q

variable {names fewer : List String} {p q : Source}

theorem SelectsAlike.of_subset (alike : SelectsAlike names p q) (listed : fewer ⊆ names) :
    SelectsAlike fewer p q :=
  fun name member => alike name (listed member)

theorem Alike.of_subset (alike : Alike names p q) (listed : fewer ⊆ names) : Alike fewer p q :=
  ⟨fun name member => alike.has name (listed member), alike.selects.of_subset listed⟩

end Property.Source

open Property.Source

variable {p q : Property.Source} {types : Types.Source} {type : String}

/-! ## Conditions -/

namespace Condition

theorem selected_alike {property : String} (alike : p.selection property = q.selection property)
    (value : String) : selected p property value = selected q property value := by
  rw [selected, selected, alike]

mutual

/-- A decision reads the selections of the properties that the condition mentions. -/
theorem check_alike : ∀ c : Condition, SelectsAlike (mentioned c) p q →
    check { properties := p, types } type c = check { properties := q, types } type c
  | .typeIs _, _ => by rw [check, check]
  | .assignableTo _, _ => by rw [check, check]
  | .propertyIs property value, alike => by
      rw [check, check, selected_alike (alike property List.mem_cons_self)]
  | .all children, alike => by rw [check, check, allHold_alike children alike]
  | .any children, alike => by rw [check, check, anyHold_alike children alike]
  | .noneOf children, alike => by rw [check, check, anyHold_alike children alike]

theorem allHold_alike : ∀ cs : List Condition, SelectsAlike (mentionedList cs) p q →
    allHold { properties := p, types } type cs = allHold { properties := q, types } type cs
  | [], _ => by rw [allHold, allHold]
  | c :: rest, alike => by
      obtain ⟨first, others⟩ := List.forall_mem_append.1 alike
      rw [allHold, allHold, check_alike c first, allHold_alike rest others]

theorem anyHold_alike : ∀ cs : List Condition, SelectsAlike (mentionedList cs) p q →
    anyHold { properties := p, types } type cs = anyHold { properties := q, types } type cs
  | [], _ => by rw [anyHold, anyHold]
  | c :: rest, alike => by
      obtain ⟨first, others⟩ := List.forall_mem_append.1 alike
      rw [anyHold, anyHold, check_alike c first, anyHold_alike rest others]

end

end Condition

/-! ## Rules -/

theorem Rule.applies_alike {r : Rule} (alike : SelectsAlike r.required p q) :
    r.applies { properties := p, types } type = r.applies { properties := q, types } type := by
  have mentioned : SelectsAlike (Condition.mentionedList r.roots) p q :=
    alike.of_subset fun _ member => Condition.mem_requiredList.2 member
  rw [applies, applies, Condition.allHold_alike r.roots mentioned]

theorem Rules.firstMissing_alike {r : Rule} (alike : Alike r.required p q) :
    firstMissing p r = firstMissing q r := by
  refine List.find?_congr fun name member => ?_
  rw [alike.has name member]

section

variable {γ : Type}

/-- A context with another source of property values. -/
def Context.over (ctx : Context γ) (properties : Property.Source) : Context γ :=
  { ctx with properties }

theorem Context.over_generators (ctx : Context γ) (properties : Property.Source) :
    (ctx.over properties).generators = ctx.generators := rfl

variable [Generator γ]

/-- No generator of the context looks at the properties. -/
def Context.IgnoresProperties (ctx : Context γ) : Prop :=
  ∀ name generator, ctx.generators name = some generator →
    ∀ (p q : Property.Source) (census : Census) (type : String),
      Generator.produce generator (ctx.over p) census type =
        Generator.produce generator (ctx.over q) census type

variable {ctx : Context γ}

theorem Rule.realize_alike (ignorant : ctx.IgnoresProperties) (p q : Property.Source)
    (type : String) (r : Rule) (census : Census) :
    r.realize (ctx.over p) type census = r.realize (ctx.over q) type census := by
  cases action : r.action with
  | replaceWith name =>
      rw [realize_replaceWith _ type census action, realize_replaceWith _ type census action]
  | generateWith name =>
      cases found : ctx.generators name with
      | none =>
          rw [realize_unknown (ctx.over p) type census action found,
            realize_unknown (ctx.over q) type census action found]
      | some generator =>
          rw [realize_known (ctx.over p) type census action found,
            realize_known (ctx.over q) type census action found, generate, generate,
            ignorant name generator found p q]
  | fail => rw [realize_fail _ type census action, realize_fail _ type census action]

namespace Rules

/-- Going through the rules reads what each of them requires, and nothing else. -/
theorem scan_alike (ignorant : ctx.IgnoresProperties) (type : String) (census : Census)
    (rules : List Rule) (alike : ∀ r ∈ rules, Alike r.required p q) (index : Nat) :
    scan (ctx.over p) type census index rules = scan (ctx.over q) type census index rules := by
  induction rules generalizing index with
  | nil => rfl
  | cons r rest ih =>
      obtain ⟨first, others⟩ := List.forall_mem_cons.1 alike
      have missing : firstMissing (ctx.over p).properties r =
          firstMissing (ctx.over q).properties r := firstMissing_alike first
      have decision : r.applies (ctx.over p).toSources type =
          r.applies (ctx.over q).toSources type := Rule.applies_alike first.selects
      rw [scan, scan, missing, decision, ih others, Rule.realize_alike ignorant p q]

theorem resolve_alike (ignorant : ctx.IgnoresProperties) {rs : Rules}
    (alike : Alike rs.required p q) (type : String) (census : Census) :
    rs.resolve (ctx.over p) type census = rs.resolve (ctx.over q) type census := by
  have each : ∀ r ∈ rs.toList, Alike r.required p q := fun r member =>
    alike.of_subset fun _ mentioned => mem_required.2 ⟨r, member, mentioned⟩
  rw [resolve, resolve, scan_alike ignorant type census rs.toList each]

end Rules

/-! ## All that is read is required -/

/-- What two sources cannot bring about in a request for `type`, if they are alike on the
properties that are required. -/
structure Context.ReadsRequired (ctx : Context γ) (p q : Property.Source) (type : String) : Prop where
  condition : ∀ c : Condition, SelectsAlike c.required p q →
    c.check (ctx.over p).toSources type = c.check (ctx.over q).toSources type
  rule : ∀ r : Rule, SelectsAlike r.required p q →
    r.applies (ctx.over p).toSources type = r.applies (ctx.over q).toSources type
  /-- the same outcome, and everything else that a resolution leaves behind -/
  resolution : ctx.IgnoresProperties → ∀ rs : Rules, Alike rs.required p q → ∀ census,
    rs.resolve (ctx.over p) type census = rs.resolve (ctx.over q) type census

/-- **The required properties are all that is ever read.**  Sources that are alike on them
give the same decisions and the same resolutions, however much they differ elsewhere. -/
theorem Context.reads_only_required (ctx : Context γ) (p q : Property.Source) (type : String) :
    ctx.ReadsRequired p q type where
  condition c alike :=
    c.check_alike (alike.of_subset fun _ member => Condition.mem_required.2 member)
  rule _ alike := Rule.applies_alike alike
  resolution ignorant _ alike census := Rules.resolve_alike ignorant alike type census

end

/-! ## Recipes that look at no property -/

/-- Whether a recipe reads a property itself. -/
def Recipe.consults : Recipe → Bool
  | .selectionOf _ => true
  | .configurationOf _ => true
  | _ => false

/-- A chain of recipes none of which reads a property is the same under every source. -/
theorem Recipe.follow_alike {ctx : Context Recipe}
    (blind : ∀ name recipe, ctx.generators name = some recipe → recipe.consults = false)
    (p q : Property.Source) (type : String) (links : Nat) (census : Census) (recipe : Recipe)
    (own : recipe.consults = false) :
    follow (ctx.over p) type links census recipe = follow (ctx.over q) type links census recipe := by
  induction links generalizing census recipe with
  | zero =>
      cases recipe with
      | selectionOf property => cases own
      | configurationOf property => cases own
      | handOn name =>
          unfold follow
          simp only [Context.over_generators]
          cases ctx.generators name with
          | none => rfl
          | some other => rfl
      | _ => rfl
  | succ links ih =>
      cases recipe with
      | selectionOf property => cases own
      | configurationOf property => cases own
      | handOn name =>
          unfold follow
          simp only [Context.over_generators]
          cases found : ctx.generators name with
          | none => rfl
          | some other =>
              dsimp only
              rw [ih _ other (blind name other found)]
      | _ => rfl

theorem Context.ignoresProperties_of_recipes {ctx : Context Recipe}
    (blind : ∀ name recipe, ctx.generators name = some recipe → recipe.consults = false) :
    ctx.IgnoresProperties :=
  fun name recipe found p q census type =>
    Recipe.follow_alike blind p q type Recipe.longestChain census recipe (blind name recipe found)

/-! ## Two sources that differ where nobody looks -/

namespace Rules.Example

/-- Knows the browser and nothing else. -/
def bare : Property.Source :=
  { has := fun name => name == "user.agent"
    selection := fun name => if name = "user.agent" then .ok "safari" else .error (.unknown name)
    configuration := fun name => .error (.unknown name) }

/-- Knows every name, and has a value for each. -/
def lavish : Property.Source :=
  { has := fun _ => true
    selection := fun name => .ok (if name = "user.agent" then "safari" else name)
    configuration := fun name => .ok [name] }

/-- A proxy for whatever is requested, unless the browser is an old one. -/
def proxied : Rules :=
  { toList := [{ action := .generateWith "a.Proxy"
                 roots := [.noneOf [.any [.typeIs "a.Plain", .propertyIs "user.agent" "ie9"]]] }] }

/-- The generator of proxies. -/
def proxies : Context Recipe :=
  { properties := bare
    types := { find? := fun _ => none, assignable := fun _ _ => false }
    generators := fun name => if name = "a.Proxy" then some (.suffix "_Proxy") else none }

theorem proxies_ignoresProperties : proxies.IgnoresProperties := by
  refine Context.ignoresProperties_of_recipes fun name recipe found => ?_
  obtain ⟨-, made⟩ := Option.ite_none_right_eq_some.1 found
  rw [← Option.some.inj made]
  rfl

theorem alike_on_required : Property.Source.Alike proxied.required bare lavish := by
  have required : proxied.required = ["user.agent"] := rfl
  rw [required]
  exact ⟨List.forall_mem_singleton.2 rfl, List.forall_mem_singleton.2 rfl⟩

theorem unrelated_properties_unseen :
    bare.has "locale" ≠ lavish.has "locale" ∧
      bare.configuration "locale" ≠ lavish.configuration "locale" ∧
      (proxied.resolve (proxies.over bare) "a.Api" {}).outcome =
        .ok { type := "a.Api_Proxy", rule := some 0 } ∧
      proxied.resolve (proxies.over bare) "a.Api" {} =
        proxied.resolve (proxies.over lavish) "a.Api" {} :=
  ⟨nofun, nofun, rfl, (proxies.reads_only_required bare lavish "a.Api").resolution
    proxies_ignoresProperties proxied alike_on_required {}⟩

end Rules.Example

end DeferredBinding
