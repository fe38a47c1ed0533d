/-
# Resolution.Rules -- the first applicable rule answers

`resolve` goes through the rules in order.  A rule that mentions a property the
source does not know ends the resolution before any of its conditions is looked
at; a rule that applies takes its action, and its answer or failure is the
outcome; where no rule applies the requested type is kept.

Besides the outcome a resolution leaves the rules behind: the one that asked a
generator holds a new instance, all others are unchanged.
-/
import DeferredBinding.Rule.Realize

namespace DeferredBinding

set_option autoImplicit false

/-- Rules in the order in which they are tried. -/
structure Rules where
  toList : List Rule := []
  deriving DecidableEq, Repr

/-- The type a request resolves to, and the position of the rule that answered. -/
structure Answer where
  type : String
  rule : Option Nat
  deriving DecidableEq, Repr

/-- What a resolution leaves behind. -/
structure Resolution where
  outcome : Except Failure Answer
  rules : Rules
  census : Census
  trace : List Entry

namespace Rules

def size (rs : Rules) : Nat :=
  rs.toList.length

/-- A rule more, tried last. -/
def push (rs : Rules) (r : Rule) : Rules :=
  { toList := rs.toList ++ [r] }

/-- A rule more, tried first. -/
def prepend (rs : Rules) (r : Rule) : Rules :=
  { toList := r :: rs.toList }

/-- The properties any rule may read, each once, in the order of first mention. -/
def required (rs : Rules) : List String :=
  FirstSeen.distinct (rs.toList.flatMap Rule.required)

theorem mem_required {name : String} {rs : Rules} :
    name ∈ rs.required ↔ ∃ r ∈ rs.toList, name ∈ r.required := by
  rw [required, FirstSeen.mem_distinct, List.mem_flatMap]

/-- Every rule lets go of what it holds. -/
def dispose (rs : Rules) : Rules :=
  { toList := rs.toList.map Rule.dispose }

/-- The record of disposing the rules. -/
def disposal (rs : Rules) : List Entry :=
  rs.toList.flatMap fun r => Rule.release r.held

variable {γ : Type} [Generator γ]

/-- The first property a rule mentions that the source does not know. -/
def firstMissing (properties : Property.Source) (r : Rule) : Option String :=
  r.required.find? fun name => !properties.has name

/-- The outcome of a rule that applies, `index` being its position. -/
def answered (index : Nat) (realization : Rule.Realization) (rest : List Rule) : Resolution :=
  match realization.outcome with
  | .ok replacement =>
      { outcome := .ok { type := replacement, rule := some index }
        rules := { toList := realization.rule :: rest }
        census := realization.census
        trace := realization.trace ++ [.note (.ruleMatched index replacement)] }
  | .error failure =>
      { outcome := .error failure
        rules := { toList := realization.rule :: rest }
        census := realization.census
        trace := realization.trace }

/-- The same resolution seen from one rule earlier, which was passed over. -/
def passedOver (r : Rule) (trace : List Entry) (later : Resolution) : Resolution :=
  { later with
    rules := { toList := r :: later.rules.toList }
    trace := trace ++ later.trace }

/-- Try the rules of a list whose first has position `index`. -/
def scan (ctx : Context γ) (type : String) (census : Census) : Nat → List Rule → Resolution
  | _, [] =>
      { outcome := .ok { type, rule := none }, rules := {}, census
        trace := [.note .noRuleMatched] }
  | index, r :: rest =>
      match firstMissing ctx.properties r with
      | some property =>
          { outcome := .error (.missingProperty type property)
            rules := { toList := r :: rest }, census, trace := [] }
      | none =>
          let decision := r.applies ctx.toSources type
          match decision.value with
          | .error failure =>
              { outcome := .error failure, rules := { toList := r :: rest }, census
                trace := decision.trace }
          | .ok false => passedOver r decision.trace (scan ctx type census (index + 1) rest)
          | .ok true =>
              let resolution := answered index (r.realize ctx type census) rest
              { resolution with trace := decision.trace ++ resolution.trace }

def resolve (rs : Rules) (ctx : Context γ) (type : String) (census : Census) : Resolution :=
  let resolution := scan ctx type census 0 rs.toList
  { resolution with
    trace := .enter (.resolution type) :: resolution.trace ++ [.leave (.resolution type)] }

/-- The rule at a position, if there is one, replaced by what `change` makes of it. -/
def modifyAt (rs : Rules) (index : Nat) (change : Rule → Rule) : Rules :=
  { toList := rs.toList.modify index change }

end Rules

end DeferredBinding
