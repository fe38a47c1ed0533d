/-
# Condition.Check -- deciding a condition

A condition is decided for one requested type against the property and type
sources.  Children are visited left to right and only as far as needed: a branch
stops at the first child that decides it, and at the first that fails.  A failure
is never hidden by what would have come after it.

`check` decides one condition inside its span; `allHold` and `anyHold` are the two
ways of going through a list.  `noneOf` is decided by the visit of `anyHold`, with
the answer turned round.
-/
import DeferredBinding.Condition.Basic
import DeferredBinding.Failure
import DeferredBinding.Property.Permutation
import DeferredBinding.Trace
import DeferredBinding.Types.Hierarchy

namespace DeferredBinding

set_option autoImplicit false

/-- What a condition is decided against. -/
structure Sources where
  properties : Property.Source
  types : Types.Source

/-- An answer, or the failure that prevented one. -/
abbrev Verdict := Except Failure Bool

namespace Condition

/-- The note that closes a decision; a failure writes none. -/
def closing (type : String) (c : Condition) : Verdict → List Entry
  | .ok result => [.note (.conditionDecided (c.reply type result) result)]
  | .error _ => []

/-- A decision inside the span of its condition. -/
def framed (type : String) (c : Condition) (decision : Traced Verdict) : Traced Verdict :=
  let span := Span.condition (c.question type)
  { value := decision.value
    trace := .enter span :: decision.trace ++ closing type c decision.value ++ [.leave span] }

/-- The opposite answer; a failure stays. -/
def negated (decision : Traced Verdict) : Traced Verdict :=
  { decision with value := decision.value.map not }

/-- Whether the requested type is assignable to `target`.  The requested type must
be declared; a target that is not is no reason to fail, only never met. -/
def assignability (types : Types.Source) (type target : String) : Traced Verdict :=
  match types.find? type with
  | none =>
      { value := .error (.unresolvedType type), trace := [.note (.requestedTypeUnknown type)] }
  | some lower =>
      match types.find? target with
      | none => { value := .ok false, trace := [.note (.targetTypeUnknown target)] }
      | some upper => { value := .ok (types.assignable lower upper) }

def selected (properties : Property.Source) (property value : String) : Verdict :=
  match properties.selection property with
  | .ok current => .ok (current == value)
  | .error e => .error (.property e)

/-- What `next` decides, after the record of `first`. -/
def followedBy (first next : Traced Verdict) : Traced Verdict :=
  { value := next.value, trace := first.trace ++ next.trace }

mutual

/-- Decide a condition for the requested type. -/
def check (given : Sources) (type : String) : Condition → Traced Verdict
  | .typeIs name => framed type (.typeIs name) { value := .ok (type == name) }
  | .assignableTo name => framed type (.assignableTo name) (assignability given.types type name)
  | .propertyIs property value =>
      framed type (.propertyIs property value) { value := selected given.properties property value }
  | .all children => framed type (.all children) (allHold given type children)
  | .any children => framed type (.any children) (anyHold given type children)
  | .noneOf children => framed type (.noneOf children) (negated (anyHold given type children))

/-- Whether all conditions hold, up to the first that does not. -/
def allHold (given : Sources) (type : String) : List Condition → Traced Verdict
  | [] => { value := .ok true }
  | c :: rest =>
      let first := check given type c
      match first.value with
      | .ok true => followedBy first (allHold given type rest)
      | _ => first

/-- Whether some condition holds, up to the first that does. -/
def anyHold (given : Sources) (type : String) : List Condition → Traced Verdict
  | [] => { value := .ok false }
  | c :: rest =>
      let first := check given type c
      match first.value with
      | .ok false => followedBy first (anyHold given type rest)
      | _ => first

end

/-- The answer of `check`, without the record. -/
def isTrue (given : Sources) (type : String) (c : Condition) : Verdict :=
  (check given type c).value

@[simp] theorem framed_value (type : String) (c : Condition) (decision : Traced Verdict) :
    (framed type c decision).value = decision.value := rfl

@[simp] theorem negated_value (decision : Traced Verdict) :
    (negated decision).value = decision.value.map not := rfl

end Condition

end DeferredBinding
