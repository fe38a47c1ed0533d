/-
# Proofs.Condition.Aborts -- why a condition cannot be decided

A decision fails for one of two reasons: the requested type is not declared, or the
source refuses to select a value for a property the condition mentions
(`aborts_of_check`).  Nothing else a condition says can make it fail.
-/
import DeferredBinding.Condition.Check

namespace DeferredBinding.Condition

set_option autoImplicit false

/-- The failures of a decision that may look at the properties `names`. -/
inductive Aborts (given : Sources) (type : String) (names : List String) : Failure → Prop
  | type (undeclared : given.types.find? type = none) :
      Aborts given type names (.unresolvedType type)
  | property {name : String} {error : Property.Error} (mentioned : name ∈ names)
      (refused : given.properties.selection name = .error error) :
      Aborts given type names (.property error)

variable {given : Sources} {type : String}

theorem Aborts.mono {few many : List String} {failure : Failure}
    (aborts : Aborts given type few failure) (included : ∀ name ∈ few, name ∈ many) :
    Aborts given type many failure := by
  cases aborts with
  | type undeclared => exact .type undeclared
  | property mentioned refused => exact .property (included _ mentioned) refused

theorem aborts_of_assignability {target : String} {names : List String} {failure : Failure}
    (failed : (assignability given.types type target).value = .error failure) :
    Aborts given type names failure := by
  unfold assignability at failed
  split at failed
  · rename_i undeclared
    cases failed
    exact .type undeclared
  · split at failed <;> cases failed

theorem aborts_of_selected {property value : String} {failure : Failure}
    (failed : selected given.properties property value = .error failure) :
    Aborts given type [property] failure := by
  unfold selected at failed
  split at failed
  · cases failed
  · rename_i error refused
    cases failed
    exact .property (List.mem_singleton.2 rfl) refused

theorem error_of_negated {decision : Traced Verdict} {failure : Failure}
    (failed : (negated decision).value = .error failure) : decision.value = .error failure := by
  rw [negated_value] at failed
  cases verdict : decision.value with
  | ok answer => rw [verdict] at failed; cases failed
  | error other => rw [verdict] at failed; cases failed; rfl

mutual

/-- A decision fails because of the requested type or of a property it mentions. -/
theorem aborts_of_check {failure : Failure} : ∀ c : Condition,
    (check given type c).value = .error failure → Aborts given type (mentioned c) failure
  | .typeIs _, failed => by
      rw [check, framed_value] at failed
      cases failed
  | .assignableTo _, failed => by
      rw [check, framed_value] at failed
      exact aborts_of_assignability failed
  | .propertyIs _ _, failed => by
      rw [check, framed_value] at failed
      exact aborts_of_selected failed
  | .all children, failed => by
      rw [check, framed_value] at failed
      exact aborts_of_allHold children failed
  | .any children, failed => by
      rw [check, framed_value] at failed
      exact aborts_of_anyHold children failed
  | .noneOf children, failed => by
      rw [check, framed_value] at failed
      exact aborts_of_anyHold children (error_of_negated failed)

theorem aborts_of_allHold {failure : Failure} : ∀ cs : List Condition,
    (allHold given type cs).value = .error failure → Aborts given type (mentionedList cs) failure
  | [], failed => by rw [allHold] at failed; cases failed
  | c :: rest, failed => by
      rw [allHold] at failed
      split at failed
      · exact (aborts_of_allHold rest failed).mono fun _ member => List.mem_append_right _ member
      · exact (aborts_of_check c failed).mono fun _ member => List.mem_append_left _ member

theorem aborts_of_anyHold {failure : Failure} : ∀ cs : List Condition,
    (anyHold given type cs).value = .error failure → Aborts given type (mentionedList cs) failure
  | [], failed => by rw [anyHold] at failed; cases failed
  | c :: rest, failed => by
      rw [anyHold] at failed
      split at failed
      · exact (aborts_of_anyHold rest failed).mono fun _ member => List.mem_append_right _ member
      · exact (aborts_of_check c failed).mono fun _ member => List.mem_append_left _ member

end

end DeferredBinding.Condition
