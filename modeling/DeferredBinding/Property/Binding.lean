/-
# Property.Binding -- a property whose value a permutation selects

A binding property has a closed set of *defined* values.  A permutation picks one
of them; a restriction narrows the choice to the *allowed* ones, and where the
choice is open a fallback may decide it.

Every value that is defined is an identifier.  Defining a value also allows it,
also after a restriction; a restriction lists the allowed values in the order it
was given.  An operation either succeeds or changes nothing.
-/
import DeferredBinding.FirstSeen
import DeferredBinding.Identifier
import DeferredBinding.Property.Error

namespace DeferredBinding.Property

set_option autoImplicit false

/-- A binding property: its defined values in the order of their definition, the
values left allowed, and the fallback. -/
structure Binding where
  name : String
  defined : List String := []
  allowed : List String := []
  fallback : Option String := none
  deriving DecidableEq, Repr

namespace Binding

def declare (name : String) : Except Error Binding :=
  if Identifier.valid name then .ok { name } else .error (.invalidName name)

/-- Define `value`, which thereby becomes allowed. -/
def define (b : Binding) (value : String) : Except Error Binding :=
  if Identifier.valid value then
    .ok { b with
      defined := FirstSeen.add b.defined value
      allowed := FirstSeen.add b.allowed value }
  else .error (.invalidName value)

/-- Define several values, left to right; the first that is refused ends it. -/
def defineAll (b : Binding) : List String → Except Error Binding
  | [] => .ok b
  | value :: rest => (b.define value).bind fun b' => b'.defineAll rest

/-- Leave exactly `values` allowed.  All of them must be defined. -/
def restrict (b : Binding) (values : List String) : Except Error Binding :=
  match values.find? fun value => decide (value ∉ b.defined) with
  | some value => .error (.undefinedValue b.name value)
  | none => .ok { b with allowed := FirstSeen.distinct values }

/-- Set the value to use where nothing else decides.  It need not be defined. -/
def setFallback (b : Binding) (value : String) : Except Error Binding :=
  if Identifier.valid value then .ok { b with fallback := some value }
  else .error (.invalidName value)

def allows (b : Binding) (value : String) : Bool :=
  decide (value ∈ b.allowed)

/-- The allowed value, where there is exactly one. -/
def constrained? (b : Binding) : Option String :=
  match b.allowed with
  | [value] => some value
  | _ => none

/-- Equality up to the order of the defined and of the allowed values. -/
def agrees (b c : Binding) : Bool :=
  b.name == c.name && FirstSeen.sameSet b.defined c.defined &&
    FirstSeen.sameSet b.allowed c.allowed && b.fallback == c.fallback

/-! ## What the operations do -/

theorem define_ok_iff {b c : Binding} {value : String} :
    b.define value = .ok c ↔ Identifier.valid value = true ∧
      c = { b with
        defined := FirstSeen.add b.defined value
        allowed := FirstSeen.add b.allowed value } := by
  unfold define
  split <;> rename_i h
  · simpa only [Except.ok.injEq, h, true_and] using eq_comm
  · simp [h]

theorem restrict_ok_iff {b c : Binding} {values : List String} :
    b.restrict values = .ok c ↔
      (∀ value ∈ values, value ∈ b.defined) ∧
        c = { b with allowed := FirstSeen.distinct values } := by
  unfold restrict
  split
  · rename_i value found
    have absent := List.find?_some found
    have member := List.mem_of_find?_eq_some found
    simp only [decide_eq_true_eq] at absent
    simp only [reduceCtorEq, false_iff, not_and]
    exact fun all => absurd (all value member) absent
  · rename_i notFound
    rw [List.find?_eq_none] at notFound
    simp only [decide_eq_true_eq, Decidable.not_not] at notFound
    simp only [Except.ok.injEq]
    exact ⟨fun e => ⟨notFound, e.symm⟩, fun h => h.2.symm⟩

theorem setFallback_ok_iff {b c : Binding} {value : String} :
    b.setFallback value = .ok c ↔
      Identifier.valid value = true ∧ c = { b with fallback := some value } := by
  unfold setFallback
  split <;> rename_i h
  · simpa only [Except.ok.injEq, h, true_and] using eq_comm
  · simp [h]

end Binding

end DeferredBinding.Property
