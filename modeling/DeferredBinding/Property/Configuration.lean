/-
# Property.Configuration -- a property that only carries values

A configuration property plays no part in a permutation; generators read it.  It
is declared single-valued or multi-valued once and for all.

A slot may be unset: a single-valued property starts with one unset slot, and
clearing it leaves one again.  A multi-valued property starts without slots.
Setting all values at once keeps as many slots as values were given, also none.
-/
import DeferredBinding.Property.Error

namespace DeferredBinding.Property

set_option autoImplicit false

/-- A configuration property and its slots in order. -/
structure Configuration where
  name : String
  multi : Bool
  slots : List (Option String)
  deriving DecidableEq, Repr

namespace Configuration

/-- The slots of a property nothing was written to. -/
def blankSlots (multi : Bool) : List (Option String) :=
  if multi then [] else [none]

/-- A configuration property nothing was written to. -/
def declare (name : String) (multi : Bool) : Configuration :=
  { name, multi, slots := blankSlots multi }

/-- Append a value; only a multi-valued property takes one. -/
def append (c : Configuration) (value : String) : Except Error Configuration :=
  if c.multi then .ok { c with slots := c.slots ++ [some value] }
  else .error (.notMultiValued c.name)

def appendAll (c : Configuration) : List String → Except Error Configuration
  | [] => .ok c
  | value :: rest => (c.append value).bind fun c' => c'.appendAll rest

/-- The first slot overwritten, or inserted where there is none. -/
def overwriteFirst (value : String) : List (Option String) → List (Option String)
  | [] => [some value]
  | _ :: rest => some value :: rest

/-- Overwrite the first value, or insert it where there is none. -/
def set (c : Configuration) (value : String) : Configuration :=
  { c with slots := overwriteFirst value c.slots }

/-- Replace every value at once.  A single-valued property takes at most one. -/
def setAll (c : Configuration) (values : List String) : Except Error Configuration :=
  if !c.multi && decide (1 < values.length) then
    .error (.tooManyValues c.name values.length)
  else .ok { c with slots := values.map some }

/-- Back to the state nothing was written to. -/
def clear (c : Configuration) : Configuration :=
  { c with slots := blankSlots c.multi }

/-- The content of the only slot. -/
def sole (c : Configuration) : Except Error (Option String) :=
  match c.slots with
  | [only] => .ok only
  | slots => .error (.notSingleValued c.name slots.length)

/-- The values that are set, in order. -/
def values (c : Configuration) : List String :=
  c.slots.filterMap id

/-- Whether more than one value is stored right now, whatever was declared. -/
def holdsMany (c : Configuration) : Bool :=
  decide (1 < c.slots.length)

/-! ## What the operations do -/

theorem append_ok_iff {c d : Configuration} {value : String} :
    c.append value = .ok d ↔
      c.multi = true ∧ d = { c with slots := c.slots ++ [some value] } := by
  unfold append
  split <;> rename_i h
  · simpa only [Except.ok.injEq, h, true_and] using eq_comm
  · simp [h]

theorem setAll_ok_iff {c d : Configuration} {values : List String} :
    c.setAll values = .ok d ↔
      (c.multi = true ∨ values.length ≤ 1) ∧ d = { c with slots := values.map some } := by
  unfold setAll
  split <;> rename_i h
  · simp only [Bool.and_eq_true, Bool.not_eq_true', decide_eq_true_eq] at h
    simp only [reduceCtorEq, false_iff, not_and]
    rintro (m | l)
    · simp [h.1] at m
    · omega
  · simp only [Bool.and_eq_true, Bool.not_eq_true', decide_eq_true_eq, not_and] at h
    simp only [Except.ok.injEq]
    refine ⟨fun e => ⟨?_, e.symm⟩, fun e => e.2.symm⟩
    cases hm : c.multi
    · exact Or.inr (Nat.le_of_not_lt (h hm))
    · exact Or.inl rfl

@[simp] theorem set_name (c : Configuration) (value : String) : (c.set value).name = c.name := rfl

@[simp] theorem clear_name (c : Configuration) : c.clear.name = c.name := rfl

end Configuration

end DeferredBinding.Property
