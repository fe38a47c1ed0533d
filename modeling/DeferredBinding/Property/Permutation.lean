/-
# Property.Permutation -- reading properties under a choice of values

A `Source` is all that an evaluation may ask about properties: whether a name is
known, which value is selected for it, which values it carries.

The source of this library is a `Permutation`: a table and the values selected
for its binding properties.  An explicit selection decides, and must be allowed;
without one the only allowed value does, then the fallback.  Selecting again
replaces the earlier selection of that name, and selections of names that are no
binding property are kept but never read.
-/
import DeferredBinding.Pairs
import DeferredBinding.Property.Table

namespace DeferredBinding.Property

set_option autoImplicit false

/-- What an evaluation may ask about properties. -/
structure Source where
  has : String → Bool
  selection : String → Except Error String
  configuration : String → Except Error (List String)

/-- The values selected so far, one for each name. -/
structure Selections where
  pairs : List (String × String) := []
  deriving DecidableEq, Repr

namespace Selections

/-- Select `value` for `name`, in the place of an earlier selection. -/
def select (s : Selections) (name value : String) : Selections :=
  { pairs := (name, value) :: s.pairs.filter fun pair => pair.1 != name }

def ofList (choices : List (String × String)) : Selections :=
  choices.foldl (fun s choice => s.select choice.1 choice.2) {}

def value? (s : Selections) (name : String) : Option String :=
  s.pairs.lookup name

/-- A selection is read back, and leaves every other name alone. -/
theorem value?_select (s : Selections) (name value other : String) :
    (s.select name value).value? other = if other = name then some value else s.value? other := by
  rw [value?, select, Pairs.lookup_cons_eq_ite, Pairs.lookup_filter_ne]
  by_cases h : other = name <;> simp [h, value?]

end Selections

/-- A table with a choice of values for its binding properties. -/
structure Permutation where
  table : Table := {}
  selections : Selections := {}
  deriving DecidableEq, Repr

namespace Permutation

/-- Select `value` for `name`. -/
def select (p : Permutation) (name value : String) : Permutation :=
  { p with selections := p.selections.select name value }

/-- The value of a binding property that nobody selected one for. -/
def defaultValue (b : Binding) : Except Error String :=
  match b.constrained?.or b.fallback with
  | some value => .ok value
  | none => .error (.noValue b.name)

def selectedValue (b : Binding) (value : String) : Except Error String :=
  if b.allows value then .ok value else .error (.valueNotAllowed b.name value)

/-- The value of the binding property `name` under this permutation. -/
def selection (p : Permutation) (name : String) : Except Error String :=
  (p.table.getBinding name).bind fun b =>
    match p.selections.value? name with
    | some value => selectedValue b value
    | none => defaultValue b

/-- The values that are set in the configuration property `name`. -/
def configuration (p : Permutation) (name : String) : Except Error (List String) :=
  (p.table.getConfiguration name).map fun c => c.values

def source (p : Permutation) : Source :=
  { has := p.table.contains, selection := p.selection, configuration := p.configuration }

end Permutation

end DeferredBinding.Property
