/-
# Property.Table -- every property a module declares

A table lists its properties in the order of their first declaration, and holds
at most one under each name.  Declaring a name again finds the property that is
there: its values stay, and a configuration property keeps the flag it was first
declared with.  A name keeps its kind for good.

`modifyBinding` and `modifyConfiguration` are how a property in the table is
changed; where the change is refused the table stays as it was.
-/
import DeferredBinding.Pairs
import DeferredBinding.Property.Binding
import DeferredBinding.Property.Configuration

namespace DeferredBinding

set_option autoImplicit false

/-- A property of either kind. -/
inductive Property where
  | binding (b : Property.Binding)
  | configuration (c : Property.Configuration)
  deriving DecidableEq, Repr

namespace Property

def name : Property → String
  | .binding b => b.name
  | .configuration c => c.name

def kind : Property → Kind
  | .binding _ => .binding
  | .configuration _ => .configuration

/-- Equality up to the order of a binding's values. -/
def agrees : Property → Property → Bool
  | .binding b, .binding c => b.agrees c
  | .configuration b, .configuration c => b == c
  | _, _ => false

/-- The properties of a module, in the order of their first declaration. -/
structure Table where
  entries : List Property := []
  deriving DecidableEq, Repr

namespace Table

def find? (t : Table) (name : String) : Option Property :=
  t.entries.find? fun p => p.name == name

/-- Whether a property of either kind is declared under `name`. -/
def contains (t : Table) (name : String) : Bool :=
  (t.find? name).isSome

def binding? (t : Table) (name : String) : Option Binding :=
  match t.find? name with
  | some (.binding b) => some b
  | _ => none

def configuration? (t : Table) (name : String) : Option Configuration :=
  match t.find? name with
  | some (.configuration c) => some c
  | _ => none

def size (t : Table) : Nat :=
  t.entries.length

/-- A property of a new name, at the end. -/
def append (t : Table) (p : Property) : Table :=
  { entries := t.entries ++ [p] }

/-- `p` in the place of the property of its name. -/
def replace (t : Table) (p : Property) : Table :=
  { entries := t.entries.map fun q => if q.name = p.name then p else q }

/-- Declare a binding property, unless it is declared already. -/
def declareBinding (t : Table) (name : String) : Except Error Table :=
  match t.find? name with
  | some (.binding _) => .ok t
  | some p => .error (.kindMismatch name p.kind)
  | none => (Binding.declare name).map fun b => t.append (.binding b)

/-- Declare a configuration property, unless it is declared already; then it keeps
its first flag. -/
def declareConfiguration (t : Table) (name : String) (multi : Bool) : Except Error Table :=
  match t.find? name with
  | some (.configuration _) => .ok t
  | some p => .error (.kindMismatch name p.kind)
  | none =>
      if Identifier.valid name then
        .ok (t.append (.configuration (Configuration.declare name multi)))
      else .error (.invalidName name)

/-- The binding property under `name`, or why there is none. -/
def getBinding (t : Table) (name : String) : Except Error Binding :=
  match t.find? name with
  | some (.binding b) => .ok b
  | some p => .error (.kindMismatch name p.kind)
  | none => .error (.unknown name)

def getConfiguration (t : Table) (name : String) : Except Error Configuration :=
  match t.find? name with
  | some (.configuration c) => .ok c
  | some p => .error (.kindMismatch name p.kind)
  | none => .error (.unknown name)

def modifyBinding (t : Table) (name : String) (change : Binding → Except Error Binding) :
    Except Error Table :=
  (t.getBinding name).bind fun b => (change b).map fun b' => t.replace (.binding b')

def modifyConfiguration (t : Table) (name : String)
    (change : Configuration → Except Error Configuration) : Except Error Table :=
  (t.getConfiguration name).bind fun c => (change c).map fun c' => t.replace (.configuration c')

/-- Equality up to the order of the properties and of binding values. -/
def agrees (t u : Table) : Bool :=
  t.size == u.size && t.entries.all fun p =>
    match u.find? p.name with
    | some q => p.agrees q
    | none => false

/-! ## Looking a property up -/

theorem name_of_find? {t : Table} {name : String} {p : Property}
    (found : t.find? name = some p) : p.name = name := by
  simpa using List.find?_some found

theorem mem_of_find? {t : Table} {name : String} {p : Property}
    (found : t.find? name = some p) : p ∈ t.entries :=
  List.mem_of_find?_eq_some found

theorem find?_append (t : Table) (p : Property) (name : String) :
    (t.append p).find? name = (t.find? name).or (if p.name = name then some p else none) := by
  simp only [find?, append, List.find?_append]
  by_cases h : p.name = name <;> simp [h]

theorem find?_replace (t : Table) (p : Property) (name : String) :
    (t.replace p).find? name =
      if p.name = name then (t.find? name).map fun _ => p else t.find? name := by
  exact Pairs.find?_replace Property.name p t.entries name

end Table

end Property

end DeferredBinding
