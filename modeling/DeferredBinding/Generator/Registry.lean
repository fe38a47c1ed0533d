/-
# Generator.Registry -- generators by name

A registry maps names to generators and lists its names in code point order.  It
is kept in that order; `get?_insert` and `get?_erase` say what an entry put in or
taken out does to every look-up.
-/
import DeferredBinding.Generator.Basic
import DeferredBinding.Pairs

namespace DeferredBinding

set_option autoImplicit false

/-- Generators by name, in the order of their names. -/
structure Registry (γ : Type) where
  entries : List (String × γ) := []
  deriving Repr

namespace Registry

/-- Why a registry refuses a change. -/
inductive Error where
  | alreadyExists (name : String)
  | notFound (name : String)
  deriving DecidableEq, Repr

def Error.message : Error → String
  | .alreadyExists name => "generator '" ++ name ++ "' already exists"
  | .notFound name => "generator not found: " ++ name

variable {γ : Type}

def get? (r : Registry γ) (name : String) : Option γ :=
  r.entries.lookup name

def contains (r : Registry γ) (name : String) : Bool :=
  (r.get? name).isSome

/-- The registered names in code point order. -/
def names (r : Registry γ) : List String :=
  r.entries.map Prod.fst

def size (r : Registry γ) : Nat :=
  r.entries.length

/-- Register `generator` under `name`, in the place of what was there. -/
def insert (r : Registry γ) (name : String) (generator : γ) : Registry γ :=
  { entries := Pairs.place name generator r.entries }

/-- Register `generator` under a name that is free. -/
def register (r : Registry γ) (name : String) (generator : γ) : Except Error (Registry γ) :=
  if r.contains name then .error (.alreadyExists name) else .ok (r.insert name generator)

/-- Take out what is registered under `name`, if anything is. -/
def erase (r : Registry γ) (name : String) : Registry γ :=
  { entries := r.entries.filter fun entry => entry.1 != name }

/-- Take out what is registered under `name`. -/
def remove (r : Registry γ) (name : String) : Except Error (Registry γ) :=
  if r.contains name then .ok (r.erase name) else .error (.notFound name)

/-- What calling for a generator yields: a new instance where the name is known. -/
structure Call (γ : Type) where
  found : Option (Instance × γ)
  census : Census
  trace : List Entry := []

def call [Generator γ] (r : Registry γ) (name : String) (census : Census) : Call γ :=
  match r.get? name with
  | none => { found := none, census }
  | some generator =>
      let made := census.make name (Generator.silent generator)
      { found := some (made.1, generator), census := made.2
        trace := [.generator made.1 .created] }

/-! ## Looking a name up after a change -/

theorem get?_insert (r : Registry γ) (name : String) (generator : γ) (other : String) :
    (r.insert name generator).get? other =
      if other = name then some generator else r.get? other :=
  Pairs.lookup_place name generator r.entries other

theorem get?_erase (r : Registry γ) (name other : String) :
    (r.erase name).get? other = if other = name then none else r.get? other :=
  Pairs.lookup_filter_ne r.entries name other

end Registry

end DeferredBinding
