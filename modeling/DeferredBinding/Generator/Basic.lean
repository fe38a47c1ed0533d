/-
# Generator -- who makes up a replacement

A generator answers a requested type with the name of its replacement, or with a
reason why it cannot.  What a generator is made of is left open: any type with a
`Generator` instance will do, and a `Context` says which of them go by which name.

Every time a generator is called for, a new *instance* of it goes to work.  A
`Census` counts the instances made so far, so that no two of them are alike; the
silent ones are counted apart.  A generator may make helpers of its own: it is
told the census and says how many it made, and what it records of them is kept
apart from the life of the instances that rules hold.
-/
import DeferredBinding.Condition.Check

namespace DeferredBinding

set_option autoImplicit false

/-- How many instances were made so far. -/
structure Census where
  numbered : Nat := 0
  silent : Nat := 0
  deriving DecidableEq, Repr

namespace Census

/-- A new instance of the generator of a name, and the census that counts it. -/
def make (c : Census) (generator : String) (silent : Bool) : Instance × Census :=
  if silent then
    ({ generator, silent := true, number := c.silent + 1 }, { c with silent := c.silent + 1 })
  else
    ({ generator, silent := false, number := c.numbered + 1 },
      { c with numbered := c.numbered + 1 })

/-- The census after as many instances more as `more` counts. -/
def plus (c more : Census) : Census :=
  { numbered := c.numbered + more.numbered, silent := c.silent + more.silent }

/-- Whether an instance was made before the census was taken. -/
def counts (c : Census) (i : Instance) : Bool :=
  decide (i.number ≤ if i.silent then c.silent else c.numbered)

@[simp] theorem make_generator (c : Census) (generator : String) (silent : Bool) :
    (c.make generator silent).1.generator = generator := by
  cases silent <;> rfl

@[simp] theorem make_silent (c : Census) (generator : String) (silent : Bool) :
    (c.make generator silent).1.silent = silent := by
  cases silent <;> rfl

/-- A new instance is not among those counted before, and is counted after. -/
theorem counts_make (c : Census) (generator : String) (silent : Bool) :
    c.counts (c.make generator silent).1 = false ∧
      (c.make generator silent).2.counts (c.make generator silent).1 = true := by
  cases silent <;> simp [counts, make]

theorem counts_make_of_counts {c : Census} {i : Instance} (generator : String) (silent : Bool)
    (counted : c.counts i = true) : (c.make generator silent).2.counts i = true := by
  cases silent <;> cases hi : i.silent <;> simp_all [counts, make] <;> omega

theorem counts_plus_of_counts {c : Census} {i : Instance} (more : Census)
    (counted : c.counts i = true) : (c.plus more).counts i = true := by
  cases hi : i.silent <;> simp_all [counts, plus] <;> omega

end Census

/-- What a resolution is made against: the sources its conditions read, and the
generators its rules may call for. -/
structure Context (γ : Type) extends Sources where
  generators : String → Option γ

/-- What asking a generator yields: its answer, and the helpers it made for it. -/
structure Production where
  answer : Except String String
  made : Census := {}
  helpers : List (Instance × Step) := []

/-- The generators of a kind. -/
class Generator (γ : Type) where
  /-- Whether the instances of a generator are silent. -/
  silent : γ → Bool
  /-- Ask a generator for the replacement of a type, `Census` instances being made
  already. -/
  produce : γ → Context γ → Census → String → Production

end DeferredBinding
