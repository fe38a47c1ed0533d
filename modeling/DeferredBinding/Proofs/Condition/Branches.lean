/-
# Proofs.Condition.Branches -- conditions as leaves and branches

A condition is a leaf, or a branch over its children.  The three kinds of branch differ in
two points only: which verdict of a child leaves the decision to the children behind it
(`Wrapping.usual`), and whether the answer is turned round in the end (`Wrapping.turned`).
So what is to be shown of every condition takes a case for leaves and a case for branches
(`induction_branches`), and `isTrue_branch` is all there is to know of a branch.

A *way* leads from a condition down to one that stands in it, and tells what is passed on
either side.  What stands at the end of a way matters by its verdict alone
(`isTrue_along_congr`).  A way is *open* where every child passed on the left leaves the
decision to those behind it; then a failure at its end is the failure of the whole
(`Open.isTrue_along`), whatever is passed on the right.
-/
import DeferredBinding.Proofs.Condition.Verdicts

namespace DeferredBinding.Condition

set_option autoImplicit false

/-! ## Leaves and branches -/

def isLeaf : Condition → Bool
  | .typeIs _ => true
  | .assignableTo _ => true
  | .propertyIs _ _ => true
  | _ => false

/-- A branch of a kind over some children. -/
def branch : Wrapping → List Condition → Condition
  | .all => .all
  | .any => .any
  | .noneOf => .noneOf

namespace Wrapping

/-- The answer of a child that leaves the decision to the children behind it. -/
def usual : Wrapping → Bool
  | .all => true
  | .any => false
  | .noneOf => false

/-- What a branch answers where its children come to an answer. -/
def turned : Wrapping → Bool → Bool
  | .all => id
  | .any => id
  | .noneOf => not

/-- What a branch means: that all of its children hold, that one of them does, or that none
of them does. -/
def meaning : Wrapping → List Bool → Bool
  | .all, answers => answers.all id
  | .any, answers => answers.any id
  | .noneOf, answers => !answers.any id

theorem meaning_of_usual {w : Wrapping} {answers : List Bool}
    (ordinary : ∀ answer ∈ answers, answer = w.usual) : w.meaning answers = w.turned w.usual := by
  cases w with
  | all => simpa [meaning, turned, usual] using ordinary
  | any => simpa [meaning, turned, usual] using ordinary
  | noneOf => simpa [meaning, turned, usual] using ordinary

theorem meaning_of_other {w : Wrapping} {answers : List Bool} (other : (!w.usual) ∈ answers) :
    w.meaning answers = w.turned (!w.usual) := by
  cases w with
  | all => simpa [meaning, turned, usual] using other
  | any => simpa [meaning, turned, usual] using other
  | noneOf => simpa [meaning, turned, usual] using other

/-- A branch that turns no answer round passes every verdict on. -/
theorem map_turned {w : Wrapping} (plain : w.turned = id) (verdict : Verdict) :
    verdict.map w.turned = verdict := by
  rw [plain]
  exact congrFun Except.map_id verdict

end Wrapping

/-- What holds of leaves, and of branches whose children it holds of, holds of every
condition. -/
@[elab_as_elim]
theorem induction_branches {motive : Condition → Prop}
    (leaf : ∀ c : Condition, c.isLeaf = true → motive c)
    (node : ∀ w children, (∀ c ∈ children, motive c) → motive (branch w children))
    (c : Condition) : motive c := by
  -- the lists of children have a motive of their own
  refine @Condition.rec motive (fun children => ∀ c ∈ children, motive c) ?_ ?_ ?_ ?_ ?_ ?_ ?_ ?_ c
  · exact fun name => leaf (.typeIs name) rfl
  · exact fun name => leaf (.assignableTo name) rfl
  · exact fun property value => leaf (.propertyIs property value) rfl
  · exact fun children each => node .all children each
  · exact fun children each => node .any children each
  · exact fun children each => node .noneOf children each
  · exact List.forall_mem_nil _
  · exact fun c rest first others => List.forall_mem_cons.2 ⟨first, others⟩

variable {given : Sources} {type : String}

/-- A branch is decided by the first of its children that does not leave the decision to
those behind it. -/
theorem isTrue_branch (given : Sources) (type : String) (w : Wrapping)
    (children : List Condition) :
    isTrue given type (branch w children) =
      (Verdict.firstOther w.usual (children.map (isTrue given type))).map w.turned := by
  cases w with
  | all =>
      rw [isTrue, branch, check, framed_value, allHold_value]
      exact (Wrapping.map_turned rfl _).symm
  | any =>
      rw [isTrue, branch, check, framed_value, anyHold_value]
      exact (Wrapping.map_turned rfl _).symm
  | noneOf =>
      rw [isTrue, branch, check, framed_value, negated_value, anyHold_value]
      rfl

/-! ## Ways -/

/-- One step down from a branch to one of its children. -/
structure Descent where
  kind : Wrapping
  earlier : List Condition
  later : List Condition
  deriving Repr

/-- The branch that a step starts from, where `c` stands at its end. -/
def Descent.above (d : Descent) (c : Condition) : Condition :=
  branch d.kind (d.earlier ++ c :: d.later)

/-- What a step tells of the left of its end. -/
def Descent.left (d : Descent) : Wrapping × List Condition :=
  (d.kind, d.earlier)

/-- The condition that a way starts from, where `c` stands at its end. -/
def along (way : List Descent) (c : Condition) : Condition :=
  way.foldr Descent.above c

theorem along_cons (d : Descent) (way : List Descent) (c : Condition) :
    along (d :: way) c = d.above (along way c) := rfl

/-- Only its verdict tells the end of a way. -/
theorem isTrue_along_congr {c d : Condition} (same : isTrue given type c = isTrue given type d)
    (way : List Descent) : isTrue given type (along way c) = isTrue given type (along way d) := by
  induction way with
  | nil => exact same
  | cons step rest ih =>
      simp only [along_cons, Descent.above, isTrue_branch, List.map_append, List.map_cons, ih]

/-- Every child that a way passes on the left leaves the decision to those behind it. -/
def Open (given : Sources) (type : String) (way : List Descent) : Prop :=
  ∀ step ∈ way, ∀ c ∈ step.earlier, isTrue given type c = .ok step.kind.usual

theorem Open.cons {step : Descent} {way : List Descent}
    (here : ∀ c ∈ step.earlier, isTrue given type c = .ok step.kind.usual)
    (onward : Open given type way) : Open given type (step :: way) :=
  List.forall_mem_cons.2 ⟨here, onward⟩

/-- Whether a way is open does not depend on what it passes on the right. -/
theorem Open.of_left {way other : List Descent} (opened : Open given type way)
    (same : other.map Descent.left = way.map Descent.left) : Open given type other := by
  intro step member c passed
  have listed : step.left ∈ way.map Descent.left := by
    rw [← same]
    exact List.mem_map_of_mem member
  obtain ⟨twin, there, alike⟩ := List.mem_map.1 listed
  have kind : twin.kind = step.kind := congrArg Prod.fst alike
  have earlier : twin.earlier = step.earlier := congrArg Prod.snd alike
  rw [← earlier] at passed
  rw [← kind]
  exact opened twin there c passed

/-- A failure at the end of an open way is the failure of the whole. -/
theorem Open.isTrue_along {way : List Descent} (opened : Open given type way) {c : Condition}
    {failure : Failure} (fails : isTrue given type c = .error failure) :
    isTrue given type (along way c) = .error failure := by
  induction way with
  | nil => exact fails
  | cons step rest ih =>
      obtain ⟨here, onward⟩ := List.forall_mem_cons.1 opened
      have passed : ∀ verdict ∈ step.earlier.map (isTrue given type),
          verdict = .ok step.kind.usual := by
        rw [List.forall_mem_map]
        exact here
      rw [along_cons, Descent.above, isTrue_branch, List.map_append, List.map_cons,
        Verdict.firstOther_append passed, ih onward, Verdict.firstOther_cons]
      rfl

end DeferredBinding.Condition
