/-
# Proofs.Condition.ShortCircuit -- what a decision leaves unread could not have changed it

A condition stands for a Boolean formula: branches mean AND, OR and NOR, and a leaf means
what it comes to on its own.  A leaf that fails has no meaning, so a *guess* stands in for
it, one for every place of the tree (`formula`).  A decision stops early, but

* what it answers is what the formula says under every guess (`formula_of_isTrue`);
* a failure is that of a leaf at the end of an open way (`exists_open_of_error`), so that
  nothing to the right of that way has a part in it;
* a child that decides its branch makes the children behind it irrelevant, wherever the
  branch stands (`isTrue_of_decider`).

`isTrue_shortCircuits` puts the three together.
-/
import DeferredBinding.Proofs.Condition.Branches

namespace DeferredBinding.Condition

set_option autoImplicit false

/-! ## The formula of a condition -/

mutual

/-- The value of the formula of a condition.  A place is told by the positions of the
children on the way to it. -/
def formula (given : Sources) (type : String) : Condition → (List Nat → Bool) → Bool
  | .all children, guess => Wrapping.all.meaning (formulas given type 0 children guess)
  | .any children, guess => Wrapping.any.meaning (formulas given type 0 children guess)
  | .noneOf children, guess => Wrapping.noneOf.meaning (formulas given type 0 children guess)
  | leaf, guess => (isTrue given type leaf).toOption.getD (guess [])

/-- The values of the formulas of several children, the first of which has `position`. -/
def formulas (given : Sources) (type : String) (position : Nat) :
    List Condition → (List Nat → Bool) → List Bool
  | [], _ => []
  | c :: rest, guess =>
      formula given type c (fun place => guess (position :: place)) ::
        formulas given type (position + 1) rest guess

end

section

variable (given : Sources) (type : String)

theorem formula_leaf {c : Condition} (leaf : c.isLeaf = true) (guess : List Nat → Bool) :
    formula given type c guess = (isTrue given type c).toOption.getD (guess []) := by
  cases c with
  | typeIs name => rfl
  | assignableTo name => rfl
  | propertyIs property value => rfl
  | all children => cases leaf
  | any children => cases leaf
  | noneOf children => cases leaf

theorem formula_branch (w : Wrapping) (children : List Condition) (guess : List Nat → Bool) :
    formula given type (branch w children) guess =
      w.meaning (formulas given type 0 children guess) := by
  cases w <;> rw [branch, formula]

/-- Every child has its value in the list of values. -/
theorem exists_formula_mem {c : Condition} {children : List Condition} (member : c ∈ children)
    (position : Nat) (guess : List Nat → Bool) :
    ∃ own, formula given type c own ∈ formulas given type position children guess := by
  induction children generalizing position with
  | nil => cases member
  | cons d rest ih =>
      rw [formulas]
      obtain rfl | there := List.mem_cons.1 member
      · exact ⟨_, List.mem_cons_self⟩
      · obtain ⟨own, listed⟩ := ih there (position + 1)
        exact ⟨own, List.mem_cons_of_mem _ listed⟩

/-- Every value in the list of values is that of a child. -/
theorem exists_child_of_mem {answer : Bool} {children : List Condition} {position : Nat}
    {guess : List Nat → Bool} (member : answer ∈ formulas given type position children guess) :
    ∃ c ∈ children, ∃ own, answer = formula given type c own := by
  induction children generalizing position with
  | nil => rw [formulas] at member; cases member
  | cons d rest ih =>
      rw [formulas] at member
      obtain rfl | there := List.mem_cons.1 member
      · exact ⟨d, List.mem_cons_self, _, rfl⟩
      · obtain ⟨c, child, own, same⟩ := ih there
        exact ⟨c, List.mem_cons_of_mem _ child, own, same⟩

end

variable {given : Sources} {type : String}

/-- What is answered is what the formula says, whatever is guessed of leaves that fail. -/
theorem formula_of_isTrue {c : Condition} {answer : Bool}
    (decided : isTrue given type c = .ok answer) (guess : List Nat → Bool) :
    formula given type c guess = answer := by
  induction c using induction_branches generalizing answer guess with
  | leaf c leaf =>
      rw [formula_leaf given type leaf, decided]
      rfl
  | node w children ih =>
      rw [isTrue_branch] at decided
      rw [formula_branch]
      obtain ⟨ordinary, first⟩ | ⟨earlier, d, later, rfl, before, other, first⟩ :=
        Verdict.firstOther_cases w.usual (isTrue given type) children
      · -- no child decides, so none of their formulas does
        rw [first] at decided
        rw [← Except.ok.inj decided]
        refine Wrapping.meaning_of_usual fun value member => ?_
        obtain ⟨c, child, own, rfl⟩ := exists_child_of_mem given type member
        exact ih c child (ordinary c child) own
      · obtain decider | ⟨failure, fails⟩ := Verdict.isOther_cases other
        · rw [first, decider] at decided
          rw [← Except.ok.inj decided]
          have child : d ∈ earlier ++ d :: later := List.mem_append_right _ List.mem_cons_self
          obtain ⟨own, listed⟩ := exists_formula_mem given type child 0 guess
          rw [ih d child decider own] at listed
          exact Wrapping.meaning_of_other listed
        · rw [first, fails] at decided
          cases decided

/-! ## Where a failure comes from -/

/-- A failure is that of a leaf to which an open way leads. -/
theorem exists_open_of_error {c : Condition} {failure : Failure}
    (failed : isTrue given type c = .error failure) :
    ∃ way leaf, c = along way leaf ∧ leaf.isLeaf = true ∧
      isTrue given type leaf = .error failure ∧ Open given type way := by
  induction c using induction_branches with
  | leaf c leaf => exact ⟨[], c, rfl, leaf, failed, List.forall_mem_nil _⟩
  | node w children ih =>
      rw [isTrue_branch] at failed
      obtain ⟨ordinary, first⟩ | ⟨earlier, d, later, rfl, before, other, first⟩ :=
        Verdict.firstOther_cases w.usual (isTrue given type) children
      · rw [first] at failed
        cases failed
      · obtain decider | ⟨reason, fails⟩ := Verdict.isOther_cases other
        · rw [first, decider] at failed
          cases failed
        · rw [first, fails] at failed
          cases failed
          have child : d ∈ earlier ++ d :: later := List.mem_append_right _ List.mem_cons_self
          obtain ⟨way, leaf, rfl, isLeaf, leafFails, opened⟩ := ih d child fails
          exact ⟨⟨w, earlier, later⟩ :: way, leaf, rfl, isLeaf, leafFails, .cons before opened⟩

/-! ## Behind the child that decides -/

/-- A child that decides its branch makes the children behind it irrelevant. -/
theorem isTrue_of_decider {w : Wrapping} {d : Condition}
    (decides : isTrue given type d = .ok (!w.usual)) (way : List Descent)
    (earlier later others : List Condition) :
    isTrue given type (along way (branch w (earlier ++ d :: others))) =
      isTrue given type (along way (branch w (earlier ++ d :: later))) := by
  refine isTrue_along_congr ?_ way
  have other : Verdict.isOther w.usual (isTrue given type d) = true := by
    rw [decides]
    cases w <;> rfl
  rw [isTrue_branch, isTrue_branch, List.map_append, List.map_append, List.map_cons,
    List.map_cons, Verdict.firstOther_stops other]

/-! ## Short circuits are sound -/

/-- What can be relied on where the decision of a condition stops early. -/
structure ShortCircuits (given : Sources) (type : String) (c : Condition) : Prop where
  /-- an answer is what the formula says, whatever failing leaves would have meant -/
  sound : ∀ answer, isTrue given type c = .ok answer →
    ∀ guess, formula given type c guess = answer
  /-- where no leaf fails there is an answer, and it is what the formula says -/
  total : (∀ way leaf, c = along way leaf → leaf.isLeaf = true →
      ∃ answer, isTrue given type leaf = .ok answer) →
    ∀ guess, isTrue given type c = .ok (formula given type c guess)
  /-- a failure is that of a leaf, and nothing to the right of the way to it matters -/
  failed : ∀ failure, isTrue given type c = .error failure →
    ∃ way leaf, c = along way leaf ∧ leaf.isLeaf = true ∧
      isTrue given type leaf = .error failure ∧
      ∀ other, other.map Descent.left = way.map Descent.left →
        isTrue given type (along other leaf) = .error failure
  /-- nothing behind a child that decides its branch matters -/
  unread : ∀ way w earlier d later, c = along way (branch w (earlier ++ d :: later)) →
    isTrue given type d = .ok (!w.usual) →
    ∀ others, isTrue given type (along way (branch w (earlier ++ d :: others))) =
      isTrue given type c

/-- **Stopping early is sound.**  Whatever a decision did not look at could not have changed
its answer, and a failure comes from what stands to the left. -/
theorem isTrue_shortCircuits (given : Sources) (type : String) (c : Condition) :
    ShortCircuits given type c := by
  constructor
  · intro answer decided guess
    exact formula_of_isTrue decided guess
  · intro leaves guess
    cases verdict : isTrue given type c with
    | ok answer => rw [formula_of_isTrue verdict]
    | error failure =>
        obtain ⟨way, leaf, split, isLeaf, fails, -⟩ := exists_open_of_error verdict
        obtain ⟨answer, decided⟩ := leaves way leaf split isLeaf
        rw [decided] at fails
        cases fails
  · intro failure failed
    obtain ⟨way, leaf, split, isLeaf, fails, opened⟩ := exists_open_of_error failed
    exact ⟨way, leaf, split, isLeaf, fails, fun other same =>
      (opened.of_left same).isTrue_along fails⟩
  · rintro way w earlier d later rfl decides others
    exact isTrue_of_decider decides way earlier later others

/-! ## A failing leaf that is not looked at, and one that is -/

namespace Example

def nothing : Sources :=
  { properties :=
      { has := fun _ => false
        selection := fun name => .error (.unknown name)
        configuration := fun name => .error (.unknown name) }
    types := { find? := fun _ => none, assignable := fun _ _ => false } }

/-- Fails for every type, for none is declared. -/
def widget : Condition := .assignableTo "a.Widget"

/-- The leaf that fails stands behind the one that decides. -/
def shielded : Condition := .any [.typeIs "a.Api", widget]

/-- The same leaf behind one that decides nothing. -/
def exposed : Condition := .noneOf [.all [.typeIs "a.Api", widget], .propertyIs "locale" "en"]

theorem shielded_holds_exposed_fails :
    isTrue nothing "a.Api" shielded = .ok true ∧
      (∀ guess, formula nothing "a.Api" shielded guess = true) ∧
      isTrue nothing "a.Api" exposed = .error (.unresolvedType "a.Api") ∧
      ∃ way leaf, exposed = along way leaf ∧ leaf.isLeaf = true ∧
        isTrue nothing "a.Api" leaf = .error (.unresolvedType "a.Api") ∧
        ∀ other, other.map Descent.left = way.map Descent.left →
          isTrue nothing "a.Api" (along other leaf) = .error (.unresolvedType "a.Api") :=
  ⟨rfl, (isTrue_shortCircuits nothing "a.Api" shielded).sound true rfl, rfl,
    (isTrue_shortCircuits nothing "a.Api" exposed).failed _ rfl⟩

end Example

end DeferredBinding.Condition
