/-
# Proofs.FirstFault -- computations that end with the first of their faults

A computation that may fail looks at one thing after the other and ends with the first
fault it meets.  `Reports x faults` says that `faults` are the faults there are to meet, in
the order in which `x` would meet them: `x` fails with the first, and has a value where
there is none.

Faults are put together as computations are: `Reports.bind` lists those of the second step
behind those of the first, which need to be known only where the first step succeeds.  A
fold has the faults of its elements (`Reports.foldlM`).

Where a list is searched for what fails a test, the first to fail is found, behind elements
that all pass (`find?_not_eq_some_iff`).
-/
import DeferredBinding.Proofs.Attempt

namespace DeferredBinding

set_option autoImplicit false

section

variable {α : Type} {passes : α → Bool} {xs : List α}

theorem find?_not_eq_some_iff {x : α} :
    (xs.find? fun y => !passes y) = some x ↔
      ∃ earlier later, xs = earlier ++ x :: later ∧
        (∀ other ∈ earlier, passes other = true) ∧ passes x = false := by
  rw [List.find?_eq_some_iff_append]
  simp only [Bool.not_not, Bool.not_eq_true']
  constructor
  · rintro ⟨fails, earlier, later, split, passed⟩
    exact ⟨earlier, later, split, passed, fails⟩
  · rintro ⟨earlier, later, split, passed, fails⟩
    exact ⟨fails, earlier, later, split, passed⟩

theorem find?_not_eq_none_iff :
    (xs.find? fun y => !passes y) = none ↔ ∀ y ∈ xs, passes y = true := by
  rw [List.find?_eq_none]
  simp only [Bool.not_eq_true', Bool.not_eq_false]

end

namespace Attempt

variable {ε δ α β σ : Type}

/-- A computation fails with the first of its faults, and succeeds where there is none. -/
inductive Reports : Except ε α → List ε → Prop
  | value (a : α) : Reports (.ok a) []
  | fault (e : ε) (others : List ε) : Reports (.error e) (e :: others)

/-- What fails unless a condition is met has one fault or none. -/
theorem reports_ite (p : Prop) [Decidable p] (a : α) (e : ε) :
    Reports (if p then .ok a else .error e) (if p then [] else [e]) := by
  by_cases met : p
  · rw [if_pos met, if_pos met]
    exact .value a
  · rw [if_neg met, if_neg met]
    exact .fault e []

namespace Reports

variable {x : Except ε α} {faults : List ε}

theorem ok_iff (reports : Reports x faults) : (∃ a, x = .ok a) ↔ faults = [] := by
  cases reports with
  | value a => exact ⟨fun _ => rfl, fun _ => ⟨a, rfl⟩⟩
  | fault e others => exact ⟨nofun, nofun⟩

theorem error_iff (reports : Reports x faults) (e : ε) :
    x = .error e ↔ faults.head? = some e := by
  cases reports with
  | value a => exact ⟨nofun, nofun⟩
  | fault first others =>
      rw [List.head?_cons, Except.error.injEq, Option.some.injEq]

theorem map (reports : Reports x faults) (f : α → β) : Reports (x.map f) faults := by
  cases reports with
  | value a => exact .value (f a)
  | fault e others => exact .fault e others

theorem mapError (reports : Reports x faults) (f : ε → δ) :
    Reports (x.mapError f) (faults.map f) := by
  cases reports with
  | value a => exact .value a
  | fault e others => exact .fault (f e) (others.map f)

theorem bind {f : α → Except ε β} {later : List ε} (first : Reports x faults)
    (next : ∀ a, x = .ok a → Reports (f a) later) :
    Reports (x.bind f) (faults ++ later) := by
  cases first with
  | value a => exact next a rfl
  | fault e others => exact .fault e (others ++ later)

/-- A fold has the faults of its elements in their order.  Those of an element need to be
known only where the elements before it have none, and where what `holds` of the state
after them is kept by every step. -/
theorem foldlM {step : σ → α → Except ε σ} {faultsOf : α → List ε}
    (holds : List α → σ → Prop)
    (keeps : ∀ done x s t, holds done s → step s x = .ok t → holds (done ++ [x]) t)
    {xs : List α}
    (reports : ∀ done x rest s, xs = done ++ x :: rest → (∀ y ∈ done, faultsOf y = []) →
      holds done s → Reports (step s x) (faultsOf x))
    {s : σ} (start : holds [] s) : Reports (xs.foldlM step s) (xs.flatMap faultsOf) := by
  suffices onward : ∀ rest done s, xs = done ++ rest → (∀ y ∈ done, faultsOf y = []) →
      holds done s → Reports (rest.foldlM step s) (rest.flatMap faultsOf) from
    onward xs [] s rfl (fun _ member => absurd member List.not_mem_nil) start
  intro rest
  induction rest with
  | nil => exact fun done s _ _ _ => .value s
  | cons x rest ih =>
      intro done s split clean held
      have first : Reports (step s x) (faultsOf x) := reports done x rest s split clean held
      refine first.bind fun t stepped => ?_
      have faultless : faultsOf x = [] := first.ok_iff.1 ⟨t, stepped⟩
      refine ih (done ++ [x]) t ?_ ?_ (keeps done x s t held stepped)
      · rw [split, List.append_assoc, List.singleton_append]
      · intro y member
        obtain before | new := List.mem_append.1 member
        · exact clean y before
        · rwa [List.mem_singleton.1 new]

end Reports

end Attempt

end DeferredBinding
