/-
# Proofs.Attempt -- opening computations that may fail

What it means that a computation in `Except` ended with a value, step by step:
`bind_ok_iff`, `map_ok_iff` and `mapError_ok_iff` take it apart, `bind_ok_congr` compares two
that go through the same steps, and `foldlM_ok` carries
an invariant of the steps taken so far through a run of steps that all succeed.
-/

namespace DeferredBinding.Attempt

set_option autoImplicit false

variable {ε δ α β σ : Type}

theorem bind_ok_iff {x : Except ε α} {f : α → Except ε β} {b : β} :
    x.bind f = .ok b ↔ ∃ a, x = .ok a ∧ f a = .ok b := by
  cases x with
  | error e => simp [Except.bind]
  | ok a => simp [Except.bind]

theorem bind_ok_congr {x y : Except ε α} {f g : α → Except ε β} {b : β}
    (same : ∀ a, x = .ok a ↔ y = .ok a) (onward : ∀ a, f a = .ok b ↔ g a = .ok b) :
    x.bind f = .ok b ↔ y.bind g = .ok b := by
  rw [bind_ok_iff, bind_ok_iff]
  exact exists_congr fun a => and_congr (same a) (onward a)

theorem unit_bind_ok_iff {x : Except ε Unit} {f : Unit → Except ε β} {b : β} :
    x.bind f = .ok b ↔ x = .ok () ∧ f () = .ok b := by
  rw [bind_ok_iff]
  exact ⟨fun ⟨(), passed, onward⟩ => ⟨passed, onward⟩, fun both => ⟨(), both⟩⟩

theorem map_ok_iff {x : Except ε α} {f : α → β} {b : β} :
    x.map f = .ok b ↔ ∃ a, x = .ok a ∧ f a = b := by
  cases x with
  | error e => simp [Except.map]
  | ok a => simp [Except.map]

theorem map_error_iff {x : Except ε α} {f : α → β} {e : ε} :
    x.map f = .error e ↔ x = .error e := by
  cases x with
  | error e => simp [Except.map]
  | ok a => simp [Except.map]

theorem mapError_ok_iff {x : Except ε α} {f : ε → δ} {a : α} :
    x.mapError f = .ok a ↔ x = .ok a := by
  cases x with
  | error e => exact ⟨nofun, nofun⟩
  | ok b =>
      constructor
      · intro ended
        cases ended
        rfl
      · intro ended
        cases ended
        rfl

/-- What holds at the start, and is kept by every step that succeeds, holds at the end of
a run of steps that all succeeded; `holds` may speak of the steps taken so far. -/
theorem foldlM_ok {step : σ → α → Except ε σ} (holds : List α → σ → Prop)
    (keeps : ∀ done x s t, holds done s → step s x = .ok t → holds (done ++ [x]) t)
    {xs done : List α} {s t : σ} (start : holds done s) (run : xs.foldlM step s = .ok t) :
    holds (done ++ xs) t := by
  induction xs generalizing done s with
  | nil =>
      cases run
      rw [List.append_nil]
      exact start
  | cons x rest ih =>
      obtain ⟨middle, first, others⟩ := bind_ok_iff.1 run
      have onward := ih (keeps done x s middle start first) others
      rwa [List.append_assoc] at onward

end DeferredBinding.Attempt
