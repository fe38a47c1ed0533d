/-
# Proofs.Condition.Verdicts -- what several verdicts amount to

The walks `allHold` and `anyHold` stop at the first verdict that settles them.  Apart from
the record they leave, each looks for the first verdict that is not the usual one: the
usual verdict of the parts is `true` under `all` and `false` under `any` and `noneOf`
(`allHold_value`, `anyHold_value`).

What stands in front of that verdict is usual and what stands behind it is never read
(`firstOther_cases`, `firstOther_stops`).  So verdicts that stand together may be replaced by
what they come to (`firstOther_group`), and turning every answer round turns the first
unusual one round (`firstOther_map_not`).
-/
import DeferredBinding.Condition.Check

namespace DeferredBinding

set_option autoImplicit false

/-- A failure, or the answer that is not the usual one. -/
def Verdict.isOther (usual : Bool) : Verdict → Bool
  | .ok answer => answer != usual
  | .error _ => true

/-- The first verdict that is not the usual one; the usual one where there is none. -/
def Verdict.firstOther (usual : Bool) (verdicts : List Verdict) : Verdict :=
  (verdicts.find? (isOther usual)).getD (.ok usual)

namespace Verdict

theorem firstOther_cons (usual : Bool) (verdict : Verdict) (rest : List Verdict) :
    firstOther usual (verdict :: rest) =
      if isOther usual verdict then verdict else firstOther usual rest := by
  rw [firstOther, List.find?_cons]
  cases isOther usual verdict with
  | true => rfl
  | false => rfl

theorem isOther_eq_false_iff {usual : Bool} {verdict : Verdict} :
    isOther usual verdict = false ↔ verdict = .ok usual := by
  cases verdict with
  | ok answer => simp [isOther]
  | error failure => simp [isOther]

/-- A verdict that is not the usual one is a failure, or the opposite answer. -/
theorem isOther_cases {usual : Bool} {verdict : Verdict} (other : isOther usual verdict = true) :
    verdict = .ok (!usual) ∨ ∃ failure, verdict = .error failure := by
  cases verdict with
  | ok answer =>
      have different : answer ≠ usual := by simpa [isOther] using other
      exact Or.inl (congrArg Except.ok (Bool.eq_not.2 different))
  | error failure => exact Or.inr ⟨failure, rfl⟩

/-- Usual verdicts leave the decision to those behind them. -/
theorem firstOther_append {usual : Bool} {earlier : List Verdict}
    (passed : ∀ verdict ∈ earlier, verdict = .ok usual) (rest : List Verdict) :
    firstOther usual (earlier ++ rest) = firstOther usual rest := by
  have nothing : earlier.find? (isOther usual) = none := by
    rw [List.find?_eq_none]
    intro verdict member
    rw [Bool.not_eq_true, isOther_eq_false_iff]
    exact passed verdict member
  rw [firstOther, List.find?_append, nothing, Option.none_or, firstOther]

/-- Behind a verdict that is not the usual one nothing is read. -/
theorem firstOther_stops {usual : Bool} {verdict : Verdict}
    (other : isOther usual verdict = true) (earlier later others : List Verdict) :
    firstOther usual (earlier ++ verdict :: later) =
      firstOther usual (earlier ++ verdict :: others) := by
  simp only [firstOther, List.find?_append, List.find?_cons, other]

theorem firstOther_singleton (usual : Bool) (verdict : Verdict) :
    firstOther usual [verdict] = verdict := by
  rw [firstOther_cons]
  cases here : isOther usual verdict with
  | true => rfl
  | false => exact (isOther_eq_false_iff.1 here).symm

/-- Verdicts that stand together may be replaced by what they come to. -/
theorem firstOther_group (usual : Bool) (earlier together later : List Verdict) :
    firstOther usual (earlier ++ firstOther usual together :: later) =
      firstOther usual (earlier ++ together ++ later) := by
  have ordinary : isOther usual (.ok usual) = false := isOther_eq_false_iff.2 rfl
  simp only [firstOther, List.find?_append, List.find?_cons, Option.or_assoc]
  cases found : together.find? (isOther usual) with
  | none => simp only [Option.getD_none, ordinary, Option.none_or]
  | some verdict =>
      have other : isOther usual verdict = true := List.find?_some found
      simp only [Option.getD_some, other, Option.some_or]

theorem isOther_map_not (usual : Bool) (verdict : Verdict) :
    isOther (!usual) (verdict.map not) = isOther usual verdict := by
  cases verdict with
  | error failure => rfl
  | ok answer => cases answer <;> cases usual <;> rfl

/-- With every answer turned round, what is not usual is so for the opposite answer. -/
theorem firstOther_map_not (usual : Bool) (verdicts : List Verdict) :
    firstOther (!usual) (verdicts.map (Except.map not)) =
      (firstOther usual verdicts).map not := by
  induction verdicts with
  | nil => rfl
  | cons verdict rest ih =>
      rw [List.map_cons, firstOther_cons, firstOther_cons, isOther_map_not, ih]
      cases isOther usual verdict with
      | true => rfl
      | false => rfl

/-- Either all verdicts are the usual one, or one of them is the first that is not. -/
theorem firstOther_cases {α : Type} (usual : Bool) (verdictOf : α → Verdict) (xs : List α) :
    ((∀ x ∈ xs, verdictOf x = .ok usual) ∧ firstOther usual (xs.map verdictOf) = .ok usual) ∨
      ∃ earlier x later, xs = earlier ++ x :: later ∧
        (∀ y ∈ earlier, verdictOf y = .ok usual) ∧ isOther usual (verdictOf x) = true ∧
        firstOther usual (xs.map verdictOf) = verdictOf x := by
  induction xs with
  | nil => exact Or.inl ⟨fun x member => absurd member List.not_mem_nil, rfl⟩
  | cons x rest ih =>
      rw [List.map_cons, firstOther_cons]
      cases here : isOther usual (verdictOf x) with
      | true => exact Or.inr ⟨[], x, rest, rfl, fun y member => absurd member List.not_mem_nil,
          here, if_pos rfl⟩
      | false =>
          have ordinary := isOther_eq_false_iff.1 here
          rw [if_neg Bool.false_ne_true]
          obtain ⟨all, decided⟩ | ⟨earlier, y, later, rfl, before, other, decided⟩ := ih
          · exact Or.inl ⟨List.forall_mem_cons.2 ⟨ordinary, all⟩, decided⟩
          · exact Or.inr ⟨x :: earlier, y, later, rfl,
              List.forall_mem_cons.2 ⟨ordinary, before⟩, other, decided⟩

end Verdict

namespace Condition

theorem allHold_value (given : Sources) (type : String) (conditions : List Condition) :
    (allHold given type conditions).value =
      Verdict.firstOther true (conditions.map (isTrue given type)) := by
  induction conditions with
  | nil => rfl
  | cons c rest ih =>
      rw [allHold, List.map_cons, Verdict.firstOther_cons, isTrue]
      cases verdict : (check given type c).value with
      | error failure => exact verdict
      | ok answer =>
          cases answer with
          | true => exact ih
          | false => exact verdict

theorem anyHold_value (given : Sources) (type : String) (conditions : List Condition) :
    (anyHold given type conditions).value =
      Verdict.firstOther false (conditions.map (isTrue given type)) := by
  induction conditions with
  | nil => rfl
  | cons c rest ih =>
      rw [anyHold, List.map_cons, Verdict.firstOther_cons, isTrue]
      cases verdict : (check given type c).value with
      | error failure => exact verdict
      | ok answer =>
          cases answer with
          | true => exact verdict
          | false => exact ih

end Condition

end DeferredBinding
