/-
# Proofs.Property.SingleValued -- what a single-valued property holds after any calls

Calls are made to a single-valued configuration property in any number and any order, and
some of them are refused.  A call that is not refused leaves the property with slots that do
not depend on what it held before (`Call.leaves?`, `changed_of_single`), so after a run of
calls the last such call decides (`changeAll_of_single`).

The property never holds many values.  It holds exactly one slot unless the last call that
was not refused set all values at once and gave none of them: then there is no slot
(`Emptied`, `changeAll_single`), and reading the only value fails.  `clear` in the place of
that call leaves the slot that is unset.
-/
import DeferredBinding.Proofs.Property.Edits

namespace DeferredBinding.Property.Configuration

set_option autoImplicit false

/-! ## Runs of calls -/

/-- The property after a call that may have been refused. -/
def changed (c : Configuration) (call : Call) : Configuration :=
  match c.change call with
  | .ok d => d
  | .error _ => c

def changeAll (c : Configuration) (calls : List Call) : Configuration :=
  calls.foldl changed c

/-- What a single-valued property is left with by a call, unless the call is refused. -/
def Call.leaves? : Call → Option (List (Option String))
  | .append _ => none
  | .set value => some [some value]
  | .setAll [] => some []
  | .setAll [value] => some [some value]
  | .setAll _ => none
  | .clear => some [none]

theorem Call.length_leaves? {call : Call} {slots : List (Option String)}
    (leaves : call.leaves? = some slots) : slots.length ≤ 1 := by
  unfold leaves? at leaves
  split at leaves <;> cases leaves <;> simp

theorem overwriteFirst_of_length_le {slots : List (Option String)} (few : slots.length ≤ 1)
    (value : String) : overwriteFirst value slots = [some value] := by
  cases slots with
  | nil => rfl
  | cons first rest =>
      have none : rest.length = 0 := Nat.le_zero.1 (Nat.le_of_succ_le_succ few)
      rw [overwriteFirst, List.eq_nil_of_length_eq_zero none]

/-- Only one slot is ever overwritten, so what a call leaves is the same whatever there was. -/
theorem changed_of_single {c : Configuration} (single : c.multi = false)
    (few : c.slots.length ≤ 1) (call : Call) :
    c.changed call = { c with slots := call.leaves?.getD c.slots } := by
  obtain ⟨name, multi, slots⟩ := c
  obtain rfl : multi = false := single
  cases call with
  | append value => rfl
  | set value => rw [changed, change, set, overwriteFirst_of_length_le few]; rfl
  | setAll values =>
      match values with
      | [] => rfl
      | [value] => rfl
      | _ :: _ :: _ => simp [changed, change, setAll, Call.leaves?]
  | clear => rfl

/-- After a run of calls the last one that was not refused decides. -/
theorem changeAll_of_single {c : Configuration} (single : c.multi = false)
    (few : c.slots.length ≤ 1) (calls : List Call) :
    c.changeAll calls =
      { c with slots := (calls.filterMap Call.leaves?).getLast?.getD c.slots } := by
  induction calls generalizing c with
  | nil => rfl
  | cons call rest ih =>
      have first := changed_of_single single few call
      show (c.changed call).changeAll rest = _
      cases leaves : call.leaves? with
      | none =>
          rw [leaves, Option.getD_none] at first
          rw [first, ih single few, List.filterMap_cons_none leaves]
      | some slots =>
          rw [leaves, Option.getD_some] at first
          have onward := ih (c := { c with slots }) single (Call.length_leaves? leaves)
          rw [first, onward, List.filterMap_cons_some leaves, List.getLast?_cons, Option.getD_some]

/-! ## The one slot -/

/-- The slots that some calls leave a single-valued property with. -/
def leftBy (calls : List Call) : List (Option String) :=
  (calls.filterMap Call.leaves?).getLast?.getD [none]

theorem leftBy_cases (calls : List Call) : leftBy calls = [] ∨ ∃ slot, leftBy calls = [slot] := by
  have few : (leftBy calls).length ≤ 1 := by
    rw [leftBy]
    cases last : (calls.filterMap Call.leaves?).getLast? with
    | none => exact Nat.le_refl 1
    | some slots =>
        obtain ⟨call, -, leaves⟩ := List.mem_filterMap.1 (List.mem_of_getLast? last)
        exact Call.length_leaves? leaves
  match leftBy calls, few with
  | [], _ => exact Or.inl rfl
  | [slot], _ => exact Or.inr ⟨slot, rfl⟩

/-- The last call that was not refused set all values at once and gave none. -/
def Emptied (calls : List Call) : Prop :=
  ∃ earlier later, calls = earlier ++ .setAll [] :: later ∧ ∀ call ∈ later, call.leaves? = none

theorem leftBy_eq_nil_iff {calls : List Call} : leftBy calls = [] ↔ Emptied calls := by
  constructor
  · intro empty
    cases last : (calls.filterMap Call.leaves?).getLast? with
    | none => rw [leftBy, last] at empty; cases empty
    | some slots =>
        rw [leftBy, last, Option.getD_some] at empty
        subst empty
        obtain ⟨before, split⟩ := List.getLast?_eq_some_iff.1 last
        obtain ⟨earlier, late, rfl, -, tail⟩ := List.filterMap_eq_append_iff.1 split
        obtain ⟨middle, call, later, rfl, refused, leaves, quiet⟩ :=
          List.filterMap_eq_cons_iff.1 tail
        have emptied : call = .setAll [] := by
          unfold Call.leaves? at leaves
          split at leaves <;> first | rfl | cases leaves
        subst emptied
        refine ⟨earlier ++ middle, later, by rw [List.append_assoc], ?_⟩
        exact List.filterMap_eq_nil_iff.1 quiet
  · rintro ⟨earlier, later, rfl, quiet⟩
    have empties : Call.leaves? (.setAll []) = some [] := rfl
    rw [leftBy, List.filterMap_append, List.filterMap_cons_some empties,
      List.filterMap_eq_nil_iff.2 quiet, List.getLast?_append]
    rfl

/-- **What a single-valued property holds.**  It never holds many values.  It holds the one slot
that its calls left, unless they emptied it; then reading the only value fails. -/
theorem changeAll_single (name : String) (calls : List Call) :
    (declare name false).changeAll calls = { name, multi := false, slots := leftBy calls } ∧
      ((declare name false).changeAll calls).holdsMany = false ∧
      ((¬ Emptied calls ∧ ∃ slot, leftBy calls = [slot] ∧
          ((declare name false).changeAll calls).sole = .ok slot) ∨
        Emptied calls ∧ leftBy calls = [] ∧
          ((declare name false).changeAll calls).sole = .error (.notSingleValued name 0)) := by
  have left : (declare name false).changeAll calls =
      { name, multi := false, slots := leftBy calls } :=
    changeAll_of_single (c := declare name false) rfl (Nat.le_refl 1) calls
  rw [left, ← leftBy_eq_nil_iff]
  refine ⟨rfl, ?_⟩
  obtain empty | ⟨slot, one⟩ := leftBy_cases calls
  · rw [empty]
    exact ⟨rfl, Or.inr ⟨rfl, rfl, rfl⟩⟩
  · rw [one]
    exact ⟨rfl, Or.inl ⟨nofun, slot, rfl, rfl⟩⟩

/-- Setting all values and giving none takes the slot away. -/
theorem setAll_nil_leaves_no_slot :
    ¬ ∀ (name : String) (calls : List Call),
      ((declare name false).changeAll calls).slots.length = 1 ∧
        ∃ slot, ((declare name false).changeAll calls).sole = .ok slot := by
  intro always
  have one : ((declare "compiler.stackMode" false).changeAll [.setAll []]).slots.length = 1 :=
    (always _ _).1
  exact absurd one (by decide)

end DeferredBinding.Property.Configuration
