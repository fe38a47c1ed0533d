/-
# Proofs.Property.Selection -- what a permutation says of a binding property

`selectAll` makes a list of choices in order; of several choices for a name the last
counts (`value?_selectAll`).  A binding property is refused a value in two ways only
(`selection_error_of_binding`): the value chosen for it is not allowed, or nothing
decides at all.
-/
import DeferredBinding.Property.Permutation

namespace DeferredBinding.Property

set_option autoImplicit false

namespace Table

theorem find?_of_binding? {t : Table} {name : String} {b : Binding}
    (bound : t.binding? name = some b) : t.find? name = some (.binding b) := by
  unfold binding? at bound
  split at bound
  · rename_i found
    rw [found, Option.some.inj bound]
  · cases bound

theorem getBinding_of_binding? {t : Table} {name : String} {b : Binding}
    (bound : t.binding? name = some b) : t.getBinding name = .ok b := by
  rw [getBinding, find?_of_binding? bound]

theorem contains_of_binding? {t : Table} {name : String} {b : Binding}
    (bound : t.binding? name = some b) : t.contains name = true := by
  rw [contains, find?_of_binding? bound]
  rfl

theorem name_of_binding? {t : Table} {name : String} {b : Binding}
    (bound : t.binding? name = some b) : b.name = name :=
  name_of_find? (find?_of_binding? bound)

end Table

/-! ## Choices -/

/-- `value` is the last value chosen for `name`. -/
def LastChosen (choices : List (String × String)) (name value : String) : Prop :=
  ∃ earlier later, choices = earlier ++ (name, value) :: later ∧ name ∉ later.map Prod.fst

theorem LastChosen.cons {choices : List (String × String)} {name value : String}
    (chosen : LastChosen choices name value) (first : String × String) :
    LastChosen (first :: choices) name value := by
  obtain ⟨earlier, later, rfl, last⟩ := chosen
  exact ⟨first :: earlier, later, rfl, last⟩

namespace Permutation

def selectAll (p : Permutation) (choices : List (String × String)) : Permutation :=
  choices.foldl (fun q choice => q.select choice.1 choice.2) p

theorem selectAll_table (p : Permutation) (choices : List (String × String)) :
    (p.selectAll choices).table = p.table := by
  induction choices generalizing p with
  | nil => rfl
  | cons choice rest ih => exact ih (p.select choice.1 choice.2)

/-- The value selected for a name is the one chosen last, or an older one where none was
chosen. -/
theorem value?_selectAll (p : Permutation) (choices : List (String × String)) (name : String) :
    (∃ value, (p.selectAll choices).selections.value? name = some value ∧
        LastChosen choices name value) ∨
      (p.selectAll choices).selections.value? name = p.selections.value? name ∧
        name ∉ choices.map Prod.fst := by
  induction choices generalizing p with
  | nil => exact Or.inr ⟨rfl, List.not_mem_nil⟩
  | cons choice rest ih =>
      obtain ⟨value, found, chosen⟩ | ⟨older, unchosen⟩ := ih (p.select choice.1 choice.2)
      · exact Or.inl ⟨value, found, chosen.cons choice⟩
      · change ((p.select choice.1 choice.2).selectAll rest).selections.value? name = _ at older
        have here := Selections.value?_select p.selections choice.1 choice.2 name
        by_cases same : name = choice.1
        · rw [if_pos same] at here
          exact Or.inl ⟨choice.2, older.trans here, [], rest, by rw [same]; rfl, unchosen⟩
        · rw [if_neg same] at here
          refine Or.inr ⟨older.trans here, fun member => ?_⟩
          rw [List.map_cons, List.mem_cons] at member
          exact member.elim same unchosen

theorem constrained?_eq_none_iff {b : Binding} :
    b.constrained? = none ↔ b.allowed.length ≠ 1 := by
  unfold Binding.constrained?
  split
  · rename_i value only
    simp [only]
  · rename_i several
    simp only [true_iff]
    intro one
    obtain ⟨value, only⟩ := List.length_eq_one_iff.1 one
    exact several value only

theorem selection_of_binding? {p : Permutation} {name : String} {b : Binding}
    (bound : p.table.binding? name = some b) :
    p.selection name =
      (p.selections.value? name).elim (defaultValue b) (selectedValue b) := by
  rw [selection, Table.getBinding_of_binding? bound, Except.bind]
  cases p.selections.value? name with
  | none => rfl
  | some value => rfl

theorem selectedValue_error {b : Binding} {value : String} {error : Error}
    (refused : selectedValue b value = .error error) :
    error = .valueNotAllowed b.name value ∧ value ∉ b.allowed := by
  unfold selectedValue Binding.allows at refused
  split at refused
  · cases refused
  · rename_i ruledOut
    cases refused
    exact ⟨rfl, by simpa using ruledOut⟩

theorem defaultValue_error {b : Binding} {error : Error}
    (refused : defaultValue b = .error error) :
    error = .noValue b.name ∧ b.allowed.length ≠ 1 ∧ b.fallback = none := by
  unfold defaultValue at refused
  split at refused
  · cases refused
  · rename_i undecided
    cases refused
    obtain ⟨open_, bare⟩ := Option.or_eq_none_iff.1 undecided
    exact ⟨rfl, constrained?_eq_none_iff.1 open_, bare⟩

/-- The two ways in which a binding property is refused a value. -/
theorem selection_error_of_binding {p : Permutation} {name : String} {b : Binding}
    {error : Error} (bound : p.table.binding? name = some b)
    (refused : p.selection name = .error error) :
    (∃ value, error = .valueNotAllowed name value ∧
        p.selections.value? name = some value ∧ value ∉ b.allowed) ∨
      error = .noValue name ∧ p.selections.value? name = none ∧
        b.allowed.length ≠ 1 ∧ b.fallback = none := by
  rw [selection_of_binding? bound] at refused
  rw [← Table.name_of_binding? bound] at refused ⊢
  cases chosen : p.selections.value? b.name with
  | some value =>
      rw [chosen] at refused
      obtain ⟨same, ruledOut⟩ := selectedValue_error refused
      exact Or.inl ⟨value, same, rfl, ruledOut⟩
  | none =>
      rw [chosen] at refused
      obtain ⟨same, undecided⟩ := defaultValue_error refused
      exact Or.inr ⟨same, rfl, undecided⟩

end Permutation

end DeferredBinding.Property
