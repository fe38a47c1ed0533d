/-
# Proofs.Property.Choices -- lists of choices that agree on a name

A value is chosen for a name, or for several names, any number of times; the last choice for a
name stands.  Two lists of choices agree on a name (`AgreeOn`) if they have the same last value
for it, or none: that is, if what they have for this name, in order, ends alike
(`agreeOn_iff`).  A choice of another name, and one that is made again later, make no
difference (`agreeOn_insert_of_ne`, `agreeOn_insert_of_mem`).
-/
import Mathlib.Data.List.Basic
import DeferredBinding.Proofs.Property.Selection

namespace DeferredBinding.Property

set_option autoImplicit false

theorem lastChosen_or (choices : List (String × String)) (name : String) :
    (∃ value, LastChosen choices name value) ∨ name ∉ choices.map Prod.fst := by
  obtain ⟨value, -, last⟩ | ⟨-, absent⟩ := ({} : Permutation).value?_selectAll choices name
  · exact Or.inl ⟨value, last⟩
  · exact Or.inr absent

/-- Two lists of choices have the same last value for a name, or never mention it. -/
def AgreeOn (xs ys : List (String × String)) (name : String) : Prop :=
  (name ∉ xs.map Prod.fst ∧ name ∉ ys.map Prod.fst) ∨
    ∃ value, LastChosen xs name value ∧ LastChosen ys name value

/-- What a list of choices has for a name, in order. -/
def choicesFor (name : String) (choices : List (String × String)) : List (String × String) :=
  choices.filter fun choice => choice.1 == name

section

variable {choices xs ys : List (String × String)} {name : String}

theorem choicesFor_eq_nil_iff : choicesFor name choices = [] ↔ name ∉ choices.map Prod.fst := by
  rw [choicesFor, List.filter_eq_nil_iff, List.mem_map]
  constructor
  · rintro absent ⟨choice, member, same⟩
    exact absent choice member (beq_iff_eq.2 same)
  · intro absent choice member same
    exact absent ⟨choice, member, beq_iff_eq.1 same⟩

theorem choicesFor_append :
    choicesFor name (xs ++ ys) = choicesFor name xs ++ choicesFor name ys :=
  List.filter_append ..

theorem choicesFor_cons_self (value : String) :
    choicesFor name ((name, value) :: choices) = (name, value) :: choicesFor name choices :=
  List.filter_cons_of_pos (beq_self_eq_true name)

theorem choicesFor_cons_of_ne {other : String} (different : other ≠ name) (value : String) :
    choicesFor name ((other, value) :: choices) = choicesFor name choices :=
  List.filter_cons_of_neg (by simpa using different)

/-- The value chosen last is that of the last choice. -/
theorem lastChosen_iff {value : String} :
    LastChosen choices name value ↔ (choicesFor name choices).getLast? = some (name, value) := by
  constructor
  · rintro ⟨earlier, later, rfl, unchosen⟩
    rw [choicesFor_append, choicesFor_cons_self, choicesFor_eq_nil_iff.2 unchosen,
      List.getLast?_concat]
  · intro last
    obtain ⟨before, split⟩ := List.getLast?_eq_some_iff.1 last
    obtain ⟨earlier, late, rfl, -, rest⟩ := List.filter_eq_append_iff.1 split
    obtain ⟨middle, later, rfl, -, -, quiet⟩ := List.filter_eq_cons_iff.1 rest
    exact ⟨earlier ++ middle, later, by rw [List.append_assoc], choicesFor_eq_nil_iff.1 quiet⟩

/-- Lists agree on a name where what they have for it ends alike. -/
theorem agreeOn_iff :
    AgreeOn xs ys name ↔ (choicesFor name xs).getLast? = (choicesFor name ys).getLast? := by
  constructor
  · rintro (⟨here, there⟩ | ⟨value, here, there⟩)
    · rw [choicesFor_eq_nil_iff.2 here, choicesFor_eq_nil_iff.2 there]
    · rw [lastChosen_iff.1 here, lastChosen_iff.1 there]
  · intro same
    obtain ⟨value, here⟩ | here := lastChosen_or xs name
    · exact .inr ⟨value, here, lastChosen_iff.2 (same ▸ lastChosen_iff.1 here)⟩
    · refine .inl ⟨here, choicesFor_eq_nil_iff.1 (List.getLast?_eq_none_iff.1 ?_)⟩
      rw [← same, choicesFor_eq_nil_iff.2 here, List.getLast?_nil]

/-- A choice of another name makes no difference. -/
theorem agreeOn_insert_of_ne {other value : String} (different : other ≠ name)
    (earlier later : List (String × String)) :
    AgreeOn (earlier ++ (other, value) :: later) (earlier ++ later) name := by
  rw [agreeOn_iff, choicesFor_append, choicesFor_append, choicesFor_cons_of_ne different]

/-- A choice makes no difference where the name is chosen again. -/
theorem agreeOn_insert_of_mem {other value : String} {later : List (String × String)}
    (again : other ∈ later.map Prod.fst) (earlier : List (String × String)) (name : String) :
    AgreeOn (earlier ++ (other, value) :: later) (earlier ++ later) name := by
  by_cases same : other = name
  · subst same
    have last : choicesFor other later ≠ [] := fun none => choicesFor_eq_nil_iff.1 none again
    rw [agreeOn_iff, choicesFor_append, choicesFor_append, choicesFor_cons_self,
      List.getLast?_append_of_ne_nil _ (List.cons_ne_nil _ _),
      List.getLast?_append_of_ne_nil _ last, List.getLast?_cons_of_ne_nil last]
  · exact agreeOn_insert_of_ne same earlier later

end

end DeferredBinding.Property
