/-
# Proofs.Property.Answers -- which value a permutation answers with

`Decides` lists the three ways in which a value comes to be answered for a binding property:
it was chosen last and is allowed, or nothing was chosen and it is the only value allowed, or
nothing was chosen, the choice is open and it is the fallback.  There is no other way, and a
comparison with a value holds exactly where that value is answered (`answered_iff`).

Only the first two ways look at what is allowed.  A fallback is any identifier, and neither a
restriction nor a reading compares it with the values that are left; so a value may be
answered that a restriction has ruled out (`ruledOut_fallback_answered`).

`Refuses` lists likewise why a name is refused a value: it is not declared, it is no binding
property, the value chosen last is not allowed, or nothing decides (`selection_error_iff`).
-/
import DeferredBinding.Condition.Check
import DeferredBinding.Proofs.Property.Edits
import DeferredBinding.Proofs.Property.Selection

namespace DeferredBinding.Property

set_option autoImplicit false

/-- How `value` comes to be answered for the binding property `b` of a name. -/
inductive Decides (choices : List (String × String)) (name : String) (b : Binding)
    (value : String) : Prop
  /-- it was chosen last, and is allowed -/
  | chosen (last : LastChosen choices name value) (allowed : b.allows value = true)
  /-- nothing was chosen, and it is the only value allowed -/
  | constrained (unchosen : name ∉ choices.map Prod.fst) (only : b.allowed = [value])
  /-- nothing was chosen, the choice is open, and it is the fallback -/
  | fallback (unchosen : name ∉ choices.map Prod.fst) (open_ : b.allowed.length ≠ 1)
      (falls : b.fallback = some value)

/-- Why a name is refused a value. -/
inductive Refuses (t : Table) (choices : List (String × String)) (name : String) : Error → Prop
  /-- it is not declared -/
  | unknown (absent : t.find? name = none) : Refuses t choices name (.unknown name)
  /-- it is declared, but as a configuration property -/
  | kind {c : Configuration} (there : t.find? name = some (.configuration c)) :
      Refuses t choices name (.kindMismatch name .configuration)
  /-- the value chosen last is not allowed -/
  | ruledOut {b : Binding} {value : String} (there : t.find? name = some (.binding b))
      (last : LastChosen choices name value) (notAllowed : value ∉ b.allowed) :
      Refuses t choices name (.valueNotAllowed name value)
  /-- nothing was chosen, the choice is open, and there is no fallback -/
  | undecided {b : Binding} (there : t.find? name = some (.binding b))
      (unchosen : name ∉ choices.map Prod.fst) (open_ : b.allowed.length ≠ 1)
      (bare : b.fallback = none) : Refuses t choices name (.noValue name)

namespace Permutation

theorem selectAll_append (p : Permutation) (earlier later : List (String × String)) :
    p.selectAll (earlier ++ later) = (p.selectAll earlier).selectAll later :=
  List.foldl_append

theorem value?_selectAll_of_unchosen (p : Permutation) {choices : List (String × String)}
    {name : String} (unchosen : name ∉ choices.map Prod.fst) :
    (p.selectAll choices).selections.value? name = p.selections.value? name := by
  obtain ⟨value, -, earlier, later, rfl, -⟩ | ⟨older, -⟩ := p.value?_selectAll choices name
  · refine absurd ?_ unchosen
    rw [List.map_append, List.map_cons]
    exact List.mem_append_right _ List.mem_cons_self
  · exact older

theorem value?_selectAll_of_lastChosen (p : Permutation) {choices : List (String × String)}
    {name value : String} (chosen : LastChosen choices name value) :
    (p.selectAll choices).selections.value? name = some value := by
  obtain ⟨earlier, later, rfl, last⟩ := chosen
  rw [selectAll_append]
  show (((p.selectAll earlier).select name value).selectAll later).selections.value? name = _
  rw [value?_selectAll_of_unchosen _ last]
  exact (Selections.value?_select _ name value name).trans (if_pos rfl)

theorem value?_selectAll_eq_some_iff {t : Table} {choices : List (String × String)}
    {name value : String} :
    (({ table := t } : Permutation).selectAll choices).selections.value? name = some value ↔
      LastChosen choices name value := by
  constructor
  · intro found
    obtain ⟨other, last, chosen⟩ | ⟨older, -⟩ :=
      ({ table := t } : Permutation).value?_selectAll choices name
    · rw [found] at last
      cases last
      exact chosen
    · rw [found] at older
      cases older
  · exact value?_selectAll_of_lastChosen _

theorem value?_selectAll_eq_none_iff {t : Table} {choices : List (String × String)}
    {name : String} :
    (({ table := t } : Permutation).selectAll choices).selections.value? name = none ↔
      name ∉ choices.map Prod.fst := by
  constructor
  · intro nothing
    obtain ⟨value, found, -⟩ | ⟨-, unchosen⟩ :=
      ({ table := t } : Permutation).value?_selectAll choices name
    · rw [nothing] at found
      cases found
    · exact unchosen
  · exact value?_selectAll_of_unchosen _

theorem selectedValue_ok_iff {b : Binding} {chosen value : String} :
    selectedValue b chosen = .ok value ↔ chosen = value ∧ b.allows value = true := by
  unfold selectedValue
  split
  · rename_i allowed
    rw [Except.ok.injEq]
    exact ⟨fun same => ⟨same, same ▸ allowed⟩, And.left⟩
  · rename_i ruledOut
    exact ⟨nofun, fun ⟨same, allowed⟩ => absurd (same ▸ allowed) ruledOut⟩

theorem constrained?_eq_some_iff {b : Binding} {value : String} :
    b.constrained? = some value ↔ b.allowed = [value] := by
  unfold Binding.constrained?
  split
  · rename_i only one
    rw [one, Option.some.injEq, List.cons.injEq, and_iff_left rfl]
  · rename_i several
    exact ⟨nofun, fun one => absurd one (several value)⟩

theorem defaultValue_ok_iff {b : Binding} {value : String} :
    defaultValue b = .ok value ↔
      b.allowed = [value] ∨ b.allowed.length ≠ 1 ∧ b.fallback = some value := by
  rw [← constrained?_eq_some_iff, ← constrained?_eq_none_iff, ← Option.or_eq_some_iff]
  unfold defaultValue
  cases b.constrained?.or b.fallback with
  | none => exact ⟨nofun, nofun⟩
  | some decided => rw [Except.ok.injEq, Option.some.injEq]

/-- A permutation that starts without selections answers with what decides. -/
theorem selection_ok_iff {t : Table} {choices : List (String × String)} {name value : String} :
    (({ table := t } : Permutation).selectAll choices).selection name = .ok value ↔
      ∃ b, t.find? name = some (.binding b) ∧ Decides choices name b value := by
  rw [selection, selectAll_table, Attempt.bind_ok_iff]
  constructor
  · rintro ⟨b, got, answered⟩
    refine ⟨b, Table.getBinding_ok_iff.1 got, ?_⟩
    obtain ⟨chosen, found, last⟩ | ⟨older, unchosen⟩ :=
      ({ table := t } : Permutation).value?_selectAll choices name
    · rw [found] at answered
      obtain ⟨rfl, allowed⟩ := selectedValue_ok_iff.1 answered
      exact .chosen last allowed
    · rw [older] at answered
      obtain only | ⟨open_, falls⟩ := defaultValue_ok_iff.1 answered
      · exact .constrained unchosen only
      · exact .fallback unchosen open_ falls
  · rintro ⟨b, there, decides⟩
    refine ⟨b, Table.getBinding_ok_iff.2 there, ?_⟩
    cases decides with
    | chosen last allowed =>
        rw [value?_selectAll_of_lastChosen _ last]
        exact selectedValue_ok_iff.2 ⟨rfl, allowed⟩
    | constrained unchosen only =>
        rw [value?_selectAll_of_unchosen _ unchosen]
        exact defaultValue_ok_iff.2 (Or.inl only)
    | fallback unchosen open_ falls =>
        rw [value?_selectAll_of_unchosen _ unchosen]
        exact defaultValue_ok_iff.2 (Or.inr ⟨open_, falls⟩)

theorem binding?_selectAll {t : Table} {name : String} {b : Binding}
    (there : t.find? name = some (.binding b)) (choices : List (String × String)) :
    (({ table := t } : Permutation).selectAll choices).table.binding? name = some b := by
  rw [selectAll_table, Table.binding?, there]

/-- A permutation that starts without selections refuses a value for one of four reasons. -/
theorem selection_error_iff {t : Table} {choices : List (String × String)} {name : String}
    {error : Error} :
    (({ table := t } : Permutation).selectAll choices).selection name = .error error ↔
      Refuses t choices name error := by
  constructor
  · intro refused
    cases found : t.find? name with
    | none =>
        rw [selection, selectAll_table, Table.getBinding, found] at refused
        cases refused
        exact .unknown found
    | some property =>
        cases property with
        | configuration c =>
            rw [selection, selectAll_table, Table.getBinding, found] at refused
            cases refused
            exact .kind found
        | binding b =>
            obtain ⟨value, rfl, selected, notAllowed⟩ | ⟨rfl, unselected, open_, bare⟩ :=
              selection_error_of_binding (binding?_selectAll found choices) refused
            · exact .ruledOut found (value?_selectAll_eq_some_iff.1 selected) notAllowed
            · exact .undecided found (value?_selectAll_eq_none_iff.1 unselected) open_ bare
  · intro refuses
    cases refuses with
    | unknown absent =>
        rw [selection, selectAll_table, Table.getBinding, absent]
        rfl
    | kind there =>
        rw [selection, selectAll_table, Table.getBinding, there]
        rfl
    | @ruledOut b value there last notAllowed =>
        have named : b.name = name := Table.name_of_find? there
        have ruledOut : ¬ b.allows value = true := by simpa [Binding.allows] using notAllowed
        rw [selection_of_binding? (binding?_selectAll there choices),
          value?_selectAll_eq_some_iff.2 last, Option.elim_some, selectedValue, if_neg ruledOut,
          named]
    | @undecided b there unchosen open_ bare =>
        have named : b.name = name := Table.name_of_find? there
        rw [selection_of_binding? (binding?_selectAll there choices),
          value?_selectAll_eq_none_iff.2 unchosen, Option.elim_none, defaultValue,
          constrained?_eq_none_iff.2 open_, bare, named]
        rfl

end Permutation

/-- A comparison holds where the value it names is the one that is selected. -/
theorem isTrue_propertyIs_iff {given : Sources} {type name value : String} :
    Condition.isTrue given type (.propertyIs name value) = .ok true ↔
      given.properties.selection name = .ok value := by
  rw [Condition.isTrue, Condition.check, Condition.framed_value, Condition.selected]
  cases given.properties.selection name with
  | ok current => rw [Except.ok.injEq, Except.ok.injEq, beq_iff_eq]
  | error e => constructor <;> (intro impossible; cases impossible)

/-- **The values that are answered.**  A value that is not allowed is answered for a property,
and a comparison with it holds, only where nothing was chosen for that property, not exactly
one value is allowed, and it is the fallback. -/
theorem answered_iff (t : Table) (choices : List (String × String)) (name value : String)
    (types : Types.Source) (type : String) :
    let properties := (({ table := t } : Permutation).selectAll choices).source
    (properties.selection name = .ok value ↔
        ∃ b, t.find? name = some (.binding b) ∧ Decides choices name b value) ∧
      (Condition.isTrue { properties, types } type (.propertyIs name value) = .ok true ↔
        ∃ b, t.find? name = some (.binding b) ∧ Decides choices name b value) :=
  ⟨Permutation.selection_ok_iff, isTrue_propertyIs_iff.trans Permutation.selection_ok_iff⟩

/-! ## A fallback that is ruled out -/

namespace Example

/-- The fallback is left out when the values are restricted to two others. -/
def restricted : List Edit :=
  [.declareBinding "user.agent",
    .changeBinding "user.agent" (.define "safari"),
    .changeBinding "user.agent" (.define "ie9"),
    .changeBinding "user.agent" (.define "gecko1_8"),
    .changeBinding "user.agent" (.setFallback "safari"),
    .changeBinding "user.agent" (.restrict ["ie9", "gecko1_8"])]

theorem ruledOut_fallback_answered :
    ¬ ∀ (edits : List Edit) (choices : List (String × String)) (name value : String),
      (({ table := Table.editAll {} edits } : Permutation).selectAll choices).source.selection
          name = .ok value →
        ∃ b, (Table.editAll {} edits).find? name = some (.binding b) ∧ b.allows value = true := by
  intro always
  obtain ⟨b, there, allowed⟩ := always restricted [] "user.agent" "safari" rfl
  have table : (Table.editAll {} restricted).find? "user.agent" = some (.binding
      { name := "user.agent", defined := ["safari", "ie9", "gecko1_8"],
        allowed := ["ie9", "gecko1_8"], fallback := some "safari" }) := by decide
  rw [table] at there
  cases there
  exact absurd allowed (by decide)

end Example

end DeferredBinding.Property
