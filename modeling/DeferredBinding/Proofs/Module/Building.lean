/-
# Proofs.Module.Building -- what a manifest went through when it became a module

`build_ok_iff` opens `build` once: the name is not blank, the properties make a table,
every comparison of every rule is defined in that table, and the rest is taken over.
`checkRules_ok_iff` turns the checks into a statement about all comparisons, and
`mem_installed_iff` says which rules a module has.
-/
import DeferredBinding.Module.Basic
import DeferredBinding.Proofs.Attempt

namespace DeferredBinding

set_option autoImplicit false

/-! ## Comparisons a table gives a meaning to -/

/-- The comparison is of a binding property with a value defined for it. -/
def Property.Table.Defines (t : Property.Table) (comparison : String × String) : Prop :=
  ∃ b, t.binding? comparison.1 = some b ∧ comparison.2 ∈ b.defined

namespace Module

open Attempt Manifest

theorem checkComparison_ok_iff {t : Property.Table} {rule : Nat} {comparison : String × String} :
    checkComparison t rule comparison = .ok () ↔ t.Defines comparison := by
  unfold checkComparison Property.Table.Defines
  cases t.binding? comparison.1 with
  | none => simp
  | some b => by_cases defined : comparison.2 ∈ b.defined <;> simp [defined]

theorem checkComparisons_ok_iff {t : Property.Table} {rule : Nat}
    {comparisons : List (String × String)} :
    checkComparisons t rule comparisons = .ok () ↔
      ∀ comparison ∈ comparisons, t.Defines comparison := by
  induction comparisons with
  | nil => simp [checkComparisons]
  | cons comparison rest ih =>
      rw [checkComparisons, bind_ok_iff, List.forall_mem_cons]
      constructor
      · rintro ⟨_, first, others⟩
        exact ⟨checkComparison_ok_iff.1 first, ih.1 others⟩
      · rintro ⟨first, others⟩
        exact ⟨(), checkComparison_ok_iff.2 first, ih.2 others⟩

theorem checkRules_ok_iff {t : Property.Table} {rule : Nat} {entries : List RuleEntry} :
    checkRules t rule entries = .ok () ↔
      ∀ entry ∈ entries, ∀ comparison ∈ Condition.comparisonsList entry.roots,
        t.Defines comparison := by
  induction entries generalizing rule with
  | nil => simp [checkRules]
  | cons entry rest ih =>
      rw [checkRules, bind_ok_iff, List.forall_mem_cons]
      constructor
      · rintro ⟨_, first, others⟩
        exact ⟨checkComparisons_ok_iff.1 first, ih.1 others⟩
      · rintro ⟨first, others⟩
        exact ⟨(), checkComparisons_ok_iff.2 first, ih.2 others⟩

/-! ## Rules -/

theorem toList_foldl_prepend (rules : List Rule) (rs : Rules) :
    (rules.foldl Rules.prepend rs).toList = rules.reverse ++ rs.toList := by
  induction rules generalizing rs with
  | nil => rfl
  | cons r rest ih =>
      rw [List.foldl_cons, ih, List.reverse_cons, List.append_assoc]
      rfl

/-- The rule written last is tried first. -/
theorem toList_installed (entries : List RuleEntry) :
    (installed entries).toList = (entries.map RuleEntry.rule).reverse := by
  rw [installed, toList_foldl_prepend, List.append_nil]

theorem mem_installed_iff {entries : List RuleEntry} {r : Rule} :
    r ∈ (installed entries).toList ↔ ∃ entry ∈ entries, entry.rule = r := by
  rw [toList_installed, List.mem_reverse, List.mem_map]

/-! ## Modules -/

def made (manifest : Manifest) (t : Property.Table) : Module :=
  { name := manifest.name
    properties := t
    types := Types.Hierarchy.ofList (manifest.types.map TypeEntry.declaration)
    rules := installed manifest.rules }

theorem build_of_allBlank {manifest : Manifest} (blank : Text.allBlank manifest.name = true) :
    build manifest = .error .blankName := by
  rw [build, if_pos blank]
  rfl

theorem build_of_not_allBlank {manifest : Manifest}
    (named : Text.allBlank manifest.name = false) :
    build manifest = ((propertyTable manifest).mapError Error.property).bind fun table =>
      (checkRules table 0 manifest.rules).map fun _ => made manifest table := by
  rw [build, if_neg (by rw [named]; exact Bool.false_ne_true)]
  cases propertyTable manifest with
  | error e => rfl
  | ok table =>
      change (checkRules table 0 manifest.rules).bind _ = (checkRules table 0 manifest.rules).map _
      cases checkRules table 0 manifest.rules <;> rfl

/-- What there is to know of a manifest that became a module. -/
theorem build_ok_iff {manifest : Manifest} {m : Module} :
    build manifest = .ok m ↔
      Text.allBlank manifest.name = false ∧
        ∃ table, propertyTable manifest = .ok table ∧
          (∀ entry ∈ manifest.rules, ∀ comparison ∈ Condition.comparisonsList entry.roots,
            table.Defines comparison) ∧
          made manifest table = m := by
  cases blank : Text.allBlank manifest.name with
  | true =>
      rw [build_of_allBlank blank]
      constructor
      · intro ended
        cases ended
      · rintro ⟨named, -⟩
        cases named
  | false =>
      rw [build_of_not_allBlank blank, bind_ok_iff]
      constructor
      · rintro ⟨table, settled, rest⟩
        obtain ⟨_, checked, same⟩ := map_ok_iff.1 rest
        exact ⟨rfl, table, mapError_ok_iff.1 settled, checkRules_ok_iff.1 checked, same⟩
      · rintro ⟨_, table, settled, defined, same⟩
        exact ⟨table, mapError_ok_iff.2 settled,
          map_ok_iff.2 ⟨(), checkRules_ok_iff.2 defined, same⟩⟩

end Module

end DeferredBinding
