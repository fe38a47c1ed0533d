/-
# Proofs.Module.Answering -- what a module answers depends on choices and provided names only

Two sources over one table read alike where the same values were given last
(`Chooses.source_eq`), however they keep them.  Two families of generators answer a request
alike where they provide the same names and each generator answers with the requested type and
`_Generated` (`Provides.answer?_eq`), whatever they are made of.  So a module, the values given
for its properties, the names provided and a type determine the outcome of a request:
`ResolvesTo` says that it is this one under all such sources and generators, and one of them
tells it for all (`resolvesTo_iff`).
-/
import DeferredBinding.Generator.Recipe
import DeferredBinding.Module.Basic
import DeferredBinding.Proofs.Property.Answers
import DeferredBinding.Proofs.Property.Choices
import DeferredBinding.Proofs.Resolution.Outcome

namespace DeferredBinding

set_option autoImplicit false

namespace Property

/-- A permutation has selected, for each name, the value that was given last. -/
structure Chooses (choices : List (String × String)) (p : Permutation) : Prop where
  chosen : ∀ name value, LastChosen choices name value → p.selections.value? name = some value
  unchosen : ∀ name, name ∉ choices.map Prod.fst → p.selections.value? name = none

section

variable {choices : List (String × String)} {p q : Permutation}

theorem chooses_selectAll (t : Table) (choices : List (String × String)) :
    Chooses choices (({ table := t } : Permutation).selectAll choices) :=
  ⟨fun _ _ last => Permutation.value?_selectAll_of_lastChosen _ last,
    fun _ absent => Permutation.value?_selectAll_of_unchosen _ absent⟩

theorem selectAll_eq_ofList (t : Table) (choices : List (String × String)) :
    ({ table := t } : Permutation).selectAll choices =
      { table := t, selections := .ofList choices } := by
  have general : ∀ s : Selections,
      ({ table := t, selections := s } : Permutation).selectAll choices =
        { table := t, selections := choices.foldl (fun s c => s.select c.1 c.2) s } := by
    induction choices with
    | nil => exact fun _ => rfl
    | cons choice rest ih => exact fun s => ih (s.select choice.1 choice.2)
  exact general {}

theorem chooses_ofList (t : Table) (choices : List (String × String)) :
    Chooses choices { table := t, selections := .ofList choices } :=
  selectAll_eq_ofList t choices ▸ chooses_selectAll t choices

theorem Chooses.value?_eq_of_agreeOn {xs ys : List (String × String)} (first : Chooses xs p)
    (second : Chooses ys q) {name : String} (agree : AgreeOn xs ys name) :
    p.selections.value? name = q.selections.value? name := by
  obtain ⟨here, there⟩ | ⟨value, here, there⟩ := agree
  · rw [first.unchosen name here, second.unchosen name there]
  · rw [first.chosen name value here, second.chosen name value there]

/-- Only of a binding property are selections looked at. -/
theorem Permutation.selection_congr {name : String} (table : p.table = q.table)
    (same : ∀ b, q.table.binding? name = some b →
      p.selections.value? name = q.selections.value? name) :
    p.selection name = q.selection name := by
  rw [selection, selection, table]
  cases got : q.table.getBinding name with
  | error error => rfl
  | ok b =>
      have bound : q.table.binding? name = some b := by
        rw [Table.binding?, Table.getBinding_ok_iff.1 got]
      rw [same b bound]

/-- How the values given last are kept makes no difference to what is read. -/
theorem Chooses.source_eq (first : Chooses choices p) (second : Chooses choices q)
    (same : p.table = q.table) : p.source = q.source := by
  have selection : p.selection = q.selection := by
    funext name
    refine Permutation.selection_congr same fun _ _ => ?_
    exact first.value?_eq_of_agreeOn second (agreeOn_iff.2 rfl)
  have configuration : p.configuration = q.configuration := by
    funext name
    rw [Permutation.configuration, Permutation.configuration, same]
  rw [Permutation.source, Permutation.source, same, selection, configuration]

end

end Property

/-- The generators of just these names, each of which answers with the type and `_Generated`. -/
structure Provides {γ : Type} [Generator γ] (names : List String) (type : String)
    (generators : String → Option γ) : Prop where
  provided : ∀ name ∈ names, ∃ generator, generators name = some generator ∧
    ∀ ctx census, (Generator.produce generator ctx census type).answer =
      .ok (type ++ "_Generated")
  others : ∀ name, name ∉ names → generators name = none

theorem Provides.answer?_eq {γ : Type} [Generator γ] {names : List String} {type : String}
    {ctx : Context γ} (provides : Provides names type ctx.generators) (census : Census) :
    ctx.answer? type census = fun name =>
      if name ∈ names then some (.ok (type ++ "_Generated")) else none := by
  funext name
  rw [Context.answer?]
  by_cases member : name ∈ names
  · obtain ⟨generator, found, answers⟩ := provides.provided name member
    rw [if_pos member, found, Option.map_some, answers]
  · rw [if_neg member, provides.others name member, Option.map_none]

namespace Module

open Property

/-- With the values given last for each name, and generators of just these names, the outcome
of a request for a type. -/
def ResolvesTo (m : Module) (choices : List (String × String)) (names : List String)
    (type : String) (outcome : Except Failure Answer) : Prop :=
  ∀ (p : Permutation) (γ : Type) [Generator γ] (generators : String → Option γ) (census : Census),
    p.table = m.properties → Chooses choices p → Provides names type generators →
      (m.resolve p.source generators type census).outcome = outcome

variable {m : Module} {choices : List (String × String)} {names : List String} {type : String}

theorem outcome_resolve_of_provides {γ δ : Type} [Generator γ] [Generator δ] {p q : Permutation}
    {generators : String → Option γ} {others : String → Option δ} (first : Chooses choices p)
    (second : Chooses choices q) (same : p.table = q.table)
    (provides : Provides names type generators) (likewise : Provides names type others)
    (before after : Census) :
    (m.resolve p.source generators type before).outcome =
      (m.resolve q.source others type after).outcome := by
  have here : Provides names type (m.context p.source generators).generators := provides
  have there : Provides names type (m.context q.source others).generators := likewise
  rw [resolve, resolve, Rules.outcome_resolve, Rules.outcome_resolve, here.answer?_eq,
    there.answer?_eq, context, context, first.source_eq second same]

/-- One source and one family of generators tell the outcome for all. -/
theorem resolvesTo_iff {γ : Type} [Generator γ] {p : Permutation} {generators : String → Option γ}
    (table : p.table = m.properties) (chooses : Chooses choices p)
    (provides : Provides names type generators) (census : Census)
    (outcome : Except Failure Answer) :
    m.ResolvesTo choices names type outcome ↔
      (m.resolve p.source generators type census).outcome = outcome := by
  constructor
  · intro resolves
    exact resolves p γ generators census table chooses provides
  · intro here q δ _ others count same chosen likewise
    rw [← here]
    exact outcome_resolve_of_provides chosen chooses (same.trans table.symm) likewise provides
      count census

end Module

end DeferredBinding
