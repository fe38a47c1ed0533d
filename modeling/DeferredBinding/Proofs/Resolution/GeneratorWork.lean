/-
# Proofs.Resolution.GeneratorWork -- what a record tells of generators

`generatorWork` keeps the entries of a record that tell of generators, and `lookups`
the names rules looked generators up by.  Deciding a condition adds nothing to either
(`generatorWork_allHold`), so they can be read off the actions rules take.

The same goes for whatever else deciding conditions has nothing to do with: `filter_allHold`
asks only that the entries it writes are not counted (`Entry.Apart`).
-/
import DeferredBinding.Condition.Check

namespace DeferredBinding

set_option autoImplicit false

namespace Entry

/-- Whether an entry tells of a generator: a step of an instance, or a name no
generator goes by. -/
def ofGenerators : Entry → Bool
  | .generator _ _ => true
  | .helper _ _ => true
  | .note (.generatorUnknown _) => true
  | _ => false

/-- The name a rule looked a generator up by, where the entry tells of that. -/
def lookup? : Entry → Option String
  | .generator who .created => some who.generator
  | .note (.generatorUnknown name) => some name
  | _ => none

end Entry

def generatorWork (entries : List Entry) : List Entry :=
  entries.filter Entry.ofGenerators

/-- The names rules looked generators up by, in order. -/
def lookups (entries : List Entry) : List String :=
  entries.filterMap Entry.lookup?

@[simp] theorem generatorWork_nil : generatorWork [] = [] := rfl

@[simp] theorem generatorWork_append (xs ys : List Entry) :
    generatorWork (xs ++ ys) = generatorWork xs ++ generatorWork ys :=
  List.filter_append ..

@[simp] theorem generatorWork_enter (span : Span) (rest : List Entry) :
    generatorWork (.enter span :: rest) = generatorWork rest := rfl

@[simp] theorem generatorWork_leave (span : Span) (rest : List Entry) :
    generatorWork (.leave span :: rest) = generatorWork rest := rfl

@[simp] theorem lookups_nil : lookups [] = [] := rfl

@[simp] theorem lookups_append (xs ys : List Entry) :
    lookups (xs ++ ys) = lookups xs ++ lookups ys :=
  List.filterMap_append

@[simp] theorem lookups_cons_created (who : Instance) (rest : List Entry) :
    lookups (.generator who .created :: rest) = who.generator :: lookups rest := rfl

@[simp] theorem lookups_cons_asked (who : Instance) (type : String) (rest : List Entry) :
    lookups (.generator who (.asked type) :: rest) = lookups rest := rfl

/-- What is read off the entries that tell of generators can be read off those alone. -/
theorem filterMap_generatorWork {α : Type} {read : Entry → Option α}
    (blind : ∀ entry, entry.ofGenerators = false → read entry = none) (entries : List Entry) :
    (generatorWork entries).filterMap read = entries.filterMap read := by
  rw [generatorWork, List.filterMap_filter]
  congr 1
  funext entry
  cases told : entry.ofGenerators with
  | true => rfl
  | false => rw [blind entry told]; rfl

theorem lookups_generatorWork (entries : List Entry) :
    lookups (generatorWork entries) = lookups entries := by
  refine filterMap_generatorWork (fun entry untold => ?_) entries
  match entry with
  | .enter _ | .leave _ => rfl
  | .generator _ _ => cases untold
  | .helper _ _ => rfl
  | .note n => cases n <;> first | rfl | cases untold

/-! ## What deciding conditions records -/

/-- None of the entries that deciding conditions writes is counted. -/
structure Entry.Apart (counted : Entry → Bool) : Prop where
  enter : ∀ span, counted (.enter span) = false
  leave : ∀ span, counted (.leave span) = false
  decided : ∀ message result, counted (.note (.conditionDecided message result)) = false
  requested : ∀ type, counted (.note (.requestedTypeUnknown type)) = false
  target : ∀ type, counted (.note (.targetTypeUnknown type)) = false

namespace Condition

section

variable {counted : Entry → Bool} (apart : Entry.Apart counted) (given : Sources) (type : String)

include apart in
theorem filter_framed (c : Condition) (decision : Traced Verdict) :
    (framed type c decision).trace.filter counted = decision.trace.filter counted := by
  have closed : (closing type c decision.value).filter counted = [] := by
    cases decision.value with
    | error failure => rfl
    | ok result => simp [closing, apart.decided]
  simp [framed, closed, apart.enter, apart.leave]

include apart in
theorem filter_assignability (types : Types.Source) (target : String) :
    (assignability types type target).trace.filter counted = [] := by
  unfold assignability
  split
  · simp [apart.requested]
  · split
    · simp [apart.target]
    · rfl

end

mutual

theorem filter_check {counted : Entry → Bool} (apart : Entry.Apart counted) (given : Sources)
    (type : String) : ∀ c : Condition, (check given type c).trace.filter counted = []
  | .typeIs _ => by
      rw [check, filter_framed apart]
      rfl
  | .assignableTo _ => by rw [check, filter_framed apart, filter_assignability apart]
  | .propertyIs _ _ => by
      rw [check, filter_framed apart]
      rfl
  | .all children => by
      rw [check, filter_framed apart, filter_allHold apart given type children]
  | .any children => by
      rw [check, filter_framed apart, filter_anyHold apart given type children]
  | .noneOf children => by
      rw [check, filter_framed apart]
      exact filter_anyHold apart given type children

theorem filter_allHold {counted : Entry → Bool} (apart : Entry.Apart counted) (given : Sources)
    (type : String) : ∀ cs : List Condition, (allHold given type cs).trace.filter counted = []
  | [] => rfl
  | c :: rest => by
      have first := filter_check apart given type c
      rw [allHold]
      split
      · rw [followedBy, List.filter_append, first, filter_allHold apart given type rest,
          List.append_nil]
      · exact first

theorem filter_anyHold {counted : Entry → Bool} (apart : Entry.Apart counted) (given : Sources)
    (type : String) : ∀ cs : List Condition, (anyHold given type cs).trace.filter counted = []
  | [] => rfl
  | c :: rest => by
      have first := filter_check apart given type c
      rw [anyHold]
      split
      · rw [followedBy, List.filter_append, first, filter_anyHold apart given type rest,
          List.append_nil]
      · exact first

end

theorem apart_ofGenerators : Entry.Apart Entry.ofGenerators :=
  ⟨fun _ => rfl, fun _ => rfl, fun _ _ => rfl, fun _ => rfl, fun _ => rfl⟩

/-- Deciding conditions has nothing to do with generators. -/
theorem generatorWork_allHold (given : Sources) (type : String) (cs : List Condition) :
    generatorWork (allHold given type cs).trace = [] :=
  filter_allHold apart_ofGenerators given type cs

end Condition

end DeferredBinding
