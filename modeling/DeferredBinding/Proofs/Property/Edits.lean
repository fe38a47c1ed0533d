/-
# Proofs.Property.Edits -- all that can be done to a table of properties

A table is worked on call by call: a property is declared, or it is changed through a
reference to it.  An `Edit` is one such call.  It may be refused, and the table is then what
it was before (`Table.edited`); so edits can be made one after the other without an end
(`Table.editAll`).

An edit that succeeds does one of three things (`Table.edit_effect`): it finds the property
it declares, it puts a blank one behind all others, or it puts a changed property in the
place of the one that was there.  What edits keep is read off these three.
-/
import DeferredBinding.Proofs.Property.Changes

namespace DeferredBinding.Property

set_option autoImplicit false

open Attempt

/-! ## Calls -/

/-- A call through a reference to a binding property. -/
inductive Binding.Call where
  | define (value : String)
  | restrict (values : List String)
  | setFallback (value : String)
  deriving DecidableEq, Repr

def Binding.change (b : Binding) : Binding.Call → Except Error Binding
  | .define value => b.define value
  | .restrict values => b.restrict values
  | .setFallback value => b.setFallback value

/-- A call through a reference to a configuration property. -/
inductive Configuration.Call where
  | append (value : String)
  | set (value : String)
  | setAll (values : List String)
  | clear
  deriving DecidableEq, Repr

def Configuration.change (c : Configuration) : Configuration.Call → Except Error Configuration
  | .append value => c.append value
  | .set value => .ok (c.set value)
  | .setAll values => c.setAll values
  | .clear => .ok c.clear

/-- A call that works on a table. -/
inductive Edit where
  | declareBinding (name : String)
  | declareConfiguration (name : String) (multi : Bool)
  | changeBinding (name : String) (call : Binding.Call)
  | changeConfiguration (name : String) (call : Configuration.Call)
  deriving DecidableEq, Repr

def Edit.declares? : Edit → Option String
  | .declareBinding name => some name
  | .declareConfiguration name _ => some name
  | .changeBinding _ _ => none
  | .changeConfiguration _ _ => none

/-- A call leaves the name alone, and takes back no value that is defined. -/
theorem Binding.change_keeps {b c : Binding} {call : Binding.Call}
    (changes : b.change call = .ok c) : c.name = b.name ∧ b.defined <+: c.defined := by
  cases call with
  | define value =>
      obtain ⟨-, rfl⟩ := define_ok_iff.1 changes
      exact ⟨rfl, FirstSeen.prefix_add b.defined value⟩
  | restrict values =>
      obtain ⟨-, rfl⟩ := restrict_ok_iff.1 changes
      exact ⟨rfl, List.prefix_refl _⟩
  | setFallback value =>
      obtain ⟨-, rfl⟩ := setFallback_ok_iff.1 changes
      exact ⟨rfl, List.prefix_refl _⟩

/-- A call leaves the name and the flag alone. -/
theorem Configuration.change_keeps {c d : Configuration} {call : Configuration.Call}
    (changes : c.change call = .ok d) : d.name = c.name ∧ d.multi = c.multi := by
  cases call with
  | append value =>
      obtain ⟨-, rfl⟩ := append_ok_iff.1 changes
      exact ⟨rfl, rfl⟩
  | set value =>
      cases changes
      exact ⟨rfl, rfl⟩
  | setAll values =>
      obtain ⟨-, rfl⟩ := setAll_ok_iff.1 changes
      exact ⟨rfl, rfl⟩
  | clear =>
      cases changes
      exact ⟨rfl, rfl⟩

namespace Table

def edit (t : Table) : Edit → Except Error Table
  | .declareBinding name => t.declareBinding name
  | .declareConfiguration name multi => t.declareConfiguration name multi
  | .changeBinding name call => t.modifyBinding name fun b => b.change call
  | .changeConfiguration name call => t.modifyConfiguration name fun c => c.change call

/-- The table after an edit that may have been refused. -/
def edited (t : Table) (e : Edit) : Table :=
  match t.edit e with
  | .ok u => u
  | .error _ => t

def editAll (t : Table) (edits : List Edit) : Table :=
  edits.foldl edited t

/-- The names that some edits declare with success, in order. -/
def declared (t : Table) : List Edit → List String
  | [] => []
  | e :: rest =>
      (match t.edit e with
        | .ok _ => e.declares?.toList
        | .error _ => []) ++ declared (t.edited e) rest

end Table

/-! ## What an edit does -/

/-- A property that was declared just now. -/
inductive Blank : Property → Prop
  | binding (name : String) : Blank (.binding { name })
  | configuration (name : String) (multi : Bool) :
      Blank (.configuration (Configuration.declare name multi))

/-- What one call through a reference makes of a property. -/
inductive Changed : Property → Property → Prop
  | binding {b c : Binding} {call : Binding.Call} (changes : b.change call = .ok c) :
      Changed (.binding b) (.binding c)
  | configuration {c d : Configuration} {call : Configuration.Call}
      (changes : c.change call = .ok d) : Changed (.configuration c) (.configuration d)

namespace Table

/-- Everything that an edit can do to a table. -/
inductive Effect (t : Table) (e : Edit) : Table → Prop
  /-- the property that is declared is there -/
  | found {p : Property} {name : String} (declares : e.declares? = some name)
      (there : t.find? name = some p) : Effect t e t
  /-- a new property -/
  | created {p : Property} (declares : e.declares? = some p.name)
      (absent : t.find? p.name = none) (valid : Identifier.valid p.name = true)
      (blank : Blank p) : Effect t e (t.put p)
  /-- a property in the place of the one it was made from -/
  | changed {p q : Property} (changes : e.declares? = none) (there : t.find? q.name = some p)
      (changed : Changed p q) : Effect t e (t.put q)

theorem edit_effect {t u : Table} {e : Edit} (edits : t.edit e = .ok u) : Effect t e u := by
  cases e with
  | declareBinding name =>
      obtain ⟨b, there, rfl⟩ | ⟨absent, valid, rfl⟩ := declareBinding_cases edits
      · exact .found rfl there
      · rw [← put_of_absent (p := .binding { name }) absent]
        exact .created rfl absent valid (.binding name)
  | declareConfiguration name multi =>
      obtain ⟨c, there, rfl⟩ | ⟨absent, valid, rfl⟩ := declareConfiguration_cases edits
      · exact .found rfl there
      · rw [← put_of_absent (p := .configuration (Configuration.declare name multi)) absent]
        exact .created rfl absent valid (.configuration name multi)
  | changeBinding name call =>
      obtain ⟨b, c, there, changes, rfl, rfl⟩ :=
        put_of_modifyBinding (fun _ _ changes => (Binding.change_keeps changes).1) edits
      exact .changed rfl there (.binding changes)
  | changeConfiguration name call =>
      obtain ⟨c, d, there, changes, rfl, rfl⟩ :=
        put_of_modifyConfiguration (fun _ _ changes => (Configuration.change_keeps changes).1) edits
      exact .changed rfl there (.configuration changes)

/-- An edit either has its effect, or is refused and leaves the table alone. -/
theorem edited_cases (t : Table) (e : Edit) :
    Effect t e (t.edited e) ∨ t.edited e = t ∧ ∃ error, t.edit e = .error error := by
  rw [edited]
  cases edits : t.edit e with
  | ok u => exact Or.inl (edit_effect edits)
  | error error => exact Or.inr ⟨rfl, error, rfl⟩

/-! ## The order of the names -/

theorem Effect.names {t u : Table} {e : Edit} (effect : Effect t e u) :
    u.names = FirstSeen.addAll t.names e.declares?.toList := by
  cases effect with
  | found declares there =>
      rw [declares, Option.toList_some, FirstSeen.addAll_cons, FirstSeen.addAll_nil,
        FirstSeen.add_of_mem (mem_names_of_find? there)]
  | created declares absent valid blank =>
      rw [declares, names_put]
      rfl
  | changed changes there changed =>
      rw [changes, names_put, FirstSeen.add_of_mem (mem_names_of_find? there)]
      rfl

/-- The names of a table stand in the order in which they were first declared. -/
theorem names_editAll (t : Table) (edits : List Edit) :
    (t.editAll edits).names = FirstSeen.addAll t.names (t.declared edits) := by
  induction edits generalizing t with
  | nil => rfl
  | cons e rest ih =>
      rw [declared, FirstSeen.addAll_append]
      have onward : (t.editAll (e :: rest)).names =
          FirstSeen.addAll (t.edited e).names ((t.edited e).declared rest) := ih (t.edited e)
      rw [onward]
      congr 1
      rw [edited]
      cases edits : t.edit e with
      | ok u => exact (edit_effect edits).names
      | error error => rfl

end Table

end DeferredBinding.Property
