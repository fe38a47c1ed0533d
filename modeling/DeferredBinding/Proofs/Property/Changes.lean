/-
# Proofs.Property.Changes -- what declaring and changing a property does to a table

Whatever is done to a property, the table comes out with one property put under its name
(`Table.put`): in the place of the one that was there, or behind all others.  So the names
of a table are those put into it, each once (`names_put`), and nothing under another name
is touched (`find?_put`).

`defineAll_ok_iff` and `appendAll_ok_iff` give the result of the operations that take
several values.
-/
import DeferredBinding.Property.Table
import DeferredBinding.Proofs.Attempt

namespace DeferredBinding.Property

set_option autoImplicit false

open Attempt

/-! ## Operations with several values -/

theorem Binding.defineAll_ok_iff {b c : Binding} {values : List String} :
    b.defineAll values = .ok c ↔
      (∀ value ∈ values, Identifier.valid value = true) ∧
        c = { b with
          defined := FirstSeen.addAll b.defined values
          allowed := FirstSeen.addAll b.allowed values } := by
  induction values generalizing b with
  | nil =>
      rw [defineAll, Except.ok.injEq]
      constructor
      · rintro rfl
        exact ⟨fun _ member => absurd member List.not_mem_nil, rfl⟩
      · rintro ⟨-, rfl⟩
        rfl
  | cons value rest ih =>
      rw [defineAll, bind_ok_iff, List.forall_mem_cons]
      constructor
      · rintro ⟨middle, first, others⟩
        obtain ⟨valid, rfl⟩ := define_ok_iff.1 first
        obtain ⟨restValid, rfl⟩ := ih.1 others
        exact ⟨⟨valid, restValid⟩, rfl⟩
      · rintro ⟨⟨valid, restValid⟩, rfl⟩
        exact ⟨_, define_ok_iff.2 ⟨valid, rfl⟩, ih.2 ⟨restValid, rfl⟩⟩

theorem Configuration.appendAll_ok_iff {c d : Configuration} {values : List String}
    (multi : c.multi = true) :
    c.appendAll values = .ok d ↔ d = { c with slots := c.slots ++ values.map some } := by
  induction values generalizing c with
  | nil =>
      rw [appendAll, Except.ok.injEq, List.map_nil, List.append_nil]
      exact eq_comm
  | cons value rest ih =>
      have first : c.append value = .ok { c with slots := c.slots ++ [some value] } :=
        append_ok_iff.2 ⟨multi, rfl⟩
      have onward := ih (c := { c with slots := c.slots ++ [some value] }) multi
      rw [List.append_assoc, List.singleton_append] at onward
      rw [appendAll, first]
      exact onward

namespace Table

def names (t : Table) : List String :=
  t.entries.map Property.name

theorem find?_eq_none_iff {t : Table} {name : String} :
    t.find? name = none ↔ name ∉ t.names := by
  rw [find?, List.find?_eq_none, names, List.mem_map]
  constructor
  · rintro absent ⟨p, member, rfl⟩
    exact absent p member (beq_self_eq_true _)
  · intro absent p member same
    exact absent ⟨p, member, eq_of_beq same⟩

theorem mem_names_of_find? {t : Table} {name : String} {p : Property}
    (found : t.find? name = some p) : name ∈ t.names := by
  refine Decidable.byContradiction fun absent => ?_
  rw [find?_eq_none_iff.2 absent] at found
  cases found

/-! ## A property put under its name -/

/-- `p` in the place of the property of its name, or at the end where there is none. -/
def put (t : Table) (p : Property) : Table :=
  if t.contains p.name then t.replace p else t.append p

theorem put_of_find? {t : Table} {p q : Property} (found : t.find? p.name = some q) :
    t.put p = t.replace p := by
  rw [put, contains, found]
  rfl

theorem put_of_absent {t : Table} {p : Property} (absent : t.find? p.name = none) :
    t.put p = t.append p := by
  rw [put, contains, absent]
  rfl

theorem find?_put (t : Table) (p : Property) (name : String) :
    (t.put p).find? name = if name = p.name then some p else t.find? name := by
  cases found : t.find? p.name with
  | some q =>
      rw [put_of_find? found, find?_replace]
      by_cases same : name = p.name
      · rw [if_pos same.symm, if_pos same, same, found]
        rfl
      · rw [if_neg (Ne.symm same), if_neg same]
  | none =>
      rw [put_of_absent found, find?_append]
      by_cases same : name = p.name
      · rw [if_pos same.symm, if_pos same, same, found]
        rfl
      · rw [if_neg (Ne.symm same), if_neg same, Option.or_none]

theorem names_put (t : Table) (p : Property) :
    (t.put p).names = FirstSeen.add t.names p.name := by
  cases found : t.find? p.name with
  | some q =>
      rw [put_of_find? found, FirstSeen.add_of_mem (mem_names_of_find? found), names, names,
        replace, List.map_map]
      refine List.map_congr_left fun r _ => ?_
      by_cases same : r.name = p.name
      · simp [same]
      · simp [same]
  | none =>
      rw [put_of_absent found, FirstSeen.add, if_neg (find?_eq_none_iff.1 found), names, append,
        List.map_append]
      rfl

theorem find?_append_of_absent {t : Table} {p : Property} {name : String}
    (absent : t.find? name = none) (named : p.name = name) :
    (t.append p).find? name = some p := by
  rw [find?_append, absent, if_pos named]
  rfl

/-- A property appended just now gives way to the one that is put under its name. -/
theorem put_append_of_absent {t : Table} {p q : Property}
    (absent : t.find? p.name = none) (named : q.name = p.name) :
    (t.append q).put p = t.put p := by
  have others : (t.entries.map fun r => if r.name = p.name then p else r) = t.entries := by
    refine (List.map_congr_left fun r member => ?_).trans (List.map_id _)
    refine if_neg fun taken => find?_eq_none_iff.1 absent ?_
    rw [names, ← taken]
    exact List.mem_map_of_mem member
  rw [put_of_find? (find?_append_of_absent absent named), put_of_absent absent, append, replace,
    append, List.map_append, others, List.map_cons, if_pos named, List.map_nil]

/-! ## Declaring and changing properties -/

theorem getBinding_ok_iff {t : Table} {name : String} {b : Binding} :
    t.getBinding name = .ok b ↔ t.find? name = some (.binding b) := by
  unfold getBinding
  split
  · rename_i found
    rw [found, Except.ok.injEq, Option.some.injEq, Property.binding.injEq]
  · rename_i p other found
    rw [found, Option.some.injEq]
    exact ⟨nofun, fun same => absurd same (other b)⟩
  · rename_i absent
    rw [absent]
    exact ⟨nofun, nofun⟩

theorem getConfiguration_ok_iff {t : Table} {name : String} {c : Configuration} :
    t.getConfiguration name = .ok c ↔ t.find? name = some (.configuration c) := by
  unfold getConfiguration
  split
  · rename_i found
    rw [found, Except.ok.injEq, Option.some.injEq, Property.configuration.injEq]
  · rename_i p other found
    rw [found, Option.some.injEq]
    exact ⟨nofun, fun same => absurd same (other c)⟩
  · rename_i absent
    rw [absent]
    exact ⟨nofun, nofun⟩

theorem modifyBinding_ok_iff {t u : Table} {name : String}
    {change : Binding → Except Error Binding} :
    t.modifyBinding name change = .ok u ↔
      ∃ b c, t.find? name = some (.binding b) ∧ change b = .ok c ∧ t.replace (.binding c) = u := by
  rw [modifyBinding, bind_ok_iff]
  constructor
  · rintro ⟨b, got, changed⟩
    obtain ⟨c, change, same⟩ := map_ok_iff.1 changed
    exact ⟨b, c, getBinding_ok_iff.1 got, change, same⟩
  · rintro ⟨b, c, found, change, same⟩
    exact ⟨b, getBinding_ok_iff.2 found, map_ok_iff.2 ⟨c, change, same⟩⟩

theorem modifyConfiguration_ok_iff {t u : Table} {name : String}
    {change : Configuration → Except Error Configuration} :
    t.modifyConfiguration name change = .ok u ↔
      ∃ c d, t.find? name = some (.configuration c) ∧ change c = .ok d ∧
        t.replace (.configuration d) = u := by
  rw [modifyConfiguration, bind_ok_iff]
  constructor
  · rintro ⟨c, got, changed⟩
    obtain ⟨d, change, same⟩ := map_ok_iff.1 changed
    exact ⟨c, d, getConfiguration_ok_iff.1 got, change, same⟩
  · rintro ⟨c, d, found, change, same⟩
    exact ⟨c, getConfiguration_ok_iff.2 found, map_ok_iff.2 ⟨d, change, same⟩⟩

theorem declareBinding_cases {t u : Table} {name : String}
    (declared : t.declareBinding name = .ok u) :
    (∃ b, t.find? name = some (.binding b) ∧ u = t) ∨
      t.find? name = none ∧ Identifier.valid name = true ∧ u = t.append (.binding { name }) := by
  unfold declareBinding at declared
  split at declared
  · rename_i b found
    exact Or.inl ⟨b, found, (Except.ok.inj declared).symm⟩
  · cases declared
  · rename_i absent
    obtain ⟨b, fresh, same⟩ := map_ok_iff.1 declared
    unfold Binding.declare at fresh
    split at fresh
    · rename_i valid
      cases fresh
      exact Or.inr ⟨absent, valid, same.symm⟩
    · cases fresh

theorem declareConfiguration_cases {t u : Table} {name : String} {multi : Bool}
    (declared : t.declareConfiguration name multi = .ok u) :
    (∃ c, t.find? name = some (.configuration c) ∧ u = t) ∨
      t.find? name = none ∧ Identifier.valid name = true ∧
        u = t.append (.configuration (Configuration.declare name multi)) := by
  unfold declareConfiguration at declared
  split at declared
  · rename_i c found
    exact Or.inl ⟨c, found, (Except.ok.inj declared).symm⟩
  · cases declared
  · rename_i absent
    split at declared
    · rename_i valid
      exact Or.inr ⟨absent, valid, (Except.ok.inj declared).symm⟩
    · cases declared

/-- A change to the binding property of a name puts the changed one under that name. -/
theorem put_of_modifyBinding {t u : Table} {name : String}
    {change : Binding → Except Error Binding}
    (keepsName : ∀ b c, change b = .ok c → c.name = b.name)
    (changed : t.modifyBinding name change = .ok u) :
    ∃ b c, t.find? name = some (.binding b) ∧ change b = .ok c ∧ c.name = name ∧
      u = t.put (.binding c) := by
  obtain ⟨b, c, found, change, rfl⟩ := modifyBinding_ok_iff.1 changed
  have named : c.name = name := (keepsName b c change).trans (name_of_find? found)
  refine ⟨b, c, found, change, named, (put_of_find? (q := .binding b) ?_).symm⟩
  rw [Property.name, named, found]

theorem put_of_modifyConfiguration {t u : Table} {name : String}
    {change : Configuration → Except Error Configuration}
    (keepsName : ∀ c d, change c = .ok d → d.name = c.name)
    (changed : t.modifyConfiguration name change = .ok u) :
    ∃ c d, t.find? name = some (.configuration c) ∧ change c = .ok d ∧ d.name = name ∧
      u = t.put (.configuration d) := by
  obtain ⟨c, d, found, change, rfl⟩ := modifyConfiguration_ok_iff.1 changed
  have named : d.name = name := (keepsName c d change).trans (name_of_find? found)
  refine ⟨c, d, found, change, named, (put_of_find? (q := .configuration c) ?_).symm⟩
  rw [Property.name, named, found]

/-- Declaring a binding property and changing it starts from the one that is there, or from
one without values. -/
theorem put_of_declareBinding {t declared u : Table} {name : String}
    {change : Binding → Except Error Binding}
    (keepsName : ∀ b c, change b = .ok c → c.name = b.name)
    (declares : t.declareBinding name = .ok declared)
    (changed : declared.modifyBinding name change = .ok u) :
    ∃ b c, (t.find? name = some (.binding b) ∨ t.find? name = none ∧ b = { name }) ∧
      change b = .ok c ∧ c.name = name ∧ u = t.put (.binding c) := by
  obtain ⟨b, c, found, change, named, same⟩ := put_of_modifyBinding keepsName changed
  obtain ⟨_, _, rfl⟩ | ⟨absent, -, rfl⟩ := declareBinding_cases declares
  · exact ⟨b, c, Or.inl found, change, named, same⟩
  · rw [find?_append_of_absent absent rfl] at found
    cases found
    have absentToo : t.find? (Property.binding c).name = none := by
      rw [Property.name, named, absent]
    exact ⟨_, c, Or.inr ⟨absent, rfl⟩, change, named,
      same.trans (put_append_of_absent absentToo named.symm)⟩

theorem put_of_declareConfiguration {t declared u : Table} {name : String} {multi : Bool}
    {change : Configuration → Except Error Configuration}
    (keepsName : ∀ c d, change c = .ok d → d.name = c.name)
    (declares : t.declareConfiguration name multi = .ok declared)
    (changed : declared.modifyConfiguration name change = .ok u) :
    ∃ c d, (t.find? name = some (.configuration c) ∨
        t.find? name = none ∧ c = Configuration.declare name multi) ∧
      change c = .ok d ∧ d.name = name ∧ u = t.put (.configuration d) := by
  obtain ⟨c, d, found, change, named, same⟩ := put_of_modifyConfiguration keepsName changed
  obtain ⟨_, _, rfl⟩ | ⟨absent, -, rfl⟩ := declareConfiguration_cases declares
  · exact ⟨c, d, Or.inl found, change, named, same⟩
  · rw [find?_append_of_absent absent rfl] at found
    cases found
    have absentToo : t.find? (Property.configuration d).name = none := by
      rw [Property.name, named, absent]
    exact ⟨_, d, Or.inr ⟨absent, rfl⟩, change, named,
      same.trans (put_append_of_absent absentToo named.symm)⟩

end Table

end DeferredBinding.Property
