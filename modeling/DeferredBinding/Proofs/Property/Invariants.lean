/-
# Proofs.Property.Invariants -- what holds of a table however it came about

Edits are made to a table in any number and in any order, and some of them are refused.
Two things can be relied on throughout.

What the table holds is *sound* (`Table.Sound`): its names are distinct identifiers, and each
property is sound in itself.  The allowed values of a binding property are among the defined
ones although a restriction replaces them and a definition adds to both lists; and no slot of
a multi-valued property is ever unset although clearing one unsets the slots of the others.

And the table only *grows* (`Table.Grows`): what stands at a place stays there with its name,
its kind and its flag, and what is defined is never taken back.

Both are shown for a blank property and for one call, then for one edit by its effect
(`Sound.effect`, `Sound.grows_effect`), then for every run of edits (`regular_editAll`).
-/
import DeferredBinding.Proofs.Identifier
import DeferredBinding.Proofs.Property.Edits
import DeferredBinding.Property.Permutation

namespace DeferredBinding.Property

set_option autoImplicit false

/-! ## Sound properties -/

/-- The values of a binding property are distinct identifiers, and what is allowed is
defined. -/
structure Binding.Sound (b : Binding) : Prop where
  distinct : b.defined.Nodup
  spelled : ∀ value ∈ b.defined, Identifier.Spelled value
  allowedDistinct : b.allowed.Nodup
  allowedDefined : ∀ value ∈ b.allowed, value ∈ b.defined
  fallback : ∀ value, b.fallback = some value → Identifier.Spelled value

/-- A multi-valued property has no slot that is unset. -/
def Configuration.Sound (c : Configuration) : Prop :=
  c.multi = true → none ∉ c.slots

/-- A property of either kind that is sound. -/
def Sound : Property → Prop
  | .binding b => b.Sound
  | .configuration c => c.Sound

theorem Blank.sound {p : Property} (blank : Blank p) : p.Sound := by
  cases blank with
  | binding name =>
      exact ⟨List.nodup_nil, List.forall_mem_nil _, List.nodup_nil, List.forall_mem_nil _, nofun⟩
  | configuration name multi =>
      intro flagged
      rw [Configuration.declare] at flagged ⊢
      rw [Configuration.blankSlots, if_pos flagged]
      exact List.not_mem_nil

theorem Binding.Sound.change {b c : Binding} {call : Binding.Call} (sound : b.Sound)
    (changes : b.change call = .ok c) : c.Sound := by
  cases call with
  | define value =>
      obtain ⟨valid, rfl⟩ := define_ok_iff.1 changes
      refine ⟨FirstSeen.nodup_add sound.distinct, fun other member => ?_,
        FirstSeen.nodup_add sound.allowedDistinct, fun other member => ?_, sound.fallback⟩
      · obtain older | rfl := FirstSeen.mem_add.1 member
        · exact sound.spelled other older
        · exact Identifier.valid_iff.1 valid
      · -- the value was allowed before, or it is the one defined now
        exact FirstSeen.mem_add.2 ((FirstSeen.mem_add.1 member).imp_left (sound.allowedDefined other))
  | restrict values =>
      obtain ⟨defined, rfl⟩ := restrict_ok_iff.1 changes
      exact ⟨sound.distinct, sound.spelled, FirstSeen.nodup_distinct values,
        fun value member => defined value (FirstSeen.mem_distinct.1 member), sound.fallback⟩
  | setFallback value =>
      obtain ⟨valid, rfl⟩ := setFallback_ok_iff.1 changes
      refine ⟨sound.distinct, sound.spelled, sound.allowedDistinct, sound.allowedDefined,
        fun other set => ?_⟩
      rw [← Option.some.inj set]
      exact Identifier.valid_iff.1 valid

theorem Configuration.none_not_mem_overwriteFirst {slots : List (Option String)}
    (filled : none ∉ slots) (value : String) : none ∉ overwriteFirst value slots := by
  cases slots with
  | nil => simp [overwriteFirst]
  | cons first rest =>
      rw [overwriteFirst, List.mem_cons]
      rintro (unset | behind)
      · cases unset
      · exact filled (List.mem_cons_of_mem _ behind)

theorem Configuration.Sound.change {c d : Configuration} {call : Configuration.Call}
    (sound : c.Sound) (changes : c.change call = .ok d) : d.Sound := by
  cases call with
  | append value =>
      obtain ⟨multi, rfl⟩ := append_ok_iff.1 changes
      intro _ unset
      obtain before | last := List.mem_append.1 unset
      · exact sound multi before
      · cases List.mem_singleton.1 last
  | set value =>
      cases changes
      exact fun multi => none_not_mem_overwriteFirst (sound multi) value
  | setAll values =>
      obtain ⟨-, rfl⟩ := setAll_ok_iff.1 changes
      intro _ unset
      obtain ⟨value, -, same⟩ := List.mem_map.1 unset
      cases same
  | clear =>
      cases changes
      intro multi
      have flagged : c.multi = true := multi
      rw [clear, blankSlots, if_pos flagged]
      exact List.not_mem_nil

theorem Sound.changed {p q : Property} (sound : p.Sound) (changed : Changed p q) : q.Sound := by
  cases changed with
  | binding changes => exact Binding.Sound.change sound changes
  | configuration changes => exact Configuration.Sound.change sound changes

/-- A property none of whose slots is unset is read as it is stored. -/
theorem Configuration.slots_eq_of_filled {c : Configuration} (filled : none ∉ c.slots) :
    c.slots = c.values.map some := by
  rw [values]
  generalize c.slots = slots at filled
  induction slots with
  | nil => rfl
  | cons slot rest ih =>
      obtain ⟨set, others⟩ := List.ne_and_not_mem_of_not_mem_cons filled
      cases slot with
      | none => exact absurd rfl set
      | some value => exact congrArg (List.cons (some value)) (ih others)

/-! ## Growing properties -/

/-- What a property keeps: its name and its kind, a binding property the values that are
defined, and a configuration property its flag. -/
inductive Grows : Property → Property → Prop
  | binding {b c : Binding} (name : c.name = b.name) (defined : b.defined <+: c.defined) :
      Grows (.binding b) (.binding c)
  | configuration {c d : Configuration} (name : d.name = c.name) (multi : d.multi = c.multi) :
      Grows (.configuration c) (.configuration d)

theorem Grows.refl : ∀ p : Property, Grows p p
  | .binding _ => .binding rfl (List.prefix_refl _)
  | .configuration _ => .configuration rfl rfl

theorem Grows.trans {p q r : Property} (first : Grows p q) (second : Grows q r) : Grows p r := by
  cases first with
  | binding name defined =>
      cases second with
      | binding name' defined' => exact .binding (name'.trans name) (defined.trans defined')
  | configuration name multi =>
      cases second with
      | configuration name' multi' =>
          exact .configuration (name'.trans name) (multi'.trans multi)

theorem Changed.grows {p q : Property} (changed : Changed p q) : Grows p q := by
  cases changed with
  | binding changes =>
      obtain ⟨name, defined⟩ := Binding.change_keeps changes
      exact .binding name defined
  | configuration changes =>
      obtain ⟨name, multi⟩ := Configuration.change_keeps changes
      exact .configuration name multi

namespace Table

/-! ## Sound tables -/

/-- Names are distinct identifiers, and the properties are sound. -/
structure Sound (t : Table) : Prop where
  distinct : t.names.Nodup
  spelled : ∀ name ∈ t.names, Identifier.Spelled name
  entries : ∀ p ∈ t.entries, p.Sound

theorem sound_empty : Sound {} :=
  ⟨List.nodup_nil, List.forall_mem_nil _, List.forall_mem_nil _⟩

/-- Where names are distinct, every property is found under its own. -/
theorem find?_of_mem {t : Table} (distinct : t.names.Nodup) {p : Property}
    (member : p ∈ t.entries) : t.find? p.name = some p := by
  obtain ⟨entries⟩ := t
  induction entries with
  | nil => cases member
  | cons q rest ih =>
      obtain ⟨single, others⟩ := List.nodup_cons.1 distinct
      rw [find?, List.find?_cons]
      obtain rfl | behind := List.mem_cons.1 member
      · rw [beq_self_eq_true]
      · have different : q.name ≠ p.name := by
          intro same
          exact single (same ▸ List.mem_map_of_mem behind)
        rw [beq_false_of_ne different]
        exact ih others behind

theorem mem_entries_put {t : Table} {p q : Property} (member : q ∈ (t.put p).entries) :
    q = p ∨ q ∈ t.entries := by
  unfold put at member
  split at member
  · obtain ⟨r, there, same⟩ := List.mem_map.1 member
    split at same
    · exact Or.inl same.symm
    · exact Or.inr (same ▸ there)
  · exact (List.mem_append.1 member).symm.imp_left List.mem_singleton.1

theorem Sound.put {t : Table} (sound : t.Sound) {p : Property}
    (spelled : Identifier.Spelled p.name) (entry : p.Sound) : (t.put p).Sound := by
  constructor
  · rw [names_put]
    exact FirstSeen.nodup_add sound.distinct
  · intro name member
    rw [names_put] at member
    obtain older | rfl := FirstSeen.mem_add.1 member
    · exact sound.spelled name older
    · exact spelled
  · intro q member
    obtain rfl | older := mem_entries_put member
    · exact entry
    · exact sound.entries q older

theorem Sound.effect {t u : Table} {e : Edit} (sound : t.Sound) (effect : Effect t e u) :
    u.Sound := by
  cases effect with
  | found declares there => exact sound
  | created declares absent valid blank => exact sound.put (Identifier.valid_iff.1 valid) blank.sound
  | changed changes there changed =>
      exact sound.put (sound.spelled _ (mem_names_of_find? there))
        ((sound.entries _ (mem_of_find? there)).changed changed)

theorem Sound.edited {t : Table} (sound : t.Sound) (e : Edit) : (t.edited e).Sound := by
  obtain effect | ⟨same, -⟩ := t.edited_cases e
  · exact sound.effect effect
  · rw [same]
    exact sound

theorem Sound.editAll {t : Table} (sound : t.Sound) (edits : List Edit) :
    (t.editAll edits).Sound := by
  induction edits generalizing t with
  | nil => exact sound
  | cons e rest ih => exact ih (sound.edited e)

/-! ## Growing tables -/

/-- What stands at a place of a table stands there still, and has grown at most. -/
def Grows (t u : Table) : Prop :=
  ∀ (place : Nat) (p : Property), t.entries[place]? = some p →
    ∃ q, u.entries[place]? = some q ∧ p.Grows q

theorem Grows.refl (t : Table) : Grows t t :=
  fun _ p there => ⟨p, there, Property.Grows.refl p⟩

theorem Grows.trans {t u v : Table} (first : Grows t u) (second : Grows u v) : Grows t v := by
  intro place p there
  obtain ⟨q, next, grows⟩ := first place p there
  obtain ⟨r, last, growsOn⟩ := second place q next
  exact ⟨r, last, grows.trans growsOn⟩

/-- A property put at the end moves nothing. -/
theorem grows_put_of_absent {t : Table} {p : Property} (absent : t.find? p.name = none) :
    Grows t (t.put p) := by
  intro place q there
  refine ⟨q, ?_, Property.Grows.refl q⟩
  rw [put_of_absent absent, append, List.getElem?_append_left, there]
  exact (List.getElem?_eq_some_iff.1 there).1

/-- A property that grew takes the place of the one it was. -/
theorem Sound.grows_put {t : Table} (sound : t.Sound) {p q : Property}
    (there : t.find? q.name = some p) (grows : p.Grows q) : Grows t (t.put q) := by
  intro place r here
  rw [put_of_find? there, replace, List.getElem?_map, here, Option.map_some]
  by_cases same : r.name = q.name
  · -- names are distinct, so this is the one
    have found := find?_of_mem sound.distinct (List.mem_of_getElem? here)
    rw [same, there] at found
    cases found
    exact ⟨q, by rw [if_pos same], grows⟩
  · exact ⟨r, by rw [if_neg same], Property.Grows.refl r⟩

theorem Sound.grows_effect {t u : Table} {e : Edit} (sound : t.Sound) (effect : Effect t e u) :
    Grows t u := by
  cases effect with
  | found declares there => exact Grows.refl t
  | created declares absent valid blank => exact grows_put_of_absent absent
  | changed changes there changed => exact sound.grows_put there changed.grows

theorem Sound.grows_edited {t : Table} (sound : t.Sound) (e : Edit) : Grows t (t.edited e) := by
  obtain effect | ⟨same, -⟩ := t.edited_cases e
  · exact sound.grows_effect effect
  · rw [same]
    exact Grows.refl t

theorem Sound.grows_editAll {t : Table} (sound : t.Sound) (edits : List Edit) :
    Grows t (t.editAll edits) := by
  induction edits generalizing t with
  | nil => exact Grows.refl t
  | cons e rest ih => exact (sound.grows_edited e).trans (ih (sound.edited e))

/-! ## Every table -/

/-- What holds of the table that some edits made of nothing. -/
structure Regular (edits : List Edit) (t : Table) : Prop where
  sound : t.Sound
  /-- a property is found under its name, and under no other -/
  found : ∀ name p, t.find? name = some p ↔ p ∈ t.entries ∧ p.name = name
  /-- properties stand in the order in which they were first declared with success -/
  order : t.names = (declared {} edits).eraseDups
  /-- whatever is done next, nothing is removed, renamed, moved or turned into something else -/
  grows : ∀ later, Grows t (t.editAll later)
  /-- the values of a multi-valued property are read as they are stored -/
  readBack : ∀ c, .configuration c ∈ t.entries → c.multi = true → ∀ selections : Selections,
    (Permutation.source { table := t, selections }).configuration c.name = .ok c.values ∧
      c.slots = c.values.map some

/-- **The invariants of property tables.**  They hold after every run of edits, whichever of
these were refused. -/
theorem regular_editAll (edits : List Edit) : Regular edits (editAll {} edits) := by
  have sound : Sound (editAll {} edits) := sound_empty.editAll edits
  constructor
  · exact sound
  · intro name p
    constructor
    · exact fun there => ⟨mem_of_find? there, name_of_find? there⟩
    · rintro ⟨member, rfl⟩
      exact find?_of_mem sound.distinct member
  · rw [names_editAll, ← FirstSeen.distinct_eq_eraseDups]
    rfl
  · exact sound.grows_editAll
  · intro c member multi selections
    have there : (editAll {} edits).find? c.name = some (.configuration c) :=
      find?_of_mem sound.distinct member
    refine ⟨?_, Configuration.slots_eq_of_filled (sound.entries _ member multi)⟩
    show ((editAll {} edits).getConfiguration c.name).map (fun d => d.values) = .ok c.values
    rw [getConfiguration_ok_iff.2 there]
    rfl

/-! ## Edits some of which are refused -/

namespace Example

/-- Two properties are declared, one of them twice; three edits in between are refused. -/
def edits : List Edit :=
  [.declareBinding "user.agent",
    .changeBinding "user.agent" (.define "safari"),
    .changeBinding "user.agent" (.restrict ["safari", "ie9"]),
    .declareConfiguration "user.agent" true,
    .declareConfiguration "9.css" true,
    .declareConfiguration "extra.css" true,
    .changeConfiguration "extra.css" .clear,
    .changeConfiguration "extra.css" (.set "a.css"),
    .changeConfiguration "extra.css" (.append "b.css"),
    .declareBinding "user.agent"]

theorem two_properties_stand :
    (editAll {} edits).names = ["user.agent", "extra.css"] ∧
      declared {} edits = ["user.agent", "extra.css", "user.agent"] ∧
      ∀ selections : Selections,
        (Permutation.source { table := editAll {} edits, selections }).configuration "extra.css" =
          .ok ["a.css", "b.css"] := by
  have regular := regular_editAll edits
  refine ⟨regular.order.trans (by decide), by decide, fun selections => ?_⟩
  exact (regular.readBack
    { name := "extra.css", multi := true, slots := [some "a.css", some "b.css"] }
    (by decide) rfl selections).1

end Example

end Table

end DeferredBinding.Property
