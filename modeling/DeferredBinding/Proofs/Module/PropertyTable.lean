/-
# Proofs.Module.PropertyTable -- the properties of a module, name by name

What a module knows of a name depends on the declarations and directives of that name
only, and `boundBy` and `configuredBy` say how, without going through them one by one:
values are joined, and of what can be said once only the last word counts.

`Tracks` compares a table with the declarations and directives carried out so far.  One
declaration more keeps it (`Tracks.declare`), and so does one directive more
(`Tracks.adjust`); a module is made by a run of the one kind and then a run of the other.
-/
import DeferredBinding.Proofs.Module.Building
import DeferredBinding.Proofs.Property.Changes

namespace DeferredBinding

set_option autoImplicit false

namespace Manifest

/-! ## What is said of a name -/

def PropertyEntry.kind : PropertyEntry → Property.Kind
  | .binding _ _ _ => .binding
  | .configuration _ _ _ => .configuration

def PropertyEntry.values : PropertyEntry → List String
  | .binding _ values _ => values
  | .configuration _ _ values => values

def PropertyEntry.multi : PropertyEntry → Bool
  | .binding _ _ _ => false
  | .configuration _ multi _ => multi

def PropertyEntry.fallback? : PropertyEntry → Option String
  | .binding _ _ fallback => fallback
  | .configuration _ _ _ => none

def Directive.restriction? : Directive → Option (List String)
  | .restrict _ values => some values
  | _ => none

def Directive.fallback? : Directive → Option String
  | .setFallback _ value => some value
  | _ => none

/-- What a directive leaves in the slot of a single-valued property. -/
def Directive.slot? : Directive → Option (Option String)
  | .set _ value => some (some value)
  | .clear _ => some none
  | _ => none

/-- What a directive makes of the values of a multi-valued property. -/
def Directive.effect (values : List String) : Directive → List String
  | .set _ value => value :: values.tail
  | .append _ value => values ++ [value]
  | .clear _ => []
  | _ => values

/-- Those of a list that are about a name. -/
def about {α : Type} (nameOf : α → String) (name : String) (xs : List α) : List α :=
  xs.filter fun x => nameOf x == name

/-- The last thing that is read off a list. -/
def lastOf {α β : Type} (read : α → Option β) (xs : List α) : Option β :=
  (xs.filterMap read).getLast?

section

variable {α β : Type} {nameOf : α → String} {name : String}

theorem mem_about_iff {x : α} {xs : List α} :
    x ∈ about nameOf name xs ↔ x ∈ xs ∧ nameOf x = name := by
  rw [about, List.mem_filter, beq_iff_eq]

theorem about_concat_same {x : α} (same : nameOf x = name) (xs : List α) :
    about nameOf name (xs ++ [x]) = about nameOf name xs ++ [x] := by
  simp [about, same]

theorem about_concat_other {x : α} (other : nameOf x ≠ name) (xs : List α) :
    about nameOf name (xs ++ [x]) = about nameOf name xs := by
  simp [about, other]

theorem lastOf_concat (read : α → Option β) (xs : List α) (x : α) :
    lastOf read (xs ++ [x]) = (read x).or (lastOf read xs) := by
  rw [lastOf, lastOf, List.filterMap_append]
  cases said : read x with
  | none => simp [said]
  | some y => simp [said]

end

/-! ## What it amounts to -/

section

variable (name : String) (entries : List PropertyEntry) (directives : List Directive)

/-- The binding property that its declarations and directives amount to: all values once,
in the order of first mention; of restrictions and of fallbacks the last counts, and a
directive before a declaration. -/
def boundBy : Property.Binding :=
  { name
    defined := (entries.flatMap PropertyEntry.values).eraseDups
    allowed := ((lastOf Directive.restriction? directives).getD
      (entries.flatMap PropertyEntry.values)).eraseDups
    fallback := (lastOf Directive.fallback? directives).or
      (lastOf PropertyEntry.fallback? entries) }

/-- The slots of a configuration property that its declarations and directives amount to. -/
def slotsBy (multi : Bool) : List (Option String) :=
  if multi then (directives.foldl Directive.effect (entries.flatMap PropertyEntry.values)).map some
  else [(lastOf Directive.slot? directives).getD
    (lastOf (fun entry => entry.values.head?) entries)]

/-- The configuration property that its declarations and directives amount to, the first
declaration saying whether it is multi-valued. -/
def configuredBy : Property.Configuration :=
  { name
    multi := entries.head?.any PropertyEntry.multi
    slots := slotsBy entries directives (entries.head?.any PropertyEntry.multi) }

end

/-- The property of the kind of an entry that declarations and directives amount to. -/
def PropertyEntry.settled (entry : PropertyEntry) (entries : List PropertyEntry)
    (directives : List Directive) : Property :=
  match entry.kind with
  | .binding => .binding (boundBy entry.name entries directives)
  | .configuration => .configuration (configuredBy entry.name entries directives)

theorem PropertyEntry.settled_kind (entry : PropertyEntry) (entries : List PropertyEntry)
    (directives : List Directive) : (entry.settled entries directives).kind = entry.kind := by
  cases entry <;> rfl

theorem PropertyEntry.settled_congr {e f : PropertyEntry} (name : e.name = f.name)
    (kind : e.kind = f.kind) : e.settled = f.settled := by
  funext entries directives
  rw [settled, settled, name, kind]

theorem flatMap_values_concat (entries : List PropertyEntry) (entry : PropertyEntry) :
    (entries ++ [entry]).flatMap PropertyEntry.values =
      entries.flatMap PropertyEntry.values ++ entry.values := by
  rw [List.flatMap_append, List.flatMap_singleton]

end Manifest

namespace Module

open Manifest Attempt

/-! ## One declaration more -/

/-- What a declaration with some values makes of a configuration property. -/
inductive Extended (c : Property.Configuration) : List String → Property.Configuration → Prop
  | appended (multi : c.multi = true) (values : List String) :
      Extended c values { c with slots := c.slots ++ values.map some }
  | untouched (single : c.multi = false) : Extended c [] c
  | overwritten (single : c.multi = false) (value : String) :
      Extended c [value] { c with slots := [some value] }

/-- What a declaration puts under its name, where `before` was there. -/
def Declared (before : Option Property) : PropertyEntry → Property → Prop
  | .binding name values fallback, after =>
      ∃ b, (before = some (.binding b) ∨ before = none ∧ b = { name }) ∧
        after = .binding
          { b with
            defined := FirstSeen.addAll b.defined values
            allowed := FirstSeen.addAll b.allowed values
            fallback := fallback.or b.fallback }
  | .configuration name multi values, after =>
      ∃ c d, (before = some (.configuration c) ∨
          before = none ∧ c = Property.Configuration.declare name multi) ∧
        Extended c values d ∧ after = .configuration d

theorem defineAll_setFallback_ok {b c : Property.Binding} {values : List String}
    {fallback : Option String}
    (changed : (b.defineAll values).bind (fun defined =>
      match fallback with
      | some value => defined.setFallback value
      | none => pure defined) = .ok c) :
    c = { b with
      defined := FirstSeen.addAll b.defined values
      allowed := FirstSeen.addAll b.allowed values
      fallback := fallback.or b.fallback } := by
  obtain ⟨defined, defines, sets⟩ := bind_ok_iff.1 changed
  obtain ⟨-, rfl⟩ := Property.Binding.defineAll_ok_iff.1 defines
  cases fallback with
  | none =>
      cases sets
      rfl
  | some value =>
      obtain ⟨-, rfl⟩ := Property.Binding.setFallback_ok_iff.1 sets
      rfl

theorem extended_of_ok {c d : Property.Configuration} {values : List String}
    (changed : (if c.multi then c.appendAll values
      else if values.isEmpty then pure c
      else c.setAll values) = .ok d) : Extended c values d := by
  by_cases multi : c.multi = true
  · rw [if_pos multi] at changed
    rw [(Property.Configuration.appendAll_ok_iff multi).1 changed]
    exact .appended multi values
  · rw [if_neg multi] at changed
    have single : c.multi = false := Bool.eq_false_iff.2 multi
    match values with
    | [] =>
        cases changed
        exact .untouched single
    | value :: rest =>
        obtain ⟨few, rfl⟩ := Property.Configuration.setAll_ok_iff.1 changed
        match rest with
        | [] => exact .overwritten single value
        | _ :: _ => simp [single] at few

theorem Extended.name {c d : Property.Configuration} {values : List String}
    (extended : Extended c values d) : d.name = c.name := by
  cases extended <;> rfl

/-- A declaration that is accepted puts one property under its name. -/
theorem declare_ok {t u : Property.Table} {entry : PropertyEntry}
    (ok : declare t entry = .ok u) :
    ∃ p, Declared (t.find? entry.name) entry p ∧ p.name = entry.name ∧ u = t.put p := by
  cases entry with
  | binding name values fallback =>
      obtain ⟨declared, declares, changed⟩ := bind_ok_iff.1 ok
      obtain ⟨b, c, start, change, named, same⟩ :=
        Property.Table.put_of_declareBinding
          (fun b c change => by rw [defineAll_setFallback_ok change]) declares changed
      exact ⟨.binding c, ⟨b, start, congrArg _ (defineAll_setFallback_ok change)⟩, named, same⟩
  | configuration name multi values =>
      obtain ⟨declared, declares, changed⟩ := bind_ok_iff.1 ok
      obtain ⟨c, d, start, change, named, same⟩ :=
        Property.Table.put_of_declareConfiguration
          (fun c d change => (extended_of_ok change).name) declares changed
      exact ⟨.configuration d, ⟨c, d, start, extended_of_ok change, rfl⟩, named, same⟩

/-- A name keeps its kind. -/
theorem Declared.kind_before {before p : Property} {entry : PropertyEntry}
    (declared : Declared (some before) entry p) : before.kind = entry.kind := by
  cases entry with
  | binding name values fallback =>
      obtain ⟨b, there | ⟨absent, -⟩, -⟩ := declared
      · rw [Option.some.inj there]
        rfl
      · cases absent
  | configuration name multi values =>
      obtain ⟨c, d, there | ⟨absent, -⟩, -⟩ := declared
      · rw [Option.some.inj there]
        rfl
      · cases absent

theorem boundBy_declare (name : String) (entries : List PropertyEntry) (n : String)
    (values : List String) (fallback : Option String) :
    boundBy name (entries ++ [.binding n values fallback]) [] =
      { boundBy name entries [] with
        defined := FirstSeen.addAll (boundBy name entries []).defined values
        allowed := FirstSeen.addAll (boundBy name entries []).allowed values
        fallback := fallback.or (boundBy name entries []).fallback } := by
  simp only [boundBy, flatMap_values_concat, lastOf_concat, FirstSeen.addAll_eraseDups,
    PropertyEntry.values, PropertyEntry.fallback?]
  rfl

theorem slotsBy_declare_multi (entries : List PropertyEntry) (entry : PropertyEntry) :
    slotsBy (entries ++ [entry]) [] true =
      slotsBy entries [] true ++ entry.values.map some := by
  rw [slotsBy, slotsBy, if_pos rfl, if_pos rfl, flatMap_values_concat]
  exact List.map_append

theorem slotsBy_declare_single (entries : List PropertyEntry) (entry : PropertyEntry) :
    slotsBy (entries ++ [entry]) [] false =
      match entry.values.head? with
      | some value => [some value]
      | none => slotsBy entries [] false := by
  rw [slotsBy, slotsBy, if_neg Bool.false_ne_true, if_neg Bool.false_ne_true, lastOf_concat]
  cases entry.values.head? with
  | none => rfl
  | some value => rfl

/-- Whether a name is multi-valued is settled once it is declared. -/
theorem flag_concat {entries : List PropertyEntry} (declared : entries ≠ [])
    (entry : PropertyEntry) :
    (entries ++ [entry]).head?.any PropertyEntry.multi =
      entries.head?.any PropertyEntry.multi := by
  cases entries with
  | nil => exact absurd rfl declared
  | cons first rest => rfl

theorem Extended.eq_configuredBy {c d : Property.Configuration} {name : String}
    (entries : List PropertyEntry) (entry : PropertyEntry)
    (extended : Extended c entry.values d) (named : c.name = name)
    (flag : c.multi = (entries ++ [entry]).head?.any PropertyEntry.multi)
    (slots : c.slots = slotsBy entries [] c.multi) :
    d = configuredBy name (entries ++ [entry]) [] := by
  rw [configuredBy, ← flag]
  generalize said : entry.values = values at extended
  cases extended with
  | appended multi values => rw [named, slots, multi, slotsBy_declare_multi, said]
  | untouched single =>
      have kept : slotsBy (entries ++ [entry]) [] c.multi = c.slots := by
        rw [slots, single, slotsBy_declare_single, said]
        rfl
      rw [kept, ← named]
  | overwritten single value =>
      rw [named, single, slotsBy_declare_single, said]
      rfl

/-- The first declaration of a name. -/
theorem Declared.first {entry : PropertyEntry} {p : Property}
    (declared : Declared none entry p) : p = entry.settled [entry] [] := by
  cases entry with
  | binding name values fallback =>
      obtain ⟨b, there | ⟨-, rfl⟩, rfl⟩ := declared
      · cases there
      · exact congrArg Property.binding (boundBy_declare name [] name values fallback).symm
  | configuration name multi values =>
      obtain ⟨c, d, there | ⟨-, rfl⟩, extended, rfl⟩ := declared
      · cases there
      · have blank : Property.Configuration.blankSlots multi = slotsBy [] [] multi := by
          cases multi <;> rfl
        exact congrArg Property.configuration
          (extended.eq_configuredBy [] (.configuration name multi values) rfl rfl blank)

/-- One declaration more of a name. -/
theorem Declared.again {entry : PropertyEntry} {p : Property} {entries : List PropertyEntry}
    (before : entries ≠ []) (declared : Declared (some (entry.settled entries [])) entry p) :
    p = entry.settled (entries ++ [entry]) [] := by
  cases entry with
  | binding name values fallback =>
      obtain ⟨b, there | ⟨absent, -⟩, rfl⟩ := declared
      · cases there
        exact congrArg Property.binding (boundBy_declare name entries name values fallback).symm
      · cases absent
  | configuration name multi values =>
      obtain ⟨c, d, there | ⟨absent, -⟩, extended, rfl⟩ := declared
      · cases there
        exact congrArg Property.configuration
          (extended.eq_configuredBy entries (.configuration name multi values) rfl
            (flag_concat before _).symm rfl)
      · cases absent

/-! ## One directive more -/

/-- What a directive makes of the property of its name. -/
inductive Adjusted : Property → Directive → Property → Prop
  | restrict (b : Property.Binding) (name : String) (values : List String) :
      Adjusted (.binding b) (.restrict name values)
        (.binding { b with allowed := FirstSeen.distinct values })
  | setFallback (b : Property.Binding) (name value : String) :
      Adjusted (.binding b) (.setFallback name value)
        (.binding { b with fallback := some value })
  | set (c : Property.Configuration) (name value : String) :
      Adjusted (.configuration c) (.set name value) (.configuration (c.set value))
  | append {c : Property.Configuration} (multi : c.multi = true) (name value : String) :
      Adjusted (.configuration c) (.append name value)
        (.configuration { c with slots := c.slots ++ [some value] })
  | clear (c : Property.Configuration) (name : String) :
      Adjusted (.configuration c) (.clear name) (.configuration c.clear)

/-- A directive that is accepted changes the property of its name. -/
theorem adjust_ok {t u : Property.Table} {directive : Directive}
    (ok : adjust t directive = .ok u) :
    ∃ p q, t.find? directive.name = some p ∧ Adjusted p directive q ∧
      q.name = directive.name ∧ u = t.put q := by
  cases directive with
  | restrict name values =>
      obtain ⟨b, c, found, change, named, same⟩ := Property.Table.put_of_modifyBinding
        (fun b c change => by rw [(Property.Binding.restrict_ok_iff.1 change).2]) ok
      obtain ⟨-, rfl⟩ := Property.Binding.restrict_ok_iff.1 change
      exact ⟨_, _, found, .restrict b name values, named, same⟩
  | setFallback name value =>
      obtain ⟨b, c, found, change, named, same⟩ := Property.Table.put_of_modifyBinding
        (fun b c change => by rw [(Property.Binding.setFallback_ok_iff.1 change).2]) ok
      obtain ⟨-, rfl⟩ := Property.Binding.setFallback_ok_iff.1 change
      exact ⟨_, _, found, .setFallback b name value, named, same⟩
  | set name value =>
      obtain ⟨c, d, found, change, named, same⟩ := Property.Table.put_of_modifyConfiguration
        (fun c d change => by rw [← Except.ok.inj change, Property.Configuration.set_name]) ok
      cases change
      exact ⟨_, _, found, .set c name value, named, same⟩
  | append name value =>
      obtain ⟨c, d, found, change, named, same⟩ := Property.Table.put_of_modifyConfiguration
        (fun c d change => by rw [(Property.Configuration.append_ok_iff.1 change).2]) ok
      obtain ⟨multi, rfl⟩ := Property.Configuration.append_ok_iff.1 change
      exact ⟨_, _, found, .append multi name value, named, same⟩
  | clear name =>
      obtain ⟨c, d, found, change, named, same⟩ := Property.Table.put_of_modifyConfiguration
        (fun c d change => by rw [← Except.ok.inj change, Property.Configuration.clear_name]) ok
      cases change
      exact ⟨_, _, found, .clear c name, named, same⟩

section

variable (name : String) (entries : List PropertyEntry) (directives : List Directive)

theorem boundBy_restrict (n : String) (values : List String) :
    boundBy name entries (directives ++ [.restrict n values]) =
      { boundBy name entries directives with allowed := FirstSeen.distinct values } := by
  simp only [boundBy, lastOf_concat, Directive.restriction?, Directive.fallback?,
    Option.none_or, Option.some_or, Option.getD_some, FirstSeen.distinct_eq_eraseDups]

theorem boundBy_setFallback (n value : String) :
    boundBy name entries (directives ++ [.setFallback n value]) =
      { boundBy name entries directives with fallback := some value } := by
  simp only [boundBy, lastOf_concat, Directive.restriction?, Directive.fallback?,
    Option.none_or, Option.some_or]

theorem slotsBy_concat_multi (directive : Directive) :
    slotsBy entries (directives ++ [directive]) true =
      (Directive.effect (directives.foldl Directive.effect
        (entries.flatMap PropertyEntry.values)) directive).map some := by
  rw [slotsBy, if_pos rfl, List.foldl_append]
  rfl

theorem slotsBy_concat_single (directive : Directive) :
    slotsBy entries (directives ++ [directive]) false =
      match directive.slot? with
      | some slot => [slot]
      | none => slotsBy entries directives false := by
  rw [slotsBy, slotsBy, if_neg Bool.false_ne_true, if_neg Bool.false_ne_true, lastOf_concat]
  cases directive.slot? with
  | none => rfl
  | some slot => rfl

theorem slotsBy_set (multi : Bool) (n value : String) :
    slotsBy entries (directives ++ [.set n value]) multi =
      Property.Configuration.overwriteFirst value (slotsBy entries directives multi) := by
  cases multi with
  | true =>
      rw [slotsBy_concat_multi, slotsBy, if_pos rfl]
      cases directives.foldl Directive.effect (entries.flatMap PropertyEntry.values) with
      | nil => rfl
      | cons first rest => rfl
  | false =>
      rw [slotsBy_concat_single, slotsBy, if_neg Bool.false_ne_true]
      rfl

theorem slotsBy_append (n value : String) :
    slotsBy entries (directives ++ [.append n value]) true =
      slotsBy entries directives true ++ [some value] := by
  rw [slotsBy_concat_multi, slotsBy, if_pos rfl, Directive.effect, List.map_append]
  rfl

theorem slotsBy_clear (multi : Bool) (n : String) :
    slotsBy entries (directives ++ [.clear n]) multi =
      Property.Configuration.blankSlots multi := by
  cases multi with
  | true =>
      rw [slotsBy_concat_multi]
      rfl
  | false =>
      rw [slotsBy_concat_single]
      rfl

theorem configuredBy_set (n value : String) :
    configuredBy name entries (directives ++ [.set n value]) =
      (configuredBy name entries directives).set value := by
  rw [configuredBy, slotsBy_set]
  rfl

theorem configuredBy_append (multi : (configuredBy name entries directives).multi = true)
    (n value : String) :
    configuredBy name entries (directives ++ [.append n value]) =
      { configuredBy name entries directives with
        slots := (configuredBy name entries directives).slots ++ [some value] } := by
  have flag : entries.head?.any PropertyEntry.multi = true := multi
  rw [configuredBy, configuredBy, flag, slotsBy_append]

theorem configuredBy_clear (n : String) :
    configuredBy name entries (directives ++ [.clear n]) =
      (configuredBy name entries directives).clear := by
  rw [configuredBy, slotsBy_clear]
  rfl

end

/-- One directive more for a name. -/
theorem Adjusted.again {entry : PropertyEntry} {p q : Property} {entries : List PropertyEntry}
    {directives : List Directive} {directive : Directive} (adjusted : Adjusted p directive q)
    (known : p = entry.settled entries directives) :
    q = entry.settled entries (directives ++ [directive]) := by
  cases entry with
  | binding name values fallback =>
      change p = .binding (boundBy name entries directives) at known
      change q = .binding (boundBy name entries (directives ++ [directive]))
      cases adjusted with
      | restrict b n restriction =>
          cases known
          rw [boundBy_restrict]
      | setFallback b n value =>
          cases known
          rw [boundBy_setFallback]
      | set c n value => cases known
      | append multi n value => cases known
      | clear c n => cases known
  | configuration name multi values =>
      change p = .configuration (configuredBy name entries directives) at known
      change q = .configuration (configuredBy name entries (directives ++ [directive]))
      cases adjusted with
      | restrict b n restriction => cases known
      | setFallback b n value => cases known
      | set c n value =>
          cases known
          rw [configuredBy_set]
      | append multi n value =>
          cases known
          rw [configuredBy_append name entries directives multi]
      | clear c n =>
          cases known
          rw [configuredBy_clear]

/-! ## All of them -/

/-- A table is what some declarations and then some directives amount to. -/
structure Tracks (entries : List PropertyEntry) (directives : List Directive)
    (t : Property.Table) : Prop where
  names : t.names = (entries.map PropertyEntry.name).eraseDups
  found : ∀ entry ∈ entries, t.find? entry.name =
    some (entry.settled (about PropertyEntry.name entry.name entries)
      (about Directive.name entry.name directives))

theorem tracks_nil : Tracks [] [] {} :=
  ⟨rfl, fun _ member => absurd member List.not_mem_nil⟩

/-- A name was not declared yet, or it stands for what its declarations amount to. -/
theorem Tracks.find?_cases {entries : List PropertyEntry} {directives : List Directive}
    {t : Property.Table} (tracks : Tracks entries directives t) (name : String) :
    (t.find? name = none ∧ about PropertyEntry.name name entries = []) ∨
      ∃ entry ∈ entries, entry.name = name ∧
        t.find? name = some (entry.settled (about PropertyEntry.name name entries)
          (about Directive.name name directives)) := by
  cases first : about PropertyEntry.name name entries with
  | nil =>
      refine Or.inl ⟨?_, rfl⟩
      rw [Property.Table.find?_eq_none_iff, tracks.names, List.mem_eraseDups, List.mem_map]
      rintro ⟨entry, member, rfl⟩
      have listed : entry ∈ about PropertyEntry.name entry.name entries :=
        mem_about_iff.2 ⟨member, rfl⟩
      rw [first] at listed
      cases listed
  | cons entry rest =>
      have listed : entry ∈ about PropertyEntry.name name entries := by
        rw [first]
        exact List.mem_cons_self
      obtain ⟨member, rfl⟩ := mem_about_iff.1 listed
      refine Or.inr ⟨entry, member, rfl, ?_⟩
      rw [tracks.found entry member, first]

theorem Tracks.kind_eq {entries : List PropertyEntry} {directives : List Directive}
    {t : Property.Table} {entry other : PropertyEntry} {p : Property}
    (tracks : Tracks entries directives t)
    (declared : Declared (t.find? entry.name) entry p) (member : other ∈ entries)
    (same : other.name = entry.name) : other.kind = entry.kind := by
  have there := tracks.found other member
  rw [same] at there
  rw [there] at declared
  rw [← declared.kind_before, PropertyEntry.settled_kind]

/-- What a declaration puts under its name is what all declarations of the name so far
amount to. -/
theorem Tracks.eq_settled {entries : List PropertyEntry} {t : Property.Table}
    {entry : PropertyEntry} {p : Property} (tracks : Tracks entries [] t)
    (declared : Declared (t.find? entry.name) entry p) :
    p = entry.settled (about PropertyEntry.name entry.name (entries ++ [entry])) [] := by
  rw [about_concat_same rfl]
  obtain ⟨absent, new⟩ | ⟨other, member, same, there⟩ := tracks.find?_cases entry.name
  · rw [absent] at declared
    rw [new]
    exact declared.first
  · have kind := tracks.kind_eq declared member same
    rw [there, PropertyEntry.settled_congr same kind] at declared
    exact declared.again (List.ne_nil_of_mem (mem_about_iff.2 ⟨member, same⟩))

theorem Tracks.declare {entries : List PropertyEntry} {t u : Property.Table}
    {entry : PropertyEntry} (tracks : Tracks entries [] t) (ok : declare t entry = .ok u) :
    Tracks (entries ++ [entry]) [] u := by
  obtain ⟨p, declared, named, rfl⟩ := declare_ok ok
  constructor
  · rw [Property.Table.names_put, named, tracks.names, List.map_append, List.map_singleton,
      ← FirstSeen.addAll_eraseDups]
    rfl
  · intro other member
    rw [Property.Table.find?_put, named]
    have listed : other ∈ entries ∨ other = entry := by
      simpa only [List.mem_append, List.mem_singleton] using member
    by_cases same : other.name = entry.name
    · have kind : other.kind = entry.kind := by
        obtain before | rfl := listed
        · exact tracks.kind_eq declared before same
        · rfl
      rw [if_pos same, tracks.eq_settled declared, PropertyEntry.settled_congr same kind, same]
      rfl
    · rw [if_neg same, about_concat_other (Ne.symm same)]
      obtain before | rfl := listed
      · exact tracks.found other before
      · exact absurd rfl same

theorem Tracks.adjust {entries : List PropertyEntry} {directives : List Directive}
    {t u : Property.Table} {directive : Directive} (tracks : Tracks entries directives t)
    (ok : adjust t directive = .ok u) : Tracks entries (directives ++ [directive]) u := by
  obtain ⟨p, q, there, adjusted, named, rfl⟩ := adjust_ok ok
  constructor
  · have listed : directive.name ∈ t.names := Property.Table.mem_names_of_find? there
    rw [Property.Table.names_put, named, FirstSeen.add_of_mem listed, tracks.names]
  · intro entry member
    rw [Property.Table.find?_put, named]
    have found := tracks.found entry member
    by_cases same : entry.name = directive.name
    · rw [same, there, Option.some.injEq] at found
      rw [if_pos same, same, about_concat_same rfl, adjusted.again found]
    · rw [if_neg same, about_concat_other (Ne.symm same), found]

theorem tracks_declarations {entries : List PropertyEntry} {t : Property.Table}
    (ok : entries.foldlM Module.declare {} = .ok t) : Tracks entries [] t :=
  foldlM_ok (fun done t => Tracks done [] t)
    (fun _ _ _ _ tracks step => tracks.declare step) tracks_nil ok

theorem tracks_propertyTable {manifest : Manifest} {t : Property.Table}
    (ok : propertyTable manifest = .ok t) :
    Tracks manifest.properties manifest.directives t := by
  obtain ⟨declared, declares, adjusts⟩ := bind_ok_iff.1 ok
  exact foldlM_ok (fun done t => Tracks manifest.properties done t)
    (fun _ _ _ _ tracks step => tracks.adjust step) (tracks_declarations declares)
    adjusts

/-- The binding property a manifest asks for under a name. -/
def bindingFor (manifest : Manifest) (name : String) : Property.Binding :=
  boundBy name (about PropertyEntry.name name manifest.properties)
    (about Directive.name name manifest.directives)

def configurationFor (manifest : Manifest) (name : String) : Property.Configuration :=
  configuredBy name (about PropertyEntry.name name manifest.properties)
    (about Directive.name name manifest.directives)

/-- **A module has the properties its manifest asks for.**  Each declared name is there once,
in the order of first declaration, and stands for what the declarations and directives of
that name amount to, whatever is said of other names in between. -/
theorem build_properties {manifest : Manifest} {m : Module} (ok : build manifest = .ok m) :
    m.properties.names = (manifest.properties.map PropertyEntry.name).eraseDups ∧
      m.properties.names.Nodup ∧
      (∀ name values fallback, .binding name values fallback ∈ manifest.properties →
        m.properties.find? name = some (.binding (bindingFor manifest name))) ∧
      ∀ name multi values, .configuration name multi values ∈ manifest.properties →
        m.properties.find? name = some (.configuration (configurationFor manifest name)) := by
  obtain ⟨-, table, settled, -, rfl⟩ := build_ok_iff.1 ok
  have tracks := tracks_propertyTable settled
  refine ⟨tracks.names, ?_, ?_, ?_⟩
  · show table.names.Nodup
    rw [tracks.names, ← FirstSeen.distinct_eq_eraseDups]
    exact FirstSeen.nodup_distinct _
  · intro name values fallback member
    exact tracks.found _ member
  · intro name multi values member
    exact tracks.found _ member

/-! ## Two properties declared and adjusted in turns -/

namespace Example

/-- Both names are declared twice, and adjusted in turns. -/
def layered : Manifest :=
  { name := "a.Layered"
    properties :=
      [.binding "locale" ["en", "fr"] (some "en"), .configuration "style" true ["plain"],
        .binding "locale" ["fr", "de"] none, .configuration "style" false ["bold"]]
    directives :=
      [.restrict "locale" ["en"], .set "style" "slim", .restrict "locale" ["de", "fr", "de"],
        .append "style" "tall", .setFallback "locale" "fr"] }

def layeredTable : Property.Table :=
  { entries :=
      [.binding
          { name := "locale", defined := ["en", "fr", "de"], allowed := ["de", "fr"]
            fallback := some "fr" },
        .configuration
          { name := "style", multi := true
            slots := [some "slim", some "bold", some "tall"] }] }

theorem build_layered : build layered = .ok (made layered layeredTable) := rfl

theorem layered_properties :
    build layered = .ok (made layered layeredTable) ∧
      layeredTable.names = ["locale", "style"] ∧
      layeredTable.find? "locale" = some (.binding (bindingFor layered "locale")) ∧
      layeredTable.find? "style" = some (.configuration (configurationFor layered "style")) := by
  obtain ⟨names, -, bindings, configurations⟩ := build_properties build_layered
  refine ⟨build_layered, names.trans (by decide), ?_, ?_⟩
  · exact bindings "locale" ["en", "fr"] (some "en") (by decide)
  · exact configurations "style" true ["plain"] (by decide)

end Example

end Module

end DeferredBinding
