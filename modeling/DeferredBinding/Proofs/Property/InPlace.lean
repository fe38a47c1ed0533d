/-
# Proofs.Property.InPlace -- operations on a property where it stands

A table is worked on through references into it.  Such a call tests and writes step by step,
and what it has written stays written when a later test refuses it (`InPlace`).  The calls are
spelled out here in that way, in the order of their tests and writes, and a call on a property
of a table writes into that table (`within`).

Each of them does what the operation of the same name says, and where that is refused it has
written nothing: what it leaves is `settled`.  For a single property this holds of every call
(`Binding.Call.inPlace_on`, `Configuration.Call.inPlace_on`); for a table it takes that names
are distinct, since a reference must lead to one property only (`Edit.inPlace_on`).  So it
holds of every table that edits make (`workAll_settled`).
-/
import DeferredBinding.Proofs.Property.Invariants

namespace DeferredBinding.Property

set_option autoImplicit false

/-- A program that works on a store in place.  Being refused takes back nothing. -/
abbrev InPlace (σ α : Type) : Type :=
  ExceptT Error (StateM σ) α

namespace InPlace

variable {σ α β : Type}

/-- What a program answers when it is run on a store, and what it makes of the store. -/
def on (program : InPlace σ α) (store : σ) : Except Error α × σ :=
  program.run.run store

theorem on_pure (a : α) (s : σ) : on (pure a) s = (.ok a, s) := rfl

theorem on_throw (e : Error) (s : σ) : on (throw e : InPlace σ α) s = (.error e, s) := rfl

theorem on_get_bind (next : σ → InPlace σ β) (s : σ) : on (get >>= next) s = on (next s) s := rfl

theorem on_bind_ok {program : InPlace σ α} {s t : σ} {a : α} (ends : on program s = (.ok a, t))
    (next : α → InPlace σ β) : on (program >>= next) s = on (next a) t := by
  show (ExceptT.bindCont next (on program s).1).run (on program s).2 = _
  rw [ends]
  rfl

theorem on_bind_error {program : InPlace σ α} {s t : σ} {e : Error}
    (ends : on program s = (.error e, t)) (next : α → InPlace σ β) :
    on (program >>= next) s = (.error e, t) := by
  show (ExceptT.bindCont next (on program s).1).run (on program s).2 = _
  rw [ends]
  rfl

end InPlace

/-- What an operation leaves that is made or refused as a whole. -/
def settled {σ : Type} (s : σ) (operation : Except Error σ) : Except Error Unit × σ :=
  match operation with
  | .ok t => (.ok (), t)
  | .error e => (.error e, s)

/-! ## One property -/

/-- Take `value` up among values to be allowed, if it is defined. -/
def Binding.takeUp (taken : List String) (value : String) : InPlace Binding (List String) := do
  let b ← get
  if value ∈ b.defined then pure (FirstSeen.add taken value)
  else throw (.undefinedValue b.name value)

/-- A call on a binding property, step by step. -/
def Binding.Call.inPlace : Binding.Call → InPlace Binding Unit
  | .define value =>
      if Identifier.valid value then do
        modify fun b => { b with defined := FirstSeen.add b.defined value }
        modify fun b => { b with allowed := FirstSeen.add b.allowed value }
      else throw (.invalidName value)
  | .restrict values => do
      let taken ← values.foldlM Binding.takeUp []
      modify fun b => { b with allowed := taken }
  | .setFallback value =>
      if Identifier.valid value then modify fun b => { b with fallback := some value }
      else throw (.invalidName value)

def Configuration.Call.inPlace : Configuration.Call → InPlace Configuration Unit
  | .append value => do
      let c ← get
      if c.multi then modify fun c => { c with slots := c.slots ++ [some value] }
      else throw (.notMultiValued c.name)
  | .set value => modify fun c => { c with slots := overwriteFirst value c.slots }
  | .setAll values => do
      let c ← get
      if !c.multi && decide (1 < values.length) then throw (.tooManyValues c.name values.length)
      else modify fun c => { c with slots := values.map some }
  | .clear => do
      modify fun c => { c with slots := [] }
      let c ← get
      if c.multi then pure () else modify fun c => { c with slots := c.slots ++ [none] }

/-- The values are taken up as long as they are defined; the property is only looked at. -/
theorem Binding.foldlM_takeUp_on (values taken : List String) (b : Binding) :
    (values.foldlM takeUp taken).on b =
      match values.find? fun value => decide (value ∉ b.defined) with
      | some value => (.error (.undefinedValue b.name value), b)
      | none => (.ok (FirstSeen.addAll taken values), b) := by
  induction values generalizing taken with
  | nil => rfl
  | cons value rest ih =>
      rw [List.foldlM_cons]
      by_cases defined : value ∈ b.defined
      · have takes : (takeUp taken value).on b = (.ok (FirstSeen.add taken value), b) := by
          rw [takeUp, InPlace.on_get_bind, if_pos defined, InPlace.on_pure]
        rw [InPlace.on_bind_ok takes, ih, List.find?_cons_of_neg (by simpa using defined)]
        rfl
      · have refuses : (takeUp taken value).on b = (.error (.undefinedValue b.name value), b) := by
          rw [takeUp, InPlace.on_get_bind, if_neg defined, InPlace.on_throw]
        rw [InPlace.on_bind_error refuses, List.find?_cons_of_pos (by simpa using defined)]

theorem Binding.Call.inPlace_on (call : Binding.Call) (b : Binding) :
    call.inPlace.on b = settled b (b.change call) := by
  cases call with
  | define value =>
      rw [inPlace, change, Binding.define]
      split
      · rfl
      · rfl
  | restrict values =>
      have taken := foldlM_takeUp_on values [] b
      rw [inPlace, change, Binding.restrict]
      cases found : values.find? fun value => decide (value ∉ b.defined) with
      | some value =>
          rw [found] at taken
          rw [InPlace.on_bind_error taken]
          rfl
      | none =>
          rw [found] at taken
          rw [InPlace.on_bind_ok taken]
          rfl
  | setFallback value =>
      rw [inPlace, change, Binding.setFallback]
      split
      · rfl
      · rfl

theorem Configuration.Call.inPlace_on (call : Configuration.Call) (c : Configuration) :
    call.inPlace.on c = settled c (c.change call) := by
  cases call with
  | append value =>
      rw [inPlace, InPlace.on_get_bind, change, Configuration.append]
      split
      · rfl
      · rfl
  | set value => rfl
  | setAll values =>
      rw [inPlace, InPlace.on_get_bind, change, Configuration.setAll]
      split
      · rfl
      · rfl
  | clear =>
      obtain ⟨name, multi, slots⟩ := c
      cases multi with
      | false => rfl
      | true => rfl

/-! ## A table -/

namespace Table

def reachBinding (name : String) : InPlace Table Binding := do
  let t ← get
  match t.find? name with
  | some (.binding b) => pure b
  | some p => throw (.kindMismatch name p.kind)
  | none => throw (.unknown name)

def reachConfiguration (name : String) : InPlace Table Configuration := do
  let t ← get
  match t.find? name with
  | some (.configuration c) => pure c
  | some p => throw (.kindMismatch name p.kind)
  | none => throw (.unknown name)

/-- Run a program on a property where it stands in a table.  What it leaves stands there then,
also when it was refused. -/
def within {σ : Type} (wrap : σ → Property) (program : InPlace σ Unit) (x : σ) :
    InPlace Table Unit :=
  ExceptT.mk fun t => ((program.on x).1, t.replace (wrap (program.on x).2))

theorem reachBinding_on (name : String) (t : Table) :
    (reachBinding name).on t = (t.getBinding name, t) := by
  rw [reachBinding, InPlace.on_get_bind, getBinding]
  cases t.find? name with
  | none => rfl
  | some p =>
      cases p with
      | binding b => rfl
      | configuration c => rfl

theorem reachConfiguration_on (name : String) (t : Table) :
    (reachConfiguration name).on t = (t.getConfiguration name, t) := by
  rw [reachConfiguration, InPlace.on_get_bind, getConfiguration]
  cases t.find? name with
  | none => rfl
  | some p =>
      cases p with
      | binding b => rfl
      | configuration c => rfl

/-- A property put in the place of itself changes nothing, if its name is its own. -/
theorem replace_self {t : Table} (distinct : t.names.Nodup) {p : Property}
    (there : t.find? p.name = some p) : t.replace p = t := by
  have same : (t.entries.map fun q => if q.name = p.name then p else q) = t.entries := by
    refine (List.map_congr_left fun q member => ?_).trans (List.map_id _)
    by_cases named : q.name = p.name
    · have found := find?_of_mem distinct member
      rw [named, there] at found
      rw [if_pos named]
      exact Option.some.inj found
    · exact if_neg named
  rw [replace, same]

/-- A program that settles a property settles the table it stands in. -/
theorem within_on {σ : Type} {wrap : σ → Property} {program : InPlace σ Unit} {x : σ}
    {operation : Except Error σ} {t : Table} (settles : program.on x = settled x operation)
    (distinct : t.names.Nodup) (there : t.find? (wrap x).name = some (wrap x)) :
    (within wrap program x).on t = settled t (operation.map fun y => t.replace (wrap y)) := by
  show ((program.on x).1, t.replace (wrap (program.on x).2)) = _
  rw [settles]
  cases operation with
  | ok y => rfl
  | error e => exact congrArg (Prod.mk _) (replace_self distinct there)

end Table

def Edit.inPlace : Edit → InPlace Table Unit
  | .declareBinding name => do
      let t ← get
      match t.find? name with
      | some (.binding _) => pure ()
      | some p => throw (.kindMismatch name p.kind)
      | none =>
          match Binding.declare name with
          | .ok b => modify fun t => t.append (.binding b)
          | .error e => throw e
  | .declareConfiguration name multi => do
      let t ← get
      match t.find? name with
      | some (.configuration _) => pure ()
      | some p => throw (.kindMismatch name p.kind)
      | none =>
          if Identifier.valid name then
            modify fun t => t.append (.configuration (Configuration.declare name multi))
          else throw (.invalidName name)
  | .changeBinding name call => do
      let b ← Table.reachBinding name
      Table.within .binding call.inPlace b
  | .changeConfiguration name call => do
      let c ← Table.reachConfiguration name
      Table.within .configuration call.inPlace c

theorem Edit.inPlace_on {t : Table} (distinct : t.names.Nodup) (e : Edit) :
    e.inPlace.on t = settled t (t.edit e) := by
  cases e with
  | declareBinding name =>
      rw [inPlace, InPlace.on_get_bind, Table.edit, Table.declareBinding]
      cases t.find? name with
      | none =>
          cases Binding.declare name with
          | ok b => rfl
          | error e => rfl
      | some p =>
          cases p with
          | binding b => rfl
          | configuration c => rfl
  | declareConfiguration name multi =>
      rw [inPlace, InPlace.on_get_bind, Table.edit, Table.declareConfiguration]
      cases t.find? name with
      | none =>
          by_cases valid : Identifier.valid name = true
          · rw [if_pos valid]
            simp only [if_pos valid]
            rfl
          · simp only [if_neg valid]
            rfl
      | some p =>
          cases p with
          | binding b => rfl
          | configuration c => rfl
  | changeBinding name call =>
      have reached := Table.reachBinding_on name t
      rw [inPlace, Table.edit, Table.modifyBinding]
      cases got : t.getBinding name with
      | error e =>
          rw [got] at reached
          exact InPlace.on_bind_error reached _
      | ok b =>
          rw [got] at reached
          have there := Table.getBinding_ok_iff.1 got
          rw [← Table.name_of_find? there] at there
          rw [InPlace.on_bind_ok reached]
          exact Table.within_on (call.inPlace_on b) distinct there
  | changeConfiguration name call =>
      have reached := Table.reachConfiguration_on name t
      rw [inPlace, Table.edit, Table.modifyConfiguration]
      cases got : t.getConfiguration name with
      | error e =>
          rw [got] at reached
          exact InPlace.on_bind_error reached _
      | ok c =>
          rw [got] at reached
          have there := Table.getConfiguration_ok_iff.1 got
          rw [← Table.name_of_find? there] at there
          rw [InPlace.on_bind_ok reached]
          exact Table.within_on (call.inPlace_on c) distinct there

namespace Table

/-- The table that some calls leave, whichever of them are refused. -/
def workAll (t : Table) (edits : List Edit) : Table :=
  edits.foldl (fun t e => (e.inPlace.on t).2) t

theorem workAll_eq_editAll {t : Table} (sound : t.Sound) (edits : List Edit) :
    t.workAll edits = t.editAll edits := by
  induction edits generalizing t with
  | nil => rfl
  | cons e rest ih =>
      have first : (e.inPlace.on t).2 = t.edited e := by
        rw [Edit.inPlace_on sound.distinct, edited]
        cases t.edit e with
        | ok u => rfl
        | error error => rfl
      show workAll (e.inPlace.on t).2 rest = editAll (t.edited e) rest
      rw [first]
      exact ih (sound.edited e)

/-- **A refused call changes nothing.**  On every table that calls made of nothing, and on every
single property, a call that is refused leaves all as it was, though it writes step by step. -/
theorem workAll_settled (edits : List Edit) :
    let t := workAll {} edits
    t = editAll {} edits ∧
      (∀ e : Edit, e.inPlace.on t = settled t (t.edit e)) ∧
      (∀ name, (reachBinding name).on t = (t.getBinding name, t)) ∧
      (∀ name, (reachConfiguration name).on t = (t.getConfiguration name, t)) ∧
      (∀ (b : Binding) (call : Binding.Call), call.inPlace.on b = settled b (b.change call)) ∧
      ∀ (c : Configuration) (call : Configuration.Call),
        call.inPlace.on c = settled c (c.change call) := by
  have same := workAll_eq_editAll sound_empty edits
  have sound : (workAll {} edits).Sound := by
    rw [same]
    exact sound_empty.editAll edits
  exact ⟨same, Edit.inPlace_on sound.distinct, fun name => reachBinding_on name _,
    fun name => reachConfiguration_on name _, fun b call => call.inPlace_on b,
    fun c call => call.inPlace_on c⟩

end Table

end DeferredBinding.Property
