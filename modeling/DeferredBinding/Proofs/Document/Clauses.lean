/-
# Proofs.Document.Clauses -- records that say what they should, in any order

What a record has to say is a list of clauses: under which key something is said, which values
say it, and whether it may be left unsaid because it is the default (`Clause`).  A record
states its clauses where its keys are distinct, each belongs to a clause, and every clause is
said or goes without saying (`States`).  In which order its members stand does not matter.
Clauses of different keys, each of which something can say, have such a record
(`exists_states`); with less to say with, those will do that something good can say, where the
others go without saying (`exists_states_of`).

A decoder reads a way of writing (`Reads`) where it takes the value out of every node that is
written so.  A layout serves clauses (`Layout.Serves`) where its fields are theirs and it
builds the value from what they say; then it reads each record that states them
(`Layout.Serves.ofMembers`), and a tagged record is read where the layout that its tag names
serves the other clauses (`Tagged.reads`), since the others are whole and can be taken in.
-/
import Mathlib.Data.List.Forall2
import DeferredBinding.Document.Layout
import DeferredBinding.Proofs.Document.Whole
import DeferredBinding.Proofs.Pairs

namespace DeferredBinding.Document

set_option autoImplicit false

variable {α : Type}

/-! ## Ways of writing -/

def WritesText (value : String) (node : Node) : Prop :=
  node = .text value

def WritesTruth (value : Bool) (node : Node) : Prop :=
  node = .truth value

/-- A value that may be missing, as `null` where it is. -/
def WritesOptional (writes : α → Node → Prop) : Option α → Node → Prop
  | none, node => node = .null
  | some value, node => writes value node

def WritesList (writes : α → Node → Prop) (values : List α) (node : Node) : Prop :=
  ∃ items, node = .list items .closed ∧ List.Forall₂ writes values items

/-- What a record says under one key. -/
structure Clause where
  key : String
  /-- the values that say it -/
  saidBy : Node → Prop
  /-- it may be left unsaid -/
  implied : Prop

namespace Clause

/-- A value that has to be said. -/
def required (key : String) (writes : α → Node → Prop) (value : α) : Clause :=
  { key, saidBy := writes value, implied := False }

/-- A value that may be left unsaid where it is the default. -/
def withDefault (key : String) (writes : α → Node → Prop) (value default : α) : Clause :=
  { key, saidBy := writes value, implied := value = default }

@[simp] theorem key_required (key : String) (writes : α → Node → Prop) (value : α) :
    (required key writes value).key = key :=
  rfl

@[simp] theorem key_withDefault (key : String) (writes : α → Node → Prop) (value default : α) :
    (withDefault key writes value default).key = key :=
  rfl

end Clause

/-- The members of a record, in any order, are what its clauses say. -/
structure States (clauses : List Clause) (members : Members) : Prop where
  distinct : (members.map Prod.fst).Nodup
  known : ∀ m ∈ members, ∃ clause ∈ clauses, clause.key = m.1
  said : ∀ clause ∈ clauses, (∃ node, (clause.key, node) ∈ members ∧ clause.saidBy node) ∨
    clause.implied ∧ clause.key ∉ members.map Prod.fst

theorem States.perm {clauses : List Clause} {members others : Members}
    (states : States clauses members) (perm : members.Perm others) : States clauses others := by
  constructor
  · exact (perm.map Prod.fst).nodup_iff.1 states.distinct
  · exact fun m member => states.known m (perm.mem_iff.2 member)
  · intro clause demanded
    refine (states.said clause demanded).imp ?_ ?_
    · rintro ⟨node, there, said⟩
      exact ⟨node, perm.mem_iff.1 there, said⟩
    · rintro ⟨implied, absent⟩
      exact ⟨implied, fun there => absent ((perm.map Prod.fst).mem_iff.2 there)⟩

/-- A value as the record of its clauses. -/
def WritesRecord (clauses : α → List Clause) (value : α) (node : Node) : Prop :=
  ∃ members, node = .record members .closed ∧ States (clauses value) members

/-! ## What can be written -/

/-- Every value can be written, as a whole tree. -/
def Expresses (writes : α → Node → Prop) : Prop :=
  ∀ value, ∃ node : Node, node.Whole ∧ writes value node

theorem expresses_text : Expresses WritesText :=
  fun value => ⟨_, Node.whole_text value, rfl⟩

theorem expresses_truth : Expresses WritesTruth :=
  fun value => ⟨.truth value, trivial, rfl⟩

theorem expresses_optional {writes : α → Node → Prop} (expresses : Expresses writes) :
    Expresses (WritesOptional writes)
  | none => ⟨.null, trivial, rfl⟩
  | some value => expresses value

theorem expresses_list {writes : α → Node → Prop} (expresses : Expresses writes) :
    Expresses (WritesList writes) := by
  intro values
  induction values with
  | nil => exact ⟨.list [] .closed, Node.whole_list trivial, [], rfl, .nil⟩
  | cons value rest ih =>
      obtain ⟨node, whole, written⟩ := expresses value
      obtain ⟨_, others, items, rfl, later⟩ := ih
      refine ⟨.list (node :: items) .closed, ?_, node :: items, rfl, .cons written later⟩
      exact Node.whole_list ⟨whole, others.2⟩

/-- Something whole says what the clause is about. -/
def Clause.Sayable (clause : Clause) : Prop :=
  ∃ node : Node, node.Whole ∧ clause.saidBy node

theorem sayable_required {writes : α → Node → Prop} (expresses : Expresses writes) (key : String)
    (value : α) : (Clause.required key writes value).Sayable :=
  expresses value

theorem sayable_withDefault {writes : α → Node → Prop} (expresses : Expresses writes)
    (key : String) (value default : α) : (Clause.withDefault key writes value default).Sayable :=
  expresses value

/-- Where the clauses have different keys, what can be said well may be said, in order, and what
goes without saying may be left out. -/
theorem exists_states_of {good : Node → Prop} {clauses : List Clause}
    (distinct : (clauses.map Clause.key).Nodup)
    (sayable : ∀ clause ∈ clauses, clause.implied ∨ ∃ node, good node ∧ clause.saidBy node) :
    ∃ members : Members, (∀ m ∈ members, good m.2) ∧ States clauses members := by
  induction clauses with
  | nil => exact ⟨[], nofun, .nil, nofun, nofun⟩
  | cons clause rest ih =>
      obtain ⟨single, others⟩ := List.nodup_cons.1 distinct
      obtain ⟨here, later⟩ := List.forall_mem_cons.1 sayable
      obtain ⟨members, fine, states⟩ := ih others later
      have known : ∀ m ∈ members, ∃ other ∈ clause :: rest, other.key = m.1 := by
        intro m member
        obtain ⟨other, demanded, same⟩ := states.known m member
        exact ⟨other, List.mem_cons_of_mem _ demanded, same⟩
      have fresh : clause.key ∉ members.map Prod.fst := by
        intro there
        obtain ⟨m, member, same⟩ := List.mem_map.1 there
        obtain ⟨other, demanded, named⟩ := states.known m member
        refine single ?_
        rw [← same, ← named]
        exact List.mem_map_of_mem demanded
      obtain implied | ⟨node, well, said⟩ := here
      · exact ⟨members, fine, states.distinct, known,
          List.forall_mem_cons.2 ⟨.inr ⟨implied, fresh⟩, states.said⟩⟩
      · refine ⟨(clause.key, node) :: members, List.forall_mem_cons.2 ⟨well, fine⟩,
          List.nodup_cons.2 ⟨fresh, states.distinct⟩,
          List.forall_mem_cons.2 ⟨⟨clause, List.mem_cons_self, rfl⟩, known⟩,
          List.forall_mem_cons.2 ⟨.inl ⟨node, List.mem_cons_self, said⟩, fun other demanded => ?_⟩⟩
        refine (states.said other demanded).imp ?_ fun ⟨implied, absent⟩ => ⟨implied, ?_⟩
        · rintro ⟨value, there, next⟩
          exact ⟨value, List.mem_cons_of_mem _ there, next⟩
        · rw [List.map_cons, List.mem_cons, not_or]
          exact ⟨fun same => single (List.mem_map.2 ⟨other, demanded, same⟩), absent⟩

/-- Where the clauses have different keys, everything may be said. -/
theorem exists_states {clauses : List Clause} (distinct : (clauses.map Clause.key).Nodup)
    (sayable : ∀ clause ∈ clauses, clause.Sayable) :
    ∃ members : Members, Node.WholeRecord members ∧ States clauses members := by
  obtain ⟨members, whole, states⟩ :=
    exists_states_of distinct fun clause demanded => .inr (sayable clause demanded)
  exact ⟨members, Node.wholeRecord_iff.2 whole, states⟩

theorem expresses_record {clauses : α → List Clause}
    (distinct : ∀ value, ((clauses value).map Clause.key).Nodup)
    (sayable : ∀ value, ∀ clause ∈ clauses value, clause.Sayable) :
    Expresses (WritesRecord clauses) := by
  intro value
  obtain ⟨members, whole, states⟩ := exists_states (distinct value) (sayable value)
  exact ⟨_, Node.whole_record whole, members, rfl, states⟩

/-! ## Reading what is written -/

/-- The decoder takes a value out of whatever it is written as, within a limit. -/
def Reads (limit : Option Nat) (writes : α → Node → Prop) (decode : Decoder α) : Prop :=
  ∀ value node, node.Within limit → writes value node → decode node = .ok value

theorem reads_text (limit : Option Nat) : Reads limit WritesText Decoder.text := by
  rintro value _ - rfl
  rfl

theorem reads_truth (limit : Option Nat) : Reads limit WritesTruth Decoder.truth := by
  rintro value _ - rfl
  rfl

theorem reads_optionalText (limit : Option Nat) :
    Reads limit (WritesOptional WritesText) (Decoder.optional Decoder.text) := by
  rintro (_ | value) node - written
  · rw [show node = .null from written]
    rfl
  · rw [show node = .text value from written]
    rfl

theorem mapM_of_writes {limit : Option Nat} {writes : α → Node → Prop} {decode : Decoder α}
    (reads : Reads limit writes decode) {values : List α} {items : List Node}
    (written : List.Forall₂ writes values items) (within : ∀ item ∈ items, item.Within limit) :
    items.mapM decode = .ok values := by
  induction written with
  | nil => rfl
  | cons head _ ih =>
      obtain ⟨first, others⟩ := List.forall_mem_cons.1 within
      rw [List.mapM_cons, reads _ _ first head, ih others]
      rfl

theorem reads_list {limit : Option Nat} {writes : α → Node → Prop} {decode : Decoder α}
    (reads : Reads limit writes decode) :
    Reads (Node.around limit) (WritesList writes) (Decoder.list decode) := by
  rintro values _ within ⟨items, rfl, written⟩
  rw [Decoder.list, mapM_of_writes reads written fun item member => within.item member]
  rfl

/-- Without a limit of its own, a way of writing is read within every limit. -/
theorem Reads.within {writes : α → Node → Prop} {decode : Decoder α}
    (reads : Reads none writes decode) (limit : Option Nat) : Reads limit writes decode :=
  fun value node within written => reads value node ⟨within.whole, nofun⟩ written

theorem reads_texts (limit : Option Nat) :
    Reads limit (WritesList WritesText) (Decoder.list Decoder.text) :=
  Reads.within (reads_list (reads_text none)) limit

/-! ## Members looked up -/

section Stated

variable {clauses : List Clause} {members : Members} {limit : Option Nat}

/-- Only one value stands under a key. -/
theorem States.saidBy (states : States clauses members) {m : String × Node} (member : m ∈ members)
    {clause : Clause} (demanded : clause ∈ clauses) (same : clause.key = m.1) :
    clause.saidBy m.2 := by
  obtain ⟨node, there, said⟩ | ⟨-, absent⟩ := states.said clause demanded
  · have found := Pairs.lookup_of_mem states.distinct there
    rw [same, Pairs.lookup_of_mem states.distinct member] at found
    rw [Option.some.inj found]
    exact said
  · rw [same] at absent
    exact absurd (List.mem_map_of_mem member) absent

variable {key : String} {writes : α → Node → Prop} {value default : α} {decode : Decoder α}

theorem States.required (states : States clauses members)
    (within : ∀ m ∈ members, m.2.Within limit)
    (demanded : Clause.required key writes value ∈ clauses) (reads : Reads limit writes decode)
    (missing : String → Fault) : Field.required members missing key decode = .ok value := by
  obtain ⟨node, there, said⟩ | ⟨implied, -⟩ := states.said _ demanded
  · rw [Field.required, show members.lookup key = some node from
      Pairs.lookup_of_mem states.distinct there]
    exact reads value node (within _ there) said
  · exact absurd implied id

theorem States.withDefault (states : States clauses members)
    (within : ∀ m ∈ members, m.2.Within limit)
    (demanded : Clause.withDefault key writes value default ∈ clauses)
    (reads : Reads limit writes decode) :
    Field.withDefault members key decode default = .ok value := by
  obtain ⟨node, there, said⟩ | ⟨implied, absent⟩ := states.said _ demanded
  · rw [Field.withDefault, show members.lookup key = some node from
      Pairs.lookup_of_mem states.distinct there]
    exact reads value node (within _ there) said
  · rw [Field.withDefault, show members.lookup key = none from Pairs.lookup_of_absent absent]
    exact congrArg Except.ok (Eq.symm implied)

end Stated

/-! ## Records -/

/-- A field is the one of a clause, and takes whatever says it. -/
structure Takes (limit : Option Nat) (clause : Clause) (field : Field) : Prop where
  name : field.name = clause.key
  check : ∀ node, node.Within limit → clause.saidBy node → field.check node = .ok ()

theorem check_of_ok {decode : Decoder α} {value : α} {node : Node} {key : String}
    (decodes : decode node = .ok value) : (Field.of key decode).check node = .ok () := by
  show (decode node).map _ = _
  rw [decodes]
  rfl

theorem takes_required {limit : Option Nat} {writes : α → Node → Prop} {decode : Decoder α}
    (reads : Reads limit writes decode) (key : String) (value : α) :
    Takes limit (.required key writes value) (.of key decode) :=
  ⟨rfl, fun node within said => check_of_ok (reads value node within said)⟩

theorem takes_withDefault {limit : Option Nat} {writes : α → Node → Prop} {decode : Decoder α}
    (reads : Reads limit writes decode) (key : String) (value default : α) :
    Takes limit (.withDefault key writes value default) (.of key decode) :=
  ⟨rfl, fun node within said => check_of_ok (reads value node within said)⟩

theorem keys_of_takes {limit : Option Nat} {clauses : List Clause} {fields : List Field}
    (takes : List.Forall₂ (Takes limit) clauses fields) :
    clauses.map Clause.key = fields.map Field.name := by
  induction takes with
  | nil => rfl
  | cons takes _ ih => rw [List.map_cons, List.map_cons, ih, takes.name]

/-- The first field of a name takes what is said under it. -/
theorem find?_field {limit : Option Nat} {clauses : List Clause} {fields : List Field}
    (takes : List.Forall₂ (Takes limit) clauses fields) {key : String} {node : Node}
    (known : ∃ clause ∈ clauses, clause.key = key) (within : node.Within limit)
    (said : ∀ clause ∈ clauses, clause.key = key → clause.saidBy node) :
    ∃ field, fields.find? (fun field => field.name == key) = some field ∧
      field.check node = .ok () := by
  induction takes with
  | nil =>
      obtain ⟨clause, demanded, -⟩ := known
      cases demanded
  | @cons clause field rest fields takes _ ih =>
      by_cases same : clause.key = key
      · refine ⟨field, List.find?_cons_of_pos ?_, ?_⟩
        · rw [beq_iff_eq, takes.name, same]
        · exact takes.check node within (said clause List.mem_cons_self same)
      · obtain ⟨other, demanded, named⟩ := known
        have later : other ∈ rest := by
          obtain rfl | behind := List.mem_cons.1 demanded
          · exact absurd named same
          · exact behind
        obtain ⟨found, finds, checks⟩ := ih ⟨other, later, named⟩ fun c member =>
          said c (List.mem_cons_of_mem _ member)
        refine ⟨found, ?_, checks⟩
        rw [List.find?_cons_of_neg, finds]
        rw [beq_iff_eq, takes.name]
        exact same

theorem survey_ok {fields : List Field} (stranger : Stranger) {members : Members}
    {seen : List String} (distinct : (members.map Prod.fst).Nodup)
    (fresh : ∀ m ∈ members, m.1 ∉ seen)
    (checks : ∀ m ∈ members, ∃ field, fields.find? (fun field => field.name == m.1) = some field ∧
      field.check m.2 = .ok ()) :
    survey fields stranger seen members = .ok () := by
  induction members generalizing seen with
  | nil => rfl
  | cons m rest ih =>
      obtain ⟨single, others⟩ := List.nodup_cons.1 distinct
      obtain ⟨⟨field, finds, passes⟩, later⟩ := List.forall_mem_cons.1 checks
      obtain ⟨new, newer⟩ := List.forall_mem_cons.1 fresh
      have onward : survey fields stranger (m.1 :: seen) rest = .ok () := by
        refine ih others (fun n member => ?_) later
        rw [List.mem_cons, not_or]
        refine ⟨fun same => single ?_, newer n member⟩
        rw [← same]
        exact List.mem_map_of_mem member
      rw [survey, finds]
      show (do if m.1 ∈ seen then Except.error (Fault.duplicateField m.1)
               field.check m.2
               survey fields stranger (m.1 :: seen) rest) = _
      rw [if_neg new, passes, onward]
      rfl

/-- The fields of a layout are those of the clauses, and it builds `value` of what they say. -/
structure Layout.Serves (layout : Layout α) (limit : Option Nat) (clauses : List Clause)
    (value : α) : Prop where
  fields : List.Forall₂ (Takes limit) clauses layout.fields
  builds : ∀ {members : Members}, States clauses members → (∀ m ∈ members, m.2.Within limit) →
    ∀ missing, layout.build members missing = .ok value

theorem Layout.Serves.ofMembers {layout : Layout α} {limit : Option Nat} {clauses : List Clause}
    {value : α} (serves : layout.Serves limit clauses value) (stranger : Stranger)
    {members : Members} (states : States clauses members)
    (within : ∀ m ∈ members, m.2.Within limit) :
    layout.ofMembers stranger members .closed = .ok value := by
  have passes : survey layout.fields stranger [] members = .ok () :=
    survey_ok stranger states.distinct (fun _ _ => List.not_mem_nil) fun m member =>
      find?_field serves.fields (states.known m member) (within m member)
        fun clause demanded same => states.saidBy member demanded same
  rw [Layout.ofMembers, passes]
  exact serves.builds states within _

theorem Layout.reads {layout : Layout α} {limit : Option Nat} {clauses : α → List Clause}
    (serves : ∀ value, layout.Serves limit (clauses value) value) (stranger : Stranger)
    (surplus : Passage) :
    Reads (Node.around limit) (WritesRecord clauses) (layout.decoder stranger surplus) := by
  rintro value _ within ⟨members, rfl, states⟩
  exact (serves value).ofMembers stranger states fun m member => within.member member

/-! ## Tagged records -/

namespace Tagged

variable {tagged : Tagged α} {room : Option Nat} {layout : Layout α} {members : Members}

theorem takeIn_untagged (found : Option (Layout α)) (untagged : tagged.tag ∉ members.map Prod.fst)
    (within : ∀ m ∈ members, m.2.Within room) : tagged.takeIn room found members = .ok found := by
  induction members with
  | nil => rfl
  | cons m rest ih =>
      obtain ⟨here, later⟩ := List.forall_mem_cons.1 within
      obtain ⟨other, others⟩ := not_or.1 (mt List.mem_cons.2 untagged)
      have different : ¬ m.1 = tagged.tag := fun same => other same.symm
      rw [takeIn, if_neg different, Node.buffer_of_within here]
      exact ih others later

theorem takeIn_tagged {name : Node} (distinct : (members.map Prod.fst).Nodup)
    (named : (tagged.tag, name) ∈ members) (names : tagged.variant name = .ok layout)
    (within : ∀ m ∈ members, m.2.Within room) :
    tagged.takeIn room none members = .ok (some layout) := by
  induction members with
  | nil => cases named
  | cons m rest ih =>
      obtain ⟨here, later⟩ := List.forall_mem_cons.1 within
      obtain ⟨single, others⟩ := List.nodup_cons.1 distinct
      obtain rfl | behind := List.mem_cons.1 named
      · rw [takeIn, if_pos rfl, names]
        exact takeIn_untagged (some layout) single later
      · have different : ¬ m.1 = tagged.tag := by
          refine fun same => single ?_
          rw [same]
          exact List.mem_map.2 ⟨_, behind, rfl⟩
        rw [takeIn, if_neg different, Node.buffer_of_within here]
        exact ih others behind later

/-- Without its tag, a record states the clauses other than the tag's. -/
theorem states_filter {clauses : List Clause} {tag : String} {tagging : Clause}
    (named : tagging.key = tag) (apart : tag ∉ clauses.map Clause.key)
    (states : States (tagging :: clauses) members) :
    States clauses (members.filter fun m => m.1 != tag) := by
  constructor
  · exact states.distinct.sublist (List.filter_sublist.map Prod.fst)
  · intro m member
    obtain ⟨there, different⟩ := List.mem_filter.1 member
    obtain ⟨clause, demanded, same⟩ := states.known m there
    obtain rfl | behind := List.mem_cons.1 demanded
    · rw [bne_iff_ne, ← same, named] at different
      exact absurd rfl different
    · exact ⟨clause, behind, same⟩
  · intro clause demanded
    obtain ⟨node, there, said⟩ | ⟨implied, absent⟩ :=
      states.said clause (List.mem_cons_of_mem _ demanded)
    · refine Or.inl ⟨node, List.mem_filter.2 ⟨there, bne_iff_ne.2 ?_⟩, said⟩
      rintro rfl
      exact apart (List.mem_map_of_mem demanded)
    · refine Or.inr ⟨implied, fun kept => absent ?_⟩
      exact (List.filter_sublist.map Prod.fst).subset kept

/-- A tagged record is read where the layout that its tag names serves the other clauses. -/
theorem reads {clauses : α → List Clause}
    (serves : ∀ value, ∃ (name : String) (layout : Layout α) (others : List Clause),
      clauses value = .required tagged.tag WritesText name :: others ∧
      tagged.variants.lookup name = some layout ∧ tagged.tag ∉ layout.names ∧
      layout.Serves room others value) :
    Reads (Node.around room) (WritesRecord clauses) (tagged.decoder room) := by
  rintro value _ within ⟨members, rfl, states⟩
  obtain ⟨name, layout, others, split, finds, apart, serves⟩ := serves value
  rw [split] at states
  rw [Layout.names, ← keys_of_takes serves.fields] at apart
  have inside : ∀ m ∈ members, m.2.Within room := fun m member => within.member member
  obtain ⟨node, there, rfl⟩ | ⟨implied, -⟩ := states.said _ List.mem_cons_self
  · have names : tagged.variant (.text name) = .ok layout := by
      show choose tagged.variants name = _
      rw [choose, finds]
    have taken := takeIn_tagged states.distinct there names inside
    show tagged.ofMembers room members .closed = _
    rw [Tagged.ofMembers, taken]
    exact serves.ofMembers ignored (states_filter rfl apart states) fun m member =>
      inside m (List.mem_filter.1 member).1
  · exact absurd implied id

end Tagged

end DeferredBinding.Document
