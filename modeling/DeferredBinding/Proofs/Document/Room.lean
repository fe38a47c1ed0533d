/-
# Proofs.Document.Room -- the room that is left for brackets

What is read with some room is read with any other room in which the brackets find place: of
values that are taken in (`Node.buffer_room`), of tagged records (`Tagged.decoder_room`) and of
lists of them (`Tagged.list_room`).  A layout that takes what another takes of the values in a
node reads the node as the other does (`Layout.Refines.decoder`).
-/
import DeferredBinding.Proofs.Document.Respelling
import DeferredBinding.Proofs.Document.Whole

namespace DeferredBinding.Document

set_option autoImplicit false

variable {α : Type}

namespace Node

mutual

/-- What is taken in with some room is taken in with any other in which it finds place. -/
theorem buffer_room : ∀ (node : Node) (room other : Option Nat), buffer room node = .ok () →
    (∀ n, other = some n → node.height ≤ n) → buffer other node = .ok ()
  | .null, _, _, _, _ => rfl
  | .truth _, _, _, _, _ => rfl
  | .text _, _, _, _, _ => rfl
  | .moment, _, _, _, _ => rfl
  | .number .signed, _, _, _, _ => rfl
  | .number .unsigned, _, _, _, _ => rfl
  | .list items ending, room, other, taken, low => by
      obtain ⟨_, _, within⟩ := Attempt.bind_ok_iff.1 taken
      obtain ⟨inside, opens, lower⟩ := inner_of_le low
      rw [buffer, opens]
      exact bufferList_room items ending _ inside within lower
  | .record members ending, room, other, taken, low => by
      obtain ⟨_, _, within⟩ := Attempt.bind_ok_iff.1 taken
      obtain ⟨inside, opens, lower⟩ := inner_of_le low
      rw [buffer, opens]
      exact bufferRecord_room members ending _ inside within lower

theorem bufferList_room : ∀ (items : List Node) (ending : Ending) (room other : Option Nat),
    bufferList room items ending = .ok () → (∀ n, other = some n → heightList items ≤ n) →
      bufferList other items ending = .ok ()
  | [], _, _, _, taken, _ => taken
  | item :: rest, ending, room, other, taken, low => by
      obtain ⟨first, others⟩ := Attempt.unit_bind_ok_iff.1 taken
      have here := buffer_room item room other first fun n same =>
        Nat.le_trans (Nat.le_max_left _ _) (low n same)
      rw [bufferList, here]
      exact bufferList_room rest ending room other others fun n same =>
        Nat.le_trans (Nat.le_max_right _ _) (low n same)

theorem bufferRecord_room : ∀ (members : Members) (ending : Ending) (room other : Option Nat),
    bufferRecord room members ending = .ok () →
      (∀ n, other = some n → heightRecord members ≤ n) → bufferRecord other members ending = .ok ()
  | [], _, _, _, taken, _ => taken
  | (key, value) :: rest, ending, room, other, taken, low => by
      obtain ⟨first, others⟩ := Attempt.unit_bind_ok_iff.1 taken
      have here := buffer_room value room other first fun n same =>
        Nat.le_trans (Nat.le_max_left _ _) (low n same)
      rw [bufferRecord, here]
      exact bufferRecord_room rest ending room other others fun n same =>
        Nat.le_trans (Nat.le_max_right _ _) (low n same)

end

end Node

/-! ## Tagged records -/

namespace Tagged

variable {tagged : Tagged α}

theorem takeIn_room {room other : Option Nat} {found result : Option (Layout α)}
    {members : Members} (taken : tagged.takeIn room found members = .ok result)
    (low : ∀ n, other = some n → Node.heightRecord members ≤ n) :
    tagged.takeIn other found members = .ok result := by
  induction members generalizing found with
  | nil => exact taken
  | cons m rest ih =>
      obtain ⟨key, node⟩ := m
      have later : ∀ n, other = some n → Node.heightRecord rest ≤ n := fun n same =>
        Nat.le_trans (Nat.le_max_right _ _) (low n same)
      rw [takeIn] at taken ⊢
      by_cases same : key = tagged.tag
      · rw [if_pos same] at taken ⊢
        cases found with
        | some layout => cases taken
        | none =>
            obtain ⟨layout, names, onward⟩ := Attempt.bind_ok_iff.1 taken
            exact Attempt.bind_ok_iff.2 ⟨layout, names, ih onward later⟩
      · rw [if_neg same] at taken ⊢
        obtain ⟨first, others⟩ := Attempt.unit_bind_ok_iff.1 taken
        exact Attempt.unit_bind_ok_iff.2 ⟨Node.buffer_room node room other first fun n same =>
          Nat.le_trans (Nat.le_max_left _ _) (low n same), ih others later⟩

/-- What a tagged record is read as does not depend on the room, as long as its brackets find
place there. -/
theorem decoder_room {room other : Option Nat} {node : Node} {value : α}
    (read : tagged.decoder room node = .ok value)
    (low : ∀ n, other = some n → node.height ≤ n + 1) : tagged.decoder other node = .ok value := by
  have members : ∀ {members : Members} {ending : Ending},
      tagged.ofMembers room members ending = .ok value →
      (∀ n, other = some n → Node.heightRecord members ≤ n) →
        tagged.ofMembers other members ending = .ok value := by
    intro members ending read low
    obtain ⟨found, taken, onward⟩ := Attempt.bind_ok_iff.1 read
    exact Attempt.bind_ok_iff.2 ⟨found, takeIn_room taken low, onward⟩
  have lower : ∀ n, other = some n → node.height - 1 ≤ n := fun n same => by
    have le := low n same
    omega
  cases node with
  | record _ _ => exact members read lower
  | moment => exact members read fun _ _ => Nat.zero_le _
  | list items ending =>
      cases items with
      | nil => exact read
      | cons first rest =>
          obtain ⟨layout, names, onward⟩ := Attempt.bind_ok_iff.1 read
          obtain ⟨taken, items⟩ := Attempt.unit_bind_ok_iff.1 onward
          refine Attempt.bind_ok_iff.2 ⟨layout, names, Attempt.unit_bind_ok_iff.2 ⟨?_, items⟩⟩
          exact Node.bufferList_room rest ending room other taken fun n same =>
            Nat.le_trans (Nat.le_max_right _ _) (lower n same)
  | _ => cases read

/-- So is a list of tagged records. -/
theorem list_room {room other : Option Nat} {node : Node} {values : List α}
    (read : Decoder.list (tagged.decoder room) node = .ok values)
    (low : ∀ n, other = some n → node.height ≤ n + 2) :
    Decoder.list (tagged.decoder other) node = .ok values := by
  cases node with
  | list items ending =>
      rw [list_ok_iff] at read ⊢
      refine ⟨mapM_mono read.1 fun item member value here => decoder_room here fun n same => ?_,
        read.2⟩
      have inside := Node.height_le_heightList member
      have outside := low n same
      rw [Node.height] at outside
      omega
  | _ => cases read

end Tagged

/-! ## Layouts -/

namespace Node

/-- The values that stand right inside of a list or record. -/
def parts : Node → List Node
  | .list items _ => items
  | .record members _ => members.map Prod.snd
  | .moment => [.text ""]
  | _ => []

theorem height_part {node part : Node} (member : part ∈ node.parts) :
    part.height ≤ node.height - 1 := by
  cases node with
  | list items ending => exact height_le_heightList member
  | record members ending =>
      obtain ⟨m, there, rfl⟩ := List.mem_map.1 member
      exact height_le_heightRecord there
  | moment => rw [List.mem_singleton.1 member]; exact Nat.zero_le _
  | _ => cases member

end Node

/-- A field takes what another of its name takes, of the values for which something holds. -/
structure Field.Refines (low : Node → Prop) (field finer : Field) : Prop where
  name : field.name = finer.name
  check : ∀ v, low v → field.check v = .ok () → finer.check v = .ok ()

/-- A layout takes what another takes, of the values for which something holds. -/
structure Layout.Refines (low : Node → Prop) (layout finer : Layout α) : Prop where
  fields : List.Forall₂ (Field.Refines low) layout.fields finer.fields
  builds : ∀ {members : Members}, (∀ m ∈ members, low m.2) → ∀ missing value,
    layout.build members missing = .ok value → finer.build members missing = .ok value

theorem names_of_refines {low : Node → Prop} {fields finer : List Field}
    (each : List.Forall₂ (Field.Refines low) fields finer) :
    fields.map Field.name = finer.map Field.name := by
  induction each with
  | nil => rfl
  | cons head _ ih => rw [List.map_cons, List.map_cons, head.name, ih]

theorem passMember_mono {low : Node → Prop} {fields finer : List Field}
    (each : List.Forall₂ (Field.Refines low) fields finer) {stranger : Stranger}
    {m : String × Node} (here : low m.2) (passes : passMember fields stranger m = .ok ()) :
    passMember finer stranger m = .ok () := by
  induction each with
  | nil => exact passes
  | @cons field other rest others head _ ih =>
      rw [passMember, List.find?_cons] at passes ⊢
      rw [← head.name]
      cases same : field.name == m.1 with
      | true =>
          rw [same] at passes
          exact head.check m.2 here passes
      | false =>
          rw [same] at passes
          exact ih passes

theorem withDefault_mono {low : Node → Prop} {members : Members}
    (all : ∀ m ∈ members, low m.2) {key : String} {decode finer : Decoder α} {default told : α}
    (mono : ∀ v, low v → decode v = .ok told → finer v = .ok told)
    (read : Field.withDefault members key decode default = .ok told) :
    Field.withDefault members key finer default = .ok told := by
  rw [Field.withDefault] at read ⊢
  cases found : members.lookup key with
  | none => rwa [found] at read
  | some node =>
      rw [found] at read
      exact mono node (all _ (Pairs.mem_of_lookup found)) read

namespace Layout.Refines

variable {low : Node → Prop} {layout finer : Layout α}

theorem names (refines : layout.Refines low finer) : layout.names = finer.names :=
  names_of_refines refines.fields

theorem survey (refines : layout.Refines low finer) {stranger : Stranger} {members : Members}
    (all : ∀ m ∈ members, low m.2)
    (passed : Document.survey layout.fields stranger [] members = .ok ()) :
    Document.survey finer.fields stranger [] members = .ok () := by
  rw [survey_ok_iff, names_of_refines refines.fields] at passed
  exact survey_ok_iff.2 ⟨fun m member =>
    passMember_mono refines.fields (all m member) (passed.1 m member), passed.2⟩

theorem ofMembers (refines : layout.Refines low finer) {stranger : Stranger} {members : Members}
    {ending : Ending} {value : α} (all : ∀ m ∈ members, low m.2)
    (read : layout.ofMembers stranger members ending = .ok value) :
    finer.ofMembers stranger members ending = .ok value := by
  rw [Layout.ofMembers_ok_iff] at read ⊢
  obtain ⟨passed, closed, built⟩ := read
  exact ⟨refines.survey all passed, closed, refines.builds all _ value built⟩

theorem ofItems (refines : layout.Refines low finer) {surplus : Passage} {items : List Node}
    {ending : Ending} {value : α} (all : ∀ item ∈ items, low item)
    (read : layout.ofItems surplus items ending = .ok value) :
    finer.ofItems surplus items ending = .ok value := by
  have inside : ∀ m ∈ layout.names.zip items, low m.2 := fun m member =>
    all m.2 (List.of_mem_zip member).2
  rw [Layout.ofItems_ok_iff] at read ⊢
  rw [← refines.names, ← refines.fields.length_eq]
  obtain ⟨passed, ended, built⟩ := read
  exact ⟨refines.survey inside passed, ended, refines.builds inside _ value built⟩

/-- What a layout reads, a finer one reads. -/
theorem decoder (refines : layout.Refines low finer) {stranger : Stranger} {surplus : Passage}
    {node : Node} {value : α} (all : ∀ v ∈ node.parts, low v)
    (read : layout.decoder stranger surplus node = .ok value) :
    finer.decoder stranger surplus node = .ok value := by
  cases node with
  | record members ending => exact refines.ofMembers (List.forall_mem_map.1 all) read
  | moment =>
      exact refines.ofMembers (List.forall_mem_singleton.2 (List.forall_mem_singleton.1 all)) read
  | list items ending => exact refines.ofItems all read
  | _ => cases read

end Layout.Refines

end DeferredBinding.Document
