/-
# Proofs.Document.TakenIn -- what can be taken in or passed over

Whether a value can be taken in whole, were there no limit to brackets (`Takeable`), and whether
it can be passed over (`Passable`) is settled item by item and member by member (`Hereditary`).
So the order of members does not matter (`Hereditary.shuffled`), and rewriting a record keeps it
takeable (`Hereditary.rewrites`).
-/
import DeferredBinding.Proofs.Document.Respelling

namespace DeferredBinding.Document

set_option autoImplicit false

namespace Node

/-- The value can be taken in whole, were there no limit to brackets: it is sound throughout, and
its numbers have a place in 64 bits. -/
def Takeable (node : Node) : Prop :=
  node.buffer none = .ok ()

def Passable (node : Node) : Prop :=
  node.skip = .ok ()

@[simp] theorem takeable_null : Takeable .null :=
  rfl

@[simp] theorem takeable_truth (value : Bool) : Takeable (.truth value) :=
  rfl

theorem takeable_number {width : Width} (fits : width ≠ .wide) : Takeable (.number width) := by
  cases width with
  | signed => rfl
  | unsigned => rfl
  | wide => exact absurd rfl fits

@[simp] theorem takeable_text (value : String) : Takeable (.text value) :=
  rfl

@[simp] theorem takeable_empty : Takeable (.list [] .closed) :=
  rfl

end Node

/-- Something holds of lists and records just where it holds of all that is in them, and they
end well. -/
structure Hereditary (ends : Ending → Prop) (holds : Node → Prop) : Prop where
  list : ∀ items ending, holds (.list items ending) ↔ ends ending ∧ ∀ item ∈ items, holds item
  record : ∀ members ending,
    holds (.record members ending) ↔ ends ending ∧ ∀ m ∈ members, holds m.2

theorem bufferList_ok_iff {items : List Node} {ending : Ending} :
    Node.bufferList none items ending = .ok () ↔
      ending = .closed ∧ ∀ item ∈ items, item.Takeable := by
  induction items with
  | nil => rw [Node.bufferList, read_ok_iff, and_iff_left (List.forall_mem_nil _)]
  | cons item rest ih =>
      rw [Node.bufferList, Attempt.unit_bind_ok_iff, ih, List.forall_mem_cons, and_left_comm]
      rfl

theorem bufferRecord_ok_iff {members : Members} {ending : Ending} :
    Node.bufferRecord none members ending = .ok () ↔
      ending = .closed ∧ ∀ m ∈ members, m.2.Takeable := by
  induction members with
  | nil => rw [Node.bufferRecord, read_ok_iff, and_iff_left (List.forall_mem_nil _)]
  | cons m rest ih =>
      rw [Node.bufferRecord, Attempt.unit_bind_ok_iff, ih, List.forall_mem_cons, and_left_comm]
      rfl

theorem hereditary_takeable : Hereditary (· = .closed) Node.Takeable where
  list _ _ := bufferList_ok_iff
  record _ _ := bufferRecord_ok_iff

theorem skipList_ok_iff {items : List Node} {ending : Ending} :
    Node.skipList items ending = .ok () ↔
      ending.skip = .ok () ∧ ∀ item ∈ items, item.Passable := by
  induction items with
  | nil => rw [Node.skipList, and_iff_left (List.forall_mem_nil _)]
  | cons item rest ih =>
      rw [Node.skipList, Attempt.unit_bind_ok_iff, ih, List.forall_mem_cons, and_left_comm]
      rfl

theorem skipRecord_ok_iff {members : Members} {ending : Ending} :
    Node.skipRecord members ending = .ok () ↔
      ending.skip = .ok () ∧ ∀ m ∈ members, m.2.Passable := by
  induction members with
  | nil => rw [Node.skipRecord, and_iff_left (List.forall_mem_nil _)]
  | cons m rest ih =>
      rw [Node.skipRecord, Attempt.unit_bind_ok_iff, ih, List.forall_mem_cons, and_left_comm]
      rfl

theorem hereditary_passable : Hereditary (fun ending => ending.skip = .ok ()) Node.Passable where
  list _ _ := by rw [Node.Passable, Node.skip, skipList_ok_iff]
  record _ _ := by rw [Node.Passable, Node.skip, skipRecord_ok_iff]

namespace Hereditary

variable {ends : Ending → Prop} {holds : Node → Prop}

/-- One item among others replaced by one of which it holds as well. -/
theorem item_replaced (hereditary : Hereditary ends holds) {v w : Node} (same : holds v ↔ holds w)
    (before after : List Node) (ending : Ending) :
    holds (.list (before ++ v :: after) ending) ↔ holds (.list (before ++ w :: after) ending) := by
  simp only [hereditary.list, List.forall_mem_append, List.forall_mem_cons, same]

theorem member_replaced (hereditary : Hereditary ends holds) {v w : Node}
    (same : holds v ↔ holds w) (before after : Members) (key : String) (ending : Ending) :
    holds (.record (before ++ (key, v) :: after) ending) ↔
      holds (.record (before ++ (key, w) :: after) ending) := by
  simp only [hereditary.record, List.forall_mem_append, List.forall_mem_cons, same]

theorem permuted (hereditary : Hereditary ends holds) {members others : Members}
    (perm : members.Perm others) (ending : Ending) :
    holds (.record members ending) ↔ holds (.record others ending) := by
  rw [hereditary.record, hereditary.record]
  exact and_congr_right fun _ => forall_congr' fun m => by rw [perm.mem_iff]

theorem shuffled (hereditary : Hereditary ends holds) {v w : Node} (shuffled : Shuffled v w) :
    holds v ↔ holds w := by
  induction shuffled with
  | members perm => exact hereditary.permuted perm _
  | item _ ih => exact hereditary.item_replaced ih _ _ _
  | value _ ih => exact hereditary.member_replaced ih _ _ _ _

theorem oneItem (hereditary : Hereditary ends holds) {rewrites : Node → Node → Prop}
    (step : ∀ v w, rewrites v w → (holds v ↔ holds w)) {node other : Node}
    (rewritten : OneItem rewrites node other) : holds node ↔ holds other := by
  obtain ⟨inside⟩ := rewritten
  exact hereditary.item_replaced (step _ _ inside) _ _ _

/-- Rewriting a record does not change whether it holds, where it holds of what is added and
does not change with the values of the fields. -/
theorem rewrites (hereditary : Hereditary ends holds) {slots : List Slot} {foreign : Node → Prop}
    (defaults : ∀ slot ∈ slots, ∀ node ∈ slot.defaults, holds node)
    (values : ∀ slot ∈ slots, ∀ v w, slot.rewrites v w → (holds v ↔ holds w))
    (strangers : ∀ node, foreign node → holds node) {node other : Node}
    (rewritten : Rewrites slots foreign node other) : holds node ↔ holds other := by
  cases rewritten with
  | permuted perm => exact hereditary.permuted perm _
  | default known default _ =>
      rw [hereditary.record, hereditary.record, List.forall_mem_cons,
        and_iff_right (defaults _ known _ default)]
  | stranger _ fits =>
      rw [hereditary.record, hereditary.record, List.forall_mem_cons,
        and_iff_right (strangers _ fits)]
  | shuffled _ inside => exact hereditary.member_replaced (hereditary.shuffled inside) _ _ _ _
  | @listed items fits =>
      have inside : ((slots.map Slot.key).zip items).map Prod.snd = items :=
        List.map_snd_zip (by rwa [List.length_map])
      rw [hereditary.record, hereditary.list, ← List.forall_mem_map, inside]
  | value known rewritten => exact hereditary.member_replaced (values _ known _ _ rewritten) _ _ _ _

end Hereditary

end DeferredBinding.Document
