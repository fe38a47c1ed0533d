/-
# Proofs.Document.Whole -- trees that nothing is wrong with

A tree is `Whole` where nothing in it is broken off, out of reach or without a value; its
`height` is the number of lists and records that are open inside each other at most.  A whole
tree that keeps within the brackets allowed is taken in without a complaint
(`buffer_of_within`).
-/
import DeferredBinding.Document.Node

namespace DeferredBinding.Document.Node

set_option autoImplicit false

mutual

/-- Nothing in the tree is broken off, out of reach or without a value. -/
def Whole : Node → Prop
  | .null => True
  | .truth _ => True
  | .text _ => True
  | .list items ending => ending = .closed ∧ WholeList items
  | .record members ending => ending = .closed ∧ WholeRecord members
  | _ => False

def WholeList : List Node → Prop
  | [] => True
  | item :: rest => Whole item ∧ WholeList rest

def WholeRecord : List (String × Node) → Prop
  | [] => True
  | (_, value) :: rest => Whole value ∧ WholeRecord rest

end

mutual

/-- How many lists and records are open inside each other at most. -/
def height : Node → Nat
  | .list items _ => heightList items + 1
  | .record members _ => heightRecord members + 1
  | _ => 0

def heightList : List Node → Nat
  | [] => 0
  | item :: rest => max (height item) (heightList rest)

def heightRecord : List (String × Node) → Nat
  | [] => 0
  | (_, value) :: rest => max (height value) (heightRecord rest)

end

theorem wholeList_iff {items : List Node} : WholeList items ↔ ∀ item ∈ items, item.Whole := by
  induction items with
  | nil => simp [WholeList]
  | cons item rest ih => rw [WholeList, ih, List.forall_mem_cons]

theorem wholeRecord_iff {members : List (String × Node)} :
    WholeRecord members ↔ ∀ m ∈ members, m.2.Whole := by
  induction members with
  | nil => simp [WholeRecord]
  | cons m rest ih => rw [WholeRecord, ih, List.forall_mem_cons]

theorem whole_text (value : String) : (text value).Whole :=
  trivial

theorem whole_list {items : List Node} (whole : WholeList items) : (list items .closed).Whole :=
  ⟨rfl, whole⟩

theorem whole_record {members : List (String × Node)} (whole : WholeRecord members) :
    (record members .closed).Whole :=
  ⟨rfl, whole⟩

theorem whole_single {key : String} {value : Node} (whole : value.Whole) :
    (record [(key, value)] .closed).Whole :=
  whole_record ⟨whole, trivial⟩

theorem height_le_heightList {items : List Node} {item : Node} (member : item ∈ items) :
    item.height ≤ heightList items := by
  induction items with
  | nil => cases member
  | cons first rest ih =>
      rw [heightList]
      obtain rfl | behind := List.mem_cons.1 member
      · exact Nat.le_max_left _ _
      · exact Nat.le_trans (ih behind) (Nat.le_max_right _ _)

theorem height_le_heightRecord {members : List (String × Node)} {m : String × Node}
    (member : m ∈ members) : m.2.height ≤ heightRecord members := by
  induction members with
  | nil => cases member
  | cons first rest ih =>
      rw [heightRecord]
      obtain rfl | behind := List.mem_cons.1 member
      · exact Nat.le_max_left _ _
      · exact Nat.le_trans (ih behind) (Nat.le_max_right _ _)

/-! ## Limits -/

/-- A whole tree with no more brackets inside each other than allowed. -/
structure Within (limit : Option Nat) (node : Node) : Prop where
  whole : node.Whole
  low : ∀ n, limit = some n → node.height ≤ n

/-- The limit around one bracket more. -/
def around (limit : Option Nat) : Option Nat :=
  limit.map (· + 1)

theorem Within.item {limit : Option Nat} {items : List Node} {ending : Ending}
    (within : Within (around limit) (.list items ending)) {item : Node} (member : item ∈ items) :
    item.Within limit := by
  obtain ⟨⟨-, whole⟩, low⟩ := within
  refine ⟨wholeList_iff.1 whole item member, fun n same => ?_⟩
  have inside := height_le_heightList member
  have outside := low (n + 1) (by rw [around, same]; rfl)
  rw [height] at outside
  omega

theorem Within.member {limit : Option Nat} {members : List (String × Node)} {ending : Ending}
    (within : Within (around limit) (.record members ending)) {m : String × Node}
    (member : m ∈ members) : m.2.Within limit := by
  obtain ⟨⟨-, whole⟩, low⟩ := within
  refine ⟨wholeRecord_iff.1 whole m member, fun n same => ?_⟩
  have inside := height_le_heightRecord member
  have outside := low (n + 1) (by rw [around, same]; rfl)
  rw [height] at outside
  omega

/-- There is room inside a bracket that keeps within the limit. -/
theorem inner_of_le {room : Option Nat} {high : Nat}
    (low : ∀ n, room = some n → high + 1 ≤ n) :
    ∃ inside, inner room = .ok inside ∧ ∀ n, inside = some n → high ≤ n := by
  match room with
  | none => exact ⟨none, rfl, nofun⟩
  | some 0 => exact absurd (low 0 rfl) (Nat.not_succ_le_zero high)
  | some (k + 1) =>
      refine ⟨some k, rfl, fun n same => ?_⟩
      cases same
      exact Nat.le_of_succ_le_succ (low (k + 1) rfl)

mutual

theorem buffer_ok : ∀ (node : Node) (room : Option Nat), node.Whole →
    (∀ n, room = some n → node.height ≤ n) → buffer room node = .ok ()
  | .null, _, _, _ => rfl
  | .truth _, _, _, _ => rfl
  | .text _, _, _, _ => rfl
  | .list items ending, room, ⟨closed, whole⟩, low => by
      obtain ⟨inside, opens, lower⟩ := inner_of_le low
      rw [buffer, opens, closed]
      exact bufferList_ok items inside whole lower
  | .record members ending, room, ⟨closed, whole⟩, low => by
      obtain ⟨inside, opens, lower⟩ := inner_of_le low
      rw [buffer, opens, closed]
      exact bufferRecord_ok members inside whole lower

theorem bufferList_ok : ∀ (items : List Node) (room : Option Nat), WholeList items →
    (∀ n, room = some n → heightList items ≤ n) → bufferList room items .closed = .ok ()
  | [], _, _, _ => rfl
  | item :: rest, room, ⟨whole, others⟩, low => by
      have first := buffer_ok item room whole fun n same =>
        Nat.le_trans (Nat.le_max_left _ _) (low n same)
      rw [bufferList, first]
      exact bufferList_ok rest room others fun n same =>
        Nat.le_trans (Nat.le_max_right _ _) (low n same)

theorem bufferRecord_ok : ∀ (members : List (String × Node)) (room : Option Nat),
    WholeRecord members → (∀ n, room = some n → heightRecord members ≤ n) →
    bufferRecord room members .closed = .ok ()
  | [], _, _, _ => rfl
  | (key, value) :: rest, room, ⟨whole, others⟩, low => by
      have first := buffer_ok value room whole fun n same =>
        Nat.le_trans (Nat.le_max_left _ _) (low n same)
      rw [bufferRecord, first]
      exact bufferRecord_ok rest room others fun n same =>
        Nat.le_trans (Nat.le_max_right _ _) (low n same)

end

theorem buffer_of_within {room : Option Nat} {node : Node} (within : node.Within room) :
    buffer room node = .ok () :=
  buffer_ok node room within.whole within.low

end DeferredBinding.Document.Node
