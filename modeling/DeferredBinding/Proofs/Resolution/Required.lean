/-
# Proofs.Resolution.Required -- what may be read, in the order of first mention

The leaves of a condition have an order: depth first, left to right (`leaves`).  What a
condition requires is the list of the properties of its leaves in the order in which they
first occur there (`OrderOfFirst`), and the same holds of several conditions, of a rule, and
of all rules in the order in which they are tried.

So nothing but the sequence of leaves matters (`requiredList_congr`): a branch may be dissolved
in the one around it, whatever kinds they are, and another order of children or of rules gives
the same properties in another order (`requiredList_perm`).  A collection of rules gathers rule
by rule and merges what it got; that comes to one gathering over all root conditions
(`Rules.required_eq`).
-/
import Mathlib.Data.List.Basic
import Mathlib.Data.List.Induction
import DeferredBinding.Proofs.Condition.Branches
import DeferredBinding.Resolution.Rules

namespace DeferredBinding

set_option autoImplicit false

/-! ## The order of first occurrence -/

namespace FirstSeen

/-- `names` are the values of `occurrences`, each once, in the order in which they first
occur there. -/
structure OrderOfFirst (names occurrences : List String) : Prop where
  distinct : names.Nodup
  same : ∀ name, name ∈ names ↔ name ∈ occurrences
  ordered : names.Pairwise fun one other => occurrences.idxOf one < occurrences.idxOf other

theorem distinct_concat (xs : List String) (x : String) :
    distinct (xs ++ [x]) = add (distinct xs) x :=
  addAll_append [] xs [x]

/-- What is seen one by one is listed in the order of first occurrence. -/
theorem pairwise_distinct (xs : List String) :
    (distinct xs).Pairwise fun one other => xs.idxOf one < xs.idxOf other := by
  induction xs using List.reverseRecOn with
  | nil => exact .nil
  | append_singleton xs x ih =>
      -- a value that has occurred keeps the place where it first did
      have kept : ∀ {y}, y ∈ distinct xs → (xs ++ [x]).idxOf y = xs.idxOf y := fun there =>
        List.idxOf_append_of_mem (mem_distinct.1 there)
      have before : (distinct xs).Pairwise fun one other =>
          (xs ++ [x]).idxOf one < (xs ++ [x]).idxOf other :=
        ih.imp_of_mem fun one other less => by rw [kept one, kept other]; exact less
      rw [distinct_concat, add]
      split
      · exact before
      · rename_i new
        refine List.pairwise_append.2 ⟨before, List.pairwise_singleton _ _, fun y there z last => ?_⟩
        rw [List.mem_singleton.1 last, kept there,
          List.idxOf_append_of_notMem fun occurred => new (mem_distinct.2 occurred)]
        exact Nat.lt_add_right _ (List.idxOf_lt_length_of_mem (mem_distinct.1 there))

theorem orderOfFirst_distinct (xs : List String) : OrderOfFirst (distinct xs) xs :=
  ⟨nodup_distinct xs, fun _ => mem_distinct, pairwise_distinct xs⟩

/-- The same values in another order have the same distinct ones in another order. -/
theorem distinct_perm {xs ys : List String} (perm : xs.Perm ys) :
    (distinct xs).Perm (distinct ys) := by
  refine (List.perm_ext_iff_of_nodup (nodup_distinct xs) (nodup_distinct ys)).2 fun x => ?_
  rw [mem_distinct, mem_distinct]
  exact perm.mem_iff

/-- To merge what is distinct in each list is to merge the lists. -/
theorem distinct_flatMap_distinct {α : Type} (listOf : α → List String) (xs : List α) :
    distinct (xs.flatMap fun x => distinct (listOf x)) = distinct (xs.flatMap listOf) := by
  have merged : ∀ seen, addAll seen (xs.flatMap fun x => distinct (listOf x)) =
      addAll seen (xs.flatMap listOf) := by
    induction xs with
    | nil => exact fun _ => rfl
    | cons x rest ih =>
        intro seen
        rw [List.flatMap_cons, List.flatMap_cons, addAll_append, addAll_append, ih, distinct,
          addAll_addAll, addAll_nil]
  exact merged []

end FirstSeen

open FirstSeen

namespace Condition

/-! ## Leaves -/

mutual

/-- The leaves of a condition, depth first and left to right. -/
def leaves : Condition → List Condition
  | .all children => leavesList children
  | .any children => leavesList children
  | .noneOf children => leavesList children
  | leaf => [leaf]

def leavesList : List Condition → List Condition
  | [] => []
  | c :: rest => leaves c ++ leavesList rest

end

def property? : Condition → Option String
  | .propertyIs property _ => some property
  | _ => none

/-- The properties that leaves ask about, in order. -/
def asked (leaves : List Condition) : List String :=
  leaves.filterMap property?

theorem leaves_of_isLeaf {c : Condition} (leaf : c.isLeaf = true) : leaves c = [c] := by
  cases c with
  | typeIs name => rfl
  | assignableTo name => rfl
  | propertyIs property value => rfl
  | all children => cases leaf
  | any children => cases leaf
  | noneOf children => cases leaf

theorem leaves_branch (w : Wrapping) (children : List Condition) :
    leaves (branch w children) = leavesList children := by
  cases w <;> rw [branch, leaves]

theorem leavesList_eq_flatMap (cs : List Condition) : leavesList cs = cs.flatMap leaves := by
  induction cs with
  | nil => rfl
  | cons c rest ih => rw [leavesList, ih, List.flatMap_cons]

theorem leavesList_append (cs ds : List Condition) :
    leavesList (cs ++ ds) = leavesList cs ++ leavesList ds := by
  rw [leavesList_eq_flatMap, leavesList_eq_flatMap, leavesList_eq_flatMap, List.flatMap_append]

theorem leavesList_singleton (c : Condition) : leavesList [c] = leaves c :=
  List.append_nil _

/-- A way puts the leaves of its end between those that it passes on either side. -/
theorem leaves_along (way : List Descent) :
    ∃ left right, ∀ c, leaves (along way c) = left ++ leaves c ++ right := by
  induction way with
  | nil => exact ⟨[], [], fun c => (List.append_nil _).symm⟩
  | cons step rest ih =>
      obtain ⟨left, right, between⟩ := ih
      refine ⟨leavesList step.earlier ++ left, right ++ leavesList step.later, fun c => ?_⟩
      rw [along_cons, Descent.above, leaves_branch, leavesList_append, leavesList, between]
      simp only [List.append_assoc]

/-- A leaf stands among the leaves where a way leads to it. -/
theorem mem_leaves_iff {c leaf : Condition} :
    leaf ∈ leaves c ↔ leaf.isLeaf = true ∧ ∃ way, c = along way leaf := by
  constructor
  · intro member
    induction c using induction_branches with
    | leaf c isLeaf =>
        rw [leaves_of_isLeaf isLeaf, List.mem_singleton] at member
        subst member
        exact ⟨isLeaf, [], rfl⟩
    | node w children ih =>
        rw [leaves_branch, leavesList_eq_flatMap] at member
        obtain ⟨child, there, below⟩ := List.mem_flatMap.1 member
        obtain ⟨isLeaf, way, rfl⟩ := ih child there below
        obtain ⟨earlier, later, rfl⟩ := List.append_of_mem there
        exact ⟨isLeaf, ⟨w, earlier, later⟩ :: way, rfl⟩
  · rintro ⟨isLeaf, way, rfl⟩
    obtain ⟨left, right, between⟩ := leaves_along way
    rw [between, leaves_of_isLeaf isLeaf]
    exact List.mem_append_left _ (List.mem_append_right _ List.mem_cons_self)

/-! ## What conditions require -/

mutual

theorem mentioned_eq_asked : ∀ c : Condition, mentioned c = asked (leaves c)
  | .typeIs _ => rfl
  | .assignableTo _ => rfl
  | .propertyIs _ _ => rfl
  | .all children => mentionedList_eq_asked children
  | .any children => mentionedList_eq_asked children
  | .noneOf children => mentionedList_eq_asked children

theorem mentionedList_eq_asked : ∀ cs : List Condition, mentionedList cs = asked (leavesList cs)
  | [] => rfl
  | c :: rest => by
      rw [mentionedList, leavesList, asked, List.filterMap_append, mentioned_eq_asked c,
        mentionedList_eq_asked rest]
      rfl

end

theorem requiredList_eq_distinct (cs : List Condition) :
    requiredList cs = distinct (asked (leavesList cs)) := by
  rw [requiredList, gatherList_eq, mentionedList_eq_asked, distinct]

theorem required_eq_distinct (c : Condition) : required c = distinct (asked (leaves c)) := by
  rw [required, gather_eq, mentioned_eq_asked, distinct]

/-- Nothing but the sequence of leaves matters. -/
theorem requiredList_congr {cs ds : List Condition} (same : leavesList cs = leavesList ds) :
    requiredList cs = requiredList ds := by
  rw [requiredList_eq_distinct, same, requiredList_eq_distinct]

/-- With their leaves in another order, conditions require the same in another order. -/
theorem required_perm {c d : Condition} (perm : (leaves c).Perm (leaves d)) :
    (required c).Perm (required d) := by
  rw [required_eq_distinct, required_eq_distinct]
  exact distinct_perm (perm.filterMap property?)

/-- A property is required just where a leaf at some depth asks about it. -/
theorem mem_required_iff_along {c : Condition} {name : String} :
    name ∈ c.required ↔ ∃ way value, c = along way (.propertyIs name value) := by
  rw [Condition.mem_required, mentioned_eq_asked, asked, List.mem_filterMap]
  constructor
  · rintro ⟨leaf, member, asks⟩
    obtain ⟨-, way, rfl⟩ := mem_leaves_iff.1 member
    cases leaf with
    | propertyIs property value =>
        cases asks
        exact ⟨way, value, rfl⟩
    | _ => cases asks
  · rintro ⟨way, value, rfl⟩
    exact ⟨_, mem_leaves_iff.2 ⟨rfl, way, rfl⟩, rfl⟩

/-- A branch may be dissolved in the one around it, whatever kinds they are. -/
theorem required_dissolved (way : List Descent) (outer inner : Wrapping)
    (earlier children later : List Condition) :
    (along way (branch outer (earlier ++ [branch inner children] ++ later))).required =
      (along way (branch outer (earlier ++ children ++ later))).required := by
  obtain ⟨left, right, between⟩ := leaves_along way
  rw [required_eq_distinct, required_eq_distinct, between, between, leaves_branch, leaves_branch]
  simp only [leavesList_append, leavesList_singleton, leaves_branch]

/-- A branch with its children in another order requires the same in another order. -/
theorem required_reordered (way : List Descent) (w : Wrapping) {xs ys : List Condition}
    (perm : xs.Perm ys) :
    (along way (branch w xs)).required.Perm (along way (branch w ys)).required := by
  obtain ⟨left, right, between⟩ := leaves_along way
  refine required_perm ?_
  rw [between, between, leaves_branch, leaves_branch, leavesList_eq_flatMap,
    leavesList_eq_flatMap]
  exact ((perm.flatMap_right leaves).append_left left).append_right right

end Condition

open Condition

/-! ## What rules require -/

namespace Rules

/-- The root conditions of all rules, in the order in which the rules are tried. -/
def roots (rs : Rules) : List Condition :=
  rs.toList.flatMap Rule.roots

theorem leavesList_roots (rs : Rules) :
    leavesList rs.roots = rs.toList.flatMap fun r => leavesList r.roots := by
  rw [roots, leavesList_eq_flatMap, List.flatMap_assoc]
  exact List.flatMap_congr fun r _ => (leavesList_eq_flatMap r.roots).symm

/-- Rule by rule and merged, or over all root conditions at once: it comes to the same. -/
theorem required_eq (rs : Rules) : rs.required = requiredList rs.roots := by
  have each : rs.toList.flatMap Rule.required =
      rs.toList.flatMap fun r => distinct (asked (leavesList r.roots)) :=
    List.flatMap_congr fun r _ => requiredList_eq_distinct r.roots
  rw [required, each, distinct_flatMap_distinct, requiredList_eq_distinct, leavesList_roots,
    asked, List.filterMap_flatMap]
  rfl

theorem required_perm {rs others : Rules} (perm : rs.toList.Perm others.toList) :
    rs.required.Perm others.required := by
  rw [required_eq, required_eq, requiredList_eq_distinct, requiredList_eq_distinct,
    leavesList_roots, leavesList_roots]
  exact distinct_perm ((perm.flatMap_right _).filterMap property?)

/-- What is required, of conditions and of rules. -/
structure RequiresInOrder : Prop where
  condition : ∀ c : Condition, OrderOfFirst c.required (asked (leaves c))
  conditions : ∀ cs : List Condition, OrderOfFirst (requiredList cs) (asked (leavesList cs))
  rule : ∀ r : Rule, OrderOfFirst r.required (asked (leavesList r.roots))
  rules : ∀ rs : Rules, OrderOfFirst rs.required (asked (leavesList rs.roots))
  /-- a property is required just where a leaf at some depth asks about it -/
  anyDepth : ∀ (c : Condition) (name : String),
    name ∈ c.required ↔ ∃ way value, c = along way (.propertyIs name value)
  /-- however the same leaves are put into branches -/
  regrouped : ∀ cs ds : List Condition, leavesList cs = leavesList ds →
    requiredList cs = requiredList ds
  /-- a branch dissolved in another, of whatever kinds and at whatever depth -/
  dissolved : ∀ way outer inner earlier children later,
    (along way (branch outer (earlier ++ [branch inner children] ++ later))).required =
      (along way (branch outer (earlier ++ children ++ later))).required
  reorderedChildren : ∀ (way : List Descent) (w : Wrapping) (xs ys : List Condition),
    xs.Perm ys → (along way (branch w xs)).required.Perm (along way (branch w ys)).required
  reorderedRules : ∀ rs others : Rules, rs.toList.Perm others.toList →
    rs.required.Perm others.required
  /-- merging what each rule requires is gathering over all root conditions, also where those
  of each rule are kept together -/
  merged : ∀ rs : Rules, rs.required = (Condition.all rs.roots).required ∧
    rs.required = (Condition.all (rs.toList.map fun r => .all r.roots)).required

/-- **What is required is the ordered union of what the leaves ask about.** -/
theorem requires_in_order : RequiresInOrder where
  condition c := by
    rw [required_eq_distinct]
    exact orderOfFirst_distinct _
  conditions cs := by
    rw [requiredList_eq_distinct]
    exact orderOfFirst_distinct _
  rule r := by
    rw [Rule.required, requiredList_eq_distinct]
    exact orderOfFirst_distinct _
  rules rs := by
    rw [required_eq, requiredList_eq_distinct]
    exact orderOfFirst_distinct _
  anyDepth _ _ := mem_required_iff_along
  regrouped _ _ same := requiredList_congr same
  dissolved := required_dissolved
  reorderedChildren way w _ _ perm := required_reordered way w perm
  reorderedRules _ _ perm := required_perm perm
  merged rs := by
    refine ⟨required_eq rs, (required_eq rs).trans (requiredList_congr ?_)⟩
    rw [leavesList_roots, leavesList_eq_flatMap, List.flatMap_map]
    rfl

end Rules

end DeferredBinding
