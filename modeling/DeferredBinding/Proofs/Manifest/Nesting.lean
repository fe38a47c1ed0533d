/-
# Proofs.Manifest.Nesting -- how many brackets a manifest needs

How deep the brackets of a manifest are nested does not depend on how it is written, but on the
conditions of its rules: `Condition.nesting` counts the brackets that one takes, and
`Manifest.nesting` those in the value of a member of an entry.  However they are written, values
are whole and keep within that (`keeps_property` and the lemmas beside it), and a manifest has
three brackets around them (`within_of_writes`).
-/
import DeferredBinding.Proofs.Manifest.Writing

namespace DeferredBinding

open Document Document.Node

set_option autoImplicit false

namespace Condition

mutual

/-- How many brackets are open inside each other in a condition. -/
def nesting : Condition → Nat
  | .typeIs _ => 1
  | .assignableTo _ => 1
  | .propertyIs _ _ => 2
  | .any children => nestingList children + 2
  | .all children => nestingList children + 2
  | .noneOf children => nestingList children + 2

def nestingList : List Condition → Nat
  | [] => 0
  | c :: rest => max (nesting c) (nestingList rest)

end

end Condition

namespace Manifest

def RuleEntry.nesting (entry : RuleEntry) : Nat :=
  Condition.nestingList entry.roots + 1

/-- How many brackets are open inside each other in a value of an entry: one in a list of texts,
and more in the conditions of a rule. -/
def nesting (manifest : Manifest) : Nat :=
  (manifest.rules.map RuleEntry.nesting).foldr max 1

/-- How many brackets may be open at once: 127 of all in a text of the one dialect, 80 within a
line of the other. -/
def LowEnough (manifest : Manifest) : Dialect → Prop
  | .json => manifest.nesting + 3 ≤ 127
  | .toml => manifest.nesting ≤ 80

instance (manifest : Manifest) : ∀ dialect, Decidable (manifest.LowEnough dialect)
  | .json => inferInstanceAs (Decidable (_ ≤ _))
  | .toml => inferInstanceAs (Decidable (_ ≤ _))

theorem one_le_nesting (manifest : Manifest) : 1 ≤ manifest.nesting := by
  rw [nesting]
  induction manifest.rules with
  | nil => exact Nat.le_refl 1
  | cons entry rest ih => exact Nat.le_trans ih (Nat.le_max_right _ _)

theorem nesting_rule_le {manifest : Manifest} {entry : RuleEntry}
    (member : entry ∈ manifest.rules) : entry.nesting ≤ manifest.nesting := by
  rw [nesting]
  generalize manifest.rules = rules at member
  induction rules with
  | nil => cases member
  | cons first rest ih =>
      obtain rfl | behind := List.mem_cons.1 member
      · exact Nat.le_max_left _ _
      · exact Nat.le_trans (ih behind) (Nat.le_max_right _ _)

/-! ## Keeping within brackets -/

/-- However a value is written, it is whole and keeps within so many brackets. -/
def Keeps {α : Type} (n : Nat) (writes : α → Node → Prop) (value : α) : Prop :=
  ∀ node, writes value node → node.Within (some n)

/-- Whatever a clause says keeps within so many brackets. -/
def ClauseKeeps (n : Nat) (clause : Clause) : Prop :=
  ∀ node, clause.saidBy node → node.Within (some n)

theorem within_of_le {n : Nat} {node : Node} (whole : node.Whole) (low : node.height ≤ n) :
    node.Within (some n) :=
  ⟨whole, fun _ same => Option.some.inj same ▸ low⟩

theorem height_le_of_within {n : Nat} {node : Node} (within : node.Within (some n)) :
    node.height ≤ n :=
  within.low n rfl

theorem within_mono {m n : Nat} (le : m ≤ n) {node : Node} (within : node.Within (some m)) :
    node.Within (some n) :=
  within_of_le within.whole (Nat.le_trans (height_le_of_within within) le)

theorem within_list {n : Nat} {items : List Node} (each : ∀ item ∈ items, item.Within (some n)) :
    (Node.list items .closed).Within (some (n + 1)) := by
  refine within_of_le (whole_list (wholeList_iff.2 fun item member => (each item member).whole)) ?_
  rw [height]
  refine Nat.succ_le_succ ?_
  induction items with
  | nil => exact Nat.zero_le n
  | cons item rest ih =>
      obtain ⟨here, later⟩ := List.forall_mem_cons.1 each
      exact Nat.max_le.2 ⟨height_le_of_within here, ih later⟩

theorem within_record {n : Nat} {members : List (String × Node)}
    (each : ∀ m ∈ members, m.2.Within (some n)) :
    (Node.record members .closed).Within (some (n + 1)) := by
  refine within_of_le (whole_record (wholeRecord_iff.2 fun m member => (each m member).whole)) ?_
  rw [height]
  refine Nat.succ_le_succ ?_
  induction members with
  | nil => exact Nat.zero_le n
  | cons m rest ih =>
      obtain ⟨here, later⟩ := List.forall_mem_cons.1 each
      exact Nat.max_le.2 ⟨height_le_of_within here, ih later⟩

section

variable {α : Type} {n : Nat} {writes : α → Node → Prop}

theorem keeps_text (value : String) : Keeps n WritesText value := by
  rintro _ rfl
  exact within_of_le (whole_text value) (Nat.zero_le n)

theorem keeps_truth (value : Bool) : Keeps n WritesTruth value := by
  rintro _ rfl
  exact within_of_le trivial (Nat.zero_le n)

theorem keeps_kind (kind : Types.Kind) : Keeps n WritesKind kind := by
  cases kind with
  | classKind => exact keeps_text "class"
  | interfaceKind => exact keeps_text "interface"

theorem keeps_optional (value : Option String) : Keeps n (WritesOptional WritesText) value := by
  cases value with
  | none =>
      rintro _ rfl
      exact within_of_le trivial (Nat.zero_le n)
  | some text => exact keeps_text text

theorem keeps_list {values : List α} (each : ∀ value ∈ values, Keeps n writes value) :
    Keeps (n + 1) (WritesList writes) values := by
  rintro _ ⟨items, rfl, written⟩
  refine within_list fun item member => ?_
  induction written with
  | nil => cases member
  | cons head _ ih =>
      obtain ⟨here, later⟩ := List.forall_mem_cons.1 each
      obtain rfl | behind := List.mem_cons.1 member
      · exact here _ head
      · exact ih later behind

theorem keeps_texts (some_ : 1 ≤ n) (values : List String) :
    Keeps n (WritesList WritesText) values := fun node written =>
  within_mono some_ (keeps_list (fun value _ => keeps_text value) node written)

theorem within_of_states {clauses : List Clause} {members : Members}
    (states : States clauses members) (keeps : ∀ clause ∈ clauses, ClauseKeeps n clause) :
    ∀ m ∈ members, m.2.Within (some n) := by
  intro m member
  obtain ⟨clause, demanded, same⟩ := states.known m member
  exact keeps clause demanded m.2 (states.saidBy member demanded same)

theorem keeps_record {clauses : α → List Clause} {value : α}
    (keeps : ∀ clause ∈ clauses value, ClauseKeeps n clause) :
    Keeps (n + 1) (WritesRecord clauses) value := by
  rintro _ ⟨members, rfl, states⟩
  exact within_record (within_of_states states keeps)

end

/-! ## Conditions -/

theorem within_single {n : Nat} {key : String} {node : Node} (within : node.Within (some n)) :
    (Node.record [(key, node)] .closed).Within (some (n + 1)) :=
  within_record (List.forall_mem_singleton.2 within)

mutual

theorem keeps_condition : ∀ c : Condition, Keeps c.nesting WritesCondition c
  | .typeIs name => by
      rintro _ ⟨⟩
      exact within_single (keeps_text name _ rfl)
  | .assignableTo name => by
      rintro _ ⟨⟩
      exact within_single (keeps_text name _ rfl)
  | .propertyIs property value => by
      rintro _ ⟨states⟩
      refine within_single (within_record (within_of_states ‹_› ?_))
      exact List.forall_mem_cons.2 ⟨keeps_text property,
        List.forall_mem_singleton.2 (keeps_text value)⟩
  | .any children => by
      rintro _ ⟨⟩
      exact within_single (keeps_list (keeps_conditionList children) _ ⟨_, rfl, ‹_›⟩)
  | .all children => by
      rintro _ ⟨⟩
      exact within_single (keeps_list (keeps_conditionList children) _ ⟨_, rfl, ‹_›⟩)
  | .noneOf children => by
      rintro _ ⟨⟩
      exact within_single (keeps_list (keeps_conditionList children) _ ⟨_, rfl, ‹_›⟩)

theorem keeps_conditionList : ∀ cs : List Condition,
    ∀ c ∈ cs, Keeps (Condition.nestingList cs) WritesCondition c
  | [] => nofun
  | c :: rest => List.forall_mem_cons.2
      ⟨fun node written => within_mono (Nat.le_max_left _ _) (keeps_condition c node written),
        fun other member node written => within_mono (Nat.le_max_right _ _)
          (keeps_conditionList rest other member node written)⟩

end

/-! ## Entries -/

section

variable {α : Type} {n : Nat} {writes : α → Node → Prop}

theorem clauseKeeps_required {value : α} (keeps : Keeps n writes value) (key : String) :
    ClauseKeeps n (.required key writes value) :=
  keeps

theorem clauseKeeps_withDefault {value : α} (keeps : Keeps n writes value) (key : String)
    (default : α) : ClauseKeeps n (.withDefault key writes value default) :=
  keeps

end

theorem keeps_property {n : Nat} (some_ : 1 ≤ n) (entry : PropertyEntry) :
    ∀ clause ∈ entry.clauses, ClauseKeeps n clause := by
  cases entry <;> simp [PropertyEntry.clauses, clauseKeeps_required, clauseKeeps_withDefault,
    keeps_text, keeps_texts some_, keeps_truth, keeps_optional]

theorem keeps_directive {n : Nat} (some_ : 1 ≤ n) (directive : Directive) :
    ∀ clause ∈ directive.clauses, ClauseKeeps n clause := by
  cases directive <;> simp [Directive.clauses, clauseKeeps_required, keeps_text,
    keeps_texts some_]

theorem keeps_type {n : Nat} (some_ : 1 ≤ n) (entry : TypeEntry) :
    ∀ clause ∈ entry.clauses, ClauseKeeps n clause := by
  simp [TypeEntry.clauses, clauseKeeps_required, clauseKeeps_withDefault, keeps_text, keeps_kind,
    keeps_texts some_, keeps_optional]

theorem keeps_rule {n : Nat} (entry : RuleEntry) (enough : entry.nesting ≤ n) :
    ∀ clause ∈ entry.clauses, ClauseKeeps n clause := by
  have roots : Keeps n (WritesList WritesCondition) entry.roots := fun node written =>
    within_mono enough (keeps_list (keeps_conditionList entry.roots) node written)
  rcases entry with ⟨_ | _ | _, conditions⟩ <;>
    simp [RuleEntry.clauses, ruleClauses, clauseKeeps_required, clauseKeeps_withDefault,
      keeps_text, roots]

/-- Three brackets are open around the values of the entries. -/
theorem within_of_writes {manifest : Manifest} {root : Node} (writes : manifest.Writes root) :
    root.Within (some (manifest.nesting + 3)) := by
  have some_ := one_le_nesting manifest
  have properties := keeps_list fun entry (_ : entry ∈ manifest.properties) =>
    keeps_record (keeps_property some_ entry)
  have directives := keeps_list fun entry (_ : entry ∈ manifest.directives) =>
    keeps_record (keeps_directive some_ entry)
  have types := keeps_list fun entry (_ : entry ∈ manifest.types) =>
    keeps_record (keeps_type some_ entry)
  have rules := keeps_list fun entry (member : entry ∈ manifest.rules) =>
    keeps_record (keeps_rule entry (nesting_rule_le member))
  refine keeps_record ?_ root writes
  simp [clauses, clauseKeeps_required, clauseKeeps_withDefault, keeps_text, properties, directives,
    types, rules]

end Manifest

end DeferredBinding
