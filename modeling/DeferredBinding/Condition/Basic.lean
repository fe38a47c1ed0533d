/-
# Condition -- when a rule applies

A condition is a tree: its leaves ask about the requested type or about one
property, its branches combine the answers of their children.

`mentioned` lists the properties of the leaves in the order in which they stand,
with repetitions; `required` is that list as an ordered set (`mem_required`), and
what an evaluation may read.  `render` writes a condition as markup.
-/
import DeferredBinding.FirstSeen

namespace DeferredBinding

set_option autoImplicit false

/-- A condition on the requested type and the selected property values. -/
inductive Condition where
  | typeIs (name : String)
  | assignableTo (name : String)
  | propertyIs (property value : String)
  | all (children : List Condition)
  | any (children : List Condition)
  | noneOf (children : List Condition)
  deriving Repr

namespace Condition

/-! ## Equality -/

mutual

def same : Condition → Condition → Bool
  | .typeIs a, .typeIs b => a == b
  | .assignableTo a, .assignableTo b => a == b
  | .propertyIs a v, .propertyIs b w => a == b && v == w
  | .all as, .all bs => sameList as bs
  | .any as, .any bs => sameList as bs
  | .noneOf as, .noneOf bs => sameList as bs
  | _, _ => false

def sameList : List Condition → List Condition → Bool
  | [], [] => true
  | a :: as, b :: bs => same a b && sameList as bs
  | _, _ => false

end

mutual

theorem same_iff : ∀ a b : Condition, same a b = true ↔ a = b
  | .typeIs a, b => by cases b <;> simp [same]
  | .assignableTo a, b => by cases b <;> simp [same]
  | .propertyIs a v, b => by cases b <;> simp [same]
  | .all as, b => by cases b <;> simp [same, sameList_iff as]
  | .any as, b => by cases b <;> simp [same, sameList_iff as]
  | .noneOf as, b => by cases b <;> simp [same, sameList_iff as]

theorem sameList_iff : ∀ as bs : List Condition, sameList as bs = true ↔ as = bs
  | [], bs => by cases bs <;> simp [sameList]
  | a :: as, bs => by cases bs <;> simp [sameList, same_iff a, sameList_iff as]

end

instance : DecidableEq Condition := fun a b =>
  decidable_of_iff (same a b = true) (same_iff a b)

/-! ## The properties a condition mentions -/

mutual

/-- The property names of the leaves, left to right. -/
def mentioned : Condition → List String
  | .typeIs _ => []
  | .assignableTo _ => []
  | .propertyIs property _ => [property]
  | .all children => mentionedList children
  | .any children => mentionedList children
  | .noneOf children => mentionedList children

def mentionedList : List Condition → List String
  | [] => []
  | c :: rest => mentioned c ++ mentionedList rest

end

mutual

/-- The properties of the leaves with the values they are compared with, left to
right. -/
def comparisons : Condition → List (String × String)
  | .typeIs _ => []
  | .assignableTo _ => []
  | .propertyIs property value => [(property, value)]
  | .all children => comparisonsList children
  | .any children => comparisonsList children
  | .noneOf children => comparisonsList children

def comparisonsList : List Condition → List (String × String)
  | [] => []
  | c :: rest => comparisons c ++ comparisonsList rest

end

mutual

theorem map_fst_comparisons : ∀ c : Condition, (comparisons c).map Prod.fst = mentioned c
  | .typeIs _ => rfl
  | .assignableTo _ => rfl
  | .propertyIs _ _ => rfl
  | .all children => map_fst_comparisonsList children
  | .any children => map_fst_comparisonsList children
  | .noneOf children => map_fst_comparisonsList children

theorem map_fst_comparisonsList :
    ∀ cs : List Condition, (comparisonsList cs).map Prod.fst = mentionedList cs
  | [] => rfl
  | c :: rest => by
      rw [comparisonsList, mentionedList, List.map_append, map_fst_comparisons c,
        map_fst_comparisonsList rest]

end

mutual

/-- Add the properties of a condition to those seen before. -/
def gather (seen : List String) : Condition → List String
  | .typeIs _ => seen
  | .assignableTo _ => seen
  | .propertyIs property _ => FirstSeen.add seen property
  | .all children => gatherList seen children
  | .any children => gatherList seen children
  | .noneOf children => gatherList seen children

def gatherList (seen : List String) : List Condition → List String
  | [] => seen
  | c :: rest => gatherList (gather seen c) rest

end

/-- The properties an evaluation may read, each once, in the order of first mention. -/
def required (c : Condition) : List String :=
  gather [] c

def requiredList (conditions : List Condition) : List String :=
  gatherList [] conditions

mutual

/-- Gathering is adding what is mentioned. -/
theorem gather_eq (seen : List String) :
    ∀ c : Condition, gather seen c = FirstSeen.addAll seen (mentioned c)
  | .typeIs _ => rfl
  | .assignableTo _ => rfl
  | .propertyIs _ _ => rfl
  | .all children => gatherList_eq seen children
  | .any children => gatherList_eq seen children
  | .noneOf children => gatherList_eq seen children

theorem gatherList_eq (seen : List String) :
    ∀ conditions : List Condition,
      gatherList seen conditions = FirstSeen.addAll seen (mentionedList conditions)
  | [] => rfl
  | c :: rest => by
      rw [gatherList, mentionedList, FirstSeen.addAll_append, ← gather_eq seen c,
        gatherList_eq _ rest]

end

theorem mem_gather {seen : List String} {c : Condition} {name : String} :
    name ∈ gather seen c ↔ name ∈ seen ∨ name ∈ mentioned c := by
  rw [gather_eq, FirstSeen.mem_addAll]

theorem mem_required {name : String} {c : Condition} : name ∈ required c ↔ name ∈ mentioned c := by
  rw [required, mem_gather, List.mem_nil_iff, false_or]

theorem mem_requiredList {name : String} {conditions : List Condition} :
    name ∈ requiredList conditions ↔ name ∈ mentionedList conditions := by
  rw [requiredList, gatherList_eq, FirstSeen.mem_addAll, List.mem_nil_iff, false_or]

/-! ## Markup -/

mutual

/-- A condition as markup.  The texts of a leaf stand between apostrophes as they
are. -/
def render : Condition → String
  | .typeIs name => "<when-type-is class='" ++ name ++ "'/>"
  | .assignableTo name => "<when-type-assignable class='" ++ name ++ "'/>"
  | .propertyIs property value =>
      "<when-property-is name='" ++ property ++ "' value='" ++ value ++ "'/>"
  | .all children => "<all>" ++ renderList children ++ "</all>"
  | .any children => "<any>" ++ renderList children ++ "</any>"
  | .noneOf children => "<none>" ++ renderList children ++ "</none>"

def renderList : List Condition → String
  | [] => ""
  | c :: rest => render c ++ renderList rest

end

/-! ## What an evaluation says of itself -/

/-- What is noted before a condition is decided. -/
def question (type : String) : Condition → String
  | .typeIs name => "Checking if requested type '" ++ type ++ "' is exactly '" ++ name ++ "'"
  | .assignableTo name =>
      "Checking if requested type '" ++ type ++ "' is assignable to '" ++ name ++ "'"
  | .propertyIs property value => "Checking if property '" ++ property ++ "' is '" ++ value ++ "'"
  | .all _ => "Checking if all subconditions are true (<all>)"
  | .any _ => "Checking if any subcondition is true (<any>)"
  | .noneOf _ => "Checking if none of the subconditions are true (<none>)"

/-- What is noted once a condition is decided. -/
def reply (type : String) : Condition → Bool → String
  | .typeIs _, true => "Yes, '" ++ type ++ "' is an exact match"
  | .typeIs _, false => "No, '" ++ type ++ "' is not an exact match"
  | .assignableTo _, true => "Yes, '" ++ type ++ "' is assignable"
  | .assignableTo _, false => "No, '" ++ type ++ "' is not assignable"
  | .propertyIs _ _, true => "Property value matched"
  | .propertyIs _ _, false => "Property value did not match"
  | .all _, true => "Yes: All subconditions were true"
  | .all _, false => "No: One or more subconditions was false"
  | .any _, true => "Yes: At least one subcondition was true"
  | .any _, false => "No: All subconditions were false"
  | .noneOf _, true => "Yes: None of the subconditions were true"
  | .noneOf _, false => "No: One or more subconditions was true"

/-! ## Nesting -/

/-- The branches that have a single child. -/
inductive Wrapping where
  | all
  | any
  | noneOf
  deriving DecidableEq, Repr

/-- A condition as the only child of a branch. -/
def wrap (c : Condition) : Wrapping → Condition
  | .all => .all [c]
  | .any => .any [c]
  | .noneOf => .noneOf [c]

/-- A condition wrapped again and again: `times` rounds through `wrappings`, each
round innermost first. -/
def wrapAll (wrappings : List Wrapping) : Nat → Condition → Condition
  | 0, c => c
  | times + 1, c => wrapAll wrappings times (wrappings.foldl wrap c)

end Condition

end DeferredBinding
