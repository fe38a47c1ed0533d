/-
# Types.Hierarchy -- the declared types and who is assignable to whom

A hierarchy holds at most one declaration under each name, and always one of
`java.lang.Object`; declaring a name again replaces its declaration.

A type is assignable to itself, to the root, and to whatever its supertypes
reach.  `climbs` walks up from a list of names: it takes each declaration out of
those it has not visited yet when it passes it, so cycles and diamonds end, and a
name without a declaration ends its branch.
-/
import DeferredBinding.Types.Declaration

namespace DeferredBinding.Types

set_option autoImplicit false

/-- What an evaluation may ask about types. -/
structure Source where
  find? : String → Option Declaration
  assignable : Declaration → Declaration → Bool

/-- Declared types, one for each name. -/
structure Hierarchy where
  declarations : List Declaration
  deriving DecidableEq, Repr

namespace Hierarchy

/-- The hierarchy in which only the root is declared. -/
def root : Hierarchy :=
  { declarations := [.ofClass objectName] }

def find? (h : Hierarchy) (name : String) : Option Declaration :=
  h.declarations.find? fun d => d.name == name

def contains (h : Hierarchy) (name : String) : Bool :=
  (h.find? name).isSome

/-- How many types are declared, the root included. -/
def size (h : Hierarchy) : Nat :=
  h.declarations.length

/-- Add a declaration, or replace the one of its name. -/
def insert (h : Hierarchy) (d : Declaration) : Hierarchy :=
  if h.contains d.name then
    { declarations := h.declarations.map fun e => if e.name = d.name then d else e }
  else { declarations := h.declarations ++ [d] }

/-- Declarations added to the root alone, in order. -/
def ofList (declarations : List Declaration) : Hierarchy :=
  declarations.foldl insert root

/-! ## The walk over supertypes -/

/-- The declarations of all other names. -/
def without (name : String) (declarations : List Declaration) : List Declaration :=
  declarations.filter fun e => e.name != name

theorem length_without_lt {unvisited : List Declaration} {name : String} {d : Declaration}
    (found : unvisited.find? (fun e => e.name == name) = some d) :
    (without name unvisited).length < unvisited.length := by
  rw [without, List.length_filter_lt_length_iff_exists]
  have same : d.name = name := by simpa using List.find?_some found
  exact ⟨d, List.mem_of_find?_eq_some found, by simp [same]⟩

/-- Whether `target` is among `frontier` or above it, passing only through
declarations of `unvisited`. -/
def climbs (target : String) (unvisited : List Declaration) (frontier : List String) : Bool :=
  match frontier with
  | [] => false
  | name :: rest =>
      if name = target then true
      else
        match _found : unvisited.find? fun e => e.name == name with
        | none => climbs target unvisited rest
        | some d =>
            climbs target (without name unvisited) (rest ++ d.supertypes)
termination_by (unvisited.length, frontier.length)
decreasing_by
  · exact Prod.Lex.right _ (by simp)
  · exact Prod.Lex.left _ _ (length_without_lt _found)

/-- Whether a `lower` may stand where an `upper` is expected.  Neither needs to be
declared here. -/
def assignable (h : Hierarchy) (lower upper : Declaration) : Bool :=
  lower.name == upper.name || upper.name == objectName ||
    climbs upper.name h.declarations lower.supertypes

def source (h : Hierarchy) : Source :=
  { find? := h.find?, assignable := h.assignable }

end Hierarchy

end DeferredBinding.Types
