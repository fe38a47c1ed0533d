/-
# Proofs.Types.Reachability -- assignable is reachable

The walk of `climbs` takes a declaration out of its list when it passes it, so it never
passes one twice, and it is not obvious that nothing is lost by that.  `climbs_iff` says
that nothing is: what is taken out could only be passed a second time on a way that goes
round in a circle, and then a shorter way avoids it (`Leads.avoids_or`).

`find?_ofList` says which declaration stands under a name after any number of insertions:
the last one made under it, the root's having been made before all others.
-/
import DeferredBinding.Pairs
import DeferredBinding.Types.Hierarchy
import Mathlib.Logic.Relation

namespace DeferredBinding.Types

set_option autoImplicit false

open Relation

/-- `name` is the superclass of a declaration or one of its interfaces. -/
def Declaration.Names (d : Declaration) (name : String) : Prop :=
  d.superclass = some name ∨ name ∈ d.interfaces

theorem Declaration.mem_supertypes_iff {d : Declaration} {name : String} :
    name ∈ d.supertypes ↔ d.Names name := by
  rw [supertypes, List.mem_append, Option.mem_toList]
  rfl

namespace Hierarchy

/-! ## The declaration that counts -/

def lastDeclared (declared : List Declaration) (name : String) : Option Declaration :=
  declared.reverse.find? fun d => d.name == name

theorem lastDeclared_concat (declared : List Declaration) (d : Declaration) (name : String) :
    lastDeclared (declared ++ [d]) name =
      if d.name = name then some d else lastDeclared declared name := by
  rw [lastDeclared, List.reverse_concat, List.find?_cons]
  by_cases same : d.name = name
  · rw [if_pos same, beq_iff_eq.2 same]
  · rw [if_neg same, beq_false_of_ne same]
    rfl

theorem find?_insert (h : Hierarchy) (d : Declaration) (name : String) :
    (h.insert d).find? name = if d.name = name then some d else h.find? name := by
  cases there : h.find? d.name with
  | some old =>
      have known : h.contains d.name = true := by rw [contains, there]; rfl
      have replaced := Pairs.find?_replace Declaration.name d h.declarations name
      rw [insert, if_pos known]
      refine replaced.trans ?_
      by_cases same : d.name = name
      · rw [if_pos same, if_pos same, ← same]
        exact congrArg (Option.map fun _ => d) there
      · rw [if_neg same, if_neg same]
        rfl
  | none =>
      have new : ¬ h.contains d.name = true := by rw [contains, there]; exact nofun
      rw [insert, if_neg new, find?, List.find?_append, List.find?_singleton]
      by_cases same : d.name = name
      · have absent : h.declarations.find? (fun e => e.name == name) = none := by
          rw [← same]
          exact there
        rw [absent, if_pos (beq_iff_eq.2 same), if_pos same]
        rfl
      · rw [if_neg (by rwa [beq_iff_eq]), if_neg same, Option.or_none]
        rfl

/-- Insertions leave the last declaration of each name. -/
theorem find?_foldl_insert {h : Hierarchy} {before : List Declaration}
    (known : ∀ name, h.find? name = lastDeclared before name) (declared : List Declaration)
    (name : String) :
    (declared.foldl insert h).find? name = lastDeclared (before ++ declared) name := by
  induction declared generalizing h before with
  | nil => rw [List.foldl_nil, List.append_nil, known]
  | cons d rest ih =>
      have onward : ∀ other, (h.insert d).find? other = lastDeclared (before ++ [d]) other := by
        intro other
        rw [find?_insert, lastDeclared_concat, known]
      rw [List.foldl_cons, ih onward, List.append_assoc, List.singleton_append]

/-- The root is declared before all others. -/
theorem find?_ofList (declared : List Declaration) (name : String) :
    (ofList declared).find? name =
      lastDeclared (.ofClass objectName :: declared) name := by
  have start : ∀ other, root.find? other = lastDeclared [.ofClass objectName] other :=
    fun _ => rfl
  exact find?_foldl_insert start declared name

/-! ## Ways up -/

/-- `lower` stands for a declaration that names `upper`. -/
def Leads (look : String → Option Declaration) (lower upper : String) : Prop :=
  ∃ d, look lower = some d ∧ d.Names upper

theorem find?_without (name : String) (declarations : List Declaration) (other : String) :
    find? ⟨without name declarations⟩ other =
      if other = name then none else find? ⟨declarations⟩ other := by
  rw [find?, without, List.find?_filter]
  by_cases same : other = name
  · subst same
    simp
  · rw [if_neg same, find?]
    congr 1
    funext e
    by_cases own : e.name = other
    · simp [own, same]
    · simp [own]

section

variable {unvisited : List Declaration} {name target : String} {d : Declaration}

/-- A way that does not pass `name` is a way. -/
theorem Leads.of_without {lower upper : String}
    (leads : Leads (find? ⟨without name unvisited⟩) lower upper) :
    Leads (find? ⟨unvisited⟩) lower upper := by
  obtain ⟨e, found, named⟩ := leads
  rw [find?_without] at found
  split at found
  · cases found
  · exact ⟨e, found, named⟩

theorem not_leads_of_absent {look : String → Option Declaration} {lower upper : String}
    (absent : look lower = none) : ¬ Leads look lower upper := by
  rintro ⟨e, found, -⟩
  rw [absent] at found
  cases found

/-- Where a name has no declaration, no way leads on from it. -/
theorem eq_of_way {look : String → Option Declaration} {lower upper : String}
    (absent : look lower = none) (way : ReflTransGen (Leads look) lower upper) :
    lower = upper := by
  obtain same | ⟨next, first, -⟩ := way.cases_head
  · exact same
  · exact absurd first (not_leads_of_absent absent)

/-- Behind its last passage of `name` a way avoids it. -/
theorem avoids_or (found : find? ⟨unvisited⟩ name = some d) {lower : String}
    (way : ReflTransGen (Leads (find? ⟨unvisited⟩)) lower target) :
    ReflTransGen (Leads (find? ⟨without name unvisited⟩)) lower target ∨
      ∃ next, d.Names next ∧
        ReflTransGen (Leads (find? ⟨without name unvisited⟩)) next target := by
  induction way using ReflTransGen.head_induction_on with
  | refl => exact Or.inl .refl
  | @head lower next first rest ih =>
      obtain avoids | behind := ih
      · obtain ⟨e, declared, named⟩ := first
        by_cases same : lower = name
        · subst same
          rw [found] at declared
          cases declared
          exact Or.inr ⟨next, named, avoids⟩
        · have kept : find? ⟨without name unvisited⟩ lower = some e := by
            rw [find?_without, if_neg same, declared]
          exact Or.inl (.head ⟨e, kept, named⟩ avoids)
      · exact Or.inr behind

/-- Passing `name` for good loses no way up. -/
theorem way_iff_behind (found : find? ⟨unvisited⟩ name = some d) (other : name ≠ target)
    (rest : List String) :
    (∃ lower ∈ name :: rest, ReflTransGen (Leads (find? ⟨unvisited⟩)) lower target) ↔
      ∃ lower ∈ rest ++ d.supertypes,
        ReflTransGen (Leads (find? ⟨without name unvisited⟩)) lower target := by
  constructor
  · rintro ⟨lower, member, way⟩
    obtain avoids | ⟨next, named, onward⟩ := avoids_or found way
    · obtain rfl | later := List.mem_cons.1 member
      · have gone : find? ⟨without lower unvisited⟩ lower = none := by
          rw [find?_without, if_pos rfl]
        exact absurd (eq_of_way gone avoids) other
      · exact ⟨lower, List.mem_append_left _ later, avoids⟩
    · exact ⟨next, List.mem_append_right _ (Declaration.mem_supertypes_iff.2 named), onward⟩
  · rintro ⟨lower, member, way⟩
    have whole := ReflTransGen.mono (fun _ _ => Leads.of_without) _ _ way
    obtain later | above := List.mem_append.1 member
    · exact ⟨lower, List.mem_cons_of_mem _ later, whole⟩
    · have named : d.Names lower := Declaration.mem_supertypes_iff.1 above
      exact ⟨name, List.mem_cons_self, whole.head ⟨d, found, named⟩⟩

end

/-- The walk finds `target` just where a way leads to it from the frontier.  The induction is
on the walk itself, which ends because it passes no declaration twice. -/
theorem climbs_iff (target : String) (unvisited : List Declaration) (frontier : List String) :
    climbs target unvisited frontier = true ↔
      ∃ lower ∈ frontier, ReflTransGen (Leads (find? ⟨unvisited⟩)) lower target := by
  induction unvisited, frontier using climbs.induct target with
  | case1 unvisited =>
      rw [climbs]
      simp
  | case2 unvisited rest =>
      rw [climbs, if_pos rfl]
      exact ⟨fun _ => ⟨target, List.mem_cons_self, .refl⟩, fun _ => rfl⟩
  | case3 unvisited name rest other absent ih =>
      rw [climbs, if_neg other]
      split
      · rw [ih]
        constructor
        · rintro ⟨lower, member, way⟩
          exact ⟨lower, List.mem_cons_of_mem _ member, way⟩
        · rintro ⟨lower, member, way⟩
          obtain rfl | later := List.mem_cons.1 member
          · exact absurd (eq_of_way absent way) other
          · exact ⟨lower, later, way⟩
      · rename_i d found
        rw [absent] at found
        cases found
  | case4 unvisited name rest other d found ih =>
      rw [climbs, if_neg other]
      split
      · rename_i absent
        rw [found] at absent
        cases absent
      · rename_i e again
        rw [found] at again
        cases again
        rw [ih]
        exact (way_iff_behind found other rest).symm

/-- Two interfaces that extend each other do not keep the walk from ending. -/
example :
    climbs "C" [(Declaration.ofInterface "A").extends_ "B", (Declaration.ofInterface "B").extends_ "A"]
      ["A"] = false := by
  cbv

/-- A chain of superclasses and interfaces leads from a declaration to a name.  Every name
before the last one is declared. -/
def Reaches (h : Hierarchy) (lower : Declaration) (name : String) : Prop :=
  ∃ first, lower.Names first ∧ ReflTransGen (Leads h.find?) first name

/-- Whatever list the declarations of a hierarchy are, assignability asks for a name or a
chain. -/
theorem assignable_iff (h : Hierarchy) (lower upper : Declaration) :
    h.assignable lower upper = true ↔
      lower.name = upper.name ∨ upper.name = objectName ∨ h.Reaches lower upper.name := by
  have climbed := climbs_iff upper.name h.declarations lower.supertypes
  rw [assignable, Bool.or_eq_true, Bool.or_eq_true, beq_iff_eq, beq_iff_eq, climbed, or_assoc]
  simp only [Declaration.mem_supertypes_iff]
  rfl

/-- **Assignability is reachability.**  However types were declared, again and again, in
circles or below types nobody declared: a declaration is assignable to its own name, to the
root, and to what a chain of superclasses and interfaces leads to from it.  All names of the
chain but the last are declared, and each stands for the last declaration made under it. -/
theorem assignable_iff_reaches (declared : List Declaration) (lower upper : Declaration) :
    (ofList declared).assignable lower upper = true ↔
      lower.name = upper.name ∨ upper.name = objectName ∨
        ∃ first, lower.Names first ∧
          ReflTransGen (Leads (lastDeclared (.ofClass objectName :: declared)))
            first upper.name := by
  have look : (ofList declared).find? = lastDeclared (.ofClass objectName :: declared) :=
    funext (find?_ofList declared)
  have climbed := climbs_iff upper.name (ofList declared).declarations lower.supertypes
  rw [show find? ⟨(ofList declared).declarations⟩ = _ from look] at climbed
  rw [assignable, Bool.or_eq_true, Bool.or_eq_true, beq_iff_eq, beq_iff_eq, climbed, or_assoc]
  simp only [Declaration.mem_supertypes_iff]

end Hierarchy

end DeferredBinding.Types
