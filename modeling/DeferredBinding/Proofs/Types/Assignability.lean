/-
# Proofs.Types.Assignability -- the order of the declared types, and how it grows

Assignability orders what a hierarchy declares: it is reflexive, has the root on top, and is
transitive as long as nobody gives the root supertypes (`assignable_orders`).  Chains are put
together at a declared type (`Reaches.trans`); the root is the one type that everything is
assignable to without a chain, so what lies above the root is not above the others.

A declaration of a new name takes nothing away, and what it adds goes through it: a new chain
is cut at its first and at its last passage of the new name (`way_to_new`, `avoids_or`), so
its ends were there before (`assignable_insert`).
-/
import Mathlib.Order.Defs.Unbundled
import DeferredBinding.Proofs.Types.Reachability

namespace DeferredBinding.Types.Hierarchy

set_option autoImplicit false

open Relation

/-- A declaration stands under its name. -/
def Declares (h : Hierarchy) (d : Declaration) : Prop :=
  h.find? d.name = some d

instance (h : Hierarchy) (d : Declaration) : Decidable (h.Declares d) :=
  inferInstanceAs (Decidable (_ = _))

section

variable {h : Hierarchy} {a b c d : Declaration} {name : String}

theorem name_of_find? (found : h.find? name = some d) : d.name = name := by
  simpa using List.find?_some found

theorem Declares.eq_of_name (first : h.Declares a) (second : h.Declares b)
    (same : a.name = b.name) : a = b := by
  rw [Declares, same, show h.find? b.name = some b from second] at first
  exact (Option.some.inj first).symm

/-! ## The order -/

/-- Chains are put together at a declared type. -/
theorem Reaches.trans (up : h.Reaches a b.name) (through : h.Declares b)
    (onward : h.Reaches b name) : h.Reaches a name := by
  obtain ⟨first, named, way⟩ := up
  obtain ⟨next, namedNext, rest⟩ := onward
  exact ⟨first, named, (way.tail ⟨b, through, namedNext⟩).trans rest⟩

theorem not_reaches_of_supertypes (top : b.supertypes = []) : ¬ h.Reaches b name := by
  rintro ⟨first, named, -⟩
  have member := Declaration.mem_supertypes_iff.2 named
  rw [top] at member
  cases member

/-- Below types without supertypes of their own a chain has one link. -/
theorem Reaches.single
    (low : ∀ first ∈ a.supertypes, ((h.find? first).all fun d => d.supertypes.isEmpty) = true)
    (reaches : h.Reaches a name) : name ∈ a.supertypes := by
  obtain ⟨first, named, way⟩ := reaches
  have member := Declaration.mem_supertypes_iff.2 named
  obtain rfl | ⟨next, ⟨d, found, above⟩, -⟩ := way.cases_head
  · exact member
  · have bare := low first member
    rw [found, Option.all_some, List.isEmpty_iff] at bare
    have more := Declaration.mem_supertypes_iff.2 above
    rw [bare] at more
    cases more

theorem assignable_trans (first : h.Declares a) (second : h.Declares b)
    (top : b.name = objectName → b.supertypes = []) (ab : h.assignable a b = true)
    (bc : h.assignable b c = true) : h.assignable a c = true := by
  obtain same | root | up := (h.assignable_iff a b).1 ab
  · rw [first.eq_of_name second same]
    exact bc
  · -- below the root there is nothing to climb
    obtain same | atRoot | onward := (h.assignable_iff b c).1 bc
    · exact (h.assignable_iff a c).2 (.inr (.inl (same ▸ root)))
    · exact (h.assignable_iff a c).2 (.inr (.inl atRoot))
    · exact absurd onward (not_reaches_of_supertypes (top root))
  · obtain same | atRoot | onward := (h.assignable_iff b c).1 bc
    · exact (h.assignable_iff a c).2 (.inr (.inr (same ▸ up)))
    · exact (h.assignable_iff a c).2 (.inr (.inl atRoot))
    · exact (h.assignable_iff a c).2 (.inr (.inr (up.trans second onward)))

end

/-- The declared types with assignability between them. -/
structure Ordered (h : Hierarchy) : Prop where
  named : ∀ name d, h.find? name = some d → d.name = name
  rooted : (h.find? objectName).isSome
  refl : ∀ a, h.Declares a → h.assignable a a = true
  top : ∀ a object, h.Declares a → h.find? objectName = some object →
    h.assignable a object = true
  /-- unless it goes by way of a root that has supertypes -/
  trans : ∀ a b c, h.Declares a → h.Declares b → h.Declares c →
    (b.name ≠ objectName ∨ ∀ object, h.find? objectName = some object → object.supertypes = []) →
    h.assignable a b = true → h.assignable b c = true → h.assignable a c = true

theorem isSome_find?_root (declared : List Declaration) :
    ((ofList declared).find? objectName).isSome := by
  rw [find?_ofList, lastDeclared, List.find?_isSome]
  exact ⟨_, List.mem_reverse.2 List.mem_cons_self, rfl⟩

theorem ordered_ofList (declared : List Declaration) : (ofList declared).Ordered where
  named _ _ found := name_of_find? found
  rooted := isSome_find?_root declared
  refl a _ := ((ofList declared).assignable_iff a a).2 (.inl rfl)
  top a object _ found :=
    ((ofList declared).assignable_iff a object).2 (.inr (.inl (name_of_find? found)))
  trans a b c first second _ apart ab bc := by
    refine assignable_trans first second (fun root => ?_) ab bc
    obtain other | bare := apart
    · exact absurd root other
    · exact bare b (root ▸ second)

/-- The root is as it was made, or as it was declared last. -/
theorem supertypes_root {declared : List Declaration} {object : Declaration}
    (bare : ∀ d ∈ declared, d.name = objectName → d.supertypes = [])
    (found : (ofList declared).find? objectName = some object) : object.supertypes = [] := by
  have named := name_of_find? found
  rw [find?_ofList] at found
  obtain rfl | later := List.mem_cons.1 (List.mem_reverse.1 (List.mem_of_find?_eq_some found))
  · rfl
  · exact bare object later named

/-- **Assignability is a preorder of the declared types.**  Whatever was declared, again and
again, in circles or below types that nobody declared: each declaration is found under its own
name, the root is always there and on top, and assignability is reflexive, and transitive except
by way of a root that has supertypes.  So it is a preorder where nobody gave the root any. -/
theorem assignable_orders (declared : List Declaration) :
    (ofList declared).Ordered ∧
      ((∀ d ∈ declared, d.name = objectName → d.supertypes = []) →
        IsPreorder { d // (ofList declared).Declares d } fun a b =>
          (ofList declared).assignable a b = true) := by
  have ordered := ordered_ofList declared
  refine ⟨ordered, fun bare => ?_⟩
  exact {
    refl := fun a => ordered.refl a a.2
    trans := fun a b c ab bc =>
      ordered.trans a b c a.2 b.2 c.2 (.inr fun _ found => supertypes_root bare found) ab bc }

namespace Example

/-- Two interfaces in a circle, one of them below a type that nobody declares. -/
def left : Declaration := (Declaration.ofInterface "a.Left").extends_ "a.Right"

def right : Declaration :=
  ((Declaration.ofInterface "a.Right").extends_ "a.Gone").extends_ "a.Left"

def impl : Declaration := (Declaration.ofClass "a.Impl").implements "a.Left"

/-- What stands below the circle stands below all of it. -/
theorem impl_below_right :
    (∀ d ∈ [left, right, impl], d.name = objectName → d.supertypes = []) ∧
      (ofList [left, right, impl]).assignable impl right = true := by
  have bare : ∀ d ∈ [left, right, impl], d.name = objectName → d.supertypes = [] := by decide
  have order := (assignable_orders [left, right, impl]).2 bare
  have lower : (ofList [left, right, impl]).assignable impl left = true :=
    (assignable_iff ..).2 (.inr (.inr ⟨"a.Left", .inr (by decide), .refl⟩))
  have upper : (ofList [left, right, impl]).assignable left right = true :=
    (assignable_iff ..).2 (.inr (.inr ⟨"a.Right", .inr (by decide), .refl⟩))
  exact ⟨bare, order.trans ⟨impl, by decide⟩ ⟨left, by decide⟩ ⟨right, by decide⟩ lower upper⟩

/-- A root with a supertype is not passed through. -/
example :
    let h := ofList [(Declaration.ofClass objectName).implements "a.Top", .ofInterface "a.Top"]
    h.assignable (.ofInterface "a.Thing") (.ofInterface "a.Top") = false := by
  cbv

end Example

/-! ## One declaration more -/

section

variable {h : Hierarchy} {a b d : Declaration} {lower target : String}

theorem find?_insert_of_find? (new : h.find? d.name = none) {name : String} {e : Declaration}
    (found : h.find? name = some e) : (h.insert d).find? name = some e := by
  have other : ¬ d.name = name := by
    rintro rfl
    rw [new] at found
    cases found
  rw [find?_insert, if_neg other, found]

theorem way_insert (new : h.find? d.name = none) (way : ReflTransGen (Leads h.find?) lower target) :
    ReflTransGen (Leads (h.insert d).find?) lower target :=
  ReflTransGen.mono
    (fun _ _ ⟨e, found, named⟩ => ⟨e, find?_insert_of_find? new found, named⟩) _ _ way

/-- Up to its first passage of the new name a way was there before. -/
theorem way_to_new (way : ReflTransGen (Leads (h.insert d).find?) lower target) :
    ReflTransGen (Leads h.find?) lower target ∨ ReflTransGen (Leads h.find?) lower d.name := by
  induction way with
  | refl => exact Or.inl .refl
  | @tail name next _ step ih =>
      obtain before | passed := ih
      · by_cases same : d.name = name
        · exact Or.inr (same ▸ before)
        · obtain ⟨e, found, named⟩ := step
          rw [find?_insert, if_neg same] at found
          exact Or.inl (before.tail ⟨e, found, named⟩)
      · exact Or.inr passed

/-- Without the new name the hierarchy is what it was. -/
theorem find?_without_insert (new : h.find? d.name = none) :
    find? ⟨without d.name (h.insert d).declarations⟩ = h.find? := by
  funext name
  rw [find?_without]
  by_cases same : name = d.name
  · rw [if_pos same, same, new]
  · rw [if_neg same]
    exact (find?_insert h d name).trans (if_neg fun own => same own.symm)

/-- From its last passage of the new name on a way was there before. -/
theorem way_from_new (new : h.find? d.name = none)
    (way : ReflTransGen (Leads (h.insert d).find?) lower target) :
    ReflTransGen (Leads h.find?) lower target ∨ h.Reaches d target := by
  have found : find? ⟨(h.insert d).declarations⟩ d.name = some d := by
    exact (find?_insert h d d.name).trans (if_pos rfl)
  have parts := avoids_or found way
  rw [find?_without_insert new] at parts
  exact parts

theorem Reaches.insert (new : h.find? d.name = none) (reaches : h.Reaches a target) :
    (h.insert d).Reaches a target := by
  obtain ⟨first, named, way⟩ := reaches
  exact ⟨first, named, way_insert new way⟩

/-- A new chain goes through the new name. -/
theorem Reaches.of_insert (new : h.find? d.name = none) (reaches : (h.insert d).Reaches a target) :
    h.Reaches a target ∨ h.Reaches a d.name ∧ h.Reaches d target := by
  obtain ⟨first, named, way⟩ := reaches
  obtain before | toNew := way_to_new way
  · exact Or.inl ⟨first, named, before⟩
  · obtain before | fromNew := way_from_new new way
    · exact Or.inl ⟨first, named, before⟩
    · exact Or.inr ⟨⟨first, named, toNew⟩, fromNew⟩

theorem assignable_of_insert (new : h.find? d.name = none)
    (after : (h.insert d).assignable a b = true) :
    h.assignable a b = true ∨ h.Reaches a d.name ∧ h.Reaches d b.name := by
  rw [assignable_iff] at after ⊢
  obtain same | root | reaches := after
  · exact Or.inl (.inl same)
  · exact Or.inl (.inr (.inl root))
  · exact (reaches.of_insert new).imp (fun before => .inr (.inr before)) id

theorem assignable_insert_of_assignable (new : h.find? d.name = none)
    (before : h.assignable a b = true) : (h.insert d).assignable a b = true := by
  rw [assignable_iff] at before ⊢
  exact before.imp_right (Or.imp_right (Reaches.insert new))

end

/-- **One declaration more takes nothing away, and what it adds goes through it.**  A name that
is not declared yet is declared.  Whatever was assignable still is.  Where `a` has become
assignable to `b`, a chain led from `a` to the name that was missing and one leads on from the
new declaration to `b`.  Types from which no chain led to that name keep all answers. -/
theorem assignable_insert (h : Hierarchy) (d : Declaration) (new : h.find? d.name = none)
    (a b : Declaration) :
    (h.assignable a b = true → (h.insert d).assignable a b = true) ∧
      ((h.insert d).assignable a b = true → h.assignable a b = false →
        h.Reaches a d.name ∧ h.Reaches d b.name) ∧
      (¬ h.Reaches a d.name → (h.insert d).assignable a b = h.assignable a b) := by
  have keeps : h.assignable a b = true → (h.insert d).assignable a b = true :=
    assignable_insert_of_assignable new
  refine ⟨keeps, fun after before => ?_, fun apart => ?_⟩
  · obtain already | through := assignable_of_insert new after
    · rw [before] at already
      cases already
    · exact through
  · refine Bool.eq_iff_iff.2 ⟨fun after => ?_, keeps⟩
    obtain already | ⟨reaches, -⟩ := assignable_of_insert new after
    · exact already
    · exact absurd reaches apart

namespace Growth

def impl : Declaration := (Declaration.ofClass "a.Impl").implements "a.Missing"

/-- A class below an interface that is not declared, and a type above that interface. -/
def dangling : Hierarchy := ofList [impl, .ofInterface "a.Base"]

def missing : Declaration := (Declaration.ofInterface "a.Missing").extends_ "a.Base"

/-- The interface that was missing brings the two together. -/
theorem missing_joins :
    dangling.find? missing.name = none ∧ dangling.Reaches impl missing.name ∧
      dangling.Reaches missing "a.Base" := by
  have new : dangling.find? missing.name = none := by decide
  have after : (dangling.insert missing).assignable impl (.ofInterface "a.Base") = true := by
    have step : Leads (dangling.insert missing).find? "a.Missing" "a.Base" :=
      ⟨missing, by decide, .inr (by decide)⟩
    exact (assignable_iff ..).2 (.inr (.inr ⟨"a.Missing", .inr (by decide), .single step⟩))
  have before : dangling.assignable impl (.ofInterface "a.Base") = false := by
    refine Bool.eq_false_iff.2 fun already => ?_
    obtain same | root | reaches := (assignable_iff ..).1 already
    · exact absurd same (by decide)
    · exact absurd root (by decide)
    · exact absurd (reaches.single (by decide)) (by decide)
  have grown := assignable_insert dangling missing new impl (.ofInterface "a.Base")
  exact ⟨new, grown.2.1 after before⟩

end Growth

end DeferredBinding.Types.Hierarchy
