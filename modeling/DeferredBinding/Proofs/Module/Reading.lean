/-
# Proofs.Module.Reading -- what a manifest says of a request

A manifest can be read as it stands, without a module being made of it: its rules from the
last to the first, its conditions against the type entries themselves.  `Manifest.read` is
that reading.  It knows no hierarchy, no rule and no record, and its verdicts are taken of
all conditions, not only of those a walk gets to.

The pieces of a module are what their entries say: a declaration has the supertypes its
entry gives it (`TypeEntry.supertypes_declaration`), the hierarchy holds the entry that
counts for a name (`find?_hierarchy`), a condition is decided as it reads
(`reads_eq_isTrue`), and a rule settles what its entry settles (`settles_eq_settledBy`).
Together they say that a module answers what its manifest says (`resolve_outcome_eq_read`).
-/
import DeferredBinding.Proofs.Condition.Verdicts
import DeferredBinding.Proofs.Module.Failures
import DeferredBinding.Proofs.Resolution.Outcome
import DeferredBinding.Proofs.Types.Reachability

namespace DeferredBinding

set_option autoImplicit false

open Relation

namespace Manifest

/-! ## Type entries -/

namespace TypeEntry

/-- The supertypes an entry gives its type.  A class that does not say what it extends
extends the root, unless it is the root. -/
def parents (entry : TypeEntry) : List String :=
  match entry.parent, entry.kind with
  | some parent, _ => parent :: entry.interfaces
  | none, .interfaceKind => entry.interfaces
  | none, .classKind =>
      if entry.name = Types.objectName then entry.interfaces
      else Types.objectName :: entry.interfaces

theorem foldl_implements (interfaces : List String) (d : Types.Declaration) :
    interfaces.foldl Types.Declaration.implements d =
      { d with interfaces := d.interfaces ++ interfaces } := by
  induction interfaces generalizing d with
  | nil => rw [List.foldl_nil, List.append_nil]
  | cons parent rest ih =>
      rw [List.foldl_cons, ih, Types.Declaration.implements, List.append_assoc,
        List.singleton_append]

theorem name_declaration (entry : TypeEntry) : entry.declaration.name = entry.name := by
  obtain ⟨name, kind, parent, interfaces⟩ := entry
  rw [declaration, foldl_implements]
  cases kind <;> cases parent <;> rfl

theorem supertypes_declaration (entry : TypeEntry) :
    entry.declaration.supertypes = entry.parents := by
  obtain ⟨name, kind, parent, interfaces⟩ := entry
  rw [declaration, foldl_implements]
  cases kind with
  | interfaceKind => cases parent <;> rfl
  | classKind =>
      cases parent with
      | some parent => rfl
      | none =>
          show (if name = Types.objectName then none else some _).toList ++ ([] ++ interfaces) =
            if name = Types.objectName then interfaces else _
          by_cases root : name = Types.objectName
          · rw [if_pos root, if_pos root]
            rfl
          · rw [if_neg root, if_neg root]
            rfl

end TypeEntry

variable (m : Manifest)

/-- The entry that counts for a name: the last one.  The root has one before all others. -/
def typeNamed? (name : String) : Option TypeEntry :=
  ({ name := Types.objectName } :: m.types).reverse.find? fun entry => entry.name == name

/-- The hierarchy a module of this manifest has. -/
def hierarchy : Types.Hierarchy :=
  Types.Hierarchy.ofList (m.types.map TypeEntry.declaration)

theorem find?_hierarchy (name : String) :
    m.hierarchy.find? name = (m.typeNamed? name).map TypeEntry.declaration := by
  have root : Types.Declaration.ofClass Types.objectName =
      TypeEntry.declaration { name := Types.objectName } := rfl
  have named : ((fun d : Types.Declaration => d.name == name) ∘ TypeEntry.declaration) =
      fun entry => entry.name == name := by
    funext entry
    show (entry.declaration.name == name) = _
    rw [TypeEntry.name_declaration]
  rw [hierarchy, Types.Hierarchy.find?_ofList, Types.Hierarchy.lastDeclared, root,
    ← List.map_cons, ← List.map_reverse, List.find?_map, named, typeNamed?]

/-- The entry that counts for `lower` gives it the supertype `upper`. -/
def Extends (lower upper : String) : Prop :=
  ∃ entry, m.typeNamed? lower = some entry ∧ upper ∈ entry.parents

/-- `target` is the root, or stands above `type`, or is `type`. -/
def Assignable (type target : String) : Prop :=
  target = Types.objectName ∨ ReflTransGen m.Extends type target

theorem leads_hierarchy : Types.Hierarchy.Leads m.hierarchy.find? = m.Extends := by
  funext lower upper
  apply propext
  rw [Types.Hierarchy.Leads, Extends, find?_hierarchy]
  constructor
  · rintro ⟨d, found, named⟩
    obtain ⟨entry, counts, rfl⟩ := Option.map_eq_some_iff.1 found
    rw [← Types.Declaration.mem_supertypes_iff, TypeEntry.supertypes_declaration] at named
    exact ⟨entry, counts, named⟩
  · rintro ⟨entry, counts, above⟩
    rw [← TypeEntry.supertypes_declaration, Types.Declaration.mem_supertypes_iff] at above
    exact ⟨entry.declaration, congrArg _ counts, above⟩

theorem climbs_hierarchy (target : String) (frontier : List String) :
    Types.Hierarchy.climbs target m.hierarchy.declarations frontier = true ↔
      ∃ lower ∈ frontier, ReflTransGen m.Extends lower target := by
  rw [Types.Hierarchy.climbs_iff, ← leads_hierarchy]

instance (type target : String) : Decidable (m.Assignable type target) :=
  decidable_of_iff
    (target = Types.objectName ∨
      Types.Hierarchy.climbs target m.hierarchy.declarations [type] = true)
    (by rw [climbs_hierarchy, Assignable]; simp)

/-- A declaration of the hierarchy is assignable where its name is. -/
theorem assignable_hierarchy {type target : String} {lower upper : TypeEntry}
    (below : m.typeNamed? type = some lower) (above : m.typeNamed? target = some upper) :
    m.hierarchy.assignable lower.declaration upper.declaration =
      decide (m.Assignable type target) := by
  have lowerName : lower.name = type := by simpa using List.find?_some below
  have upperName : upper.name = target := by simpa using List.find?_some above
  have parted : ReflTransGen m.Extends type target ↔
      type = target ∨ ∃ next ∈ lower.parents, ReflTransGen m.Extends next target := by
    rw [ReflTransGen.cases_head_iff]
    refine or_congr Iff.rfl (exists_congr fun next => and_congr_left fun _ => ?_)
    constructor
    · rintro ⟨entry, counts, named⟩
      rw [below] at counts
      cases counts
      exact named
    · exact fun named => ⟨lower, below, named⟩
  rw [Bool.eq_iff_iff, decide_eq_true_iff, Assignable, parted, Types.Hierarchy.assignable,
    Bool.or_eq_true, Bool.or_eq_true, beq_iff_eq, beq_iff_eq, climbs_hierarchy,
    TypeEntry.supertypes_declaration, TypeEntry.name_declaration, TypeEntry.name_declaration,
    lowerName, upperName, or_assoc, or_left_comm]

/-! ## Conditions -/

/-- What `<when-type-assignable>` says: the requested type must have an entry, and a target
that has none is never met. -/
def readsAssignable (type target : String) : Verdict :=
  match m.typeNamed? type, m.typeNamed? target with
  | none, _ => .error (.unresolvedType type)
  | some _, none => .ok false
  | some _, some _ => .ok (m.Assignable type target)

mutual

/-- What a condition says of the requested type. -/
def reads (properties : Property.Source) (type : String) : Condition → Verdict
  | .typeIs name => .ok (type = name)
  | .assignableTo target => m.readsAssignable type target
  | .propertyIs property value =>
      match properties.selection property with
      | .ok current => .ok (current = value)
      | .error error => .error (.property error)
  | .all children => Verdict.firstOther true (readsEach properties type children)
  | .any children => Verdict.firstOther false (readsEach properties type children)
  | .noneOf children => (Verdict.firstOther false (readsEach properties type children)).map not

def readsEach (properties : Property.Source) (type : String) : List Condition → List Verdict
  | [] => []
  | c :: rest => reads properties type c :: readsEach properties type rest

end

/-- What a resolution in a module of this manifest decides its conditions against. -/
def given (properties : Property.Source) : Sources :=
  { properties, types := m.hierarchy.source }

theorem readsAssignable_eq_assignability (type target : String) :
    m.readsAssignable type target =
      (Condition.assignability m.hierarchy.source type target).value := by
  have lower : m.hierarchy.source.find? type = _ := m.find?_hierarchy type
  have upper : m.hierarchy.source.find? target = _ := m.find?_hierarchy target
  rw [Condition.assignability, lower, upper, readsAssignable]
  cases below : m.typeNamed? type with
  | none => rfl
  | some entry =>
      cases above : m.typeNamed? target with
      | none => rfl
      | some other => exact congrArg Except.ok (m.assignable_hierarchy below above).symm

mutual

/-- A condition is decided as it reads. -/
theorem reads_eq_isTrue (properties : Property.Source) (type : String) :
    ∀ c : Condition, m.reads properties type c = Condition.isTrue (m.given properties) type c
  | .typeIs _ => rfl
  | .assignableTo target => m.readsAssignable_eq_assignability type target
  | .propertyIs property value => by
      rw [reads, Condition.isTrue, Condition.check]
      show _ = Condition.selected properties property value
      rw [Condition.selected]
      cases properties.selection property with
      | error error => rfl
      | ok current => rfl
  | .all children => by
      rw [reads, readsEach_eq_map properties type children, ← Condition.allHold_value]
      rfl
  | .any children => by
      rw [reads, readsEach_eq_map properties type children, ← Condition.anyHold_value]
      rfl
  | .noneOf children => by
      rw [reads, readsEach_eq_map properties type children, ← Condition.anyHold_value]
      rfl

theorem readsEach_eq_map (properties : Property.Source) (type : String) :
    ∀ conditions : List Condition, m.readsEach properties type conditions =
      conditions.map (Condition.isTrue (m.given properties) type)
  | [] => rfl
  | c :: rest => by
      rw [readsEach, List.map_cons, reads_eq_isTrue properties type c,
        readsEach_eq_map properties type rest]

end

/-! ## Rules -/

/-- What a rule entry makes of a request; nothing where it leaves it to the entries before
it.  A property it mentions must be known, even where its conditions would not get to it. -/
def settledBy (properties : Property.Source)
    (answer? : String → Option (Except String String)) (type : String) (entry : RuleEntry) :
    Option (Except Failure String) :=
  match (Condition.mentionedList entry.roots).find? fun name => !properties.has name with
  | some property => some (.error (.missingProperty type property))
  | none =>
      match Verdict.firstOther true (m.readsEach properties type entry.roots) with
      | .error failure => some (.error failure)
      | .ok false => none
      | .ok true => some (entry.action.yield answer? type)

/-- What a manifest says of a request: what its last rule entry says that says anything.
Rules are counted from the last entry on. -/
def read (properties : Property.Source) (answer? : String → Option (Except String String))
    (type : String) : Except Failure Answer :=
  let saying : RuleEntry × Nat → Option (Except Failure Answer) := fun placed =>
    (m.settledBy properties answer? type placed.1).map fun outcome =>
      outcome.map fun replacement =>
        { type := replacement, rule := some (m.rules.length - 1 - placed.2) }
  (m.rules.zipIdx.reverse.findSome? saying).getD (.ok { type, rule := none })

/-- The first property mentioned that is not known is the first one required. -/
theorem firstMissing_rule (properties : Property.Source) (entry : RuleEntry) :
    Rules.firstMissing properties entry.rule =
      (Condition.mentionedList entry.roots).find? fun name => !properties.has name :=
  Rule.firstMissing_eq_find?_mentioned properties entry.rule

theorem settles_eq_settledBy (properties : Property.Source)
    (answer? : String → Option (Except String String)) (type : String) (entry : RuleEntry) :
    entry.rule.settles (m.given properties) answer? type =
      m.settledBy properties answer? type entry := by
  have verdict : (entry.rule.applies (m.given properties) type).value =
      Verdict.firstOther true (m.readsEach properties type entry.roots) := by
    rw [readsEach_eq_map]
    exact Condition.allHold_value (m.given properties) type entry.roots
  rw [Rule.settles, verdict, settledBy, ← firstMissing_rule]
  rfl

/-- Positions in a list turned round count from its end. -/
theorem zipIdx_reverse {α : Type} (xs : List α) :
    xs.reverse.zipIdx =
      xs.zipIdx.reverse.map fun placed => (placed.1, xs.length - 1 - placed.2) := by
  apply List.ext_getElem
  · simp
  · intro i here there
    have bound : i < xs.length := by simpa using here
    have back : xs.length - 1 - (xs.length - 1 - i) = i := by omega
    simp [back]

end Manifest

namespace Module

open Manifest

variable {γ : Type} [Generator γ]

/-- **A module answers what its manifest says.**  The last rule entry that applies wins,
whatever was asked of the module before, whatever its properties are read from and whatever
its generators do. -/
theorem resolve_outcome_eq_read {manifest : Manifest} {m : Module}
    (built : build manifest = .ok m) (census : Census) (calls : List (Call γ))
    (properties : Property.Source) (generators : String → Option γ) (type : String) :
    let s := Stage.run { rules := m.rules, census } calls
    let answer? := (m.context properties generators).answer? type s.census
    ((m.withRules s).resolve properties generators type s.census).outcome =
      manifest.read properties answer? type := by
  obtain ⟨-, table, -, -, rfl⟩ := build_ok_iff.1 built
  intro s answer?
  have disposed : s.rules.dispose = (installed manifest.rules).dispose :=
    Stage.dispose_run { rules := installed manifest.rules, census } calls
  show (s.rules.resolve ((made manifest table).context properties generators) type
    s.census).outcome = _
  rw [Rules.outcome_resolve_congr disposed, Rules.outcome_resolve, toList_installed,
    ← List.map_reverse, List.zipIdx_map, zipIdx_reverse, List.findSome?_map,
    List.findSome?_map, Manifest.read]
  congr 2
  funext placed
  exact congrArg (Option.map _)
    (manifest.settles_eq_settledBy properties answer? type placed.1)

/-! ## A type that is declared twice -/

namespace Example

def hide : RuleEntry :=
  { action := .fail, roots := [.typeIs "a.Hidden"] }

def draw : RuleEntry :=
  { action := .generateWith "a.Drawer", roots := [.assignableTo "a.Widget"] }

/-- A type whose second entry makes it a widget, and the rule for widgets between two
others. -/
def widgets : Manifest :=
  { name := "a.Widgets"
    types := [{ name := "a.Widget", kind := .interfaceKind },
      { name := "a.Button", parent := some "a.Stranger" },
      { name := "a.Button", interfaces := ["a.Widget"] }]
    rules := [{ action := .replaceWith "a.Plain" }, draw, hide] }

/-- The generator that `widgets` speaks of. -/
def drawer (name : String) : Option Recipe :=
  if name = "a.Drawer" then some (.suffix "Drawn") else none

theorem build_widgets : build widgets = .ok (made widgets {}) := rfl

theorem button_is_widget : widgets.readsAssignable "a.Button" "a.Widget" = .ok true := by
  have extended : widgets.Extends "a.Button" "a.Widget" :=
    ⟨{ name := "a.Button", interfaces := ["a.Widget"] }, rfl, by decide⟩
  exact congrArg Except.ok (decide_eq_true (Or.inr (.single extended)))

theorem draw_settles (properties : Property.Source)
    (answer? : String → Option (Except String String)) :
    widgets.settledBy properties answer? "a.Button" draw =
      some (draw.action.yield answer? "a.Button") := by
  have verdicts : widgets.readsEach properties "a.Button" draw.roots = [.ok true] :=
    congrArg (fun verdict => [verdict]) button_is_widget
  rw [settledBy, verdicts]
  rfl

theorem button_is_drawn :
    let m := made widgets {}
    let s := Stage.run { rules := m.rules, census := {} } ([.dispose] : List (Call Recipe))
    let answer? := (m.context m.permutation.source drawer).answer? "a.Button" s.census
    build widgets = .ok m ∧
      ((m.withRules s).resolve m.permutation.source drawer "a.Button" s.census).outcome =
        widgets.read m.permutation.source answer? "a.Button" ∧
      widgets.read m.permutation.source answer? "a.Button" =
        .ok { type := "a.ButtonDrawn", rule := some 1 } := by
  refine ⟨build_widgets,
    resolve_outcome_eq_read build_widgets {} [.dispose] _ drawer "a.Button", ?_⟩
  rw [Manifest.read]
  show (List.findSome? _ [(hide, 2), (draw, 1), _]).getD _ = _
  rw [List.findSome?_cons, List.findSome?_cons]
  dsimp only
  rw [draw_settles]
  rfl

end Example

end Module

end DeferredBinding
