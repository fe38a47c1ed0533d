/-
# Proofs.Markup -- markup tells conditions and rules apart

The markup of a condition puts its texts between apostrophes as they are, and that of its
children one right after the other.  Where no text holds an apostrophe (`Unquoted`) it can be
read in one way only:

* it begins with one of six leads, none of which begins another (`lead_inj`);
* a text ends at the first apostrophe behind it (`append_mark_inj`);
* further children can be told from what closes a list of them, for that begins with `</` and
  no condition does (`Closes`).

So the markup of conditions determines them and where it ends, whatever text follows
(`render_inj`, `renderList_inj`), and the markup of rules what they do and under which
conditions (`Rule.render_inj`).
-/
import Mathlib.Data.List.Infix
import DeferredBinding.CommandLine.Report
import DeferredBinding.Resolution.Rules

namespace DeferredBinding

set_option autoImplicit false

/-- A text without an apostrophe. -/
def Unquoted (text : String) : Prop :=
  '\'' ∉ text.toList

instance (text : String) : Decidable (Unquoted text) :=
  inferInstanceAs (Decidable (¬ _))

/-- A text ends at the first apostrophe. -/
theorem append_mark_inj {one other : String} {rest behind : List Char} (plain : Unquoted one)
    (alsoPlain : Unquoted other)
    (same : one.toList ++ '\'' :: rest = other.toList ++ '\'' :: behind) :
    one = other ∧ rest = behind := by
  have lists : ∀ xs ys : List Char, '\'' ∉ xs → '\'' ∉ ys →
      xs ++ '\'' :: rest = ys ++ '\'' :: behind → xs = ys ∧ rest = behind := by
    intro xs
    induction xs with
    | nil =>
        rintro (_ | ⟨y, ys⟩) _ without same
        · exact ⟨rfl, (List.cons.inj same).2⟩
        · exact absurd (List.mem_cons.2 (Or.inl (List.cons.inj same).1)) without
    | cons x xs ih =>
        rintro (_ | ⟨y, ys⟩) without alsoWithout same
        · exact absurd (List.mem_cons.2 (Or.inl (List.cons.inj same).1.symm)) without
        · obtain ⟨rfl, tails⟩ := List.cons.inj same
          obtain ⟨rfl, behind⟩ := ih ys (List.not_mem_of_not_mem_cons without)
            (List.not_mem_of_not_mem_cons alsoWithout) tails
          exact ⟨rfl, behind⟩
  obtain ⟨texts, rests⟩ := lists _ _ plain alsoPlain same
  exact ⟨String.toList_inj.1 texts, rests⟩

/-- Of different leads none begins another, so a text shows which one it begins with. -/
theorem lead_inj {leads : List String}
    (apart : ∀ one ∈ leads, ∀ other ∈ leads, one.toList <+: other.toList → one = other)
    {one other : String} (first : one ∈ leads) (second : other ∈ leads)
    {rest behind : List Char} (same : one.toList ++ rest = other.toList ++ behind) :
    one = other ∧ rest = behind := by
  have begun : one.toList <+: one.toList ++ rest := List.prefix_append _ _
  have alsoBegun : other.toList <+: one.toList ++ rest := by
    rw [same]
    exact List.prefix_append _ _
  have equal : one = other := by
    obtain shorter | longer := List.prefix_or_prefix_of_prefix begun alsoBegun
    · exact apart one first other second shorter
    · exact (apart other second one first longer).symm
  subst equal
  exact ⟨rfl, List.append_cancel_left same⟩

namespace Condition

/-! ## Conditions -/

mutual

/-- The texts of a condition and of everything below it. -/
def texts : Condition → List String
  | .typeIs name => [name]
  | .assignableTo name => [name]
  | .propertyIs property value => [property, value]
  | .all children => textsList children
  | .any children => textsList children
  | .noneOf children => textsList children

def textsList : List Condition → List String
  | [] => []
  | c :: rest => texts c ++ textsList rest

end

/-- The markup of a condition up to its first text or its first child. -/
def lead : Condition → String
  | .typeIs _ => "<when-type-is class='"
  | .assignableTo _ => "<when-type-assignable class='"
  | .propertyIs _ _ => "<when-property-is name='"
  | .all _ => "<all>"
  | .any _ => "<any>"
  | .noneOf _ => "<none>"

def leads : List String :=
  ["<when-type-is class='", "<when-type-assignable class='", "<when-property-is name='", "<all>",
    "<any>", "<none>"]

theorem lead_mem_leads (c : Condition) : c.lead ∈ leads := by
  cases c <;> simp [lead, leads]

theorem leads_apart :
    ∀ one ∈ leads, ∀ other ∈ leads, one.toList <+: other.toList → one = other := by
  decide +kernel

/-- The markup of a condition behind its lead. -/
def trail : Condition → List Char
  | .typeIs name => name.toList ++ "'/>".toList
  | .assignableTo name => name.toList ++ "'/>".toList
  | .propertyIs property value =>
      property.toList ++ ("' value='".toList ++ (value.toList ++ "'/>".toList))
  | .all children => (renderList children).toList ++ "</all>".toList
  | .any children => (renderList children).toList ++ "</any>".toList
  | .noneOf children => (renderList children).toList ++ "</none>".toList

theorem toList_render (c : Condition) : c.render.toList = c.lead.toList ++ c.trail := by
  have leaf : ∀ lead name : String, (lead ++ name ++ "'/>").toList =
      lead.toList ++ (name.toList ++ "'/>".toList) := by
    simp only [String.toList_append, List.append_assoc, implies_true]
  have branch : ∀ (lead : String) (children : List Condition) (closing : String),
      (lead ++ renderList children ++ closing).toList =
        lead.toList ++ ((renderList children).toList ++ closing.toList) := by
    simp only [String.toList_append, List.append_assoc, implies_true]
  cases c with
  | typeIs name => exact leaf _ name
  | assignableTo name => exact leaf _ name
  | propertyIs property value =>
      show (_ ++ property ++ "' value='" ++ value ++ "'/>").toList = _
      rw [leaf, String.toList_append, String.toList_append, List.append_assoc, List.append_assoc]
      rfl
  | all children => exact branch _ children _
  | any children => exact branch _ children _
  | noneOf children => exact branch _ children _

theorem toList_renderList_cons (c : Condition) (rest : List Condition) :
    (renderList (c :: rest)).toList = c.render.toList ++ (renderList rest).toList :=
  String.toList_append

/-- A text behind which no further child stands: it is at its end, or a closing tag begins. -/
def Closes (text : List Char) : Prop :=
  text = [] ∨ ∃ rest, text = '<' :: '/' :: rest

theorem closes_append {closing : String} (tag : closing.toList.take 2 = ['<', '/'])
    (rest : List Char) : Closes (closing.toList ++ rest) := by
  have begins : closing.toList = '<' :: '/' :: closing.toList.drop 2 := by
    conv_lhs => rw [← List.take_append_drop 2 closing.toList, tag]
    rfl
  exact Or.inr ⟨closing.toList.drop 2 ++ rest, congrArg (· ++ rest) begins⟩

/-- No condition begins as a closing tag does. -/
theorem not_closes_render (c : Condition) (rest : List Char) :
    ¬ Closes (c.render.toList ++ rest) := by
  rw [toList_render]
  cases c <;> simp [Closes, lead]

/-- What stands behind a text begins with the apostrophe that ends it. -/
theorem text_inj {mark : String} (quoted : mark.toList.head? = some '\'') {one other : String}
    (plain : Unquoted one) (alsoPlain : Unquoted other) {rest behind : List Char}
    (same : one.toList ++ (mark.toList ++ rest) = other.toList ++ (mark.toList ++ behind)) :
    one = other ∧ rest = behind := by
  obtain ⟨tail, begins⟩ := List.head?_eq_some_iff.1 quoted
  rw [begins] at same
  obtain ⟨texts, ends⟩ := append_mark_inj plain alsoPlain same
  exact ⟨texts, List.append_cancel_left ends⟩

mutual

/-- The markup of a condition determines it, and where it ends. -/
theorem render_inj (c d : Condition) (rest behind : List Char)
    (plain : ∀ text ∈ texts c, Unquoted text) (alsoPlain : ∀ text ∈ texts d, Unquoted text)
    (same : (render c).toList ++ rest = (render d).toList ++ behind) : c = d ∧ rest = behind := by
  rw [toList_render, toList_render, List.append_assoc, List.append_assoc] at same
  obtain ⟨kind, trails⟩ := lead_inj leads_apart (lead_mem_leads c) (lead_mem_leads d) same
  cases c with
  | typeIs name =>
      cases d with
      | typeIs other =>
          rw [texts, List.forall_mem_singleton] at plain alsoPlain
          rw [trail, trail, List.append_assoc, List.append_assoc] at trails
          obtain ⟨rfl, ends⟩ := text_inj (by simp) plain alsoPlain trails
          exact ⟨rfl, ends⟩
      | _ => simp [lead] at kind
  | assignableTo name =>
      cases d with
      | assignableTo other =>
          rw [texts, List.forall_mem_singleton] at plain alsoPlain
          rw [trail, trail, List.append_assoc, List.append_assoc] at trails
          obtain ⟨rfl, ends⟩ := text_inj (by simp) plain alsoPlain trails
          exact ⟨rfl, ends⟩
      | _ => simp [lead] at kind
  | propertyIs property value =>
      cases d with
      | propertyIs other worth =>
          rw [texts, List.forall_mem_cons, List.forall_mem_singleton] at plain alsoPlain
          simp only [trail, List.append_assoc] at trails
          obtain ⟨rfl, values⟩ := text_inj (by simp) plain.1 alsoPlain.1 trails
          obtain ⟨rfl, ends⟩ := text_inj (by simp) plain.2 alsoPlain.2 values
          exact ⟨rfl, ends⟩
      | _ => simp [lead] at kind
  | all children =>
      cases d with
      | all others =>
          rw [trail, trail, List.append_assoc, List.append_assoc] at trails
          obtain ⟨rfl, ends⟩ := renderList_inj children others _ _ plain alsoPlain
            (closes_append (by simp) rest) (closes_append (by simp) behind) trails
          exact ⟨rfl, List.append_cancel_left ends⟩
      | _ => simp [lead] at kind
  | any children =>
      cases d with
      | any others =>
          rw [trail, trail, List.append_assoc, List.append_assoc] at trails
          obtain ⟨rfl, ends⟩ := renderList_inj children others _ _ plain alsoPlain
            (closes_append (by simp) rest) (closes_append (by simp) behind) trails
          exact ⟨rfl, List.append_cancel_left ends⟩
      | _ => simp [lead] at kind
  | noneOf children =>
      cases d with
      | noneOf others =>
          rw [trail, trail, List.append_assoc, List.append_assoc] at trails
          obtain ⟨rfl, ends⟩ := renderList_inj children others _ _ plain alsoPlain
            (closes_append (by simp) rest) (closes_append (by simp) behind) trails
          exact ⟨rfl, List.append_cancel_left ends⟩
      | _ => simp [lead] at kind

/-- The markup of several conditions determines them, up to where no further one stands. -/
theorem renderList_inj (cs ds : List Condition) (rest behind : List Char)
    (plain : ∀ text ∈ textsList cs, Unquoted text)
    (alsoPlain : ∀ text ∈ textsList ds, Unquoted text) (closes : Closes rest)
    (alsoCloses : Closes behind)
    (same : (renderList cs).toList ++ rest = (renderList ds).toList ++ behind) :
    cs = ds ∧ rest = behind := by
  cases cs with
  | nil =>
      cases ds with
      | nil => exact ⟨rfl, same⟩
      | cons d ds =>
          rw [toList_renderList_cons, List.append_assoc] at same
          have begun : Closes (d.render.toList ++ ((renderList ds).toList ++ behind)) := by
            rw [← same]
            exact closes
          exact absurd begun (not_closes_render d _)
  | cons c cs =>
      cases ds with
      | nil =>
          rw [toList_renderList_cons, List.append_assoc] at same
          have begun : Closes (c.render.toList ++ ((renderList cs).toList ++ rest)) := by
            rw [same]
            exact alsoCloses
          exact absurd begun (not_closes_render c _)
      | cons d ds =>
          rw [textsList, List.forall_mem_append] at plain alsoPlain
          rw [toList_renderList_cons, toList_renderList_cons, List.append_assoc,
            List.append_assoc] at same
          obtain ⟨rfl, tails⟩ := render_inj c d _ _ plain.1 alsoPlain.1 same
          obtain ⟨rfl, ends⟩ := renderList_inj cs ds rest behind plain.2 alsoPlain.2 closes
            alsoCloses tails
          exact ⟨rfl, ends⟩

end

end Condition

open Condition

/-! ## Rules -/

namespace Action

/-- The text of an action, if it has one. -/
def texts : Action → List String
  | .replaceWith type => [type]
  | .generateWith generator => [generator]
  | .fail => []

/-- The markup that opens a rule, up to the text of its action. -/
def lead : Action → String
  | .replaceWith _ => "<replace-with class='"
  | .generateWith _ => "<generate-with class='"
  | .fail => "<fail>"

def leads : List String :=
  ["<replace-with class='", "<generate-with class='", "<fail>"]

theorem lead_mem_actionLeads (a : Action) : a.lead ∈ leads := by
  cases a <;> simp [lead, leads]

theorem actionLeads_apart :
    ∀ one ∈ leads, ∀ other ∈ leads, one.toList <+: other.toList → one = other := by
  decide +kernel

/-- The rest of the markup that opens a rule. -/
def trail : Action → List Char
  | .replaceWith type => type.toList ++ "'>".toList
  | .generateWith generator => generator.toList ++ "'>".toList
  | .fail => []

theorem toList_opening (a : Action) : a.opening.toList = a.lead.toList ++ a.trail := by
  have quoted : ∀ lead text : String, (lead ++ text ++ "'>").toList =
      lead.toList ++ (text.toList ++ "'>".toList) := by
    simp only [String.toList_append, List.append_assoc, implies_true]
  cases a with
  | replaceWith type => exact quoted _ type
  | generateWith generator => exact quoted _ generator
  | fail => exact (List.append_nil _).symm

/-- The markup that opens a rule determines its action, and where the conditions begin. -/
theorem opening_inj {a b : Action} (plain : ∀ text ∈ a.texts, Unquoted text)
    (alsoPlain : ∀ text ∈ b.texts, Unquoted text) {rest behind : List Char}
    (same : a.opening.toList ++ rest = b.opening.toList ++ behind) : a = b ∧ rest = behind := by
  rw [toList_opening, toList_opening, List.append_assoc, List.append_assoc] at same
  obtain ⟨kind, trails⟩ :=
    lead_inj actionLeads_apart (lead_mem_actionLeads a) (lead_mem_actionLeads b) same
  cases a with
  | replaceWith type =>
      cases b with
      | replaceWith other =>
          rw [texts, List.forall_mem_singleton] at plain alsoPlain
          rw [trail, trail, List.append_assoc, List.append_assoc] at trails
          obtain ⟨rfl, ends⟩ := text_inj (by simp) plain alsoPlain trails
          exact ⟨rfl, ends⟩
      | _ => simp [lead] at kind
  | generateWith generator =>
      cases b with
      | generateWith other =>
          rw [texts, List.forall_mem_singleton] at plain alsoPlain
          rw [trail, trail, List.append_assoc, List.append_assoc] at trails
          obtain ⟨rfl, ends⟩ := text_inj (by simp) plain alsoPlain trails
          exact ⟨rfl, ends⟩
      | _ => simp [lead] at kind
  | fail =>
      cases b with
      | fail => exact ⟨rfl, trails⟩
      | _ => simp [lead] at kind

end Action

namespace Rule

/-- The texts of a rule: that of its action and those of its conditions. -/
def texts (r : Rule) : List String :=
  r.action.texts ++ textsList r.roots

theorem toList_render (r : Rule) :
    r.render.toList = r.action.opening.toList ++ ((renderList r.roots).toList ++
      ("</".toList ++ (r.action.tag.toList ++ ">".toList))) := by
  simp only [render, String.toList_append, List.append_assoc]

/-- The markup of a rule determines its action and its conditions. -/
theorem render_inj {r s : Rule} (plain : ∀ text ∈ r.texts, Unquoted text)
    (alsoPlain : ∀ text ∈ s.texts, Unquoted text) (same : r.render = s.render) :
    r.action = s.action ∧ r.roots = s.roots := by
  have lists := congrArg String.toList same
  rw [toList_render, toList_render] at lists
  rw [texts, List.forall_mem_append] at plain alsoPlain
  obtain ⟨actions, behind⟩ := Action.opening_inj plain.1 alsoPlain.1 lists
  obtain ⟨roots, -⟩ := renderList_inj r.roots s.roots _ _ plain.2 alsoPlain.2
    (closes_append (by simp) _) (closes_append (by simp) _) behind
  exact ⟨actions, roots⟩

end Rule

namespace Rules

/-- No text of the rules holds an apostrophe. -/
def Plain (rs : Rules) : Prop :=
  ∀ r ∈ rs.toList, ∀ text ∈ r.texts, Unquoted text

/-- Rules with the same markup are the same but for what they hold. -/
theorem render_inj {rs others : Rules} (plain : rs.Plain) (alsoPlain : others.Plain)
    (same : rs.toList.map Rule.render = others.toList.map Rule.render) :
    rs.dispose = others.dispose := by
  obtain ⟨rules⟩ := rs
  obtain ⟨placed⟩ := others
  rw [dispose, dispose]
  congr 1
  dsimp only [Plain] at plain alsoPlain same ⊢
  induction rules generalizing placed with
  | nil =>
      rw [List.map_eq_nil_iff.1 same.symm]
  | cons r rest ih =>
      cases placed with
      | nil => cases same
      | cons s others =>
          obtain ⟨here, later⟩ := List.forall_mem_cons.1 plain
          obtain ⟨alsoHere, alsoLater⟩ := List.forall_mem_cons.1 alsoPlain
          obtain ⟨head, tail⟩ := List.cons.inj same
          obtain ⟨actions, roots⟩ := Rule.render_inj here alsoHere head
          rw [List.map_cons, List.map_cons, ih later others alsoLater tail, Rule.dispose,
            Rule.dispose, actions, roots]

/-- Lines that number the rules show their markup. -/
theorem render_of_ruleLines {rules others : List Rule} {position : Nat}
    (same : CommandLine.ruleLines position rules = CommandLine.ruleLines position others) :
    rules.map Rule.render = others.map Rule.render := by
  induction rules generalizing others position with
  | nil =>
      cases others with
      | nil => rfl
      | cons s others => cases same
  | cons r rest ih =>
      cases others with
      | nil => cases same
      | cons s others =>
          obtain ⟨line, lines⟩ := List.cons.inj same
          have head : r.render = s.render := (String.append_right_inj _).1 line
          rw [List.map_cons, List.map_cons, head, ih lines]

/-- What the markup of conditions and rules determines, where no text holds an apostrophe. -/
structure Unambiguous : Prop where
  condition : ∀ c d : Condition, (∀ text ∈ c.texts, Unquoted text) →
    (∀ text ∈ d.texts, Unquoted text) → c.render = d.render → c = d
  /-- several conditions, up to a closing tag, and what stands behind them -/
  conditions : ∀ (cs ds : List Condition) (rest behind : String),
    (∀ text ∈ textsList cs, Unquoted text) → (∀ text ∈ textsList ds, Unquoted text) →
    Closes rest.toList → Closes behind.toList →
    renderList cs ++ rest = renderList ds ++ behind → cs = ds ∧ rest = behind
  rule : ∀ r s : Rule, (∀ text ∈ r.texts, Unquoted text) → (∀ text ∈ s.texts, Unquoted text) →
    r.render = s.render → r.action = s.action ∧ r.roots = s.roots
  /-- two collections rule by rule; what rules hold is not shown -/
  rules : ∀ rs others : Rules, rs.Plain → others.Plain →
    rs.toList.map Rule.render = others.toList.map Rule.render → rs.dispose = others.dispose
  /-- two collections as a report shows them -/
  reported : ∀ rs others : Rules, rs.Plain → others.Plain →
    CommandLine.ruleLines 0 rs.toList = CommandLine.ruleLines 0 others.toList →
    rs.dispose = others.dispose

/-- **Markup is unambiguous.**  Different conditions and different rules have different markup,
whatever their texts are made of, apostrophes apart. -/
theorem markup_unambiguous : Unambiguous where
  condition c d plain alsoPlain same :=
    (Condition.render_inj c d [] [] plain alsoPlain (by rw [same])).1
  conditions cs ds rest behind plain alsoPlain closes alsoCloses same := by
    have lists := congrArg String.toList same
    rw [String.toList_append, String.toList_append] at lists
    obtain ⟨conditions, ends⟩ :=
      renderList_inj cs ds _ _ plain alsoPlain closes alsoCloses lists
    exact ⟨conditions, String.toList_inj.1 ends⟩
  rule _ _ := Rule.render_inj
  rules _ _ := render_inj
  reported _ _ plain alsoPlain same := render_inj plain alsoPlain (render_of_ruleLines same)

/-! ## Texts that look like markup -/

namespace Example

def nested : Condition := .all [.typeIs "a", .any []]

/-- A branch with one child, whose name looks like more. -/
def disguised : Condition := .all [.typeIs "a/><any></any>"]

theorem disguised_told_apart :
    (∀ text ∈ nested.texts, Unquoted text) ∧ (∀ text ∈ disguised.texts, Unquoted text) ∧
      nested.render ≠ disguised.render := by
  have plain : ∀ text ∈ nested.texts, Unquoted text := by decide
  have alsoPlain : ∀ text ∈ disguised.texts, Unquoted text := by decide
  refine ⟨plain, alsoPlain, fun same => ?_⟩
  exact absurd (markup_unambiguous.condition nested disguised plain alsoPlain same) (by decide)

/-- With an apostrophe in it, a name can pass for several conditions. -/
example : renderList [.typeIs "a", .typeIs "b"] =
    renderList [.typeIs "a'/><when-type-is class='b"] := by
  decide +kernel

end Example

end Rules

end DeferredBinding
