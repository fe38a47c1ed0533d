/-
# Proofs.Document.Respelling -- documents that say the same

A record with given fields can be written in many ways (`Rewrites`): its members may stand in
any order, a field may be left out where it has its default, members of no field may be added,
and the list of the values of its fields may stand for it.  So can a tagged record, with the
fields of the variant that its tag names (`TaggedRewrites`).  One step of rewriting takes place
at one record; what can be reached by such steps and their converses says the same.

A decoder reads two nodes `Alike` where it takes the same value out of both or takes a value
out of neither.  A layout does so with records that are rewritten (`Layout.MadeOf.alike_of_rewrites`)
where it is made of intakes (`Layout.MadeOf`), each of which suits a field: it surveys the same
members and is told the same values.  For tagged records this holds where there is no limit to
brackets (`Tagged.alike_of_rewrites`), since then what is taken in beforehand does not depend on
how it is nested.
-/
import Mathlib.Data.List.Forall2
import Mathlib.Data.List.Nodup
import Mathlib.Logic.Relation
import DeferredBinding.Document.Layout
import DeferredBinding.Proofs.Attempt
import DeferredBinding.Proofs.Pairs

namespace DeferredBinding.Document

set_option autoImplicit false

variable {α β : Type}

/-! ## Rewriting -/

/-- The members of one record put in another order, anywhere inside of a value. -/
inductive Shuffled : Node → Node → Prop
  | members {members others : Members} {ending : Ending} (perm : members.Perm others) :
      Shuffled (.record members ending) (.record others ending)
  | item {before after : List Node} {v w : Node} {ending : Ending} (inside : Shuffled v w) :
      Shuffled (.list (before ++ v :: after) ending) (.list (before ++ w :: after) ending)
  | value {before after : Members} {key : String} {v w : Node} {ending : Ending}
      (inside : Shuffled v w) :
      Shuffled (.record (before ++ (key, v) :: after) ending)
        (.record (before ++ (key, w) :: after) ending)

/-- One item of a list rewritten. -/
inductive OneItem (rewrites : Node → Node → Prop) : Node → Node → Prop
  | item {before after : List Node} {v w : Node} {ending : Ending} (rewritten : rewrites v w) :
      OneItem rewrites (.list (before ++ v :: after) ending) (.list (before ++ w :: after) ending)

/-- A field of a record as documents show it. -/
structure Slot where
  key : String
  /-- the values that say no more than leaving it out -/
  defaults : List Node := []
  /-- one step of writing its value otherwise -/
  rewrites : Node → Node → Prop := fun _ _ => False

/-- One step of writing a record with these fields otherwise; `foreign` says what may stand
under a key of no field. -/
inductive Rewrites (slots : List Slot) (foreign : Node → Prop) : Node → Node → Prop
  /-- the members are put in another order -/
  | permuted {members others : Members} {ending : Ending} (perm : members.Perm others) :
      Rewrites slots foreign (.record members ending) (.record others ending)
  /-- a field that was left out is said to have its default -/
  | default {slot : Slot} {node : Node} {members : Members} {ending : Ending}
      (known : slot ∈ slots) (default : node ∈ slot.defaults)
      (absent : slot.key ∉ members.map Prod.fst) :
      Rewrites slots foreign (.record members ending)
        (.record ((slot.key, node) :: members) ending)
  /-- a member of no field is added -/
  | stranger {key : String} {node : Node} {members : Members} {ending : Ending}
      (unknown : key ∉ slots.map Slot.key) (fits : foreign node) :
      Rewrites slots foreign (.record members ending) (.record ((key, node) :: members) ending)
  /-- members are put in another order inside of what stands under a key of no field -/
  | shuffled {key : String} {v w : Node} {before after : Members} {ending : Ending}
      (unknown : key ∉ slots.map Slot.key) (inside : Shuffled v w) :
      Rewrites slots foreign (.record (before ++ (key, v) :: after) ending)
        (.record (before ++ (key, w) :: after) ending)
  /-- the list of the first fields stands for the record of them -/
  | listed {items : List Node} (fits : items.length ≤ slots.length) :
      Rewrites slots foreign (.record ((slots.map Slot.key).zip items) .closed)
        (.list items .closed)
  /-- the value of one field is rewritten -/
  | value {slot : Slot} {v w : Node} {before after : Members} {ending : Ending}
      (known : slot ∈ slots) (rewritten : slot.rewrites v w) :
      Rewrites slots foreign (.record (before ++ (slot.key, v) :: after) ending)
        (.record (before ++ (slot.key, w) :: after) ending)

/-- What a node says that its tag is. -/
def Names (tag name : String) : Node → Prop
  | .record members _ => (tag, .text name) ∈ members
  | .list (first :: _) _ => first = .text name
  | _ => False

/-- One step of writing a tagged record otherwise, which has the fields of a variant after its
tag. -/
inductive TaggedRewrites (tag : String) (variants : List (String × List Slot))
    (foreign : Node → Prop) : Node → Node → Prop
  | variant {name : String} {slots : List Slot} {node other : Node}
      (variant : (name, slots) ∈ variants) (named : Names tag name node)
      (still : Names tag name other) (rewritten : Rewrites ({ key := tag } :: slots) foreign node other) :
      TaggedRewrites tag variants foreign node other

/-! ## Reading alike -/

/-- The decoder takes the same value out of both nodes, or takes a value out of neither. -/
def Alike (decode : Decoder α) (node other : Node) : Prop :=
  ∀ value, decode node = .ok value ↔ decode other = .ok value

theorem alike_of_eqvGen {decode : Decoder α} {rewrites : Node → Node → Prop}
    (step : ∀ node other, rewrites node other → Alike decode node other) {node other : Node}
    (steps : Relation.EqvGen rewrites node other) : Alike decode node other := by
  induction steps with
  | rel node other rewritten => exact step node other rewritten
  | refl node => exact fun _ => Iff.rfl
  | symm node other _ ih => exact fun value => (ih value).symm
  | trans node middle other _ _ first second => exact fun value => (first value).trans (second value)

theorem check_ok_iff {decode : Decoder α} {node : Node} :
    decode.check node = .ok () ↔ ∃ value, decode node = .ok value := by
  rw [Decoder.check, Attempt.map_ok_iff]
  exact exists_congr fun _ => and_iff_left rfl

theorem Alike.check {decode : Decoder α} {node other : Node} (alike : Alike decode node other) :
    decode.check node = .ok () ↔ decode.check other = .ok () := by
  rw [check_ok_iff, check_ok_iff]
  exact exists_congr alike

/-! ### Lists -/

/-- One item replaced by one that is read alike. -/
theorem Alike.mapM {decode : Decoder α} {v w : Node} (alike : Alike decode v w)
    (before after : List Node) (values : List α) :
    (before ++ v :: after).mapM decode = .ok values ↔
      (before ++ w :: after).mapM decode = .ok values := by
  induction before generalizing values with
  | nil =>
      rw [List.nil_append, List.nil_append, List.mapM_cons, List.mapM_cons]
      exact Attempt.bind_ok_congr alike fun _ => Iff.rfl
  | cons u before ih =>
      rw [List.cons_append, List.cons_append, List.mapM_cons, List.mapM_cons]
      exact Attempt.bind_ok_congr (fun _ => Iff.rfl) fun _ =>
        Attempt.bind_ok_congr ih fun _ => Iff.rfl

theorem mapM_mono {decode finer : Decoder α} {items : List Node} {values : List α}
    (mapped : items.mapM decode = .ok values)
    (mono : ∀ item ∈ items, ∀ value, decode item = .ok value → finer item = .ok value) :
    items.mapM finer = .ok values := by
  induction items generalizing values with
  | nil => exact mapped
  | cons item rest ih =>
      obtain ⟨here, later⟩ := List.forall_mem_cons.1 mono
      rw [List.mapM_cons] at mapped ⊢
      obtain ⟨first, taken, onward⟩ := Attempt.bind_ok_iff.1 mapped
      obtain ⟨others, behind, same⟩ := Attempt.bind_ok_iff.1 onward
      exact Attempt.bind_ok_iff.2
        ⟨first, here first taken, Attempt.bind_ok_iff.2 ⟨others, ih behind later, same⟩⟩

theorem read_ok_iff {ending : Ending} : ending.read = .ok () ↔ ending = .closed := by
  cases ending with
  | closed => exact iff_of_true rfl rfl
  | passable => exact iff_of_false nofun nofun
  | brokenOff => exact iff_of_false nofun nofun

theorem list_ok_iff {decode : Decoder α} {items : List Node} {ending : Ending}
    {values : List α} : Decoder.list decode (.list items ending) = .ok values ↔
      items.mapM decode = .ok values ∧ ending = .closed := by
  rw [← read_ok_iff]
  constructor
  · intro decoded
    obtain ⟨taken, mapped, onward⟩ := Attempt.bind_ok_iff.1 decoded
    obtain ⟨ended, same⟩ := Attempt.unit_bind_ok_iff.1 onward
    cases same
    exact ⟨mapped, ended⟩
  · rintro ⟨mapped, ended⟩
    rw [Decoder.list, mapped, ended]
    rfl

theorem alike_of_oneItem {decode : Decoder α} {rewrites : Node → Node → Prop}
    (step : ∀ node other, rewrites node other → Alike decode node other) {node other : Node}
    (rewritten : OneItem rewrites node other) : Alike (Decoder.list decode) node other := by
  obtain ⟨inside⟩ := rewritten
  intro values
  rw [list_ok_iff, list_ok_iff, (step _ _ inside).mapM]

/-! ### Surveys -/

/-- What a survey does with one member on its own. -/
def passMember (fields : List Field) (stranger : Stranger) (m : String × Node) : Passage :=
  match fields.find? fun field => field.name == m.1 with
  | none => stranger m.1 m.2
  | some field => field.check m.2

/-- Each of the names is among the keys at most once, and not at all if it was seen before. -/
structure OnceEach (names seen keys : List String) : Prop where
  single : ∀ name ∈ names, keys.count name ≤ 1
  fresh : ∀ name ∈ names, name ∈ seen → name ∉ keys

theorem onceEach_cons_of_not_mem {names seen keys : List String} {key : String}
    (unknown : key ∉ names) : OnceEach names seen (key :: keys) ↔ OnceEach names seen keys := by
  have other : ∀ name ∈ names, key ≠ name := fun name known same => unknown (same ▸ known)
  constructor
  · refine fun once => ⟨fun name known => ?_, fun name known met there => ?_⟩
    · rw [← List.count_cons_of_ne (other name known)]
      exact once.single name known
    · exact once.fresh name known met (List.mem_cons_of_mem _ there)
  · refine fun once => ⟨fun name known => ?_, fun name known met there => ?_⟩
    · rw [List.count_cons_of_ne (other name known)]
      exact once.single name known
    · exact once.fresh name known met (List.mem_of_ne_of_mem (other name known).symm there)

theorem onceEach_cons_of_mem {names seen keys : List String} {key : String}
    (known : key ∈ names) : OnceEach names seen (key :: keys) ↔
      key ∉ seen ∧ OnceEach names (key :: seen) keys := by
  constructor
  · refine fun once => ⟨fun met => once.fresh key known met List.mem_cons_self,
      fun name demanded => Nat.le_trans List.count_le_count_cons (once.single name demanded),
      fun name demanded met there => ?_⟩
    obtain rfl | before := List.mem_cons.1 met
    · have twice := once.single name demanded
      rw [List.count_cons_self] at twice
      have some_ := List.count_pos_iff.2 there
      omega
    · exact once.fresh name demanded before (List.mem_cons_of_mem _ there)
  · rintro ⟨new, once⟩
    refine ⟨fun name demanded => ?_, fun name demanded met there => ?_⟩
    · by_cases same : key = name
      · subst same
        have none_ := List.count_eq_zero.2 (once.fresh key known List.mem_cons_self)
        rw [List.count_cons_self]
        omega
      · rw [List.count_cons_of_ne same]
        exact once.single name demanded
    · obtain rfl | behind := List.mem_cons.1 there
      · exact new met
      · exact once.fresh name demanded (List.mem_cons_of_mem _ met) behind

theorem OnceEach.perm {names seen keys others : List String} (once : OnceEach names seen keys)
    (perm : keys.Perm others) : OnceEach names seen others := by
  constructor
  · intro name known
    rw [← perm.count_eq]
    exact once.single name known
  · exact fun name known met there => once.fresh name known met (perm.mem_iff.2 there)

/-- A survey lets members pass where it lets each of them pass and meets no field twice. -/
theorem survey_ok_iff {fields : List Field} {stranger : Stranger} {seen : List String}
    {members : Members} : survey fields stranger seen members = .ok () ↔
      (∀ m ∈ members, passMember fields stranger m = .ok ()) ∧
        OnceEach (fields.map Field.name) seen (members.map Prod.fst) := by
  induction members generalizing seen with
  | nil => exact iff_of_true rfl ⟨nofun, fun _ _ => Nat.zero_le _, fun _ _ _ => List.not_mem_nil⟩
  | cons m rest ih =>
      obtain ⟨key, node⟩ := m
      rw [List.forall_mem_cons, survey, passMember, List.map_cons]
      cases found : fields.find? fun field => field.name == key with
      | none =>
          have unknown : key ∉ fields.map Field.name := by
            intro known
            obtain ⟨field, member, same⟩ := List.mem_map.1 known
            exact List.find?_eq_none.1 found field member (beq_iff_eq.2 same)
          rw [onceEach_cons_of_not_mem unknown, and_assoc, ← ih]
          exact Attempt.unit_bind_ok_iff
      | some field =>
          have hit := List.find?_some found
          have known : key ∈ fields.map Field.name :=
            List.mem_map.2 ⟨field, List.mem_of_find?_eq_some found, beq_iff_eq.1 hit⟩
          rw [onceEach_cons_of_mem known, and_left_comm, and_assoc, ← ih]
          show (do if key ∈ seen then Except.error (Fault.duplicateField key)
                   field.check node
                   survey fields stranger (key :: seen) rest) = _ ↔ _
          by_cases met : key ∈ seen
          · rw [if_pos met]
            exact iff_of_false nofun fun both => both.1 met
          · rw [if_neg met]
            exact Attempt.unit_bind_ok_iff.trans (iff_and_self.2 fun _ => met)

/-! ## Layouts -/

/-- What is read under a key. -/
structure Intake where
  {value : Type}
  key : String
  decode : Decoder value
  /-- what it counts as where it is left out -/
  default : Option value

namespace Intake

/-- A field that must be there. -/
def required (key : String) (decode : Decoder α) : Intake :=
  { key, decode, default := none }

/-- A field that may be left out. -/
def withDefault (key : String) (decode : Decoder α) (default : α) : Intake :=
  { key, decode, default := some default }

/-- The field of a layout that is read so. -/
def field (intake : Intake) : Field :=
  .of intake.key intake.decode

/-- The value that the members tell. -/
def Told (intake : Intake) (members : Members) (told : intake.value) : Prop :=
  match members.lookup intake.key with
  | some node => intake.decode node = .ok told
  | none => intake.default = some told

/-- The members tell the same value, or none of them tell any. -/
def ToldAlike (intake : Intake) (members others : Members) : Prop :=
  ∀ told, intake.Told members told ↔ intake.Told others told

theorem toldAlike_of_lookup {intake : Intake} {members others : Members}
    (same : members.lookup intake.key = others.lookup intake.key) :
    intake.ToldAlike members others := by
  intro told
  rw [Told, Told, same]

end Intake

theorem required_ok_iff {members : Members} {missing : String → Fault} {key : String}
    {decode : Decoder α} {told : α} : Field.required members missing key decode = .ok told ↔
      (Intake.required key decode).Told members told := by
  show _ ↔ match members.lookup key with
    | some node => decode node = .ok told
    | none => none = some told
  rw [Field.required]
  cases members.lookup key with
  | some node => exact Iff.rfl
  | none => exact iff_of_false nofun nofun

theorem withDefault_ok_iff {members : Members} {key : String} {decode : Decoder α}
    {default told : α} : Field.withDefault members key decode default = .ok told ↔
      (Intake.withDefault key decode default).Told members told := by
  show _ ↔ match members.lookup key with
    | some node => decode node = .ok told
    | none => some default = some told
  rw [Field.withDefault]
  cases members.lookup key with
  | some node => exact Iff.rfl
  | none => rw [Except.ok.injEq, Option.some.injEq]

theorem required_congr {members others : Members} {missing absent : String → Fault}
    {key : String} {decode : Decoder α}
    (alike : (Intake.required key decode).ToldAlike members others) (told : α) :
    Field.required members missing key decode = .ok told ↔
      Field.required others absent key decode = .ok told := by
  rw [required_ok_iff, required_ok_iff]
  exact alike told

theorem withDefault_congr {members others : Members} {key : String} {decode : Decoder α}
    {default : α} (alike : (Intake.withDefault key decode default).ToldAlike members others)
    (told : α) : Field.withDefault members key decode default = .ok told ↔
      Field.withDefault others key decode default = .ok told := by
  rw [withDefault_ok_iff, withDefault_ok_iff]
  exact alike told

/-- The fields of a layout are read by the intakes, and it builds its value of what they are
told. -/
structure Layout.MadeOf (layout : Layout α) (intakes : List Intake) : Prop where
  fields : layout.fields = intakes.map Intake.field
  builds : ∀ {members others : Members},
    (∀ intake ∈ intakes, intake.ToldAlike members others) → ∀ missing absent value,
      layout.build members missing = .ok value ↔ layout.build others absent = .ok value

/-- A field shows what an intake reads. -/
structure Intake.Suits (intake : Intake) (slot : Slot) : Prop where
  key : intake.key = slot.key
  defaults : ∀ node ∈ slot.defaults,
    ∃ told, intake.default = some told ∧ intake.decode node = .ok told
  rewrites : ∀ node other, slot.rewrites node other → Alike intake.decode node other

/-- A way of treating strangers lets foreign values pass, whatever the order inside of them. -/
structure Stranger.Lets (stranger : Stranger) (foreign : Node → Prop) : Prop where
  foreign : ∀ key node, foreign node → stranger key node = .ok ()
  shuffled : ∀ key v w, Shuffled v w → (stranger key v = .ok () ↔ stranger key w = .ok ())

theorem Layout.ofMembers_ok_iff {layout : Layout α} {stranger : Stranger} {members : Members}
    {ending : Ending} {value : α} : layout.ofMembers stranger members ending = .ok value ↔
      survey layout.fields stranger [] members = .ok () ∧ ending = .closed ∧
        layout.build members .missingField = .ok value := by
  rw [← read_ok_iff]
  exact Attempt.unit_bind_ok_iff.trans (and_congr_right fun _ => Attempt.unit_bind_ok_iff)

theorem Layout.ofItems_ok_iff {layout : Layout α} {surplus : Passage} {items : List Node}
    {ending : Ending} {value : α} : layout.ofItems surplus items ending = .ok value ↔
      survey layout.fields ignored [] (layout.names.zip items) = .ok () ∧
        (if items.length ≤ layout.fields.length then ending.read else surplus) = .ok () ∧
        layout.build (layout.names.zip items) (fun _ => .invalidLength) = .ok value := by
  rw [Layout.ofItems]
  by_cases fits : items.length ≤ layout.fields.length
  · rw [if_pos fits, if_pos fits]
    exact Attempt.unit_bind_ok_iff.trans (and_congr_right fun _ => Attempt.unit_bind_ok_iff)
  · rw [if_neg fits, if_neg fits]
    exact Attempt.unit_bind_ok_iff.trans (and_congr_right fun _ => Attempt.unit_bind_ok_iff)

section

variable {layout : Layout α} {intakes : List Intake} {slots : List Slot}

theorem Layout.MadeOf.names (made : layout.MadeOf intakes) :
    layout.names = intakes.map Intake.key := by
  rw [Layout.names, made.fields, List.map_map]
  rfl

theorem keys_of_suits (suits : List.Forall₂ Intake.Suits intakes slots) :
    intakes.map Intake.key = slots.map Slot.key := by
  induction suits with
  | nil => rfl
  | cons head _ ih => rw [List.map_cons, List.map_cons, head.key, ih]

theorem exists_intake (suits : List.Forall₂ Intake.Suits intakes slots) {slot : Slot}
    (known : slot ∈ slots) : ∃ intake ∈ intakes, intake.Suits slot := by
  induction suits with
  | nil => cases known
  | cons head _ ih =>
      obtain rfl | behind := List.mem_cons.1 known
      · exact ⟨_, List.mem_cons_self, head⟩
      · obtain ⟨intake, member, suits⟩ := ih behind
        exact ⟨intake, List.mem_cons_of_mem _ member, suits⟩

theorem find?_intake (distinct : (intakes.map Intake.key).Nodup) {intake : Intake}
    (known : intake ∈ intakes) :
    (intakes.map Intake.field).find? (fun field => field.name == intake.key) =
      some intake.field := by
  induction intakes with
  | nil => cases known
  | cons first rest ih =>
      obtain ⟨single, others⟩ := List.nodup_cons.1 distinct
      rw [List.map_cons]
      obtain rfl | behind := List.mem_cons.1 known
      · exact List.find?_cons_of_pos (beq_iff_eq.2 rfl)
      · rw [List.find?_cons_of_neg, ih others behind]
        intro same
        exact single (List.mem_map.2 ⟨intake, behind, (beq_iff_eq.1 same).symm⟩)

theorem passMember_known (distinct : (intakes.map Intake.key).Nodup) {intake : Intake}
    (known : intake ∈ intakes) (stranger : Stranger) (node : Node) :
    passMember (intakes.map Intake.field) stranger (intake.key, node) =
      intake.decode.check node := by
  rw [passMember, find?_intake distinct known]
  rfl

theorem passMember_unknown {key : String} (unknown : key ∉ intakes.map Intake.key)
    (stranger : Stranger) (node : Node) :
    passMember (intakes.map Intake.field) stranger (key, node) = stranger key node := by
  rw [passMember, List.find?_eq_none.2]
  rintro _ member same
  obtain ⟨intake, known, rfl⟩ := List.mem_map.1 member
  exact unknown (List.mem_map.2 ⟨intake, known, beq_iff_eq.1 same⟩)

/-- Where there is a field, it does not matter how strangers are treated. -/
theorem passMember_congr {key : String} (known : key ∈ intakes.map Intake.key)
    (stranger other : Stranger) (node : Node) :
    passMember (intakes.map Intake.field) stranger (key, node) =
      passMember (intakes.map Intake.field) other (key, node) := by
  obtain ⟨intake, member, rfl⟩ := List.mem_map.1 known
  rw [passMember, passMember]
  cases found : (intakes.map Intake.field).find? fun field => field.name == intake.key with
  | none =>
      have missed := List.find?_eq_none.1 found intake.field (List.mem_map_of_mem member)
      exact absurd (beq_self_eq_true intake.key) missed
  | some field => rfl

/-- Intakes of one key are one. -/
theorem intake_unique (distinct : (intakes.map Intake.key).Nodup) {intake other : Intake}
    (known : intake ∈ intakes) (also : other ∈ intakes) (same : other.key = intake.key) :
    other = intake :=
  List.inj_on_of_nodup_map distinct also known same

/-- Two records are read alike where they pass the survey both or not at all and tell the
intakes the same. -/
theorem Layout.MadeOf.alike_record (made : layout.MadeOf intakes) {stranger : Stranger}
    (surplus : Passage) {members others : Members} {ending : Ending}
    (surveyed : survey layout.fields stranger [] members = .ok () ↔
      survey layout.fields stranger [] others = .ok ())
    (told : survey layout.fields stranger [] members = .ok () →
      ∀ intake ∈ intakes, intake.ToldAlike members others) :
    Alike (layout.decoder stranger surplus) (.record members ending) (.record others ending) := by
  intro value
  show layout.ofMembers stranger members ending = .ok value ↔
    layout.ofMembers stranger others ending = .ok value
  rw [Layout.ofMembers_ok_iff, Layout.ofMembers_ok_iff, ← surveyed]
  exact and_congr_right fun passed => and_congr_right fun _ =>
    made.builds (told passed) _ _ value

theorem Layout.MadeOf.survey_ok_iff (made : layout.MadeOf intakes) {stranger : Stranger}
    {members : Members} : survey layout.fields stranger [] members = .ok () ↔
      (∀ m ∈ members, passMember (intakes.map Intake.field) stranger m = .ok ()) ∧
        OnceEach (intakes.map Intake.key) [] (members.map Prod.fst) := by
  rw [Document.survey_ok_iff, ← made.names, made.fields, Layout.names, made.fields]

/-! ### One kind of step after the other -/

namespace Layout.MadeOf

variable (made : layout.MadeOf intakes) (distinct : (intakes.map Intake.key).Nodup)
  (stranger : Stranger) (surplus : Passage)

include made

theorem alike_permuted {members others : Members} (perm : members.Perm others)
    (ending : Ending) :
    Alike (layout.decoder stranger surplus) (.record members ending) (.record others ending) := by
  refine made.alike_record surplus ?_ fun passed intake known => ?_
  · rw [made.survey_ok_iff, made.survey_ok_iff]
    exact and_congr (forall_congr' fun m => by rw [perm.mem_iff])
      ⟨fun once => once.perm (perm.map Prod.fst), fun once => once.perm (perm.symm.map Prod.fst)⟩
  · exact Intake.toldAlike_of_lookup (Pairs.lookup_perm perm
      ((made.survey_ok_iff.1 passed).2.single _ (List.mem_map_of_mem known)))

theorem alike_stranger {key : String} (unknown : key ∉ intakes.map Intake.key) {node : Node}
    (passes : stranger key node = .ok ()) (members : Members) (ending : Ending) :
    Alike (layout.decoder stranger surplus) (.record members ending)
      (.record ((key, node) :: members) ending) := by
  refine made.alike_record surplus ?_ fun _ intake known => ?_
  · rw [made.survey_ok_iff, made.survey_ok_iff, List.forall_mem_cons, List.map_cons,
      onceEach_cons_of_not_mem unknown, passMember_unknown unknown, and_iff_right passes]
  · refine Intake.toldAlike_of_lookup (Pairs.lookup_cons_of_ne ?_ node members).symm
    rintro rfl
    exact unknown (List.mem_map_of_mem known)

/-- What stands under one key replaced by something that the survey and the intake of that key,
if there is one, take for the same. -/
theorem alike_replaced {key : String} {v w : Node}
    (passes : passMember (intakes.map Intake.field) stranger (key, v) = .ok () ↔
      passMember (intakes.map Intake.field) stranger (key, w) = .ok ())
    (same : ∀ intake ∈ intakes, intake.key = key → Alike intake.decode v w)
    (before after : Members) (ending : Ending) :
    Alike (layout.decoder stranger surplus) (.record (before ++ (key, v) :: after) ending)
      (.record (before ++ (key, w) :: after) ending) := by
  refine made.alike_record surplus ?_ fun _ intake known => ?_
  · simp only [made.survey_ok_iff, List.forall_mem_append, List.forall_mem_cons, passes,
      List.map_append, List.map_cons]
  · by_cases here : intake.key = key
    · cases earlier : before.lookup intake.key with
      | some node =>
          refine Intake.toldAlike_of_lookup ?_
          rw [List.lookup_append, List.lookup_append, earlier]
          rfl
      | none =>
          intro told
          rw [Intake.Told, Intake.Told, List.lookup_append, List.lookup_append, earlier, here,
            List.lookup_cons_self, List.lookup_cons_self]
          exact same intake known here told
    · exact Intake.toldAlike_of_lookup (Pairs.lookup_replaced here before after v w)

theorem alike_listed {items : List Node} (fits : items.length ≤ intakes.length) :
    Alike (layout.decoder stranger surplus)
      (.record ((intakes.map Intake.key).zip items) .closed) (.list items .closed) := by
  intro value
  have enough : items.length ≤ layout.fields.length := by
    rwa [made.fields, List.length_map]
  have passes : ∀ m ∈ (intakes.map Intake.key).zip items,
      (passMember (intakes.map Intake.field) stranger m = .ok () ↔
        passMember (intakes.map Intake.field) ignored m = .ok ()) := by
    rintro ⟨key, node⟩ member
    rw [passMember_congr (List.of_mem_zip member).1 stranger ignored]
  show layout.ofMembers stranger _ .closed = _ ↔ layout.ofItems surplus items .closed = _
  rw [Layout.ofMembers_ok_iff, Layout.ofItems_ok_iff, if_pos enough, made.names,
    made.survey_ok_iff, made.survey_ok_iff, forall₂_congr passes, read_ok_iff]
  exact and_congr_right fun _ => and_congr_right fun _ =>
    made.builds (fun _ _ _ => Iff.rfl) _ _ value

include distinct

theorem alike_default {intake : Intake} (known : intake ∈ intakes) {node : Node}
    {told : intake.value} (default : intake.default = some told)
    (decodes : intake.decode node = .ok told) {members : Members}
    (absent : intake.key ∉ members.map Prod.fst) (ending : Ending) :
    Alike (layout.decoder stranger surplus) (.record members ending)
      (.record ((intake.key, node) :: members) ending) := by
  have once : OnceEach (intakes.map Intake.key) [] (intake.key :: members.map Prod.fst) ↔
      OnceEach (intakes.map Intake.key) [] (members.map Prod.fst) := by
    rw [onceEach_cons_of_mem (List.mem_map_of_mem known), and_iff_right List.not_mem_nil]
    refine ⟨fun once => ⟨once.single, nofun⟩, fun once => ⟨once.single, fun _ _ met => ?_⟩⟩
    rw [List.mem_singleton.1 met]
    exact absent
  refine made.alike_record surplus ?_ fun _ other also => ?_
  · rw [made.survey_ok_iff, made.survey_ok_iff, List.forall_mem_cons, List.map_cons, once,
      passMember_known distinct known, and_iff_right (check_ok_iff.2 ⟨told, decodes⟩)]
  · by_cases same : other.key = intake.key
    · obtain rfl := intake_unique distinct known also same
      intro value
      rw [Intake.Told, Intake.Told, Pairs.lookup_of_absent absent, List.lookup_cons_self]
      dsimp only
      rw [default, decodes, Option.some.injEq, Except.ok.injEq]
    · exact Intake.toldAlike_of_lookup (Pairs.lookup_cons_of_ne same node members).symm

end Layout.MadeOf

/-- A record that is rewritten is read alike. -/
theorem Layout.MadeOf.alike_of_rewrites (made : layout.MadeOf intakes)
    (suits : List.Forall₂ Intake.Suits intakes slots)
    (distinct : (slots.map Slot.key).Nodup) {stranger : Stranger} {foreign : Node → Prop}
    (lets : stranger.Lets foreign) (surplus : Passage) {node other : Node}
    (rewritten : Rewrites slots foreign node other) :
    Alike (layout.decoder stranger surplus) node other := by
  have keys := keys_of_suits suits
  rw [← keys] at distinct
  cases rewritten with
  | permuted perm => exact made.alike_permuted stranger surplus perm _
  | default known default absent =>
      obtain ⟨intake, also, suit⟩ := exists_intake suits known
      obtain ⟨told, implied, decodes⟩ := suit.defaults _ default
      rw [← suit.key] at absent ⊢
      exact made.alike_default distinct stranger surplus also implied decodes absent _
  | stranger unknown fits =>
      rw [← keys] at unknown
      exact made.alike_stranger stranger surplus unknown (lets.foreign _ _ fits) _ _
  | shuffled unknown inside =>
      rw [← keys] at unknown
      refine made.alike_replaced stranger surplus ?_ (fun intake known same => ?_) _ _ _
      · rw [passMember_unknown unknown, passMember_unknown unknown]
        exact lets.shuffled _ _ _ inside
      · exact absurd (same ▸ List.mem_map_of_mem known) unknown
  | listed fits =>
      rw [← keys]
      rw [← suits.length_eq] at fits
      exact made.alike_listed stranger surplus fits
  | value known rewritten =>
      obtain ⟨intake, also, suit⟩ := exists_intake suits known
      have alike := suit.rewrites _ _ rewritten
      rw [← suit.key]
      refine made.alike_replaced stranger surplus ?_ (fun other member same => ?_) _ _ _
      · rw [passMember_known distinct also, passMember_known distinct also]
        exact alike.check
      · obtain rfl := intake_unique distinct also member same
        exact alike

end

end DeferredBinding.Document
