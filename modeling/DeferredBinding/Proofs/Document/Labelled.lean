/-
# Proofs.Document.Labelled -- tagged records as records that say their tag

A tagged record that names a variant is read like a record of that variant's layout with one
field more, its tag (`Layout.labelled`), provided that it can be taken in
(`Tagged.decoder_ok_iff`).  So what holds of records that are rewritten holds of tagged ones as
well (`Tagged.alike_of_rewrites`).
-/
import DeferredBinding.Proofs.Document.TakenIn

namespace DeferredBinding.Document

set_option autoImplicit false

variable {α : Type}

def exactly (name : String) : Decoder Unit := fun node =>
  (Decoder.text node).bind fun value => if value = name then .ok () else .error .malformed

theorem exactly_ok_iff {name : String} {node : Node} :
    exactly name node = .ok () ↔ node = .text name := by
  cases node with
  | text value =>
      rw [Node.text.injEq]
      show (if value = name then Except.ok () else Except.error Fault.malformed) = .ok () ↔ _
      split
      · rename_i same
        exact iff_of_true rfl same
      · rename_i other
        exact iff_of_false nofun other
  | _ => exact iff_of_false nofun nofun

/-- The layout with a tag among its fields. -/
def Layout.labelled (layout : Layout α) (tag name : String) : Layout α where
  fields := .of tag (exactly name) :: layout.fields
  build members missing := do
    Field.required members missing tag (exactly name)
    layout.build (members.filter fun m => m.1 != tag) missing

def Intake.label (tag name : String) : Intake :=
  .required tag (exactly name)

/-- Without its tag a record tells the other fields the same. -/
theorem toldAlike_filter {intake : Intake} {tag : String} (other : intake.key ≠ tag)
    (members : Members) :
    intake.ToldAlike (members.filter fun m => m.1 != tag) members :=
  Intake.toldAlike_of_lookup (by rw [Pairs.lookup_filter_ne, if_neg other])

theorem Layout.MadeOf.labelled {layout : Layout α} {intakes : List Intake}
    (made : layout.MadeOf intakes) {tag : String} (apart : tag ∉ intakes.map Intake.key)
    (name : String) : (layout.labelled tag name).MadeOf (.label tag name :: intakes) where
  fields := congrArg (List.cons _) made.fields
  builds := by
    intro members others told missing absent value
    obtain ⟨label, rest⟩ := List.forall_mem_cons.1 told
    have inside : ∀ intake ∈ intakes, intake.ToldAlike (members.filter fun m => m.1 != tag)
        (others.filter fun m => m.1 != tag) := fun intake known x =>
      have other : intake.key ≠ tag := fun same => apart (same ▸ List.mem_map_of_mem known)
      (toldAlike_filter other members x).trans
        ((rest intake known x).trans (toldAlike_filter other others x).symm)
    refine Attempt.unit_bind_ok_iff.trans (Iff.trans ?_ Attempt.unit_bind_ok_iff.symm)
    rw [required_ok_iff, required_ok_iff]
    exact and_congr (label ()) (made.builds inside missing absent value)

namespace Tagged

variable {tagged : Tagged α} {layout : Layout α} {name : String} {members : Members}

theorem takeIn_some_iff {result : Option (Layout α)} :
    tagged.takeIn none (some layout) members = .ok result ↔
      result = some layout ∧ tagged.tag ∉ members.map Prod.fst ∧
        ∀ m ∈ members, m.2.Takeable := by
  induction members with
  | nil =>
      rw [takeIn, Except.ok.injEq, eq_comm]
      exact (and_iff_left ⟨List.not_mem_nil, List.forall_mem_nil _⟩).symm
  | cons m rest ih =>
      obtain ⟨key, node⟩ := m
      rw [takeIn, List.map_cons, List.mem_cons, not_or, List.forall_mem_cons]
      by_cases same : key = tagged.tag
      · rw [if_pos same]
        exact iff_of_false nofun fun both => both.2.1.1 same.symm
      · rw [if_neg same]
        refine Attempt.unit_bind_ok_iff.trans ?_
        rw [ih]
        have other : ¬ tagged.tag = key := fun eq => same eq.symm
        rw [and_iff_right other, and_left_comm, and_left_comm (b := _ ∉ _)]
        rfl

theorem takeIn_none_iff (named : (tagged.tag, .text name) ∈ members)
    (finds : tagged.variants.lookup name = some layout) {result : Option (Layout α)} :
    tagged.takeIn none none members = .ok result ↔
      result = some layout ∧ (members.map Prod.fst).count tagged.tag = 1 ∧
        ∀ m ∈ members, m.2.Takeable := by
  have variant : tagged.variant (.text name) = .ok layout := by
    show choose tagged.variants name = _
    rw [choose, finds]
  induction members with
  | nil => cases named
  | cons m rest ih =>
      obtain ⟨key, node⟩ := m
      rw [takeIn, List.map_cons, List.forall_mem_cons]
      by_cases same : key = tagged.tag
      · subst same
        have absent : (rest.map Prod.fst).count tagged.tag + 1 = 1 ↔
            tagged.tag ∉ rest.map Prod.fst := by
          rw [Nat.add_eq_right, List.count_eq_zero]
        rw [if_pos rfl, List.count_cons_self, absent]
        refine Attempt.bind_ok_iff.trans ?_
        obtain first | behind := List.mem_cons.1 named
        · cases first
          rw [variant, and_iff_right (Node.takeable_text name),
            ← takeIn_some_iff]
          exact ⟨fun ⟨_, same, taken⟩ => Except.ok.inj same ▸ taken, fun taken => ⟨_, rfl, taken⟩⟩
        · have there : tagged.tag ∈ rest.map Prod.fst := List.mem_map_of_mem behind
          refine iff_of_false ?_ fun both => both.2.1 there
          rintro ⟨other, _, taken⟩
          exact (takeIn_some_iff.1 taken).2.1 there
      · have behind : (tagged.tag, .text name) ∈ rest := by
          obtain first | behind := List.mem_cons.1 named
          · exact absurd (congrArg Prod.fst first).symm same
          · exact behind
        rw [if_neg same, List.count_cons_of_ne same]
        refine Attempt.unit_bind_ok_iff.trans ((and_congr_right fun _ => ih behind).trans ?_)
        rw [and_left_comm, and_left_comm (b := _ = 1)]
        rfl

end Tagged

/-! ## A tag among the fields -/

section

variable {layout : Layout α} {tag name : String} {members : Members}

theorem onceEach_nil_iff {names keys : List String} :
    OnceEach names [] keys ↔ ∀ name ∈ names, keys.count name ≤ 1 :=
  ⟨OnceEach.single, fun single => ⟨single, fun _ _ met => absurd met List.not_mem_nil⟩⟩

theorem count_untagged {key : String} (other : key ≠ tag) (members : Members) :
    ((members.filter fun m => m.1 != tag).map Prod.fst).count key =
      (members.map Prod.fst).count key := by
  have keys : (members.filter fun m => m.1 != tag).map Prod.fst =
      (members.map Prod.fst).filter (· != tag) := by
    rw [List.filter_map]
    rfl
  rw [keys]
  exact List.count_filter (bne_iff_ne.2 other)

theorem passMember_tag (node : Node) : passMember (layout.labelled tag name).fields ignored
    (tag, node) = (exactly name).check node := by
  rw [passMember, Layout.labelled, List.find?_cons_of_pos]
  · rfl
  · exact beq_self_eq_true tag

theorem passMember_untagged {m : String × Node} (other : m.1 ≠ tag) :
    passMember (layout.labelled tag name).fields ignored m =
      passMember layout.fields ignored m := by
  rw [passMember, Layout.labelled, List.find?_cons_of_neg, passMember]
  exact fun same => other (beq_iff_eq.1 same).symm

/-- A record that says its tag passes the survey with the tag among the fields where the tag is
not repeated and the others pass. -/
theorem survey_labelled_iff (apart : tag ∉ layout.names) (named : (tag, .text name) ∈ members) :
    survey (layout.labelled tag name).fields ignored [] members = .ok () ↔
      (members.map Prod.fst).count tag = 1 ∧
        survey layout.fields ignored [] (members.filter fun m => m.1 != tag) = .ok () := by
  have there : 0 < (members.map Prod.fst).count tag :=
    List.count_pos_iff.2 (List.mem_map_of_mem named)
  have different : ∀ key ∈ layout.names, key ≠ tag := fun key known same => apart (same ▸ known)
  rw [survey_ok_iff, survey_ok_iff, onceEach_nil_iff, onceEach_nil_iff]
  show (_ ∧ ∀ key ∈ tag :: layout.names, _) ↔ _ ∧ _ ∧ ∀ key ∈ layout.names, _
  rw [List.forall_mem_cons]
  constructor
  · rintro ⟨passes, single, once⟩
    refine ⟨by omega, fun m kept => ?_, fun key known => ?_⟩
    · obtain ⟨member, other⟩ := List.mem_filter.1 kept
      rw [← passMember_untagged (bne_iff_ne.1 other)]
      exact passes m member
    · rw [count_untagged (different key known)]
      exact once key known
  · rintro ⟨single, passes, once⟩
    refine ⟨fun m member => ?_, Nat.le_of_eq single, fun key known => ?_⟩
    · by_cases same : m.1 = tag
      · obtain ⟨key, node⟩ := m
        obtain rfl : key = tag := same
        have found := Pairs.lookup_of_single (Nat.le_of_eq single) member
        rw [Pairs.lookup_of_single (Nat.le_of_eq single) named] at found
        rw [passMember_tag, ← Option.some.inj found, check_ok_iff]
        exact ⟨(), exactly_ok_iff.2 rfl⟩
      · rw [passMember_untagged same]
        exact passes m (List.mem_filter.2 ⟨member, bne_iff_ne.2 same⟩)
    · rw [← count_untagged (different key known)]
      exact once key known

/-- A list that begins with a tag gives, without it, the values of the fields. -/
theorem filter_zip (apart : tag ∉ layout.names) {label : Node} {rest : List Node} :
    ((tag, label) :: layout.names.zip rest).filter (fun m => m.1 != tag) =
      layout.names.zip rest := by
  rw [List.filter_cons_of_neg (by rw [bne_self_eq_false]; exact Bool.false_ne_true),
    List.filter_eq_self]
  exact fun m member => bne_iff_ne.2 fun same => apart (same ▸ (List.of_mem_zip member).1)

theorem count_zip (apart : tag ∉ layout.names) (label : Node) (rest : List Node) :
    (((tag, label) :: layout.names.zip rest).map Prod.fst).count tag = 1 := by
  rw [List.map_cons, List.count_cons_self, Nat.add_eq_right, List.count_eq_zero]
  intro there
  obtain ⟨m, member, same⟩ := List.mem_map.1 there
  exact apart (same ▸ (List.of_mem_zip member).1)

/-- What is built with the tag among the fields is built without it. -/
theorem labelled_ok_iff (apart : tag ∉ layout.names) (named : (tag, .text name) ∈ members)
    (missing : String → Fault) (value : α) :
    (survey (layout.labelled tag name).fields ignored [] members = .ok () ∧
        (layout.labelled tag name).build members missing = .ok value) ↔
      (members.map Prod.fst).count tag = 1 ∧
        survey layout.fields ignored [] (members.filter fun m => m.1 != tag) = .ok () ∧
        layout.build (members.filter fun m => m.1 != tag) missing = .ok value := by
  rw [survey_labelled_iff apart named, and_assoc]
  refine and_congr_right fun single => and_congr_right fun _ =>
    Attempt.unit_bind_ok_iff.trans (and_iff_right ?_)
  rw [Field.required, show members.lookup tag = some (.text name) from
    Pairs.lookup_of_single (Nat.le_of_eq single) named]
  exact exactly_ok_iff.2 rfl

end

namespace Tagged

variable {tagged : Tagged α} {layout : Layout α} {name : String}

theorem ofMembers_ok_iff (finds : tagged.variants.lookup name = some layout)
    (apart : tagged.tag ∉ layout.names) {members : Members}
    (named : (tagged.tag, .text name) ∈ members) {ending : Ending} {value : α} :
    tagged.ofMembers none members ending = .ok value ↔
      (Node.record members ending).Takeable ∧
        (layout.labelled tagged.tag name).ofMembers ignored members ending = .ok value := by
  constructor
  · intro read
    obtain ⟨found, taken, onward⟩ := Attempt.bind_ok_iff.1 read
    obtain ⟨rfl, single, all⟩ := (takeIn_none_iff named finds).1 taken
    obtain ⟨ended, built⟩ := Attempt.unit_bind_ok_iff.1 onward
    obtain ⟨passed, -, builds⟩ := Layout.ofMembers_ok_iff.1 built
    have closed := read_ok_iff.1 ended
    obtain ⟨surveyed, labelled⟩ :=
      (labelled_ok_iff apart named _ value).2 ⟨single, passed, builds⟩
    exact ⟨(hereditary_takeable.record _ _).2 ⟨closed, all⟩,
      Layout.ofMembers_ok_iff.2 ⟨surveyed, closed, labelled⟩⟩
  · rintro ⟨takeable, read⟩
    obtain ⟨closed, all⟩ := (hereditary_takeable.record _ _).1 takeable
    obtain ⟨surveyed, -, labelled⟩ := Layout.ofMembers_ok_iff.1 read
    obtain ⟨single, passed, builds⟩ :=
      (labelled_ok_iff apart named _ value).1 ⟨surveyed, labelled⟩
    have taken := (takeIn_none_iff named finds).2 ⟨rfl, single, all⟩
    rw [Tagged.ofMembers, taken, closed]
    exact Layout.ofMembers_ok_iff.2 ⟨passed, rfl, builds⟩

theorem ofItems_ok_iff (finds : tagged.variants.lookup name = some layout)
    (apart : tagged.tag ∉ layout.names) {rest : List Node} {ending : Ending} {value : α} :
    tagged.ofItems none (.text name :: rest) ending = .ok value ↔
      (Node.list (.text name :: rest) ending).Takeable ∧
        (layout.labelled tagged.tag name).ofItems (.error .invalidLength) (.text name :: rest)
          ending = .ok value := by
  have variant : tagged.variant (.text name) = .ok layout := by
    show choose tagged.variants name = _
    rw [choose, finds]
  have unfolded : tagged.ofItems none (.text name :: rest) ending = .ok value ↔
      Node.bufferList none rest ending = .ok () ∧
        layout.ofItems (.error .invalidLength) rest .closed = .ok value := by
    rw [Tagged.ofItems, variant]
    exact Attempt.unit_bind_ok_iff
  rw [unfolded, hereditary_takeable.list, List.forall_mem_cons, bufferList_ok_iff]
  by_cases fits : rest.length ≤ layout.fields.length
  · have named : (tagged.tag, .text name) ∈ (tagged.tag, .text name) :: layout.names.zip rest :=
      List.mem_cons_self
    have core := labelled_ok_iff apart named (fun _ => .invalidLength) value
    rw [filter_zip apart, and_iff_right (count_zip apart _ rest)] at core
    have enough : (Node.text name :: rest).length ≤
        (layout.labelled tagged.tag name).fields.length := Nat.succ_le_succ fits
    have whole : (layout.labelled tagged.tag name).names.zip (Node.text name :: rest) =
        (tagged.tag, .text name) :: layout.names.zip rest := rfl
    rw [Layout.ofItems_ok_iff, Layout.ofItems_ok_iff, if_pos fits, if_pos enough, whole]
    constructor
    · rintro ⟨⟨closed, all⟩, passed, -, builds⟩
      obtain ⟨surveyed, labelled⟩ := core.2 ⟨passed, builds⟩
      exact ⟨⟨closed, rfl, all⟩, surveyed, read_ok_iff.2 closed, labelled⟩
    · rintro ⟨⟨closed, -, all⟩, surveyed, -, labelled⟩
      obtain ⟨passed, builds⟩ := core.1 ⟨surveyed, labelled⟩
      exact ⟨⟨closed, all⟩, passed, rfl, builds⟩
  · have beyond : ¬ (Node.text name :: rest).length ≤
        (layout.labelled tagged.tag name).fields.length :=
      fun le => fits (Nat.le_of_succ_le_succ le)
    rw [Layout.ofItems_ok_iff, Layout.ofItems_ok_iff, if_neg fits, if_neg beyond]
    exact iff_of_false (fun ⟨_, _, refused, _⟩ => nomatch refused)
      fun ⟨_, _, refused, _⟩ => nomatch refused

/-- A tagged record that names a variant is read like a record of the variant's layout with the
tag among its fields, if it can be taken in. -/
theorem decoder_ok_iff (finds : tagged.variants.lookup name = some layout)
    (apart : tagged.tag ∉ layout.names) {node : Node} (named : Names tagged.tag name node)
    {value : α} : tagged.decoder none node = .ok value ↔
      node.Takeable ∧ (layout.labelled tagged.tag name).decoder ignored (.error .invalidLength)
        node = .ok value := by
  cases node with
  | record members ending => exact ofMembers_ok_iff finds apart named
  | list items ending =>
      cases items with
      | nil => cases named
      | cons first rest =>
          obtain rfl : first = .text name := named
          exact ofItems_ok_iff finds apart
  | _ => cases named

/-- The variant of a name is read by the intakes, which suit the fields that are shown for it;
what is said in them stays takeable. -/
structure Reads (tagged : Tagged α) (name : String) (slots : List Slot) (layout : Layout α)
    (intakes : List Intake) : Prop where
  finds : tagged.variants.lookup name = some layout
  made : layout.MadeOf intakes
  suits : List.Forall₂ Intake.Suits intakes slots
  distinct : (tagged.tag :: slots.map Slot.key).Nodup
  defaults : ∀ slot ∈ slots, ∀ node ∈ slot.defaults, node.Takeable
  values : ∀ slot ∈ slots, ∀ v w, slot.rewrites v w → (v.Takeable ↔ w.Takeable)

theorem lets_ignored : Stranger.Lets ignored Node.Takeable where
  foreign _ _ _ := rfl
  shuffled _ _ _ _ := Iff.rfl

theorem suits_label (tag name : String) : (Intake.label tag name).Suits { key := tag } where
  key := rfl
  defaults _ member := absurd member List.not_mem_nil
  rewrites _ _ rewritten := rewritten.elim

/-- A tagged record that is rewritten is read alike. -/
theorem alike_of_rewrites (tagged : Tagged α) {variants : List (String × List Slot)}
    (reads : ∀ variant ∈ variants, ∃ layout intakes,
      tagged.Reads variant.1 variant.2 layout intakes)
    {node other : Node} (rewritten : TaggedRewrites tagged.tag variants Node.Takeable node other) :
    Alike (tagged.decoder none) node other := by
  obtain @⟨name, slots, _, _, variant, named, still, step⟩ := rewritten
  obtain ⟨layout, intakes, reads⟩ := reads _ variant
  have apart : tagged.tag ∉ layout.names := by
    rw [reads.made.names, keys_of_suits reads.suits]
    exact (List.nodup_cons.1 reads.distinct).1
  have takeable : node.Takeable ↔ other.Takeable := by
    refine hereditary_takeable.rewrites ?_ ?_ (fun _ fits => fits) step
    · exact List.forall_mem_cons.2 ⟨List.forall_mem_nil _, reads.defaults⟩
    · exact List.forall_mem_cons.2 ⟨fun _ _ rewritten => rewritten.elim, reads.values⟩
  have made := reads.made.labelled (by rwa [← reads.made.names]) name
  have alike := made.alike_of_rewrites (.cons (suits_label tagged.tag name) reads.suits)
    reads.distinct lets_ignored (.error .invalidLength) step
  intro value
  rw [decoder_ok_iff reads.finds apart named, decoder_ok_iff reads.finds apart still, takeable,
    alike value]

end Tagged

end DeferredBinding.Document
