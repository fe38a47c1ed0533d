/-
# Proofs.Manifest.TopLevel -- nothing at the top of a manifest is dropped

What a text shows at its top is a value or, in the line by line dialect, assignments and sections
(`Top`, `Shows`).  It is a record of members or the list that stands for one, or else no manifest
(`Top.Tabular`); it has keys, some of them perhaps unreadable or written twice (`Top.keys`), and
under a key it says a value (`Top.Says`) or a number of elements (`Top.Elements`).

A manifest that is taken out of a text accounts for all of that (`Accounts`): the keys are those
of a manifest, each of them once, and under each key stand just as many elements as the manifest
has, each of which is one of its entries, in this order.  So a text that shows a key that a
manifest does not have, or one twice, or no name, is refused, whatever else it shows
(`nothing_dropped`).

A layout takes its fields out of the members of a record (`Tells`); it remains to say what these
members are, in either dialect (`accounts_json`, `accounts_toml`).
-/
import DeferredBinding.FirstSeen
import DeferredBinding.Proofs.Document.Json.Grammar
import DeferredBinding.Proofs.Document.Toml.Sections
import DeferredBinding.Proofs.Document.Toml.TopLevel
import DeferredBinding.Proofs.Manifest.Respelling

namespace DeferredBinding.Manifest

open Document

set_option autoImplicit false

/-! ## What a text shows -/

/-- The keys of a manifest, in the order in which a list gives their values. -/
def fieldNames : List String :=
  ["name", "property", "configure", "type", "rule"]

/-- What stands at the top of a text. -/
inductive Top where
  | json (value : Json.Value)
  | toml (head : List Toml.Assignment) (parts : List Toml.Section)

/-- The text shows this at its top. -/
inductive Shows (text : String) : Dialect → Top → Prop
  | json {value : Json.Value} (said : Json.tokens text.toList = value.tokens) :
      Shows text .json (.json value)
  | toml {head : List Toml.Assignment} {parts : List Toml.Section}
      (outlined : Toml.outline? text = some (head, parts)) : Shows text .toml (.toml head parts)

namespace Top

/-- A record, or a list of as many values as a manifest has keys at most. -/
inductive Tabular : Top → Prop
  | record {members : List (Option String × Json.Value)} : Tabular (.json (.record members))
  | list {items : List Json.Value} (fits : items.length ≤ fieldNames.length) :
      Tabular (.json (.list items))
  | lines {head : List Toml.Assignment} {parts : List Toml.Section} : Tabular (.toml head parts)

/-- The keys as they are written, where they can be read.  All sections about one key count as
one. -/
def keys : Top → List (Option String)
  | .json (.record members) => members.map Prod.fst
  | .json (.list items) => (fieldNames.zip items).map fun m => some m.1
  | .json _ => []
  | .toml head parts =>
      (head.map Toml.Assignment.first ++ FirstSeen.distinct (parts.map Toml.Section.first)).map some

/-- This value is written under a key. -/
inductive Says : Top → String → Node → Prop
  | member {members : List (Option String × Json.Value)} {key : String} {value : Json.Value}
      (written : (some key, value) ∈ members) : Says (.json (.record members)) key value.node
  | item {items : List Json.Value} {key : String} {value : Json.Value}
      (written : (key, value) ∈ fieldNames.zip items) : Says (.json (.list items)) key value.node
  | assignment {head : List Toml.Assignment} {parts : List Toml.Section} {a : Toml.Assignment}
      {key : String} (written : a ∈ head) (plain : a.path = { key }) :
      Says (.toml head parts) key a.value

theorem Says.mem_keys {top : Top} {key : String} {node : Node} (written : top.Says key node) :
    some key ∈ top.keys := by
  cases written with
  | member inside => exact List.mem_map.2 ⟨_, inside, rfl⟩
  | item inside => exact List.mem_map.2 ⟨_, inside, rfl⟩
  | @assignment head parts a key inside plain =>
      have first : a.first = key := by
        rw [Toml.Assignment.first, plain]
        rfl
      exact List.mem_map_of_mem (List.mem_append_left _ (List.mem_map.2 ⟨a, inside, first⟩))

/-- These elements are written under a key, in this order. -/
inductive Elements (top : Top) (key : String) : List Node → Prop
  | nothing (absent : some key ∉ top.keys) : Elements top key []
  | list {items : List Node} (said : top.Says key (.list items .closed)) : Elements top key items
  | sections {head : List Toml.Assignment} {parts : List Toml.Section}
      {elements : List Toml.Element} {nodes : List Node} (lines : top = .toml head parts)
      (given : elements ≠ [])
      (all : ∀ e ∈ elements, e.Of key)
      (cover : Toml.partsFor key parts = elements.flatMap Toml.Element.sections)
      (made : List.Forall₂ (fun e node => e.node? = some node) elements nodes) :
      Elements top key nodes

/-- The elements under a key are these entries. -/
def Lists {α : Type} (top : Top) (key : String) (decode : Decoder α) (entries : List α) : Prop :=
  ∃ nodes, top.Elements key nodes ∧
    List.Forall₂ (fun node entry => decode node = .ok entry) nodes entries

end Top

/-- The manifest says all that is written at the top, and nothing else. -/
structure Accounts (dialect : Dialect) (top : Top) (m : Manifest) : Prop where
  tabular : top.Tabular
  known : ∀ key ∈ top.keys, ∃ name ∈ fieldNames, key = some name
  once : top.keys.Nodup
  named : top.Says "name" (.text m.name)
  properties : top.Lists "property" (propertyTagged.decoder (room dialect)) m.properties
  directives : top.Lists "configure" (directiveTagged.decoder (room dialect)) m.directives
  types : top.Lists "type" ((typeLayout dialect).decoder skipped (surplus dialect)) m.types
  rules : top.Lists "rule" (ruleTagged.decoder (room dialect)) m.rules

/-! ## What members tell -/

section

variable {α : Type}

/-- A list of entries is told under a key, or it is empty and nothing is told. -/
def TellsList (members : Members) (key : String) (decode : Decoder α) (entries : List α) : Prop :=
  members.lookup key = none ∧ entries = [] ∨
    ∃ items, members.lookup key = some (.list items .closed) ∧
      List.Forall₂ (fun node entry => decode node = .ok entry) items entries

theorem forall₂_of_mapM {decode : Decoder α} {items : List Node} {entries : List α}
    (mapped : items.mapM decode = .ok entries) :
    List.Forall₂ (fun node entry => decode node = .ok entry) items entries := by
  induction items generalizing entries with
  | nil =>
      cases mapped
      exact .nil
  | cons item rest ih =>
      rw [List.mapM_cons] at mapped
      obtain ⟨first, taken, onward⟩ := Attempt.bind_ok_iff.1 mapped
      obtain ⟨others, behind, same⟩ := Attempt.bind_ok_iff.1 onward
      cases same
      exact .cons taken (ih behind)

theorem tellsList_of_withDefault {members : Members} {key : String} {decode : Decoder α}
    {entries : List α}
    (told : Field.withDefault members key (Decoder.list decode) [] = .ok entries) :
    TellsList members key decode entries := by
  unfold Field.withDefault at told
  split at told
  · rename_i node found
    cases node with
    | list items ending =>
        obtain ⟨mapped, rfl⟩ := list_ok_iff.1 told
        exact .inr ⟨items, found, forall₂_of_mapM mapped⟩
    | _ => cases told
  · rename_i absent
    cases told
    exact .inl ⟨absent, rfl⟩

theorem text_of_required {members : Members} {missing : String → Fault} {key value : String}
    (told : Field.required members missing key Decoder.text = .ok value) :
    members.lookup key = some (.text value) := by
  unfold Field.required at told
  split at told
  · rename_i node found
    cases node with
    | text content =>
        cases told
        exact found
    | _ => cases told
  · cases told

end

/-- The members tell a manifest. -/
structure Tells (dialect : Dialect) (members : Members) (m : Manifest) : Prop where
  name : members.lookup "name" = some (.text m.name)
  properties : TellsList members "property" (propertyTagged.decoder (room dialect)) m.properties
  directives : TellsList members "configure" (directiveTagged.decoder (room dialect)) m.directives
  types : TellsList members "type" ((typeLayout dialect).decoder skipped (surplus dialect)) m.types
  rules : TellsList members "rule" (ruleTagged.decoder (room dialect)) m.rules

section

variable {dialect : Dialect} {members : Members} {items : List Node} {ending : Ending}
  {m : Manifest}

theorem tells_of_build {missing : String → Fault}
    (built : (layout dialect).build members missing = .ok m) : Tells dialect members m := by
  obtain ⟨name, named, rest⟩ := Attempt.bind_ok_iff.1 built
  obtain ⟨properties, declared, rest⟩ := Attempt.bind_ok_iff.1 rest
  obtain ⟨directives, directed, rest⟩ := Attempt.bind_ok_iff.1 rest
  obtain ⟨types, typed, rest⟩ := Attempt.bind_ok_iff.1 rest
  obtain ⟨rules, ruled, same⟩ := Attempt.bind_ok_iff.1 rest
  cases same
  exact ⟨text_of_required named, tellsList_of_withDefault declared,
    tellsList_of_withDefault directed, tellsList_of_withDefault typed,
    tellsList_of_withDefault ruled⟩

theorem known_of_passMember {node : Node} {key : String}
    (passes : passMember (layout dialect).fields (refused (layout dialect).names) (key, node) =
      .ok ()) : key ∈ fieldNames := by
  unfold passMember at passes
  split at passes
  · cases passes
  · rename_i field found
    have hit := List.find?_some found
    exact List.mem_map.2 ⟨field, List.mem_of_find?_eq_some found, beq_iff_eq.1 hit⟩

/-- A survey meets no key of a manifest twice. -/
theorem nodup_of_survey {stranger : Stranger}
    (surveyed : survey (layout dialect).fields stranger [] members = .ok ())
    (known : ∀ x ∈ members, x.1 ∈ fieldNames) : (members.map Prod.fst).Nodup := by
  refine List.nodup_iff_count_le_one.2 fun key => ?_
  by_cases member : key ∈ members.map Prod.fst
  · obtain ⟨x, inside, rfl⟩ := List.mem_map.1 member
    exact (survey_ok_iff.1 surveyed).2.single x.1 (known x inside)
  · rw [List.count_eq_zero.2 member]
    exact Nat.zero_le 1

/-- A record that is a manifest. -/
theorem record_of_decoder (read : decoder dialect (.record members ending) = .ok m) :
    ending = .closed ∧ (∀ x ∈ members, x.1 ∈ fieldNames) ∧ (members.map Prod.fst).Nodup ∧
      Tells dialect members m := by
  obtain ⟨surveyed, closed, built⟩ := Layout.ofMembers_ok_iff.1 read
  have known : ∀ x ∈ members, x.1 ∈ fieldNames := fun x member =>
    known_of_passMember ((survey_ok_iff.1 surveyed).1 x member)
  exact ⟨closed, known, nodup_of_survey surveyed known, tells_of_build built⟩

/-- A list that is a manifest. -/
theorem list_of_decoder (read : decoder .json (.list items ending) = .ok m) :
    ending = .closed ∧ items.length ≤ fieldNames.length ∧
      ((fieldNames.zip items).map Prod.fst).Nodup ∧ Tells .json (fieldNames.zip items) m := by
  obtain ⟨surveyed, ends, built⟩ := Layout.ofItems_ok_iff.1 read
  have known : ∀ x ∈ fieldNames.zip items, x.1 ∈ fieldNames := fun _ member =>
    (List.of_mem_zip member).1
  split at ends
  · rename_i fits
    exact ⟨read_ok_iff.1 ends, fits, nodup_of_survey surveyed known, tells_of_build built⟩
  · cases ends

end

/-! ## JSON -/

/-- What is accounted for where the top is made of such members. -/
theorem accounts_of_members {dialect : Dialect} {top : Top} {members : Members} {m : Manifest}
    (tabular : top.Tabular) (keys : top.keys = members.map fun x => some x.1)
    (stated : ∀ key node, (key, node) ∈ members → top.Says key node)
    (known : ∀ x ∈ members, x.1 ∈ fieldNames) (once : (members.map Prod.fst).Nodup)
    (tells : Tells dialect members m) : Accounts dialect top m := by
  have lists : ∀ {α : Type} {key : String} {decode : Decoder α} {entries : List α},
      TellsList members key decode entries → top.Lists key decode entries := by
    intro α key decode entries told
    obtain ⟨absent, rfl⟩ | ⟨items, found, decoded⟩ := told
    · refine ⟨[], .nothing fun there => ?_, .nil⟩
      rw [keys] at there
      obtain ⟨x, member, same⟩ := List.mem_map.1 there
      exact Pairs.absent_of_lookup absent (List.mem_map.2 ⟨x, member, Option.some.inj same⟩)
    · exact ⟨items, .list (stated _ _ (Pairs.mem_of_lookup found)), decoded⟩
  have name := Pairs.mem_of_lookup tells.name
  refine ⟨tabular, fun key there => ?_, ?_, stated _ _ name, lists tells.properties,
    lists tells.directives, lists tells.types, lists tells.rules⟩
  · rw [keys] at there
    obtain ⟨x, member, rfl⟩ := List.mem_map.1 there
    exact ⟨x.1, known x member, rfl⟩
  · have keys : top.keys = (members.map Prod.fst).map some := by
      rw [keys, List.map_map]
      rfl
    rw [keys]
    exact once.map fun _ _ => Option.some.inj

theorem accounts_json {value : Json.Value} {m : Manifest}
    (read : decoder .json value.node = .ok m) : Accounts .json (.json value) m := by
  cases value with
  | record members =>
      -- from an unreadable key on members would be dropped, but then the record does not end well
      obtain ⟨closed, -⟩ := record_of_decoder read
      obtain ⟨-, named, rfl⟩ := Json.readable_of_closed closed
      rw [Json.node_readable] at read
      obtain ⟨-, known, once, tells⟩ := record_of_decoder read
      refine accounts_of_members .record ?_ (fun key node member => ?_) known once tells
      · simp only [Top.keys, Json.readable, List.map_map]
        rfl
      · obtain ⟨x, inside, same⟩ := List.mem_map.1 member
        cases same
        exact .member (List.mem_map.2 ⟨x, inside, rfl⟩)
  | list items =>
      obtain ⟨-, fits, once, tells⟩ := list_of_decoder read
      rw [Json.nodes_eq_map] at fits once tells
      rw [List.length_map] at fits
      have zipped : fieldNames.zip (items.map Json.Value.node) =
          (fieldNames.zip items).map fun x => (x.1, x.2.node) := by
        rw [List.zip_map_right]
        rfl
      rw [zipped] at once tells
      refine accounts_of_members (.list fits) ?_ (fun key node member => ?_) (fun x member => ?_) once
        tells
      · simp only [Top.keys, List.map_map]
        rfl
      · obtain ⟨x, inside, same⟩ := List.mem_map.1 member
        cases same
        exact .item inside
      · obtain ⟨y, inside, rfl⟩ := List.mem_map.1 member
        exact (List.of_mem_zip inside).1
  | null => cases read
  | truth value => cases read
  | number readable => cases readable <;> cases read
  | text content => cases content <;> cases read

/-! ## TOML -/

theorem TellsList.ne_record {α : Type} {members : Members} {key : String} {decode : Decoder α}
    {entries : List α} (told : TellsList members key decode entries) (inner : Members)
    (ending : Ending) : members.lookup key ≠ some (.record inner ending) := by
  intro found
  obtain ⟨absent, -⟩ | ⟨items, listed, -⟩ := told
  · cases absent.symm.trans found
  · cases listed.symm.trans found

/-- No key of a manifest stands for a record. -/
theorem Tells.ne_record {dialect : Dialect} {members : Members} {m : Manifest}
    (tells : Tells dialect members m) {key : String} (known : key ∈ fieldNames) (inner : Members)
    (ending : Ending) : members.lookup key ≠ some (.record inner ending) := by
  simp only [fieldNames, List.mem_cons, List.not_mem_nil, or_false] at known
  obtain rfl | rfl | rfl | rfl | rfl := known
  · rw [tells.name]
    exact nofun
  · exact tells.properties.ne_record inner ending
  · exact tells.directives.ne_record inner ending
  · exact tells.types.ne_record inner ending
  · exact tells.rules.ne_record inner ending

section

variable {head : List Toml.Assignment} {parts : List Toml.Section} {entries : Toml.Entries}
  {key : String}

theorem mem_keys_lines : some key ∈ (Top.toml head parts).keys ↔
    key ∈ head.map Toml.Assignment.first ∨ key ∈ parts.map Toml.Section.first := by
  simp only [Top.keys, List.mem_map_of_injective (fun _ _ => Option.some.inj), List.mem_append,
    FirstSeen.mem_distinct]

/-- Keys that stand for no table are written once. -/
theorem nodup_keys_lines (reached : Toml.Reached head parts entries)
    (noTable : ∀ key origin inner, entries.lookup key ≠ some (.table origin inner)) :
    (Top.toml head parts).keys.Nodup := by
  have apart := fun key => (reached key).apart (noTable key)
  refine List.Nodup.map (fun _ _ => Option.some.inj) (List.nodup_append.2 ⟨?_, ?_, ?_⟩)
  · refine List.nodup_iff_count_le_one.2 fun key => ?_
    rw [List.count, List.countP_map, List.countP_eq_length_filter]
    exact (apart key).1
  · exact FirstSeen.nodup_distinct _
  · rintro key inHead _ inParts rfl
    obtain noneGiven | noPart := (apart key).2
    · exact Toml.givenFor_eq_nil_iff.1 noneGiven inHead
    · exact Toml.partsFor_eq_nil_iff.1 noPart (FirstSeen.mem_distinct.1 inParts)

/-- A value that a key stands for is written under it. -/
theorem says_of_reached (reached : Toml.Reached head parts entries) {node : Node}
    (found : entries.lookup key = some (.value node)) : (Top.toml head parts).Says key node := by
  have under := reached key
  rw [found] at under
  generalize given : Toml.givenFor key head = mine at under
  generalize Toml.partsFor key parts = about at under
  cases under with
  | @value a plain =>
      have here : a ∈ Toml.givenFor key head := given ▸ List.mem_singleton_self a
      exact .assignment (List.mem_filter.1 here).1 plain

/-- The elements of a list that a key stands for are written under it. -/
theorem elements_of_reached (reached : Toml.Reached head parts entries) {items : List Node}
    (listed : (Toml.members entries).lookup key = some (.list items .closed)) :
    (Top.toml head parts).Elements key items := by
  rw [Toml.lookup_members] at listed
  obtain ⟨item, found, same⟩ := Option.map_eq_some_iff.1 listed
  cases item with
  | value node =>
      cases same
      exact .list (says_of_reached reached found)
  | table origin inner => cases same
  | tables complete open_ =>
      cases same
      have under := reached key
      rw [found] at under
      generalize Toml.givenFor key head = mine at under
      generalize cover : Toml.partsFor key parts = about at under
      cases under with
      | @tables done last _ _ all whole growing =>
          have closed : last.node? = some (.record (Toml.members open_) .closed) := by
            rw [Toml.Element.node?_eq, growing]
            rfl
          exact .sections rfl (by simp) all cover (List.rel_append whole (.cons closed .nil))

/-- Where nothing stands under a key, it is not written. -/
theorem absent_of_reached (reached : Toml.Reached head parts entries)
    (absent : entries.lookup key = none) : some key ∉ (Top.toml head parts).keys := by
  have under := reached key
  rw [absent] at under
  obtain ⟨noneGiven, noPart⟩ := under.eq_nil
  intro there
  obtain inHead | inParts := mem_keys_lines.1 there
  · exact Toml.givenFor_eq_nil_iff.1 noneGiven inHead
  · exact Toml.partsFor_eq_nil_iff.1 noPart inParts

theorem lists_of_reached {α : Type} {decode : Decoder α} {told : List α}
    (reached : Toml.Reached head parts entries)
    (tells : TellsList (Toml.members entries) key decode told) :
    (Top.toml head parts).Lists key decode told := by
  obtain ⟨absent, rfl⟩ | ⟨items, listed, decoded⟩ := tells
  · rw [Toml.lookup_members, Option.map_eq_none_iff] at absent
    exact ⟨[], .nothing (absent_of_reached reached absent), .nil⟩
  · exact ⟨items, elements_of_reached reached listed, decoded⟩

end

theorem accounts_toml {head : List Toml.Assignment} {parts : List Toml.Section} {root : Node}
    {m : Manifest} (made : Toml.document head parts = some root)
    (read : decoder .toml root = .ok m) : Accounts .toml (.toml head parts) m := by
  obtain ⟨entries, rfl, reached⟩ := Toml.reached_document made
  obtain ⟨-, known, -, tells⟩ := record_of_decoder read
  have noTable : ∀ key origin inner, entries.lookup key ≠ some (.table origin inner) := by
    intro key origin inner there
    have found : (Toml.members entries).lookup key =
        some (.record (Toml.members inner) .closed) := by
      rw [Toml.lookup_members, there]
      rfl
    exact tells.ne_record (known _ (Pairs.mem_of_lookup found)) _ _ found
  have found : ∀ key, some key ∈ (Top.toml head parts).keys → key ∈ fieldNames := by
    intro key there
    cases here : entries.lookup key with
    | none => exact absurd there (absent_of_reached reached here)
    | some item =>
        have member : (Toml.members entries).lookup key = some item.toNode := by
          rw [Toml.lookup_members, here]
          rfl
        exact known _ (Pairs.mem_of_lookup member)
  have named : entries.lookup "name" = some (.value (.text m.name)) := by
    have name := tells.name
    rw [Toml.lookup_members] at name
    obtain ⟨item, here, same⟩ := Option.map_eq_some_iff.1 name
    rw [here]
    cases item with
    | value node =>
        cases same
        rfl
    | table origin inner => cases same
    | tables complete last => cases same
  refine ⟨.lines, fun key there => ?_, nodup_keys_lines reached noTable,
    says_of_reached reached named, lists_of_reached reached tells.properties,
    lists_of_reached reached tells.directives, lists_of_reached reached tells.types,
    lists_of_reached reached tells.rules⟩
  obtain ⟨name, -, rfl⟩ := List.mem_map.1 there
  exact ⟨name, found name there, rfl⟩

/-! ## Texts -/

theorem accounts_of_shows {dialect : Dialect} {text : String} {m : Manifest} {top : Top}
    (accepted : ofText dialect text = .ok m) (shows : Shows text dialect top) :
    Accounts dialect top m := by
  cases shows with
  | json said =>
      obtain ⟨read, -⟩ := ofText_ok_iff.1 accepted
      rw [Json.read_of_tokens said] at read
      exact accounts_json read
  | toml outlined =>
      rw [ofText, decode, Toml.read_eq, outlined, Option.bind_some] at accepted
      split at accepted
      · cases accepted
      · rename_i root made
        exact accounts_toml made accepted

/-- A text that is a manifest shows something at its top. -/
theorem exists_shows {dialect : Dialect} {text : String} {m : Manifest}
    (accepted : ofText dialect text = .ok m) : ∃ top, Shows text dialect top := by
  cases dialect with
  | json =>
      obtain ⟨read, ends⟩ := ofText_ok_iff.1 accepted
      have closed : ¬ Json.Unclosed (Json.read text).1 := by
        intro unclosed
        generalize (Json.read text).1 = root at unclosed read
        cases unclosed with
        | fault => cases read
        | list => cases (list_of_decoder read).1
        | record => cases (record_of_decoder read).1
      obtain ⟨value, said, -⟩ := Json.exists_value (Prod.ext rfl ends) closed
      exact ⟨_, .json said⟩
  | toml =>
      rw [ofText, decode, Toml.read_eq] at accepted
      cases outlined : Toml.outline? text with
      | none =>
          rw [outlined] at accepted
          cases accepted
      | some outline => exact ⟨_, .toml outlined⟩

/-- **Nothing at the top of a text is dropped.**  A text out of which a manifest is taken shows
something at its top, and the manifest accounts for all of it.  So a text that shows a key there
that a manifest does not have, or that cannot be read, or one key twice, or no name, is refused. -/
theorem nothing_dropped (dialect : Dialect) (text : String) :
    (∀ m, ofText dialect text = .ok m →
      (∃ top, Shows text dialect top) ∧ ∀ top, Shows text dialect top → Accounts dialect top m) ∧
    ∀ top, Shows text dialect top →
      (∃ key ∈ top.keys, ∀ name ∈ fieldNames, key ≠ some name) ∨ ¬ top.keys.Nodup ∨
        some "name" ∉ top.keys →
      ∃ fault, ofText dialect text = .error fault := by
  refine ⟨fun m accepted => ⟨exists_shows accepted, fun _ => accounts_of_shows accepted⟩,
    fun top shows faulty => ?_⟩
  cases ends : ofText dialect text with
  | error fault => exact ⟨fault, rfl⟩
  | ok m =>
      have accounts := accounts_of_shows ends shows
      obtain ⟨key, there, unknown⟩ | twice | nameless := faulty
      · obtain ⟨name, known, same⟩ := accounts.known key there
        exact absurd same (unknown name known)
      · exact absurd accounts.once twice
      · exact absurd accounts.named.mem_keys nameless

/-! ## Rules around a type -/

namespace Example

/-- Two rules, between which a type stands. -/
def interleaved : String :=
  "name = \"m\"\n[[rule]]\nkind = \"fail\"\n[[type]]\nname = \"A\"\n" ++
    "[[rule]]\nkind = \"replace-with\"\nclass = \"A\"\n"

/-- A directive that stands under its own name instead of among the others. -/
def grouped : String :=
  "\x7b\"clear-configuration-property\":[],\"name\":\"m\"\x7d"

def groupedValue : Json.Value :=
  .record [(some "clear-configuration-property", .list []), (some "name", .text (some "m"))]

theorem interleaved_accounted :
    ofText .toml interleaved = .ok
        { name := "m", types := [{ name := "A" }]
          rules := [{ action := .fail }, { action := .replaceWith "A" }] } ∧
      (∃ top, Shows interleaved .toml top ∧ Accounts .toml top
        { name := "m", types := [{ name := "A" }]
          rules := [{ action := .fail }, { action := .replaceWith "A" }] }) ∧
      ∃ fault, ofText .json grouped = .error fault := by
  have accepted : ofText .toml interleaved = .ok
      { name := "m", types := [{ name := "A" }]
        rules := [{ action := .fail }, { action := .replaceWith "A" }] } := by
    decide +kernel
  obtain ⟨⟨top, shows⟩, accounts⟩ := (nothing_dropped .toml interleaved).1 _ accepted
  refine ⟨accepted, ⟨top, shows, accounts top shows⟩, ?_⟩
  have said : Json.tokens grouped.toList = groupedValue.tokens := by decide +kernel
  exact (nothing_dropped .json grouped).2 (.json groupedValue) (.json said)
    (.inl ⟨some "clear-configuration-property", List.mem_cons_self, by decide⟩)

end Example

end DeferredBinding.Manifest
