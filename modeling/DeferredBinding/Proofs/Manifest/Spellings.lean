/-
# Proofs.Manifest.Spellings -- one manifest in two spellings

A manifest is spelled in TOML as its name and a section for each of its entries, and in JSON as
one record.  Of either spelling much is left open: in which order the members of a record
stand, how texts are escaped, what stands between the tokens, whether what equals a default is
said at all, and how the sections of different kinds follow each other (`SpelledAs`).

The sections make up the same record that the other spelling writes out (`writes_of_comprises`),
so that one decoder takes the manifest out of both.  Every manifest whose brackets are not too
many for a dialect can be spelled in it (`exists_spelledAs`) and is read back from every text in
which it is spelled (`ofText_of_spelledAs`).  So texts of both kinds make the same module
(`spellings_agree`).
-/
import DeferredBinding.Module.Load
import DeferredBinding.Proofs.Document.Toml.Sections
import DeferredBinding.Proofs.Manifest.Nesting
import DeferredBinding.Proofs.Manifest.RoundTrip

namespace DeferredBinding.Manifest

open Document

set_option autoImplicit false

/-! ## Sections -/

/-- The sections under a key say what entries have to say, each of them one, in order. -/
def WritesParts {α : Type} (clauses : α → List Clause) (key : String) (entries : List α)
    (parts : List Toml.Part) : Prop :=
  List.Forall₂ (fun entry (part : Toml.Part) => States (clauses entry) part.2) entries
    (parts.filter fun part => part.1 == key)

/-- The keys of the lists of entries. -/
def entryKeys : List String :=
  ["property", "configure", "type", "rule"]

/-- The sections of a manifest. -/
structure Parts (manifest : Manifest) (parts : List Toml.Part) : Prop where
  known : ∀ part ∈ parts, part.1 ∈ entryKeys
  properties : WritesParts PropertyEntry.clauses "property" manifest.properties parts
  directives : WritesParts Directive.clauses "configure" manifest.directives parts
  types : WritesParts TypeEntry.clauses "type" manifest.types parts
  rules : WritesParts RuleEntry.clauses "rule" manifest.rules parts

/-- What stands before the sections of a manifest. -/
def head (manifest : Manifest) : Members :=
  [("name", .text manifest.name)]

/-- A text spells a manifest. -/
def SpelledAs (manifest : Manifest) (text : String) : Dialect → Prop
  | .json => ∃ root, manifest.Writes root ∧ Json.Written root text
  | .toml => ∃ parts, manifest.Parts parts ∧ Toml.Written manifest.head parts text

section

variable {α : Type} {clauses : α → List Clause} {key : String} {entries : List α}
  {parts : List Toml.Part} {manifest : Manifest}

theorem apart_of_entryKeys (manifest : Manifest) (entry : key ∈ entryKeys) :
    key ∉ manifest.head.map Prod.fst := by
  have all : ∀ key ∈ entryKeys, key ∉ ["name"] := by decide
  exact all key entry

theorem states_of_mem (written : WritesParts clauses key entries parts) {part : Toml.Part}
    (member : part ∈ parts) (same : part.1 = key) :
    ∃ entry ∈ entries, States (clauses entry) part.2 := by
  have there : part ∈ parts.filter fun part => part.1 == key :=
    List.mem_filter.2 ⟨member, beq_iff_eq.2 same⟩
  unfold WritesParts at written
  generalize (parts.filter fun part => part.1 == key) = chosen at written there
  induction written with
  | nil => cases there
  | cons states _ ih =>
      obtain rfl | behind := List.mem_cons.1 there
      · exact ⟨_, List.mem_cons_self, states⟩
      · obtain ⟨entry, demanded, found⟩ := ih behind
        exact ⟨entry, List.mem_cons_of_mem _ demanded, found⟩

/-- A section gives each key once, and values that keep within the brackets of the manifest. -/
theorem Parts.keeps (written : manifest.Parts parts) {part : Toml.Part} (member : part ∈ parts) :
    (part.2.map Prod.fst).Nodup ∧ ∀ m ∈ part.2, m.2.Within (some manifest.nesting) := by
  have some_ := one_le_nesting manifest
  have known := written.known part member
  simp only [entryKeys, List.mem_cons, List.not_mem_nil, or_false] at known
  obtain same | same | same | same := known
  · obtain ⟨entry, -, states⟩ := states_of_mem written.properties member same
    exact ⟨states.distinct, within_of_states states (keeps_property some_ entry)⟩
  · obtain ⟨directive, -, states⟩ := states_of_mem written.directives member same
    exact ⟨states.distinct, within_of_states states (keeps_directive some_ directive)⟩
  · obtain ⟨entry, -, states⟩ := states_of_mem written.types member same
    exact ⟨states.distinct, within_of_states states (keeps_type some_ entry)⟩
  · obtain ⟨entry, there, states⟩ := states_of_mem written.rules member same
    exact ⟨states.distinct, within_of_states states (keeps_rule entry (nesting_rule_le there))⟩

/-- Where there is room for its brackets, the sections of a manifest can be read. -/
theorem Parts.sound (written : manifest.Parts parts) (enough : manifest.LowEnough .toml) :
    Toml.Sound manifest.head parts where
  distinct := List.pairwise_singleton _ _
  apart _ member :=
    ⟨apart_of_entryKeys manifest (written.known _ member), (written.keeps member).1⟩
  headLow := List.forall_mem_singleton.2 (Nat.zero_le _)
  partsLow _ there m member :=
    Nat.le_trans (height_le_of_within ((written.keeps there).2 m member)) enough

/-- The list under a key says what the entries have to say. -/
theorem said_of_comprises {ms : Members} (comprises : Toml.Comprises manifest.head parts ms)
    (entry : key ∈ entryKeys) (written : WritesParts clauses key entries parts) :
    (∃ node, (key, node) ∈ ms ∧ WritesList (WritesRecord clauses) entries node) ∨
      entries = [] ∧ key ∉ ms.map Prod.fst := by
  have other := apart_of_entryKeys manifest entry
  have records : List.Forall₂ (WritesRecord clauses) entries (Toml.elements parts key) := by
    refine List.forall₂_map_right_iff.2 (written.imp fun _ _ states => ?_)
    exact ⟨_, rfl, states.perm (Toml.inOrder_perm states.distinct).symm⟩
  by_cases none_ : Toml.elements parts key = []
  · rw [none_] at records
    cases records
    exact .inr ⟨rfl, comprises.absent key other none_⟩
  · exact .inl ⟨_, comprises.listed key other none_, _, rfl, records⟩

/-- The record that the sections make up is one that the manifest may be written as. -/
theorem writes_of_comprises {ms : Members} (written : manifest.Parts parts)
    (comprises : Toml.Comprises manifest.head parts ms) :
    manifest.Writes (.record ms .closed) := by
  have properties :=
    said_of_comprises comprises (show "property" ∈ entryKeys by decide) written.properties
  have directives :=
    said_of_comprises comprises (show "configure" ∈ entryKeys by decide) written.directives
  have types := said_of_comprises comprises (show "type" ∈ entryKeys by decide) written.types
  have rules := said_of_comprises comprises (show "rule" ∈ entryKeys by decide) written.rules
  refine ⟨ms, rfl, comprises.distinct, fun m member => ?_, ?_⟩
  · have keys : manifest.clauses.map Clause.key = "name" :: entryKeys := rfl
    refine List.mem_map.1 (keys ▸ List.mem_cons.2 ?_)
    by_cases named : m.1 ∈ manifest.head.map Prod.fst
    · exact .inl (List.mem_singleton.1 named)
    · have some_ : Toml.elements parts m.1 ≠ [] := fun none_ =>
        comprises.absent m.1 named none_ (List.mem_map_of_mem member)
      obtain ⟨part, there⟩ := List.exists_mem_of_ne_nil _ (mt List.map_eq_nil_iff.2 some_)
      obtain ⟨inside, same⟩ := List.mem_filter.1 there
      exact .inr (beq_iff_eq.1 same ▸ written.known part inside)
  · exact List.forall_mem_cons.2 ⟨.inl ⟨_, comprises.given _ List.mem_cons_self, rfl⟩,
      List.forall_mem_cons.2 ⟨properties, List.forall_mem_cons.2 ⟨directives,
        List.forall_mem_cons.2 ⟨types, List.forall_mem_singleton.2 rules⟩⟩⟩⟩

end

/-! ## Texts read back -/

variable {manifest : Manifest} {text : String}

theorem ofText_json (written : manifest.SpelledAs text .json) (enough : manifest.LowEnough .json) :
    ofText .json text = .ok manifest := by
  obtain ⟨root, writes, spelled⟩ := written
  exact ofText_of_written writes spelled
    (Nat.le_trans (height_le_of_within (within_of_writes writes)) enough)

theorem ofText_toml (written : manifest.SpelledAs text .toml) (enough : manifest.LowEnough .toml) :
    ofText .toml text = .ok manifest := by
  obtain ⟨parts, sections, spelled⟩ := written
  obtain ⟨ms, made, comprises⟩ := Toml.read_of_written (sections.sound enough) spelled
  have writes := writes_of_comprises sections comprises
  have within : (Node.record ms .closed).Within none := by
    refine ⟨(within_of_writes writes).whole, fun n same => ?_⟩
    cases same
  rw [ofText, decode, made]
  exact decoder_of_writes .toml within writes

/-- A manifest is read back from every text that spells it. -/
theorem ofText_of_spelledAs : ∀ dialect, manifest.SpelledAs text dialect →
    manifest.LowEnough dialect → ofText dialect text = .ok manifest
  | .json => ofText_json
  | .toml => ofText_toml

/-! ## Every manifest can be spelled -/

/-- The clause goes without saying, or a tree that can be written says it. -/
def Speaks (clause : Clause) : Prop :=
  clause.implied ∨ ∃ node, Toml.Writable node ∧ clause.saidBy node

section

variable {α : Type} {writes : α → Node → Prop} {value : α}

theorem speaks_required (said : ∃ node, Toml.Writable node ∧ writes value node) (key : String) :
    Speaks (.required key writes value) :=
  .inr said

theorem speaks_withDefault (said : ∃ node, Toml.Writable node ∧ writes value node) (key : String)
    (default : α) : Speaks (.withDefault key writes value default) :=
  .inr said

end

theorem speaks_optional (key : String) (value : Option String) :
    Speaks (.withDefault key (WritesOptional WritesText) value none) := by
  cases value with
  | none => exact .inl rfl
  | some text => exact .inr ⟨_, Toml.writable_text text, rfl⟩

theorem writable_asText (value : String) : ∃ node, Toml.Writable node ∧ WritesText value node :=
  ⟨_, Toml.writable_text value, rfl⟩

theorem writable_asTruth (value : Bool) : ∃ node, Toml.Writable node ∧ WritesTruth value node :=
  ⟨_, Toml.writable_truth value, rfl⟩

theorem writable_asKind : ∀ kind, ∃ node, Toml.Writable node ∧ WritesKind kind node
  | .classKind => writable_asText "class"
  | .interfaceKind => writable_asText "interface"

theorem writable_asList {α : Type} {writes : α → Node → Prop} {values : List α}
    (each : ∀ value ∈ values, ∃ node, Toml.Writable node ∧ writes value node) :
    ∃ items, (∀ item ∈ items, Toml.Writable item) ∧ List.Forall₂ writes values items := by
  induction values with
  | nil => exact ⟨[], nofun, .nil⟩
  | cons value rest ih =>
      obtain ⟨⟨node, writable, said⟩, later⟩ := List.forall_mem_cons.1 each
      obtain ⟨items, others, written⟩ := ih later
      exact ⟨node :: items, List.forall_mem_cons.2 ⟨writable, others⟩, .cons said written⟩

theorem writable_list {α : Type} {writes : α → Node → Prop} {values : List α}
    (each : ∀ value ∈ values, ∃ node, Toml.Writable node ∧ writes value node) :
    ∃ node, Toml.Writable node ∧ WritesList writes values node := by
  obtain ⟨items, writable, written⟩ := writable_asList each
  exact ⟨_, Toml.writable_list writable, items, rfl, written⟩

theorem writable_asTexts (values : List String) :
    ∃ node, Toml.Writable node ∧ WritesList WritesText values node :=
  writable_list fun value _ => writable_asText value

theorem writable_single {key : String} {node : Node} (writable : Toml.Writable node) :
    Toml.Writable (.record [(key, node)] .closed) :=
  @Toml.writable_record [(key, node)] (List.pairwise_singleton _ _)
    (List.forall_mem_singleton.2 writable)

theorem writable_branch {key : String} {children : List Condition}
    (each : ∀ c ∈ children, ∃ node, Toml.Writable node ∧ WritesCondition c node) :
    ∃ items, Toml.Writable (.record [(key, .list items .closed)] .closed) ∧
      List.Forall₂ WritesCondition children items := by
  obtain ⟨items, writable, written⟩ := writable_asList each
  exact ⟨items, writable_single (Toml.writable_list writable), written⟩

mutual

theorem writable_condition : ∀ c : Condition,
    ∃ node, Toml.Writable node ∧ WritesCondition c node
  | .typeIs name => ⟨_, writable_single (Toml.writable_text name), .typeIs⟩
  | .assignableTo name => ⟨_, writable_single (Toml.writable_text name), .assignableTo⟩
  | .propertyIs property value => by
      have speak : ∀ clause ∈ propertyIsClauses property value, Speaks clause := by
        simp [propertyIsClauses, speaks_required, writable_asText]
      obtain ⟨given, writable, states⟩ :=
        exists_states_of (distinct_propertyIs property value) speak
      have ordered := states.perm (Toml.inOrder_perm states.distinct).symm
      exact ⟨_, writable_single (Toml.writable_record states.distinct writable),
        .propertyIs ordered⟩
  | .any children => by
      obtain ⟨items, writable, written⟩ := writable_branch (writable_conditionList children)
      exact ⟨_, writable, .any written⟩
  | .all children => by
      obtain ⟨items, writable, written⟩ := writable_branch (writable_conditionList children)
      exact ⟨_, writable, .all written⟩
  | .noneOf children => by
      obtain ⟨items, writable, written⟩ := writable_branch (writable_conditionList children)
      exact ⟨_, writable, .noneOf written⟩

theorem writable_conditionList : ∀ cs : List Condition,
    ∀ c ∈ cs, ∃ node, Toml.Writable node ∧ WritesCondition c node
  | [] => nofun
  | c :: rest => List.forall_mem_cons.2 ⟨writable_condition c, writable_conditionList rest⟩

end

theorem writable_conditions (cs : List Condition) :
    ∃ node, Toml.Writable node ∧ WritesList WritesCondition cs node :=
  writable_list (writable_conditionList cs)

theorem speaks_property (entry : PropertyEntry) : ∀ clause ∈ entry.clauses, Speaks clause := by
  cases entry <;> simp [PropertyEntry.clauses, speaks_required, speaks_withDefault,
    speaks_optional, writable_asText, writable_asTexts, writable_asTruth]

theorem speaks_directive (directive : Directive) :
    ∀ clause ∈ directive.clauses, Speaks clause := by
  cases directive <;> simp [Directive.clauses, speaks_required, writable_asText,
    writable_asTexts]

theorem speaks_type (entry : TypeEntry) : ∀ clause ∈ entry.clauses, Speaks clause := by
  simp [TypeEntry.clauses, speaks_required, speaks_withDefault, speaks_optional, writable_asText,
    writable_asTexts, writable_asKind]

theorem speaks_rule (entry : RuleEntry) : ∀ clause ∈ entry.clauses, Speaks clause := by
  rcases entry with ⟨_ | _ | _, roots⟩ <;> simp [RuleEntry.clauses, ruleClauses, speaks_required,
    speaks_withDefault, writable_asText, writable_conditions]

/-- Sections of one key whose values can be written, one for each entry. -/
def Sections {α : Type} (clauses : α → List Clause) (key : String) (entries : List α)
    (parts : List Toml.Part) : Prop :=
  (∀ part ∈ parts, part.1 = key ∧ ∀ m ∈ part.2, Toml.Writable m.2) ∧
    List.Forall₂ (fun entry (part : Toml.Part) => States (clauses entry) part.2) entries parts

theorem exists_sections {α : Type} {clauses : α → List Clause} (key : String) (entries : List α)
    (distinct : ∀ entry, ((clauses entry).map Clause.key).Nodup)
    (speak : ∀ entry, ∀ clause ∈ clauses entry, Speaks clause) :
    ∃ parts, Sections clauses key entries parts := by
  induction entries with
  | nil => exact ⟨[], nofun, .nil⟩
  | cons entry rest ih =>
      obtain ⟨given, writable, states⟩ := exists_states_of (distinct entry) (speak entry)
      obtain ⟨parts, others, written⟩ := ih
      exact ⟨(key, given) :: parts, List.forall_mem_cons.2 ⟨⟨rfl, writable⟩, others⟩,
        .cons states written⟩

theorem Sections.known {α : Type} {clauses : α → List Clause} {key : String} {entries : List α}
    {parts : List Toml.Part} (sections : Sections clauses key entries parts)
    (entry : key ∈ entryKeys) :
    ∀ part ∈ parts, part.1 ∈ entryKeys ∧ ∀ m ∈ part.2, Toml.Writable m.2 := by
  intro part member
  obtain ⟨same, writable⟩ := sections.1 part member
  rw [same]
  exact ⟨entry, writable⟩

theorem Sections.filter {α : Type} {clauses : α → List Clause} {key : String} {entries : List α}
    {parts : List Toml.Part} (sections : Sections clauses key entries parts) (other : String) :
    (parts.filter fun part => part.1 == other) = if key = other then parts else [] := by
  split
  · rename_i same
    refine List.filter_eq_self.2 fun part member => beq_iff_eq.2 ?_
    exact (sections.1 part member).1.trans same
  · rename_i different
    refine List.filter_eq_nil_iff.2 fun part member found => different ?_
    exact (sections.1 part member).1.symm.trans (beq_iff_eq.1 found)

/-- Every manifest has sections whose values can be written. -/
theorem exists_parts (manifest : Manifest) :
    ∃ parts, manifest.Parts parts ∧ ∀ part ∈ parts, ∀ m ∈ part.2, Toml.Writable m.2 := by
  obtain ⟨ps, properties⟩ :=
    exists_sections "property" manifest.properties distinct_property speaks_property
  obtain ⟨ds, directives⟩ :=
    exists_sections "configure" manifest.directives distinct_directive speaks_directive
  obtain ⟨ts, types⟩ := exists_sections "type" manifest.types distinct_type speaks_type
  obtain ⟨rs, rules⟩ := exists_sections "rule" manifest.rules distinct_rule speaks_rule
  have each : ∀ part ∈ ps ++ ds ++ ts ++ rs,
      part.1 ∈ entryKeys ∧ ∀ m ∈ part.2, Toml.Writable m.2 := by
    intro part member
    simp only [List.mem_append] at member
    obtain ((inside | inside) | inside) | inside := member
    · exact properties.known (by decide) part inside
    · exact directives.known (by decide) part inside
    · exact types.known (by decide) part inside
    · exact rules.known (by decide) part inside
  have chosen : ∀ key, (ps ++ ds ++ ts ++ rs).filter (fun part => part.1 == key) =
      (if "property" = key then ps else []) ++ (if "configure" = key then ds else []) ++
        (if "type" = key then ts else []) ++ (if "rule" = key then rs else []) := by
    intro key
    rw [List.filter_append, List.filter_append, List.filter_append, properties.filter,
      directives.filter, types.filter, rules.filter]
  refine ⟨ps ++ ds ++ ts ++ rs, ⟨fun part member => (each part member).1, ?_, ?_, ?_, ?_⟩,
    fun part member => (each part member).2⟩
  · rw [WritesParts, chosen]
    simpa using properties.2
  · rw [WritesParts, chosen]
    simpa using directives.2
  · rw [WritesParts, chosen]
    simpa using types.2
  · rw [WritesParts, chosen]
    simpa using rules.2

/-- Every manifest can be spelled. -/
theorem exists_spelledAs (manifest : Manifest) :
    ∀ dialect, ∃ text, manifest.SpelledAs text dialect
  | .json => by
      obtain ⟨root, text, writes, written⟩ := exists_text manifest
      exact ⟨text, root, writes, written⟩
  | .toml => by
      obtain ⟨parts, sections, writable⟩ := exists_parts manifest
      obtain ⟨text, written⟩ := @Toml.exists_written manifest.head parts
        (List.forall_mem_singleton.2 (Toml.writable_text manifest.name)) writable
      exact ⟨text, parts, sections, written⟩

/-! ## Two spellings of one manifest -/

/-- **Both spellings carry one manifest.**  Every manifest can be spelled in either dialect, and
where its brackets are not too many for them, it is read back from every text that spells it.
So texts of both kinds fail with the same error or make the same module. -/
theorem spellings_agree (manifest : Manifest) (json : manifest.LowEnough .json)
    (toml : manifest.LowEnough .toml) :
    (∀ dialect, ∃ text, manifest.SpelledAs text dialect) ∧
      ∀ one other, manifest.SpelledAs one .toml → manifest.SpelledAs other .json →
        ofText .toml one = .ok manifest ∧ ofText .json other = .ok manifest ∧
          Module.ofText .toml one = Module.ofText .json other ∧
          Module.ofText .json other = Module.ofManifest manifest := by
  refine ⟨exists_spelledAs manifest, fun one other inToml inJson => ?_⟩
  have first := ofText_of_spelledAs .toml inToml toml
  have second := ofText_of_spelledAs .json inJson json
  have same : Module.ofText .json other = Module.ofManifest manifest := by
    rw [Module.ofText, Module.manifestOf, second]
    rfl
  refine ⟨first, second, ?_, same⟩
  rw [same, Module.ofText, Module.manifestOf, first]
  rfl

namespace Example

/-- The section of the rule that never applies. -/
def spelledParts : List Toml.Part :=
  [("rule", [("kind", .text "fail"),
    ("when", .list [.record [("any", .list [] .closed)] .closed] .closed)])]

/-- The same manifest as in the other spelling, with its name escaped in another way. -/
def spelledLines : String :=
  "name = \"\\U0001f600\\n\"\n\n[[rule]] # never\nkind = \"fail\"\nwhen = [\x7bany = []\x7d,]\n"

theorem spelledParts_parts : spelled.Parts spelledParts := by
  have roots : WritesList WritesCondition [.any []]
      (.list [.record [("any", .list [] .closed)] .closed] .closed) :=
    ⟨_, rfl, .cons (.any .nil) .nil⟩
  refine ⟨by decide, .nil, .nil, .nil, .cons ⟨by decide, ?_, ?_⟩ .nil⟩
  · simp [RuleEntry.clauses, ruleClauses]
  · refine List.forall_mem_cons.2 ⟨.inl ⟨.text "fail", by simp, rfl⟩, ?_⟩
    exact List.forall_mem_singleton.2 (.inl ⟨_, by simp, roots⟩)

open Toml in
theorem spelledLines_written : Toml.Written spelled.head spelledParts spelledLines := by
  have space : Spaces [' '] := by simp [Spaces, isSpace]
  have key : ∀ name ∈ ["name", "rule", "kind", "when", "any"], WritesKey name name.toList := by
    intro name member
    have bare : ∀ name ∈ ["name", "rule", "kind", "when", "any"],
        name.toList ≠ [] ∧ name.toList.all isBare = true := by decide
    exact .bare (bare name member).1 (List.all_eq_true.1 (bare name member).2)
  have feed : Break ['\n'] := @Break.line [] _ [] spaces_nil .feed .nil
  have blank : Break ['\n', '\n'] :=
    @Break.line [] ['\n'] ['\n'] spaces_nil .feed (@Gap.line ['\n'] [] .feed .nil)
  have never : Break (" # never\n").toList :=
    @Break.comment [' '] (" never").toList ['\n'] [] space (by simp [isPlain]) .feed .nil
  have face : WritesChar '😀' ("\\U0001f600").toList :=
    @WritesChar.number 'U' '😀' [0, 0, 0, 1, 15, 6, 0, 0] _ (by decide) (by decide)
      (by repeat constructor <;> decide)
  have name : WritesValue (.text "😀\n") ("\"\\U0001f600\\n\"").toList :=
    @WritesValue.text "😀\n" ("\\U0001f600\\n").toList
      (.cons face (.cons (.letter (by decide)) .nil))
  have kind : WritesValue (.text "fail") ("\"fail\"").toList :=
    @WritesValue.text "fail" ("fail").toList (writesChars_self (by simp [isPlain]))
  have any : WritesMember WritesValue ("any", .list [] .closed) ("any = []").toList :=
    @WritesMember.intro _ "any" _ ("any").toList [' '] [' '] ['[', ']'] (key _ (by decide))
      (.space rfl .nil) (.space rfl .nil) (.list (.nil .nil))
  have never_ : WritesValue (.record [("any", .list [] .closed)] .closed)
      ("\x7bany = []\x7d").toList :=
    @WritesValue.record [("any", .list [] .closed)] _ (by decide)
      (@Separated.last _ _ _ _ [] ("any = []").toList [] .nil any .nil)
  have when_ : WritesValue (.list [.record [("any", .list [] .closed)] .closed] .closed)
      ("[\x7bany = []\x7d,]").toList :=
    .list (@Separated.cons _ _ _ _ [] [] ("\x7bany = []\x7d").toList [] [']'] .nil never_ .nil
      (.nil .nil))
  have line : ∀ m value, m.1 ∈ ["name", "rule", "kind", "when", "any"] →
      WritesValue m.2 value → WritesLine (.assignment (Toml.assignment m))
        (m.1.toList ++ ([' '] ++ '=' :: ([' '] ++ value))) :=
    fun m _ known said => .assignment (key m.1 known) space space said
  have header : WritesLine (.header true { key := "rule" }) ("[[rule]]").toList :=
    @WritesLine.header "rule" _ [] [] (key "rule" (by decide)) spaces_nil spaces_nil
  refine ⟨[], spelledLines.toList, .nil, ?_, .inl rfl⟩
  exact .cons (line ("name", _) _ (by decide) name) blank <| .cons header never <|
    .cons (line ("kind", _) _ (by decide) kind) feed <|
    .cons (line ("when", _) _ (by decide) when_) feed .nil

/-- Both texts are read as the manifest, and make the same module. -/
theorem spelledLines_agrees :
    ofText .toml spelledLines = .ok spelled ∧
      Module.ofText .toml spelledLines = Module.ofText .json spelledText := by
  obtain ⟨inToml, -, same, -⟩ := (spellings_agree spelled (by decide) (by decide)).2
    spelledLines spelledText ⟨spelledParts, spelledParts_parts, spelledLines_written⟩
    ⟨spelledRoot, spelledRoot_writes, spelledText_written⟩
  exact ⟨inToml, same⟩

end Example

end DeferredBinding.Manifest
