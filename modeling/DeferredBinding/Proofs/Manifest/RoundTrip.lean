/-
# Proofs.Manifest.RoundTrip -- manifests read back from their texts

In JSON every manifest can be written as a text, and in many ways: the order of the members,
the blanks between the tokens and the escapes within the texts are open, and so is whether
what equals a default is said.  It is read back from each of these texts in which no more than
127 brackets are open at once, and so the module that is made of the text is the module that is
made of the manifest (`carried_by_texts`).
-/
import DeferredBinding.Module.Load
import DeferredBinding.Proofs.Document.Json.Tree
import DeferredBinding.Proofs.Manifest.Writing

namespace DeferredBinding.Manifest

open Document

set_option autoImplicit false

/-- Every manifest can be written as a text. -/
theorem exists_text (manifest : Manifest) :
    ∃ root text, manifest.Writes root ∧ Json.Written root text := by
  obtain ⟨root, whole, writes⟩ := expresses_manifest manifest
  obtain ⟨text, written⟩ := Json.exists_written whole
  exact ⟨root, text, writes, written⟩

/-- A tree is taken apart again where no more than 127 brackets are open in it. -/
theorem decoder_json {manifest : Manifest} {root : Node} (writes : manifest.Writes root)
    (whole : root.Whole) (low : root.height ≤ 127) : decoder .json root = .ok manifest := by
  have within : root.Within (some 127) := by
    refine ⟨whole, fun n same => ?_⟩
    cases same
    exact low
  exact decoder_of_writes .json within writes

/-- A text is read as the manifest that is written in it. -/
theorem ofText_of_written {manifest : Manifest} {root : Node} {text : String}
    (writes : manifest.Writes root) (written : Json.Written root text)
    (low : root.height ≤ 127) : ofText .json text = .ok manifest := by
  have taken := decoder_json writes written.whole low
  rw [ofText, decode, Json.read_of_written written]
  simp only [taken]
  rfl

/-- **Texts carry every manifest.**  It can be written, and it is read back from every text in
which it is written, unless too many brackets are open there; so the text makes its module. -/
theorem carried_by_texts (manifest : Manifest) :
    (∃ root text, manifest.Writes root ∧ Json.Written root text) ∧
      ∀ root text, manifest.Writes root → Json.Written root text → root.height ≤ 127 →
        ofText .json text = .ok manifest ∧
          Module.ofText .json text = Module.ofManifest manifest := by
  refine ⟨exists_text manifest, fun root text writes written low => ?_⟩
  have readBack := ofText_of_written writes written low
  refine ⟨readBack, ?_⟩
  rw [Module.ofText, Module.manifestOf, readBack]
  rfl

namespace Example

/-- A manifest with a rule that never applies, and a name that has to be escaped. -/
def spelled : Manifest :=
  { name := "😀\n", rules := [{ action := .fail, roots := [.any []] }] }

/-- A tree that its rule may be written as, the tag last. -/
def spelledRule : Node :=
  .record [("when", .list [.record [("any", .list [] .closed)] .closed] .closed),
    ("kind", .text "fail")] .closed

/-- A tree that it may be written as, the name last. -/
def spelledRoot : Node :=
  .record [("rule", .list [spelledRule] .closed), ("name", .text "😀\n")] .closed

/-- A text in which that tree is written. -/
def spelledText : String :=
  "\x7b\"rule\":[\x7b\"when\":[\x7b\"any\":[]\x7d],\n\"kind\":\"fail\"\x7d],\"name\": \"\\uD83d\\uDE00\\n\"\x7d"

theorem spelledRule_writes :
    WritesRecord RuleEntry.clauses { action := .fail, roots := [.any []] } spelledRule := by
  have roots : WritesList WritesCondition [.any []]
      (.list [.record [("any", .list [] .closed)] .closed] .closed) :=
    ⟨_, rfl, .cons (.any .nil) .nil⟩
  refine ⟨_, rfl, by decide, by simp [RuleEntry.clauses, ruleClauses], ?_⟩
  refine List.forall_mem_cons.2 ⟨.inl ⟨.text "fail", by simp, rfl⟩, ?_⟩
  exact List.forall_mem_singleton.2 (.inl ⟨_, by simp, roots⟩)

theorem spelledRoot_writes : spelled.Writes spelledRoot := by
  have rules : WritesList (WritesRecord RuleEntry.clauses) spelled.rules
      (.list [spelledRule] .closed) :=
    ⟨_, rfl, .cons spelledRule_writes .nil⟩
  refine ⟨_, rfl, by decide, by simp [clauses], ?_⟩
  refine List.forall_mem_cons.2 ⟨.inl ⟨.text "😀\n", by simp, rfl⟩, ?_⟩
  refine List.forall_mem_cons.2 ⟨.inr ⟨rfl, by simp⟩, ?_⟩
  refine List.forall_mem_cons.2 ⟨.inr ⟨rfl, by simp⟩, ?_⟩
  refine List.forall_mem_cons.2 ⟨.inr ⟨rfl, by simp⟩, ?_⟩
  exact List.forall_mem_singleton.2 (.inl ⟨_, by simp, rules⟩)

theorem spelledText_written : Json.Written spelledRoot spelledText := by
  have high : Json.HexUnit 0xd83d ['D', '8', '3', 'd'] :=
    @Json.HexUnit.digits 13 8 3 13 _ _ _ _ (by decide) (by decide) (by decide) (by decide)
  have low : Json.HexUnit 0xde00 ['D', 'E', '0', '0'] :=
    @Json.HexUnit.digits 13 14 0 0 _ _ _ _ (by decide) (by decide) (by decide) (by decide)
  have face : Json.WritesChar '😀' ("\\uD83d\\uDE00").toList :=
    @Json.WritesChar.pair '😀' _ _ (by decide) high low
  have name : Json.WritesChars ("😀\n").toList ("\\uD83d\\uDE00\\n").toList :=
    .cons face <| .cons (.letter (by decide)) .nil
  have line : ∀ c ∈ ['\n'], Json.Blank c := by simp [Json.Blank]
  have space : ∀ c ∈ [' '], Json.Blank c := by simp [Json.Blank]
  constructor
  · simp [spelledRoot, spelledRule, Node.Whole, Node.WholeList, Node.WholeRecord]
  · exact .next .openRecord <| .next (.plain "rule" (by simp)) <| .next .colon <|
      .next .openList <| .next .openRecord <| .next (.plain "when" (by simp)) <|
      .next .colon <| .next .openList <| .next .openRecord <| .next (.plain "any" (by simp)) <|
      .next .colon <| .next .openList <| .next .closeList <| .next .closeRecord <|
      .next .closeList <| .next .comma <| .cons line (.plain "kind" (by simp)) <|
      .next .colon <| .next (.plain "fail" (by simp)) <| .next .closeRecord <|
      .next .closeList <| .next .comma <| .next (.plain "name" (by simp)) <|
      .next .colon <| .cons space (.text name) <|
      .next .closeRecord <| .nil (List.forall_mem_nil _)

/-- The text is read as the manifest, and makes its module. -/
theorem ofText_spelledText :
    ofText .json spelledText = .ok spelled ∧
      Module.ofText .json spelledText = Module.ofManifest spelled :=
  (carried_by_texts spelled).2 spelledRoot spelledText spelledRoot_writes spelledText_written
    (by decide)

end Example

end DeferredBinding.Manifest
