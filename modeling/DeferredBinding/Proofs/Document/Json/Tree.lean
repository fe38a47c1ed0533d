/-
# Proofs.Document.Json.Tree -- a tree read back from its tokens

`lexemes` lists the tokens of a tree in order; those of a whole tree can all be written
(`exists_written`).  They are the tokens of a value of which that tree is made
(`exists_value_of_whole`); so a text in which they are written, in whichever way, is read as that
tree and nothing follows it (`read_of_written`).
-/
import DeferredBinding.Proofs.Document.Json.Grammar
import DeferredBinding.Proofs.Document.Json.Spelling
import DeferredBinding.Proofs.Document.Whole

namespace DeferredBinding.Document.Json

set_option autoImplicit false

/-! ## The tokens of a tree -/

mutual

/-- The tokens of a value; a fault where there is none to write. -/
def lexemes : Node → List Token
  | .null => [.null]
  | .truth value => [.truth value]
  | .text value => [.text (some value)]
  | .list items _ => .openList :: itemLexemes items
  | .record members _ => .openRecord :: memberLexemes members
  | _ => [.fault]

/-- The items of a list up to its closing bracket. -/
def itemLexemes : List Node → List Token
  | [] => [.closeList]
  | item :: rest => lexemes item ++ moreItemLexemes rest

/-- Further items of a list, each after a comma, up to its closing bracket. -/
def moreItemLexemes : List Node → List Token
  | [] => [.closeList]
  | item :: rest => .comma :: (lexemes item ++ moreItemLexemes rest)

def memberLexemes : List (String × Node) → List Token
  | [] => [.closeRecord]
  | (key, value) :: rest =>
      .text (some key) :: .colon :: (lexemes value ++ moreMemberLexemes rest)

def moreMemberLexemes : List (String × Node) → List Token
  | [] => [.closeRecord]
  | (key, value) :: rest =>
      .comma :: .text (some key) :: .colon :: (lexemes value ++ moreMemberLexemes rest)

end

/-- A text in which a whole tree is written. -/
structure Written (root : Node) (text : String) : Prop where
  whole : root.Whole
  writes : Writes (lexemes root) text.toList

mutual

theorem writable_lexemes : ∀ node : Node, node.Whole → ∀ t ∈ lexemes node, t.Writable
  | .null, _ => List.forall_mem_singleton.2 ⟨_, .null⟩
  | .truth true, _ => List.forall_mem_singleton.2 ⟨_, .yes⟩
  | .truth false, _ => List.forall_mem_singleton.2 ⟨_, .no⟩
  | .text value, _ => List.forall_mem_singleton.2 (writable_text value)
  | .list items _, ⟨_, whole⟩ =>
      List.forall_mem_cons.2 ⟨⟨_, .openList⟩, writable_itemLexemes items whole⟩
  | .record members _, ⟨_, whole⟩ =>
      List.forall_mem_cons.2 ⟨⟨_, .openRecord⟩, writable_memberLexemes members whole⟩

theorem writable_itemLexemes : ∀ items : List Node, Node.WholeList items →
    ∀ t ∈ itemLexemes items, t.Writable
  | [], _ => List.forall_mem_singleton.2 ⟨_, .closeList⟩
  | item :: rest, ⟨whole, others⟩ =>
      List.forall_mem_append.2 ⟨writable_lexemes item whole, writable_moreItemLexemes rest others⟩

theorem writable_moreItemLexemes : ∀ items : List Node, Node.WholeList items →
    ∀ t ∈ moreItemLexemes items, t.Writable
  | [], _ => List.forall_mem_singleton.2 ⟨_, .closeList⟩
  | item :: rest, ⟨whole, others⟩ =>
      List.forall_mem_cons.2 ⟨⟨_, .comma⟩, List.forall_mem_append.2
        ⟨writable_lexemes item whole, writable_moreItemLexemes rest others⟩⟩

theorem writable_memberLexemes : ∀ members : List (String × Node), Node.WholeRecord members →
    ∀ t ∈ memberLexemes members, t.Writable
  | [], _ => List.forall_mem_singleton.2 ⟨_, .closeRecord⟩
  | (key, value) :: rest, ⟨whole, others⟩ =>
      List.forall_mem_cons.2 ⟨writable_text key, List.forall_mem_cons.2 ⟨⟨_, .colon⟩,
        List.forall_mem_append.2
          ⟨writable_lexemes value whole, writable_moreMemberLexemes rest others⟩⟩⟩

theorem writable_moreMemberLexemes : ∀ members : List (String × Node), Node.WholeRecord members →
    ∀ t ∈ moreMemberLexemes members, t.Writable
  | [], _ => List.forall_mem_singleton.2 ⟨_, .closeRecord⟩
  | (key, value) :: rest, ⟨whole, others⟩ =>
      List.forall_mem_cons.2 ⟨⟨_, .comma⟩, List.forall_mem_cons.2 ⟨writable_text key,
        List.forall_mem_cons.2 ⟨⟨_, .colon⟩, List.forall_mem_append.2
          ⟨writable_lexemes value whole, writable_moreMemberLexemes rest others⟩⟩⟩⟩

end

/-- Every whole tree can be written. -/
theorem exists_written {root : Node} (whole : root.Whole) : ∃ text, Written root text := by
  obtain ⟨cs, writes⟩ := exists_writes (writable_lexemes root whole)
  refine ⟨String.ofList cs, whole, ?_⟩
  rw [String.toList_ofList]
  exact writes

/-! ## Reading them back -/

mutual

/-- The tokens of a whole tree are those of a value of which it is made. -/
theorem exists_value_of_whole : ∀ node : Node, node.Whole →
    ∃ value : Value, value.tokens = lexemes node ∧ value.node = node
  | .null, _ => ⟨.null, rfl, rfl⟩
  | .truth value, _ => ⟨.truth value, rfl, rfl⟩
  | .text value, _ => ⟨.text (some value), rfl, rfl⟩
  | .list items _, ⟨closed, whole⟩ => by
      obtain ⟨values, said, -, made⟩ := exists_items_of_whole items whole
      exact ⟨.list values, by rw [Value.tokens, said, lexemes], by rw [Value.node, made, closed]⟩
  | .record members _, ⟨closed, whole⟩ => by
      obtain ⟨named, said, -, made⟩ := exists_members_of_whole members whole
      exact ⟨.record (readable named), by rw [Value.tokens, said, lexemes],
        by rw [node_readable, made, closed]⟩

theorem exists_items_of_whole : ∀ items : List Node, Node.WholeList items →
    ∃ values, itemTokens values = itemLexemes items ∧
      moreItemTokens values = moreItemLexemes items ∧ nodes values = items
  | [], _ => ⟨[], rfl, rfl, rfl⟩
  | item :: rest, ⟨whole, others⟩ => by
      obtain ⟨value, said, made⟩ := exists_value_of_whole item whole
      obtain ⟨values, -, more, all⟩ := exists_items_of_whole rest others
      exact ⟨value :: values, by rw [itemTokens, said, more, itemLexemes],
        by rw [moreItemTokens, said, more, moreItemLexemes], by rw [nodes, made, all]⟩

theorem exists_members_of_whole : ∀ members : List (String × Node), Node.WholeRecord members →
    ∃ named, memberTokens (readable named) = memberLexemes members ∧
      moreMemberTokens (readable named) = moreMemberLexemes members ∧
      (named.map fun m => (m.1, m.2.node)) = members
  | [], _ => ⟨[], rfl, rfl, rfl⟩
  | (key, node) :: rest, ⟨whole, others⟩ => by
      obtain ⟨value, said, made⟩ := exists_value_of_whole node whole
      obtain ⟨named, -, more, all⟩ := exists_members_of_whole rest others
      have tokens : readable ((key, value) :: named) = (some key, value) :: readable named := rfl
      exact ⟨(key, value) :: named, by rw [tokens, memberTokens, said, more, memberLexemes],
        by rw [tokens, moreMemberTokens, said, more, moreMemberLexemes],
        by rw [List.map_cons, made, all]⟩

end

/-- **However a whole tree is written, it is read back, and nothing follows it.** -/
theorem read_of_written {root : Node} {text : String} (written : Written root text) :
    read text = (root, false) := by
  obtain ⟨value, said, rfl⟩ := exists_value_of_whole root written.whole
  exact read_of_tokens ((tokens_of_writes written.writes).trans said.symm)

end DeferredBinding.Document.Json
