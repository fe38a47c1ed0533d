/-
# Proofs.Document.Json.Grammar -- what a text says, and what is read of it

A `Value` is what a text says, with everything that is written in it: members in their order,
keys that are repeated, texts without a content.  It has its tokens (`Value.tokens`) and the tree
that is made of it (`Value.node`).

A reader that is given the tokens of a value completes it (`foldl_tokens`); so a text is read as
what it says (`read_of_tokens`).  The other way round, the tokens met in the course of a reading
are those of what is open, each list and record as far as it was read, and of what was read last
(`Stands`).  Every token keeps it so (`stands_step`), or ends the reading with the outermost list
or record unclosed.  So a text that is read to its end says something (`exists_value`).
-/
import DeferredBinding.Document.Json.Reader

namespace DeferredBinding.Document.Json

set_option autoImplicit false

/-- What a text says. -/
inductive Value where
  | null
  | truth (value : Bool)
  | number (readable : Bool)
  | text (content : Option String)
  | list (items : List Value)
  | record (members : List (Option String × Value))

/-! ## Tokens -/

mutual

def Value.tokens : Value → List Token
  | .null => [.null]
  | .truth value => [.truth value]
  | .number readable => [.number readable]
  | .text content => [.text content]
  | .list items => .openList :: itemTokens items
  | .record members => .openRecord :: memberTokens members

/-- The items of a list up to its closing bracket. -/
def itemTokens : List Value → List Token
  | [] => [.closeList]
  | item :: rest => item.tokens ++ moreItemTokens rest

/-- Further items of a list, each after a comma, up to its closing bracket. -/
def moreItemTokens : List Value → List Token
  | [] => [.closeList]
  | item :: rest => .comma :: (item.tokens ++ moreItemTokens rest)

def memberTokens : List (Option String × Value) → List Token
  | [] => [.closeRecord]
  | (key, value) :: rest => .text key :: .colon :: (value.tokens ++ moreMemberTokens rest)

def moreMemberTokens : List (Option String × Value) → List Token
  | [] => [.closeRecord]
  | (key, value) :: rest =>
      .comma :: .text key :: .colon :: (value.tokens ++ moreMemberTokens rest)

end

/-- Items, each with a comma behind it. -/
def itemLead (items : List Value) : List Token :=
  items.flatMap fun item => item.tokens ++ [.comma]

def memberLead (members : List (Option String × Value)) : List Token :=
  members.flatMap fun m => .text m.1 :: .colon :: (m.2.tokens ++ [.comma])

theorem itemTokens_concat (items : List Value) (last : Value) :
    itemTokens (items ++ [last]) = itemLead items ++ (last.tokens ++ [.closeList]) := by
  induction items with
  | nil => rfl
  | cons item rest ih =>
      have more : moreItemTokens (rest ++ [last]) = .comma :: itemTokens (rest ++ [last]) := by
        cases rest <;> rfl
      rw [List.cons_append, itemTokens, more, ih, itemLead, itemLead, List.flatMap_cons]
      simp only [List.append_assoc, List.cons_append, List.nil_append]

theorem memberTokens_concat (members : List (Option String × Value)) (key : Option String)
    (last : Value) : memberTokens (members ++ [(key, last)]) =
      memberLead members ++ .text key :: .colon :: (last.tokens ++ [.closeRecord]) := by
  induction members with
  | nil => rfl
  | cons m rest ih =>
      have more : moreMemberTokens (rest ++ [(key, last)]) =
          .comma :: memberTokens (rest ++ [(key, last)]) := by
        cases rest <;> rfl
      rw [List.cons_append, memberTokens, more, ih, memberLead, memberLead, List.flatMap_cons]
      simp only [List.append_assoc, List.cons_append, List.nil_append]

/-! ## Trees -/

def OpenRecord.addAll (r : OpenRecord) (members : List (Option String × Node)) : OpenRecord :=
  members.foldl (fun r m => r.add m.1 m.2) r

/-- A record read member by member. -/
def recordOf (members : List (Option String × Node)) : OpenRecord :=
  OpenRecord.addAll {} members

mutual

def Value.node : Value → Node
  | .null => .null
  | .truth value => .truth value
  | .number true => .number .signed
  | .number false => .unreadable
  | .text (some content) => .text content
  | .text none => .unreadable
  | .list items => .list (nodes items) .closed
  | .record members => (recordOf (memberNodes members)).close

def nodes : List Value → List Node
  | [] => []
  | item :: rest => item.node :: nodes rest

def memberNodes : List (Option String × Value) → List (Option String × Node)
  | [] => []
  | (key, value) :: rest => (key, value.node) :: memberNodes rest

end

theorem nodes_eq_map (items : List Value) : nodes items = items.map Value.node := by
  induction items with
  | nil => rfl
  | cons item rest ih => rw [nodes, ih, List.map_cons]

theorem memberNodes_eq_map (members : List (Option String × Value)) :
    memberNodes members = members.map fun m => (m.1, m.2.node) := by
  induction members with
  | nil => rfl
  | cons m rest ih => rw [memberNodes, ih, List.map_cons]

/-- Members of readable keys. -/
def readable (named : List (String × Value)) : List (Option String × Value) :=
  named.map fun m => (some m.1, m.2)

theorem addAll_readable (named : List (String × Value)) (read : List (String × Node)) :
    OpenRecord.addAll { read } (memberNodes (readable named)) =
      { read := (named.map fun m => (m.1, m.2.node)).reverse ++ read } := by
  induction named generalizing read with
  | nil => rfl
  | cons m rest ih =>
      refine (ih ((m.1, m.2.node) :: read)).trans ?_
      rw [List.map_cons, List.reverse_cons, List.append_assoc]
      rfl

/-- A record of readable keys has all of its members. -/
theorem node_readable (named : List (String × Value)) :
    (Value.record (readable named)).node = .record (named.map fun m => (m.1, m.2.node)) .closed := by
  rw [Value.node, recordOf, addAll_readable named [], OpenRecord.close, List.append_nil,
    List.reverse_reverse]

theorem add_closed {r : OpenRecord} {key : Option String} {node : Node}
    (closed : (r.add key node).ending = .closed) :
    (∃ name, key = some name) ∧ r.ending = .closed := by
  obtain ⟨read, ending⟩ := r
  cases key with
  | none => cases closed
  | some name =>
      cases ending with
      | closed => exact ⟨⟨name, rfl⟩, rfl⟩
      | passable => cases closed
      | brokenOff => cases closed

/-- A record that can be read to its end has readable keys only. -/
theorem readable_of_closed {members : List (Option String × Value)} {r : OpenRecord}
    (closed : (r.addAll (memberNodes members)).ending = .closed) :
    r.ending = .closed ∧ ∃ named, members = readable named := by
  induction members generalizing r with
  | nil => exact ⟨closed, [], rfl⟩
  | cons m rest ih =>
      obtain ⟨key, value⟩ := m
      obtain ⟨next, named, rfl⟩ := ih closed
      obtain ⟨⟨name, rfl⟩, before⟩ := add_closed next
      exact ⟨before, (name, value) :: named, rfl⟩

/-! ## What is said is read -/

/-- No value begins with a closing bracket, so one may stand where a list might end. -/
theorem foldl_tokens_itemOrEnd (value : Value) (frames : List Frame) :
    value.tokens.foldl Progress.step (.reading frames .itemOrEnd) =
      value.tokens.foldl Progress.step (.reading frames .value) := by
  cases value <;> rfl

mutual

/-- The tokens of a value complete it. -/
theorem foldl_tokens : ∀ (value : Value) (frames : List Frame),
    value.tokens.foldl Progress.step (.reading frames .value) = complete value.node frames
  | .null, _ => rfl
  | .truth _, _ => rfl
  | .number true, _ => rfl
  | .number false, _ => rfl
  | .text (some _), _ => rfl
  | .text none, _ => rfl
  | .list items, frames => foldl_itemTokens items frames
  | .record members, frames => foldl_memberTokens members frames

theorem foldl_itemTokens : ∀ (items : List Value) (frames : List Frame),
    (itemTokens items).foldl Progress.step (.reading (.list [] :: frames) .itemOrEnd) =
      complete (.list (nodes items) .closed) frames
  | [], _ => rfl
  | item :: rest, frames => by
      rw [itemTokens, List.foldl_append, foldl_tokens_itemOrEnd,
        foldl_tokens item (.list [] :: frames)]
      exact foldl_moreItemTokens rest [item.node] frames

theorem foldl_moreItemTokens : ∀ (items : List Value) (read : List Node) (frames : List Frame),
    (moreItemTokens items).foldl Progress.step (.reading (.list read :: frames) .commaOrEnd) =
      complete (.list (read.reverse ++ nodes items) .closed) frames
  | [], read, frames => by
      rw [nodes, List.append_nil]
      rfl
  | item :: rest, read, frames => by
      rw [moreItemTokens, List.foldl_cons, List.foldl_append]
      show (moreItemTokens rest).foldl Progress.step
        (item.tokens.foldl Progress.step (.reading (.list read :: frames) .value)) = _
      rw [foldl_tokens item (.list read :: frames)]
      have onward := foldl_moreItemTokens rest (item.node :: read) frames
      rw [List.reverse_cons, List.append_assoc, List.singleton_append] at onward
      exact onward

theorem foldl_memberTokens : ∀ (members : List (Option String × Value)) (frames : List Frame),
    (memberTokens members).foldl Progress.step (.reading (.record {} :: frames) .keyOrEnd) =
      complete (recordOf (memberNodes members)).close frames
  | [], _ => rfl
  | (key, value) :: rest, frames => by
      rw [memberTokens, List.foldl_cons, List.foldl_cons, List.foldl_append]
      show (moreMemberTokens rest).foldl Progress.step
        (value.tokens.foldl Progress.step (.reading (.member {} key :: frames) .value)) = _
      rw [foldl_tokens value (.member {} key :: frames)]
      exact foldl_moreMemberTokens rest (OpenRecord.add {} key value.node) frames

theorem foldl_moreMemberTokens : ∀ (members : List (Option String × Value)) (read : OpenRecord)
    (frames : List Frame),
    (moreMemberTokens members).foldl Progress.step (.reading (.record read :: frames) .commaOrEnd) =
      complete (read.addAll (memberNodes members)).close frames
  | [], _, _ => rfl
  | (key, value) :: rest, read, frames => by
      rw [moreMemberTokens, List.foldl_cons, List.foldl_cons, List.foldl_cons, List.foldl_append]
      show (moreMemberTokens rest).foldl Progress.step
        (value.tokens.foldl Progress.step (.reading (.member read key :: frames) .value)) = _
      rw [foldl_tokens value (.member read key :: frames)]
      exact foldl_moreMemberTokens rest (read.add key value.node) frames

end

/-- A text is read as what it says, and nothing follows it. -/
theorem read_of_tokens {value : Value} {text : String}
    (said : Json.tokens text.toList = value.tokens) : read text = (value.node, false) := by
  rw [read, said, foldl_tokens value []]
  rfl

/-! ## What is read was said -/

/-- The text breaks off inside of the node, or has none. -/
inductive Unclosed : Node → Prop
  | fault : Unclosed .fault
  | list {items : List Node} : Unclosed (.list items .brokenOff)
  | record {members : List (String × Node)} : Unclosed (.record members .brokenOff)

theorem unclosed_abandon {node : Node} (unclosed : Unclosed node) (frames : List Frame) :
    Unclosed (abandon node frames) := by
  induction frames generalizing node with
  | nil => exact unclosed
  | cons frame rest ih =>
      cases frame with
      | list items => exact ih .list
      | record members => exact ih .record
      | member members key => exact ih .record

/-- What is open, and what was read of it. -/
inductive Opened where
  | list (items : List Value)
  | record (members : List (Option String × Value))
  /-- The value that belongs to `key` is next. -/
  | member (members : List (Option String × Value)) (key : Option String)

namespace Opened

/-- What the reader keeps of it. -/
def frame : Opened → Frame
  | .list items => .list (nodes items).reverse
  | .record members => .record (recordOf (memberNodes members))
  | .member members key => .member (recordOf (memberNodes members)) key

/-- Its tokens up to the next item, member or value. -/
def lead : Opened → List Token
  | .list items => .openList :: itemLead items
  | .record members => .openRecord :: memberLead members
  | .member members key => .openRecord :: (memberLead members ++ [.text key, .colon])

end Opened

/-- The tokens of all that is open, innermost first, up to what is next. -/
def written : List Opened → List Token
  | [] => []
  | inner :: outer => written outer ++ inner.lead

/-- These tokens lead to this point of a reading. -/
inductive Stands : List Token → Progress → Prop
  | value {opened : List Opened} :
      Stands (written opened) (.reading (opened.map Opened.frame) .value)
  | itemOrEnd {outer : List Opened} :
      Stands (written outer ++ [.openList])
        (.reading (.list [] :: outer.map Opened.frame) .itemOrEnd)
  | key {members : List (Option String × Value)} {outer : List Opened} :
      Stands (written (.record members :: outer))
        (.reading ((Opened.record members :: outer).map Opened.frame) .key)
  | keyOrEnd {outer : List Opened} :
      Stands (written outer ++ [.openRecord])
        (.reading (.record {} :: outer.map Opened.frame) .keyOrEnd)
  | colon {members : List (Option String × Value)} {key : Option String} {outer : List Opened} :
      Stands (written (.record members :: outer) ++ [.text key])
        (.reading ((Opened.member members key :: outer).map Opened.frame) .colon)
  | item {items : List Value} {last : Value} {outer : List Opened} :
      Stands (written (.list items :: outer) ++ last.tokens)
        (.reading ((Opened.list (items ++ [last]) :: outer).map Opened.frame) .commaOrEnd)
  | member {members : List (Option String × Value)} {key : Option String} {last : Value}
      {outer : List Opened} :
      Stands (written (.member members key :: outer) ++ last.tokens)
        (.reading ((Opened.record (members ++ [(key, last)]) :: outer).map Opened.frame)
          .commaOrEnd)
  | finished {value : Value} : Stands value.tokens (.finished value.node false)
  | trailing {met : List Token} {root : Node} : Stands met (.finished root true)
  | broken {met : List Token} {root : Node} (unclosed : Unclosed root) :
      Stands met (.finished root false)

theorem stands_broken (met : List Token) (frames : List Frame) : Stands met (broken frames) :=
  .broken (unclosed_abandon .fault frames)

theorem nodes_concat (items : List Value) (last : Value) :
    nodes (items ++ [last]) = nodes items ++ [last.node] := by
  simp only [nodes_eq_map, List.map_append, List.map_cons, List.map_nil]

theorem memberNodes_concat (members : List (Option String × Value)) (key : Option String)
    (last : Value) :
    memberNodes (members ++ [(key, last)]) = memberNodes members ++ [(key, last.node)] := by
  simp only [memberNodes_eq_map, List.map_append, List.map_cons, List.map_nil]

theorem recordOf_concat (members : List (Option String × Node)) (key : Option String)
    (node : Node) : recordOf (members ++ [(key, node)]) = (recordOf members).add key node := by
  rw [recordOf, OpenRecord.addAll, List.foldl_append]
  rfl

/-- A value is read where one is next. -/
theorem stands_complete (value : Value) (opened : List Opened) :
    Stands (written opened ++ value.tokens) (complete value.node (opened.map Opened.frame)) := by
  cases opened with
  | nil => exact .finished
  | cons inner outer =>
      cases inner with
      | list items =>
          have point := @Stands.item items value outer
          rw [List.map_cons, Opened.frame, nodes_concat, List.reverse_concat] at point
          exact point
      | record members =>
          -- a record asks for keys, so no value is ever next straight inside of one
          exact stands_broken _ _
      | member members key =>
          have point := @Stands.member members key value outer
          rw [List.map_cons, Opened.frame, memberNodes_concat, recordOf_concat] at point
          exact point

theorem stands_beginValue (opened : List Opened) (token : Token) :
    Stands (written opened ++ [token]) (beginValue (opened.map Opened.frame) token) := by
  cases token with
  | openList => exact .itemOrEnd
  | openRecord => exact .keyOrEnd
  | null => exact stands_complete .null opened
  | truth value => exact stands_complete (.truth value) opened
  | number readable =>
      cases readable with
      | true => exact stands_complete (.number true) opened
      | false => exact stands_complete (.number false) opened
  | text content =>
      cases content with
      | some content => exact stands_complete (.text (some content)) opened
      | none => exact stands_complete (.text none) opened
  | closeList | closeRecord | colon | comma | fault => exact stands_broken _ _

theorem stands_beginMember (members : List (Option String × Value)) (outer : List Opened)
    (token : Token) : Stands (written (.record members :: outer) ++ [token])
      (beginMember ((Opened.record members :: outer).map Opened.frame) token) := by
  cases token with
  | text key => exact .colon
  | _ => exact stands_broken _ _

/-- One token more. -/
theorem Stands.step {met : List Token} {progress : Progress} (stands : Stands met progress)
    (token : Token) : Stands (met ++ [token]) (progress.step token) := by
  cases stands with
  | @value opened => exact stands_beginValue opened token
  | @itemOrEnd outer =>
      show Stands _ (if token = .closeList then _ else _)
      split
      · rename_i ends
        subst ends
        rw [List.append_assoc]
        exact stands_complete (.list []) outer
      · exact stands_beginValue (.list [] :: outer) token
  | @key members outer => exact stands_beginMember members outer token
  | @keyOrEnd outer =>
      show Stands _ (if token = .closeRecord then _ else _)
      split
      · rename_i ends
        subst ends
        rw [List.append_assoc]
        exact stands_complete (.record []) outer
      · exact stands_beginMember [] outer token
  | @colon members key outer =>
      have next : written (.record members :: outer) ++ [.text key] ++ [.colon] =
          written (.member members key :: outer) := by
        simp [written, Opened.lead]
      show Stands _ (if token = .colon then _ else _)
      split
      · rename_i ends
        subst ends
        rw [next]
        exact .value
      · exact stands_broken _ _
  | @item items last outer =>
      cases token with
      | comma =>
          have next : written (.list items :: outer) ++ last.tokens ++ [.comma] =
              written (.list (items ++ [last]) :: outer) := by
            simp [written, Opened.lead, itemLead]
          rw [next]
          exact @Stands.value (.list (items ++ [last]) :: outer)
      | closeList =>
          have all : written (.list items :: outer) ++ last.tokens ++ [.closeList] =
              written outer ++ (Value.list (items ++ [last])).tokens := by
            simp [written, Opened.lead, Value.tokens, itemTokens_concat]
          have point := stands_complete (.list (items ++ [last])) outer
          rw [all]
          show Stands _ (complete (.list (nodes (items ++ [last])).reverse.reverse .closed) _)
          rw [List.reverse_reverse]
          exact point
      | _ => exact stands_broken _ _
  | @member members key last outer =>
      cases token with
      | comma =>
          have next : written (.member members key :: outer) ++ last.tokens ++ [.comma] =
              written (.record (members ++ [(key, last)]) :: outer) := by
            simp [written, Opened.lead, memberLead]
          rw [next]
          exact .key
      | closeRecord =>
          have all : written (.member members key :: outer) ++ last.tokens ++ [.closeRecord] =
              written outer ++ (Value.record (members ++ [(key, last)])).tokens := by
            simp [written, Opened.lead, Value.tokens, memberTokens_concat]
          rw [all]
          exact stands_complete (.record (members ++ [(key, last)])) outer
      | _ => exact stands_broken _ _
  | finished => exact .trailing
  | trailing => exact .trailing
  | broken _ => exact .trailing

theorem Stands.foldl {met : List Token} {progress : Progress} (stands : Stands met progress)
    (tokens : List Token) : Stands (met ++ tokens) (tokens.foldl Progress.step progress) := by
  induction tokens generalizing met progress with
  | nil =>
      rw [List.append_nil]
      exact stands
  | cons token rest ih =>
      have onward := ih (stands.step token)
      rwa [List.append_assoc] at onward

/-- **A text that is read to its end, nothing following, says what is read.** -/
theorem exists_value {text : String} {root : Node} (reads : read text = (root, false))
    (closed : ¬ Unclosed root) :
    ∃ value : Value, Json.tokens text.toList = value.tokens ∧ value.node = root := by
  have stands : Stands (Json.tokens text.toList)
      ((Json.tokens text.toList).foldl Progress.step (.reading [] .value)) :=
    (@Stands.value []).foldl (Json.tokens text.toList)
  rw [read] at reads
  generalize (Json.tokens text.toList).foldl Progress.step (.reading [] .value) = last
    at stands reads
  generalize Json.tokens text.toList = met at stands
  cases stands with
  | finished =>
      cases reads
      exact ⟨_, rfl, rfl⟩
  | trailing => cases reads
  | broken unclosed =>
      cases reads
      exact absurd unclosed closed
  | _ =>
      obtain rfl := congrArg Prod.fst reads
      exact absurd (unclosed_abandon .fault _) closed

end DeferredBinding.Document.Json
