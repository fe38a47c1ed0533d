/-
# Proofs.Document.Toml.Values -- values read back from the ways in which they are written

A truth value is a word, a text stands between quotation marks, items and members stand between
brackets with commas between them, gaps anywhere and, if one likes, a comma behind the last
(`Separated`).  `WritesValue` says which texts a tree may be written as.  The members of a
record may be written in any order; the tree has them in the order of their keys (`inOrder`).

A written value is scanned as that tree, whatever stops it, where no more brackets are open in
it than there is room for (`readable`).  The proof follows the tree, and `scanItems_of_separated`
is what lists and records have in common.
-/
import DeferredBinding.Document.Toml.Reader
import DeferredBinding.Proofs.Document.Toml.Spelling
import DeferredBinding.Proofs.Document.Whole
import DeferredBinding.Proofs.Pairs

namespace DeferredBinding.Document.Toml

set_option autoImplicit false

/-! ## Paths of one key -/

theorem scanPath_of_writesKey {name : String} {written rest : List Char}
    (writes : WritesKey name written) (stops : Stops rest) :
    scanPath (written ++ rest) = some ({ key := name }, rest.dropWhile isSpace) := by
  have keys : scanKeys ((written ++ rest).length + 1) (written ++ rest) =
      some ([name], rest.dropWhile isSpace) := by
    rw [scanKeys, scanKey_of_writesKey writes stops, Option.bind_some]
    dsimp only
    rw [String.ofList_toList]
    split
    · rename_i more dotted
      exact absurd (stops '.' (by rw [dotted]; rfl)) (by decide)
    · rfl
  rw [scanPath, keys]
  rfl

/-! ## What stands between brackets -/

section

variable {α β : Type}

/-- Things written up to a closing bracket, with commas between them. -/
inductive Separated (writes : α → List Char → Prop) (bracket : Char) :
    List α → List Char → Prop
  | nil {gap : List Char} (between : Gap gap) : Separated writes bracket [] (gap ++ [bracket])
  | last {x : α} {before written after : List Char} (first : Gap before) (head : writes x written)
      (behind : Gap after) :
      Separated writes bracket [x] (before ++ (written ++ (after ++ [bracket])))
  | cons {x : α} {rest : List α} {before written after others : List Char} (first : Gap before)
      (head : writes x written) (behind : Gap after)
      (tail : Separated writes bracket rest others) :
      Separated writes bracket (x :: rest) (before ++ (written ++ (after ++ ',' :: others)))

/-- A character that something between brackets may begin with. -/
def Opens (c : Char) : Prop :=
  Visible c ∧ c ≠ ']' ∧ c ≠ '\x7d'

instance (c : Char) : Decidable (Opens c) :=
  inferInstanceAs (Decidable (_ ∧ _))

def Closes (c : Char) : Prop :=
  c = ']' ∨ c = '\x7d'

/-- What is written is scanned as `x`, whatever stops it. -/
structure Scans (one : Scanner β) (x : β) (written : List Char) : Prop where
  opens : ∃ c tail, written = c :: tail ∧ Opens c
  scans : ∀ rest, Stops rest → one (written ++ rest) = some (x, rest)

theorem Closes.facts {bracket : Char} (closes : Closes bracket) :
    Visible bracket ∧ bracket ∈ wordEnds ∧ bracket ≠ ',' := by
  obtain rfl | rfl := closes <;> decide

theorem Opens.ne {c bracket : Char} (opens : Opens c) (closes : Closes bracket) : c ≠ bracket := by
  obtain ⟨-, noList, noRecord⟩ := opens
  obtain rfl | rfl := closes
  · exact noList
  · exact noRecord

theorem stops_closing {gap : List Char} (between : Gap gap) {bracket : Char}
    (closes : Closes bracket) (rest : List Char) : Stops (gap ++ bracket :: rest) :=
  stops_gap between (stops_cons closes.facts.2.1 rest)

theorem stops_comma {gap : List Char} (between : Gap gap) (rest : List Char) :
    Stops (gap ++ ',' :: rest) :=
  stops_gap between (stops_cons (by decide) rest)

theorem skipBlanks_scans {one : Scanner β} {x : β} {before written : List Char}
    (first : Gap before) (scans : Scans one x written) (rest : List Char) :
    skipBlanks false (before ++ (written ++ rest)) = some (written ++ rest) := by
  obtain ⟨c, tail, rfl, visible, -⟩ := scans.opens
  exact skipBlanks_gap_visible first visible _

variable {one : Scanner β} {x : β} {bracket : Char} {before written after : List Char}

/-- The bracket closes, with nothing or a comma in front of it. -/
theorem scanItems_nil (closes : Closes bracket) (between : Gap before) (fuel : Nat)
    (rest : List Char) :
    scanItems one bracket (fuel + 1) (before ++ bracket :: rest) = some ([], rest) := by
  rw [scanItems, skipBlanks_gap_visible between closes.facts.1, Option.bind_some]
  exact if_pos rfl

/-- A round that takes one thing. -/
theorem scanItems_succ (closes : Closes bracket) (first : Gap before)
    (scans : Scans one x written) (fuel : Nat) {rest : List Char} (stops : Stops rest) :
    scanItems one bracket (fuel + 1) (before ++ (written ++ rest)) =
      (skipBlanks false rest).bind fun after =>
        match after with
        | ',' :: rest =>
            (scanItems one bracket fuel rest).map fun (others, rest) => (x :: others, rest)
        | c :: rest => if c = bracket then some ([x], rest) else none
        | [] => none := by
  have open_ : ¬ (written ++ rest).head? = some bracket := by
    obtain ⟨c, tail, rfl, opens⟩ := scans.opens
    exact fun same => opens.ne closes (Option.some.inj same)
  rw [scanItems, skipBlanks_scans first scans, Option.bind_some, if_neg open_,
    scans.scans rest stops]
  rfl

/-- The bracket closes behind a thing. -/
theorem scanItems_last (closes : Closes bracket) (first : Gap before)
    (scans : Scans one x written) (behind : Gap after) (fuel : Nat) (rest : List Char) :
    scanItems one bracket (fuel + 1) (before ++ (written ++ (after ++ bracket :: rest))) =
      some ([x], rest) := by
  rw [scanItems_succ closes first scans fuel (stops_closing behind closes rest),
    skipBlanks_gap_visible behind closes.facts.1, Option.bind_some]
  obtain rfl | rfl := closes <;> rfl

/-- A comma stands behind a thing. -/
theorem scanItems_cons (closes : Closes bracket) (first : Gap before)
    (scans : Scans one x written) (behind : Gap after) (fuel : Nat) (rest : List Char) :
    scanItems one bracket (fuel + 1) (before ++ (written ++ (after ++ ',' :: rest))) =
      (scanItems one bracket fuel rest).map fun scanned => (x :: scanned.1, scanned.2) := by
  rw [scanItems_succ closes first scans fuel (stops_comma behind rest),
    skipBlanks_gap_visible behind (by decide), Option.bind_some]
  rfl

/-- Things written between brackets are scanned in order. -/
theorem scanItems_of_separated {writes : α → List Char → Prop} (image : α → β)
    (closes : Closes bracket) {xs : List α} {inner : List Char}
    (separated : Separated writes bracket xs inner)
    (scans : ∀ x ∈ xs, ∀ written, writes x written → Scans one (image x) written) {fuel : Nat}
    (enough : inner.length < fuel) (rest : List Char) :
    scanItems one bracket fuel (inner ++ rest) = some (xs.map image, rest) := by
  induction separated generalizing fuel with
  | nil between =>
      obtain ⟨fuel, rfl⟩ := Nat.exists_eq_succ_of_ne_zero (Nat.ne_zero_of_lt enough)
      rw [List.append_assoc]
      exact scanItems_nil closes between fuel rest
  | last first head behind =>
      obtain ⟨fuel, rfl⟩ := Nat.exists_eq_succ_of_ne_zero (Nat.ne_zero_of_lt enough)
      have here := scans _ List.mem_cons_self _ head
      rw [List.append_assoc, List.append_assoc, List.append_assoc]
      exact scanItems_last closes first here behind fuel rest
  | cons first head behind tail ih =>
      obtain ⟨fuel, rfl⟩ := Nat.exists_eq_succ_of_ne_zero (Nat.ne_zero_of_lt enough)
      obtain ⟨here, later⟩ := List.forall_mem_cons.1 scans
      simp only [List.length_append, List.length_cons] at enough
      rw [List.append_assoc, List.append_assoc, List.append_assoc, List.cons_append,
        scanItems_cons closes first (here _ head) behind fuel, ih later (by omega)]
      rfl

end

/-! ## Tables -/

/-- Members in the order of their keys, each put in its place. -/
def inOrder (given : List (String × Node)) : List (String × Node) :=
  Pairs.placeAll given []

theorem inOrder_perm {given : List (String × Node)} (distinct : (given.map Prod.fst).Nodup) :
    (inOrder given).Perm given :=
  Pairs.placeAll_perm distinct

def assignment (m : String × Node) : Assignment :=
  { path := { key := m.1 }, value := m.2 }

/-- What a member stands for in a table. -/
def entry (m : String × Node) : String × Item :=
  (m.1, .value m.2)

theorem members_place (key : String) (item : Item) (entries : Entries) :
    members (Pairs.place key item entries) = Pairs.place key item.toNode (members entries) := by
  induction entries with
  | nil => rfl
  | cons entry rest ih =>
      obtain ⟨name, current⟩ := entry
      rw [Pairs.place, members, Pairs.place]
      split
      · rfl
      · split
        · rfl
        · rw [members, ih]

/-- Values for keys that are distinct and free are all given. -/
theorem assign_members {given : List (String × Node)} {entries : Entries}
    (distinct : (given.map Prod.fst).Nodup)
    (free : ∀ m ∈ given, entries.lookup m.1 = none) :
    assign (given.map assignment) entries =
      some (Pairs.placeAll (given.map entry) entries) := by
  induction given generalizing entries with
  | nil => rfl
  | cons m rest ih =>
      obtain ⟨single, others⟩ := List.nodup_cons.1 distinct
      obtain ⟨here, later⟩ := List.forall_mem_cons.1 free
      have given : (assignment m).apply entries =
          some (Pairs.place m.1 (.value m.2) entries) := by
        show give m.1 m.2 entries = _
        rw [give, here]
      rw [assign, List.map_cons, List.foldlM_cons, given]
      refine ih others fun n member => ?_
      rw [Pairs.lookup_place, if_neg, later n member]
      rintro same
      exact single (same ▸ List.mem_map_of_mem member)

theorem members_placeAll (given : List (String × Node)) (entries : Entries) :
    members (Pairs.placeAll (given.map entry) entries) =
      Pairs.placeAll given (members entries) := by
  induction given generalizing entries with
  | nil => rfl
  | cons m rest ih =>
      refine (ih (Pairs.place m.1 (.value m.2) entries)).trans ?_
      rw [members_place]
      rfl

/-- Assignments to distinct keys make up a record of them. -/
theorem inlineTable_members {given : List (String × Node)}
    (distinct : (given.map Prod.fst).Nodup) :
    inlineTable (given.map assignment) = some (.record (inOrder given) .closed) := by
  rw [inlineTable, assign_members distinct fun _ _ => rfl, Option.map_some, members_placeAll]
  rfl

/-! ## Values -/

/-- A member, with gaps around its equals sign. -/
inductive WritesMember (writes : Node → List Char → Prop) : String × Node → List Char → Prop
  | intro {name : String} {node : Node} {key before after value : List Char}
      (named : WritesKey name key) (front : Gap before) (behind : Gap after)
      (said : writes node value) :
      WritesMember writes (name, node) (key ++ (before ++ '=' :: (after ++ value)))

inductive WritesValue : Node → List Char → Prop
  | yes : WritesValue (.truth true) ['t', 'r', 'u', 'e']
  | no : WritesValue (.truth false) ['f', 'a', 'l', 's', 'e']
  | text {content : String} {written : List Char} (chars : WritesChars content.toList written) :
      WritesValue (.text content) ('"' :: (written ++ ['"']))
  | list {items : List Node} {inner : List Char}
      (separated : Separated WritesValue ']' items inner) :
      WritesValue (.list items .closed) ('[' :: inner)
  | record {given : List (String × Node)} {inner : List Char}
      (distinct : (given.map Prod.fst).Nodup)
      (separated : Separated (WritesMember WritesValue) '\x7d' given inner) :
      WritesValue (.record (inOrder given) .closed) ('\x7b' :: inner)

/-- However it is written, the tree is scanned as a value where there is room for it. -/
def Readable (node : Node) : Prop :=
  ∀ written room, WritesValue node written → node.height ≤ room →
    Scans (scanValue room) node written

/-- A word is scanned as a value where it is one and begins like no other value. -/
theorem scanValue_word {c : Char} {tail : List Char} {node : Node}
    (plain : c ∉ ['[', '\x7b', '"', '\'']) (value : wordValue? (c :: tail) = some node)
    (letters : ∀ d ∈ c :: tail, isSpace d = false ∧ d ∉ wordEnds) (room : Nat)
    {rest : List Char} (stops : Stops rest) :
    scanValue room (c :: tail ++ rest) = some (node, rest) := by
  have scalar : scanScalar (c :: tail ++ rest) = some (node, rest) := by
    rw [scanScalar, scanWord_append letters stops]
    dsimp only
    rw [value]
    rfl
  rw [List.cons_append] at scalar ⊢
  rw [scanValue]
  · exact scalar
  all_goals
    intro _ opening
    obtain rfl := (List.cons.inj opening).1
    exact absurd plain (by decide)

theorem scanValue_text {content : String} {written : List Char}
    (chars : WritesChars content.toList written) (room : Nat) {rest : List Char}
    (stops : Stops rest) :
    scanValue room ('"' :: (written ++ '"' :: rest)) = some (.text content, rest) := by
  have noMark : rest.head? ≠ some '"' := by
    match rest with
    | [] => nofun
    | c :: rest =>
        intro same
        obtain rfl := Option.some.inj same
        exact absurd stops.head (by decide)
  rw [scanValue, scanText_of_writesChars chars noMark, Option.map_some]
  dsimp only
  rw [String.ofList_toList]

/-- A written key begins with a character that something between brackets may begin with. -/
theorem opens_of_writesKey {name : String} {written : List Char} (writes : WritesKey name written) :
    ∃ c tail, written = c :: tail ∧ Opens c := by
  obtain ⟨c, tail, same, rfl | bare⟩ := head_of_writesKey writes
  · exact ⟨'"', tail, same, by decide⟩
  · have others : [' ', '\t', '\n', '\r', '#', '\ufeff'].all (fun d => !isBare d) = true := by
      decide
    refine ⟨c, tail, same, fun blank => ?_, ?_, ?_⟩
    · simpa [bare] using List.all_eq_true.1 others c blank
    · rintro rfl
      exact absurd bare (by decide)
    · rintro rfl
      exact absurd bare (by decide)

/-- An assignment is scanned where what may stand around its equals sign is passed over. -/
theorem scanAssignment_of_writesKey {pass : List Char → Option (List Char)} {one : Scanner Node}
    {name : String} {key before after text rest : List Char} {node : Node}
    (named : WritesKey name key) (stops : Stops (before ++ '=' :: (after ++ (text ++ rest))))
    (front : pass ((before ++ '=' :: (after ++ (text ++ rest))).dropWhile isSpace) =
      some ('=' :: (after ++ (text ++ rest))))
    (behind : pass (after ++ (text ++ rest)) = some (text ++ rest))
    (scans : one (text ++ rest) = some (node, rest)) :
    scanAssignment pass one (key ++ (before ++ '=' :: (after ++ (text ++ rest)))) =
      some (assignment (name, node), rest) := by
  rw [scanAssignment, scanPath_of_writesKey named stops, Option.bind_some]
  show (pass _).bind _ = _
  rw [front, Option.bind_some]
  show ((pass _).bind one).map _ = _
  rw [behind, Option.bind_some, scans]
  rfl

/-- A written member is scanned as an assignment where its value is scanned. -/
theorem scans_member {m : String × Node} {written : List Char} {room : Nat}
    (writes : WritesMember WritesValue m written)
    (value : ∀ written, WritesValue m.2 written → Scans (scanValue room) m.2 written) :
    Scans (scanAssignment (skipBlanks false) (scanValue room)) (assignment m) written := by
  cases writes with
  | intro named front behind said =>
      have scans := value _ said
      refine ⟨?_, fun rest stops => ?_⟩
      · obtain ⟨c, tail, rfl, opens⟩ := opens_of_writesKey named
        exact ⟨c, _, rfl, opens⟩
      · rw [List.append_assoc, List.append_assoc, List.cons_append, List.append_assoc]
        refine scanAssignment_of_writesKey named (stops_gap front (stops_cons (by decide) _)) ?_
          (skipBlanks_scans behind scans rest) (scans.scans rest stops)
        rw [skipBlanks_dropWhile, skipBlanks_gap_visible front (by decide)]

theorem readable_list {items : List Node} {ending : Ending}
    (inside : ∀ item ∈ items, Readable item) : Readable (.list items ending) := by
  intro written room writes low
  cases writes with
  | @list _ inner separated =>
      refine ⟨⟨'[', inner, rfl, by decide⟩, fun rest stops => ?_⟩
      rw [Node.height] at low
      obtain ⟨room, rfl⟩ := Nat.exists_eq_succ_of_ne_zero (Nat.ne_zero_of_lt low)
      have scanned := scanItems_of_separated id (.inl rfl) separated
        (fun item member written writes => inside item member written room writes
          (Nat.le_trans (Node.height_le_heightList member) (Nat.le_of_succ_le_succ low)))
        (show inner.length < (inner ++ rest).length + 1 by rw [List.length_append]; omega) rest
      rw [List.cons_append, scanValue, scanned, List.map_id]
      rfl

theorem readable_record {members : List (String × Node)} {ending : Ending}
    (inside : ∀ m ∈ members, Readable m.2) : Readable (.record members ending) := by
  intro written room writes low
  cases writes with
  | @record given inner distinct separated =>
      refine ⟨⟨'\x7b', inner, rfl, by decide⟩, fun rest stops => ?_⟩
      rw [Node.height] at low
      obtain ⟨room, rfl⟩ := Nat.exists_eq_succ_of_ne_zero (Nat.ne_zero_of_lt low)
      have scanned := scanItems_of_separated assignment (.inr rfl) separated
        (fun m member written writes => scans_member writes fun text said => by
          have there : m ∈ inOrder given := (inOrder_perm distinct).mem_iff.2 member
          exact inside m there text room said
            (Nat.le_trans (Node.height_le_heightRecord there) (Nat.le_of_succ_le_succ low)))
        (show inner.length < (inner ++ rest).length + 1 by rw [List.length_append]; omega) rest
      rw [List.cons_append, scanValue, scanned, Option.bind_some]
      dsimp only
      rw [inlineTable_members distinct]
      rfl

mutual

/-- However it is written, a value is scanned as the tree that it stands for. -/
theorem readable : ∀ node : Node, Readable node
  | .list items _ => readable_list (readableList items)
  | .record members _ => readable_record (readableRecord members)
  | .truth true => fun _ room writes _ => by
      cases writes
      exact ⟨⟨'t', _, rfl, by decide⟩, fun rest stops =>
        scanValue_word (by decide) rfl (by simp [isSpace, wordEnds]) room stops⟩
  | .truth false => fun _ room writes _ => by
      cases writes
      exact ⟨⟨'f', _, rfl, by decide⟩, fun rest stops =>
        scanValue_word (by decide) rfl (by simp [isSpace, wordEnds]) room stops⟩
  | .text _ => fun _ room writes _ => by
      cases writes with
      | @text content text chars =>
          refine ⟨⟨'"', _, rfl, by decide⟩, fun rest stops => ?_⟩
          rw [List.cons_append, List.append_assoc]
          exact scanValue_text chars room stops
  | .null | .number _ | .moment | .unreadable | .fault => fun _ _ writes => nomatch writes

theorem readableList : ∀ items : List Node, ∀ item ∈ items, Readable item
  | [] => nofun
  | first :: rest => List.forall_mem_cons.2 ⟨readable first, readableList rest⟩

theorem readableRecord : ∀ members : List (String × Node), ∀ m ∈ members, Readable m.2
  | [] => nofun
  | (_, value) :: rest => List.forall_mem_cons.2 ⟨readable value, readableRecord rest⟩

end

/-! ## Trees that can be written -/

def Writable (node : Node) : Prop :=
  ∃ written, WritesValue node written

theorem writable_truth : ∀ value : Bool, Writable (.truth value)
  | true => ⟨_, .yes⟩
  | false => ⟨_, .no⟩

theorem writable_text (content : String) : Writable (.text content) := by
  obtain ⟨written, chars⟩ := exists_writesChars content.toList
  exact ⟨_, .text chars⟩

theorem exists_separated {α : Type} {writes : α → List Char → Prop} (bracket : Char) {xs : List α}
    (each : ∀ x ∈ xs, ∃ written, writes x written) :
    ∃ inner, Separated writes bracket xs inner := by
  induction xs with
  | nil => exact ⟨_, .nil .nil⟩
  | cons x rest ih =>
      obtain ⟨⟨written, head⟩, later⟩ := List.forall_mem_cons.1 each
      obtain ⟨inner, tail⟩ := ih later
      exact ⟨_, .cons .nil head .nil tail⟩

theorem writable_list {items : List Node} (each : ∀ item ∈ items, Writable item) :
    Writable (.list items .closed) := by
  obtain ⟨inner, separated⟩ := exists_separated ']' each
  exact ⟨_, .list separated⟩

theorem exists_writesMember {m : String × Node} (value : Writable m.2) :
    ∃ written, WritesMember WritesValue m written := by
  obtain ⟨key, named⟩ := exists_writesKey m.1
  obtain ⟨text, said⟩ := value
  exact ⟨_, .intro named .nil .nil said⟩

theorem writable_record {given : List (String × Node)} (distinct : (given.map Prod.fst).Nodup)
    (each : ∀ m ∈ given, Writable m.2) : Writable (.record (inOrder given) .closed) := by
  obtain ⟨inner, separated⟩ :=
    exists_separated '\x7d' fun m member => exists_writesMember (each m member)
  exact ⟨_, .record distinct separated⟩

end DeferredBinding.Document.Toml
