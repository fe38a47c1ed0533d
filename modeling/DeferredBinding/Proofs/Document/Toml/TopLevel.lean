/-
# Proofs.Document.Toml.TopLevel -- what stands under the keys of a text

A text is outlined by its lines: the assignments before the first header, and the sections
(`outline?`).  Each of them is about one key of the record that the text makes, the first on its
path.  An `Element` of a list of tables is the section that opens it and those that go on inside
of it; what it makes is what these sections would make as a text of their own.

Assignment by assignment and section by section the entries change under one key only
(`Assignment.gives_of_apply`, `Section.grows_of_apply`).  So what stands under a key in the end is
nothing, where nothing is about it; the value of one assignment; the elements that the sections
about it fall into; or else a table (`Under`, `reached_document`).
-/
import Mathlib.Data.List.Forall2
import DeferredBinding.Document.Toml.Reader
import DeferredBinding.Proofs.Pairs

namespace DeferredBinding.Document.Toml

set_option autoImplicit false

/-- The assignments before the first header and the sections of a text, if it is sound line by
line. -/
def outline? (text : String) : Option (List Assignment × List Section) :=
  (scanLines ((withoutMark text.toList).length + 1) (withoutMark text.toList)).map sections

theorem read_eq (text : String) :
    read text = (outline? text).bind fun outline => document outline.1 outline.2 := by
  rw [outline?, Option.bind_map]
  rfl

def KeyPath.first (path : KeyPath) : String :=
  path.parents.headD path.key

/-- The key that an assignment is about. -/
def Assignment.first (a : Assignment) : String :=
  a.path.first

def Section.first (s : Section) : String :=
  s.path.first

/-- The section as it would stand in a text that makes only what its first key leads to. -/
def Section.inside (s : Section) : Section :=
  { s with path := { s.path with parents := s.path.parents.tail } }

/-! ## Elements -/

/-- An element of a list of tables. -/
structure Element where
  opening : Section
  within : List Section

namespace Element

def sections (e : Element) : List Section :=
  e.opening :: e.within

/-- What stands in an element. -/
def entries? (e : Element) : Option Entries :=
  (assign e.opening.assignments []).bind fun start =>
    (e.within.map Section.inside).foldlM (fun root (s : Section) => s.apply root) start

def node? (e : Element) : Option Node :=
  document e.opening.assignments (e.within.map Section.inside)

/-- An element of the list under a key: its opening is another one there, and the other sections
go on through that key. -/
structure Of (key : String) (e : Element) : Prop where
  repeated : e.opening.repeated = true
  opens : e.opening.path = { key }
  within : ∀ s ∈ e.within, s.path.parents.head? = some key

theorem node?_eq (e : Element) :
    e.node? = e.entries?.map fun entries => .record (members entries) .closed := by
  rw [node?, document, entries?, Option.map_bind]
  rfl

end Element

/-! ## One assignment, one section -/

/-- What an assignment makes of what stood under its first key. -/
inductive Assignment.Gives (a : Assignment) : Option Item → Item → Prop
  | value (plain : a.path.parents = []) : Gives a none (.value a.value)
  | table {found : Option Item} {origin : Origin} {inner : Entries} :
      Gives a found (.table origin inner)
  | inside {complete : List Node} {last changed : Entries} :
      Gives a (some (.tables complete last)) (.tables complete changed)

theorem Assignment.gives_of_apply {a : Assignment} {entries next : Entries}
    (applied : a.apply entries = some next) :
    ∃ item, next = Pairs.place a.first item entries ∧ a.Gives (entries.lookup a.first) item := by
  obtain ⟨⟨parents, key⟩, node⟩ := a
  cases parents with
  | nil =>
      show ∃ item, next = Pairs.place key item entries ∧ _
      have applied : give key node entries = some next := applied
      unfold give at applied
      split at applied
      · rename_i free
        cases applied
        refine ⟨_, rfl, ?_⟩
        show Assignment.Gives _ (entries.lookup key) _
        rw [free]
        exact .value rfl
      · cases applied
  | cons first rest =>
      show ∃ item, next = Pairs.place first item entries ∧
        Assignment.Gives _ (entries.lookup first) item
      have applied : descend .dotted
          (fun origin inner => if origin = .dotted then give key node inner else none)
          (first :: rest) .opened entries = some next := applied
      rw [descend] at applied
      split at applied
      · obtain ⟨inner, -, rfl⟩ := Option.map_eq_some_iff.1 applied
        exact ⟨_, rfl, .table⟩
      · cases applied
      · split at applied
        · cases applied
        · obtain ⟨inner, -, rfl⟩ := Option.map_eq_some_iff.1 applied
          exact ⟨_, rfl, .table⟩
      · rename_i found
        obtain ⟨changed, -, rfl⟩ := Option.map_eq_some_iff.1 applied
        refine ⟨_, rfl, ?_⟩
        rw [found]
        exact .inside

/-- What a section makes of what stood under its first key. -/
inductive Section.Grows (s : Section) : Option Item → Item → Prop
  | opening {entries : Entries} (repeated : s.repeated = true) (plain : s.path.parents = [])
      (filled : assign s.assignments [] = some entries) : Grows s none (.tables [] entries)
  | another {complete : List Node} {last entries : Entries} (repeated : s.repeated = true)
      (plain : s.path.parents = []) (filled : assign s.assignments [] = some entries) :
      Grows s (some (.tables complete last))
        (.tables (.record (members last) .closed :: complete) entries)
  | inside {complete : List Node} {last changed : Entries}
      (within : s.path.parents.head? = some s.first) (applied : s.inside.apply last = some changed) :
      Grows s (some (.tables complete last)) (.tables complete changed)
  | table {found : Option Item} {origin : Origin} {inner : Entries} :
      Grows s found (.table origin inner)

theorem Section.grows_of_openElement {s : Section} {root next : Entries}
    (repeated : s.repeated = true) (plain : s.path.parents = [])
    (applied : s.openElement root = some next) :
    ∃ item, next = Pairs.place s.path.key item root ∧ s.Grows (root.lookup s.path.key) item := by
  unfold Section.openElement at applied
  split at applied
  · rename_i free
    obtain ⟨entries, filled, rfl⟩ := Option.map_eq_some_iff.1 applied
    exact ⟨_, rfl, free ▸ .opening repeated plain filled⟩
  · rename_i found
    obtain ⟨entries, filled, rfl⟩ := Option.map_eq_some_iff.1 applied
    exact ⟨_, rfl, found ▸ .another repeated plain filled⟩
  · cases applied

theorem Section.grows_of_openTable {s : Section} {root next : Entries}
    (applied : s.openTable root = some next) :
    ∃ item, next = Pairs.place s.path.key item root ∧ s.Grows (root.lookup s.path.key) item := by
  unfold Section.openTable at applied
  split at applied
  · obtain ⟨inner, -, rfl⟩ := Option.map_eq_some_iff.1 applied
    exact ⟨_, rfl, .table⟩
  · obtain ⟨inner, -, rfl⟩ := Option.map_eq_some_iff.1 applied
    exact ⟨_, rfl, .table⟩
  · cases applied

theorem Section.grows_of_apply {s : Section} {root next : Entries}
    (applied : s.apply root = some next) :
    ∃ item, next = Pairs.place s.first item root ∧ s.Grows (root.lookup s.first) item := by
  obtain ⟨repeated, ⟨parents, key⟩, assignments⟩ := s
  cases parents with
  | nil =>
      cases repeated with
      | true => exact Section.grows_of_openElement rfl rfl applied
      | false => exact Section.grows_of_openTable applied
  | cons first rest =>
      show ∃ item, next = Pairs.place first item root ∧ Section.Grows _ (root.lookup first) item
      unfold Section.apply at applied
      rw [descend] at applied
      split at applied
      · obtain ⟨inner, -, rfl⟩ := Option.map_eq_some_iff.1 applied
        exact ⟨_, rfl, .table⟩
      · cases applied
      · split at applied
        · rename_i dotted
          exact absurd dotted.1 nofun
        · obtain ⟨inner, -, rfl⟩ := Option.map_eq_some_iff.1 applied
          exact ⟨_, rfl, .table⟩
      · rename_i found
        obtain ⟨changed, inside, rfl⟩ := Option.map_eq_some_iff.1 applied
        exact ⟨_, rfl, found ▸ .inside rfl inside⟩

/-! ## Keys -/

/-- What stands under a key once these assignments and sections about it were carried out. -/
inductive Under (key : String) : List Assignment → List Section → Option Item → Prop
  | nothing : Under key [] [] none
  | value {a : Assignment} (plain : a.path = { key }) : Under key [a] [] (some (.value a.value))
  | tables {done : List Element} {last : Element} {complete : List Node} {entries : Entries}
      (all : ∀ e ∈ done ++ [last], e.Of key)
      (whole : List.Forall₂ (fun e node => e.node? = some node) done complete.reverse)
      (growing : last.entries? = some entries) :
      Under key [] ((done ++ [last]).flatMap Element.sections) (some (.tables complete entries))
  | table {given : List Assignment} {parts : List Section} {origin : Origin} {inner : Entries} :
      Under key given parts (some (.table origin inner))

/-- Where nothing stands, nothing was said. -/
theorem Under.eq_nil {key : String} {given : List Assignment} {parts : List Section}
    (under : Under key given parts none) : given = [] ∧ parts = [] := by
  cases under with
  | nothing => exact ⟨rfl, rfl⟩

/-- Apart from tables, assignments and sections do not go together, and there is one assignment
at most. -/
theorem Under.apart {key : String} {given : List Assignment} {parts : List Section}
    {found : Option Item} (under : Under key given parts found)
    (noTable : ∀ origin inner, found ≠ some (.table origin inner)) :
    given.length ≤ 1 ∧ (given = [] ∨ parts = []) := by
  cases under with
  | nothing => exact ⟨Nat.zero_le 1, .inl rfl⟩
  | value => exact ⟨Nat.le_refl 1, .inr rfl⟩
  | tables => exact ⟨Nat.zero_le 1, .inl rfl⟩
  | table => exact absurd rfl (noTable _ _)

def givenFor (key : String) (given : List Assignment) : List Assignment :=
  given.filter fun a => a.first == key

def partsFor (key : String) (parts : List Section) : List Section :=
  parts.filter fun s => s.first == key

theorem givenFor_eq_nil_iff {key : String} {given : List Assignment} :
    givenFor key given = [] ↔ key ∉ given.map Assignment.first := by
  simp [givenFor, List.filter_eq_nil_iff]

theorem partsFor_eq_nil_iff {key : String} {parts : List Section} :
    partsFor key parts = [] ↔ key ∉ parts.map Section.first := by
  simp [partsFor, List.filter_eq_nil_iff]

/-- Under every key stands what the assignments and sections about it make. -/
def Reached (given : List Assignment) (parts : List Section) (entries : Entries) : Prop :=
  ∀ key, Under key (givenFor key given) (partsFor key parts) (entries.lookup key)

section

variable {given : List Assignment} {parts : List Section} {entries next : Entries}

theorem path_of_plain {path : KeyPath} (plain : path.parents = []) : path = { key := path.first } := by
  obtain ⟨parents, key⟩ := path
  cases plain
  rfl

/-- Before any section there are no lists of tables. -/
theorem Reached.assignment {a : Assignment} (reached : Reached given [] entries)
    (applied : a.apply entries = some next) : Reached (given ++ [a]) [] next := by
  obtain ⟨item, rfl, gives⟩ := Assignment.gives_of_apply applied
  intro key
  have under := reached key
  rw [Pairs.lookup_place, givenFor, List.filter_append]
  by_cases same : key = a.first
  · subst same
    rw [if_pos rfl, List.filter_cons_of_pos (by simp), List.filter_nil]
    generalize entries.lookup a.first = found at gives under
    rw [givenFor] at under
    generalize given.filter (fun b => b.first == a.first) = others at under
    generalize empty : partsFor a.first [] = about at under
    cases gives with
    | value plain =>
        cases under with
        | nothing => exact .value (path_of_plain plain)
    | table => exact .table
    | inside =>
        -- it takes a section to begin a list of tables, and there was none yet
        cases under with
        | tables => simp [partsFor, Element.sections] at empty
  · rw [if_neg same, List.filter_cons_of_neg (by simpa using Ne.symm same), List.filter_nil,
      List.append_nil]
    exact under

theorem reached_nothing : Reached [] [] [] :=
  fun _ => .nothing

theorem Reached.assign (reached : Reached given [] entries) {more : List Assignment}
    (assigned : assign more entries = some next) : Reached (given ++ more) [] next := by
  induction more generalizing given entries with
  | nil =>
      cases assigned
      rw [List.append_nil]
      exact reached
  | cons a rest ih =>
      obtain ⟨middle, applied, onward⟩ := Option.bind_eq_some_iff.1 assigned
      have ended := ih (reached.assignment applied) onward
      rwa [List.append_assoc] at ended

/-- A section opens an element or goes on in the last one. -/
theorem Under.section {s : Section} {given : List Assignment} {parts : List Section}
    {found : Option Item} {item : Item} (under : Under s.first given parts found)
    (grows : s.Grows found item) : Under s.first given (parts ++ [s]) (some item) := by
  cases grows with
  | opening repeated plain filled =>
      cases under with
      | nothing =>
          refine @Under.tables _ [] ⟨s, []⟩ [] _ ?_ .nil ?_
          · exact List.forall_mem_singleton.2 ⟨repeated, path_of_plain plain, nofun⟩
          · rw [Element.entries?, filled]
            rfl
  | @another complete last entries repeated plain filled =>
      cases under with
      | @tables done open_ _ _ all whole growing =>
          have closed : open_.node? = some (.record (members last) .closed) := by
            rw [Element.node?_eq, growing]
            rfl
          have sections : ((done ++ [open_]) ++ [Element.mk s []]).flatMap Element.sections =
              (done ++ [open_]).flatMap Element.sections ++ [s] := by
            rw [List.flatMap_append]
            rfl
          rw [← sections]
          refine .tables (List.forall_mem_append.2 ⟨all, ?_⟩) ?_ ?_
          · exact List.forall_mem_singleton.2 ⟨repeated, path_of_plain plain, nofun⟩
          · rw [List.reverse_cons]
            exact List.rel_append whole (.cons closed .nil)
          · rw [Element.entries?, filled]
            rfl
  | @inside complete last changed within applied =>
      cases under with
      | @tables done open_ _ _ all whole growing =>
          obtain ⟨before, here⟩ := List.forall_mem_append.1 all
          obtain ⟨repeated, opens, others⟩ := List.forall_mem_singleton.1 here
          have sections : (done ++ [Element.mk open_.opening (open_.within ++ [s])]).flatMap
              Element.sections = (done ++ [open_]).flatMap Element.sections ++ [s] := by
            simp [Element.sections]
          rw [← sections]
          refine .tables (List.forall_mem_append.2 ⟨before, ?_⟩) whole ?_
          · refine List.forall_mem_singleton.2 ⟨repeated, opens, ?_⟩
            exact List.forall_mem_append.2 ⟨others, List.forall_mem_singleton.2 within⟩
          · obtain ⟨start, assigned, folded⟩ := Option.bind_eq_some_iff.1 growing
            rw [Element.entries?, assigned, Option.bind_some, List.map_append, List.foldlM_append,
              folded]
            show (s.inside.apply last).bind some = _
            rw [applied]
            rfl
  | table => exact .table

theorem Reached.section {s : Section} (reached : Reached given parts entries)
    (applied : s.apply entries = some next) : Reached given (parts ++ [s]) next := by
  obtain ⟨item, rfl, grows⟩ := Section.grows_of_apply applied
  intro key
  have under := reached key
  rw [Pairs.lookup_place, partsFor, List.filter_append]
  by_cases same : key = s.first
  · subst same
    rw [if_pos rfl, List.filter_cons_of_pos (by simp), List.filter_nil]
    exact under.section grows
  · rw [if_neg same, List.filter_cons_of_neg (by simpa using Ne.symm same), List.filter_nil,
      List.append_nil]
    exact under

theorem Reached.sections (reached : Reached given parts entries) {more : List Section}
    (applied : more.foldlM (fun root (s : Section) => s.apply root) entries = some next) :
    Reached given (parts ++ more) next := by
  induction more generalizing parts entries with
  | nil =>
      cases applied
      rw [List.append_nil]
      exact reached
  | cons s rest ih =>
      obtain ⟨middle, first, onward⟩ := Option.bind_eq_some_iff.1 applied
      have ended := ih (reached.section first) onward
      rwa [List.append_assoc] at ended

end

/-- **The record of a text holds under each key what the lines about that key make.** -/
theorem reached_document {head : List Assignment} {parts : List Section} {root : Node}
    (made : document head parts = some root) :
    ∃ entries, root = .record (members entries) .closed ∧ Reached head parts entries := by
  obtain ⟨start, assigned, rest⟩ := Option.bind_eq_some_iff.1 made
  obtain ⟨entries, applied, rfl⟩ := Option.map_eq_some_iff.1 rest
  exact ⟨entries, rfl, (reached_nothing.assign assigned).sections applied⟩

end DeferredBinding.Document.Toml
