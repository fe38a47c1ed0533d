/-
# Document.Toml.Table -- tables put together from sections

A text consists of sections: the assignments before the first header, and those
under each header.  A header opens the table at its path, or one more element of
the list of tables there; an assignment gives a value to the key at its path
inside the open table.  Tables on the way to a path come into being as needed.

Nothing is given twice.  A table may be opened by one header, before or after its
subtables; a value, the tables inside of it included, is complete as it stands;
and what dotted keys have begun only dotted keys may go on with.  A table on the way
of a header counts as begun by dotted keys once one has gone through it.

The entries of a table stand in the order of their keys, whatever the order in which
they are given.
-/
import DeferredBinding.Document.Node
import DeferredBinding.Pairs

namespace DeferredBinding.Document.Toml

set_option autoImplicit false

/-- The names that lead to a place: through which tables, and to which key. -/
structure KeyPath where
  parents : List String := []
  key : String
  deriving DecidableEq, Repr

/-- How a table came into being: opened by a header, on the way of a header, or on
the way of a dotted key. -/
inductive Origin where
  | opened
  | implied
  | dotted
  deriving DecidableEq, Repr

/-- What stands under a key so far.  A list of tables consists of the elements that
are complete, in reverse, and the last one, which is open. -/
inductive Item where
  | value (node : Node)
  | table (origin : Origin) (entries : List (String × Item))
  | tables (complete : List Node) (last : List (String × Item))
  deriving Repr

/-- What stands in a table so far, in the order of the keys. -/
abbrev Entries := List (String × Item)

mutual

def Item.toNode : Item → Node
  | .value node => node
  | .table _ entries => .record (members entries) .closed
  | .tables complete last => .list (complete.reverse ++ [.record (members last) .closed]) .closed

def members : List (String × Item) → List (String × Node)
  | [] => []
  | (key, item) :: rest => (key, item.toNode) :: members rest

end

/-- How a table counts as begun that came into being by `origin` and that a path of
kind `way` goes through. -/
def Origin.after (origin way : Origin) : Origin :=
  if way = .dotted then .dotted else origin

/-- Change the table that a path of tables leads to, which may depend on how it came
into being.  Tables on the way that are not there yet come into being by `way`; a
dotted key goes through no table that a header opened. -/
def descend (way : Origin) (change : Origin → Entries → Option Entries) :
    List String → Origin → Entries → Option Entries
  | [], origin, entries => change origin entries
  | key :: rest, _, entries =>
      match entries.lookup key with
      | none => (descend way change rest way []).map fun inner =>
          Pairs.place key (.table way inner) entries
      | some (.value _) => none
      | some (.table origin inner) =>
          if way = .dotted ∧ origin = .opened then none
          else (descend way change rest (origin.after way) inner).map fun changed =>
            Pairs.place key (.table (origin.after way) changed) entries
      | some (.tables complete last) =>
          (descend way change rest .opened last).map fun changed =>
            Pairs.place key (.tables complete changed) entries

/-- A value under a key that is free. -/
def give (key : String) (node : Node) (entries : Entries) : Option Entries :=
  match entries.lookup key with
  | none => some (Pairs.place key (.value node) entries)
  | some _ => none

/-- A value given to the key at a path. -/
structure Assignment where
  path : KeyPath
  value : Node
  deriving Repr

/-- Carry out an assignment in an open table. -/
def Assignment.apply (a : Assignment) (entries : Entries) : Option Entries :=
  match a.path.parents with
  | [] => give a.path.key a.value entries
  | parents =>
      descend .dotted
        (fun origin inner => if origin = .dotted then give a.path.key a.value inner else none)
        parents .opened entries

def assign (assignments : List Assignment) (entries : Entries) : Option Entries :=
  assignments.foldlM (fun entries (a : Assignment) => a.apply entries) entries

/-- A header and the assignments under it. -/
structure Section where
  /-- Whether the header opens an element of a list of tables. -/
  repeated : Bool
  path : KeyPath
  assignments : List Assignment
  deriving Repr

namespace Section

/-- Open a table under a key and fill it. -/
def openTable (s : Section) (entries : Entries) : Option Entries :=
  match entries.lookup s.path.key with
  | none => (assign s.assignments []).map fun filled =>
      Pairs.place s.path.key (.table .opened filled) entries
  | some (.table .implied inner) => (assign s.assignments inner).map fun filled =>
      Pairs.place s.path.key (.table .opened filled) entries
  | some _ => none

/-- Open one more element of the list of tables under a key and fill it. -/
def openElement (s : Section) (entries : Entries) : Option Entries :=
  match entries.lookup s.path.key with
  | none => (assign s.assignments []).map fun filled =>
      Pairs.place s.path.key (.tables [] filled) entries
  | some (.tables complete last) => (assign s.assignments []).map fun filled =>
      Pairs.place s.path.key (.tables (.record (members last) .closed :: complete) filled) entries
  | some _ => none

def apply (s : Section) (root : Entries) : Option Entries :=
  descend .implied (fun _ entries => if s.repeated then s.openElement entries else s.openTable entries)
    s.path.parents .opened root

end Section

/-- The record that assignments alone make. -/
def inlineTable (assignments : List Assignment) : Option Node :=
  (assign assignments []).map fun entries => .record (members entries) .closed

/-- The record that a text makes: the assignments before the first header, then its
sections in order. -/
def document (head : List Assignment) (sections : List Section) : Option Node :=
  (assign head []).bind fun start =>
    (sections.foldlM (fun root (s : Section) => s.apply root) start).map fun entries =>
      .record (members entries) .closed

end DeferredBinding.Document.Toml
