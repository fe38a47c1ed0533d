/-
# Document.Node -- a document as far as it can be read

A reader that works in one pass meets the faults of a text and of its data in the
order in which they stand.  So a text is first made into a tree that goes as far
as the text is sound: a list or record that breaks off is marked as not closed,
and a `fault` stands where a value should be.  Whoever goes through the tree in
order then meets the first fault of either kind first.

Two ways of going through a value without keeping it are given: `buffer` takes it
in whole, `skip` passes over it.  Skipping is more lenient: a token that is
`unreadable` as a value may still be passed over.
-/
import DeferredBinding.Document.Fault

namespace DeferredBinding.Document

set_option autoImplicit false

/-- How a list or record ends. -/
inductive Ending where
  | closed
  /-- It cannot be read on, but it can be passed over. -/
  | passable
  | brokenOff
  deriving DecidableEq, Repr

/-- How large an integer is.  All other numbers count as `signed`. -/
inductive Width where
  /-- It is one of 64 bits with a sign. -/
  | signed
  /-- It is one of 64 bits without a sign only. -/
  | unsigned
  /-- It has no place in 64 bits. -/
  | wide
  deriving DecidableEq, Repr

/-- A value of a document, as far as it can be read. -/
inductive Node where
  | null
  | truth (value : Bool)
  /-- A number; nothing of a number matters but its width. -/
  | number (width : Width)
  | text (value : String)
  /-- A date or time of day, which counts as a record of one reserved member. -/
  | moment
  | list (items : List Node) (ending : Ending)
  | record (members : List (String × Node)) (ending : Ending)
  /-- A well-formed token without a value. -/
  | unreadable
  /-- Where a value should stand and none does. -/
  | fault
  deriving Repr, Inhabited

/-- The key of the only member of a `moment`. -/
def momentKey : String := "$__toml_private_datetime"

/-- What taking in or passing over leaves: nothing, or a fault. -/
abbrev Passage := Except Fault Unit

namespace Ending

/-- Reading to the end. -/
def read : Ending → Passage
  | .closed => .ok ()
  | .passable => .error .malformed
  | .brokenOff => .error .malformed

/-- Passing over the end. -/
def skip : Ending → Passage
  | .closed => .ok ()
  | .passable => .ok ()
  | .brokenOff => .error .malformed

end Ending

/-- The room inside one more bracket, if there is any.  Without a limit there always
is. -/
def inner (room : Option Nat) : Except Fault (Option Nat) :=
  match room with
  | none => .ok none
  | some 0 => .error .malformed
  | some (n + 1) => .ok (some n)

namespace Node

mutual

/-- Take in a value whole, with room for so many brackets inside each other. -/
def buffer (room : Option Nat) : Node → Passage
  | .number .wide => .error .invalidType
  | .list items ending => (inner room).bind fun r => bufferList r items ending
  | .record members ending => (inner room).bind fun r => bufferRecord r members ending
  | .unreadable => .error .malformed
  | .fault => .error .malformed
  | _ => .ok ()

/-- Take in the items of a list, then its end. -/
def bufferList (room : Option Nat) : List Node → Ending → Passage
  | [], ending => ending.read
  | item :: rest, ending => (buffer room item).bind fun _ => bufferList room rest ending

/-- Take in the members of a record, then its end. -/
def bufferRecord (room : Option Nat) : List (String × Node) → Ending → Passage
  | [], ending => ending.read
  | (_, value) :: rest, ending => (buffer room value).bind fun _ => bufferRecord room rest ending

end

mutual

def skip : Node → Passage
  | .list items ending => skipList items ending
  | .record members ending => skipRecord members ending
  | .fault => .error .malformed
  | _ => .ok ()

def skipList : List Node → Ending → Passage
  | [], ending => ending.skip
  | item :: rest, ending => (skip item).bind fun _ => skipList rest ending

def skipRecord : List (String × Node) → Ending → Passage
  | [], ending => ending.skip
  | (_, value) :: rest, ending => (skip value).bind fun _ => skipRecord rest ending

end

end Node

end DeferredBinding.Document
