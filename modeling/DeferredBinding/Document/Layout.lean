/-
# Document.Layout -- records read by the names of their fields

A layout lists the fields of a record.  `survey` goes through the members in the
order in which they stand and reports the first fault; what passed the survey is
then taken out by name, whatever the order.

A list may stand for a record: its items are the values of the fields in the order
of the layout.  Then what is missing makes the list too short.

In a tagged record one member, the tag, names the layout of the others.  It may
stand anywhere among them, so the others are first taken in whole.
-/
import DeferredBinding.Document.Decoder

namespace DeferredBinding.Document

set_option autoImplicit false

abbrev Members := List (String × Node)

/-- A field, and what taking out its value says. -/
structure Field where
  name : String
  check : Node → Passage

namespace Field

variable {α : Type}

/-- The field whose value `decode` takes out. -/
def of (name : String) (decode : Decoder α) : Field :=
  { name, check := decode.check }

/-- The value of a field that must be there. -/
def required (members : Members) (missing : String → Fault) (name : String)
    (decode : Decoder α) : Except Fault α :=
  match members.lookup name with
  | some node => decode node
  | none => .error (missing name)

/-- The value of a field that may be left out. -/
def withDefault (members : Members) (name : String) (decode : Decoder α) (default : α) :
    Except Fault α :=
  match members.lookup name with
  | some node => decode node
  | none => .ok default

end Field

/-- What to do about a member that is no field. -/
abbrev Stranger := String → Node → Passage

def skipped : Stranger := fun _ node => node.skip

/-- Strangers do not matter, having been taken in before. -/
def ignored : Stranger := fun _ _ => .ok ()

/-- Go through the members in order, the fields in `seen` having been met before. -/
def survey (fields : List Field) (stranger : Stranger) (seen : List String) : Members → Passage
  | [] => .ok ()
  | (key, node) :: rest => do
      match fields.find? fun field => field.name == key with
      | none =>
          stranger key node
          survey fields stranger seen rest
      | some field =>
          if key ∈ seen then .error (.duplicateField key)
          field.check node
          survey fields stranger (key :: seen) rest

/-- The fields of a record, and how a value is built of them. -/
structure Layout (α : Type) where
  fields : List Field
  build : Members → (missing : String → Fault) → Except Fault α

namespace Layout

variable {α : Type}

def names (layout : Layout α) : List String :=
  layout.fields.map Field.name

def ofMembers (layout : Layout α) (stranger : Stranger) (members : Members) (ending : Ending) :
    Except Fault α := do
  survey layout.fields stranger [] members
  ending.read
  layout.build members .missingField

/-- Read a list that stands for a record; `surplus` says what more items come to. -/
def ofItems (layout : Layout α) (surplus : Passage) (items : List Node) (ending : Ending) :
    Except Fault α := do
  let members := layout.names.zip items
  survey layout.fields ignored [] members
  if items.length ≤ layout.fields.length then ending.read else surplus
  layout.build members fun _ => .invalidLength

end Layout

/-- The members of a node that counts as a record. -/
def Node.members? : Node → Option (Members × Ending)
  | .record members ending => some (members, ending)
  | .moment => some ([(momentKey, .text "")], .closed)
  | _ => none

/-- A record as it is laid out, or the list that stands for it. -/
def Layout.decoder {α : Type} (layout : Layout α) (stranger : Stranger) (surplus : Passage) :
    Decoder α := fun node =>
  match node.members? with
  | some (members, ending) => layout.ofMembers stranger members ending
  | none =>
      match node with
      | .list items ending => layout.ofItems surplus items ending
      | _ => .error (Decoder.unexpected node)

/-! ## Tagged records -/

/-- The layouts of a record by the value of its tag. -/
structure Tagged (α : Type) where
  tag : String
  variants : List (String × Layout α)

namespace Tagged

variable {α : Type}

/-- The layout that a value of the tag names.  An integer that needs all 64 bits is
taken for the number of a layout, which is never that large. -/
def variant (tagged : Tagged α) : Node → Except Fault (Layout α)
  | .number .unsigned => .error .malformed
  | node => (Decoder.text node).bind (choose tagged.variants)

/-- Take in the members in order, looking for the tag. -/
def takeIn (tagged : Tagged α) (room : Option Nat) (found : Option (Layout α)) :
    Members → Except Fault (Option (Layout α))
  | [] => .ok found
  | (key, node) :: rest => do
      if key = tagged.tag then
        if found.isSome then .error (.duplicateField key)
        takeIn tagged room (some (← tagged.variant node)) rest
      else
        node.buffer room
        takeIn tagged room found rest

def ofMembers (tagged : Tagged α) (room : Option Nat) (members : Members) (ending : Ending) :
    Except Fault α := do
  let found ← tagged.takeIn room none members
  ending.read
  match found with
  | none => .error (.missingField tagged.tag)
  | some layout =>
      layout.ofMembers ignored (members.filter fun m => m.1 != tagged.tag) .closed

/-- Read a list that stands for a tagged record: the tag, then the fields. -/
def ofItems (tagged : Tagged α) (room : Option Nat) (items : List Node) (ending : Ending) :
    Except Fault α :=
  match items with
  | [] => ending.read.bind fun _ => .error (.missingField tagged.tag)
  | first :: rest => do
      let layout ← tagged.variant first
      Node.bufferList room rest ending
      layout.ofItems (.error .invalidLength) rest .closed

/-- A tagged record, or the list that stands for it. -/
def decoder (tagged : Tagged α) (room : Option Nat) : Decoder α := fun node =>
  match node.members? with
  | some (members, ending) => tagged.ofMembers room members ending
  | none =>
      match node with
      | .list items ending => tagged.ofItems room items ending
      | _ => .error (Decoder.unexpected node)

end Tagged

end DeferredBinding.Document
