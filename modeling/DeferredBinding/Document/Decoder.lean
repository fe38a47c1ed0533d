/-
# Document.Decoder -- data taken out of a tree

A decoder takes a value out of a node or says what is wrong with it.  It meets the
faults of the text on its way: where no value could be read it answers
`malformed`, where there is one of another kind `invalidType`.
-/
import DeferredBinding.Document.Node

namespace DeferredBinding.Document

set_option autoImplicit false

/-- The formats a document may be written in, where their readers differ. -/
inductive Dialect where
  | json
  | toml
  deriving DecidableEq, Repr

/-- Takes a value out of a node. -/
abbrev Decoder (α : Type) := Node → Except Fault α

namespace Decoder

variable {α : Type}

/-- What is wrong with a node that is not of the kind asked for. -/
def unexpected : Node → Fault
  | .unreadable => .malformed
  | .fault => .malformed
  | _ => .invalidType

def text : Decoder String
  | .text value => .ok value
  | node => .error (unexpected node)

def truth : Decoder Bool
  | .truth value => .ok value
  | node => .error (unexpected node)

/-- A value or `null`. -/
def optional (decode : Decoder α) : Decoder (Option α)
  | .null => .ok none
  | node => (decode node).map some

/-- A list, its items in order and then its end. -/
def list (decode : Decoder α) : Decoder (List α)
  | .list items ending => do
      let values ← items.mapM decode
      ending.read
      pure values
  | node => .error (unexpected node)

/-- Only whether a value can be taken out. -/
def check (decode : Decoder α) (node : Node) : Passage :=
  (decode node).map fun _ => ()

end Decoder

/-! ## Choices -/

/-- The value a name stands for. -/
def choose {α : Type} (choices : List (String × α)) (name : String) : Except Fault α :=
  match choices.lookup name with
  | some value => .ok value
  | none => .error (.unknownVariant name (choices.map Prod.fst))

def Node.isBare : Node → Bool
  | .list [] _ => true
  | .record [] _ => true
  | _ => false

/-- One of several names, alone or as the key of a record that says nothing more:
a record of one member, which is `null` or empty as the format has it. -/
def choice {α : Type} (dialect : Dialect) (choices : List (String × α)) : Decoder α
  | .text name => choose choices name
  | .record ((name, value) :: rest) ending =>
      match dialect with
      | .json => do
          let chosen ← choose choices name
          match value with
          | .null => pure ()
          | node => .error (Decoder.unexpected node)
          if rest.isEmpty && ending == .closed then pure chosen else .error .malformed
      | .toml => do
          if !rest.isEmpty then .error .malformed
          let chosen ← choose choices name
          if value.isBare then pure chosen else .error .malformed
  | _ => .error .malformed

end DeferredBinding.Document
