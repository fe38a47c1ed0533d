/-
# Document.Reading -- data taken out of a text

In JSON the faults of the text and those of its data are met in the order in which
they stand, and nothing may follow the value.  In TOML the text must be sound as a
whole before its data is looked at.
-/
import DeferredBinding.Document.Decoder
import DeferredBinding.Document.Json.Reader
import DeferredBinding.Document.Toml.Reader

namespace DeferredBinding.Document

set_option autoImplicit false

def decode {α : Type} (dialect : Dialect) (decoder : Decoder α) (text : String) : Except Fault α :=
  match dialect with
  | .json => do
      let (root, trailing) := Json.read text
      let value ← decoder root
      if trailing then .error .malformed else pure value
  | .toml =>
      match Toml.read text with
      | none => .error .malformed
      | some root => decoder root

end DeferredBinding.Document
