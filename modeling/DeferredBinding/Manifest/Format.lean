/-
# Manifest.Format -- the formats of module files

The format of a file is told by the extension of its name, whatever its case.
-/
import DeferredBinding.Document.Decoder
import DeferredBinding.Files.Path
import DeferredBinding.Text.LowerCase

namespace DeferredBinding.Manifest

set_option autoImplicit false

/-- The format of a module file. -/
inductive Format where
  | json
  | toml
  | unknown (extension : String)
  deriving DecidableEq, Repr

namespace Format

def ofExtension (extension : String) : Format :=
  let lowered := Text.lower extension
  if lowered = "json" then .json
  else if lowered = "toml" then .toml
  else .unknown extension

def ofPath (path : String) : Format :=
  match Path.extension? path with
  | some extension => ofExtension extension
  | none => .unknown "no_extension"

def label : Format → String
  | .json => "JSON"
  | .toml => "TOML"
  | .unknown extension => "Unknown (" ++ extension ++ ")"

end Format

end DeferredBinding.Manifest
