/-
# Module.Load -- modules from texts and files

A file is read before anyone asks whether its format is known.
-/
import DeferredBinding.Document.Reading
import DeferredBinding.Manifest.Layout
import DeferredBinding.Module.Basic

namespace DeferredBinding

set_option autoImplicit false

def Manifest.ofText (dialect : Document.Dialect) (text : String) :
    Except Document.Fault Manifest :=
  Document.decode dialect (Manifest.decoder dialect) text

namespace Module

/-- The manifest of a text in some format. -/
def manifestOf (format : Manifest.Format) (text : String) : Except Error Manifest :=
  match format with
  | .json => (Manifest.ofText .json text).mapError (Error.parse .json)
  | .toml => (Manifest.ofText .toml text).mapError (Error.parse .toml)
  | .unknown _ => .error (.unsupportedFormat format)

def ofText (format : Manifest.Format) (text : String) : Traced (Except Error Module) :=
  match manifestOf format text with
  | .ok manifest => ofManifest manifest
  | .error error => { value := .error error }

/-- Make a module of the file at a path, which reads as `content`. -/
def ofFile (path : String) (content : Except FileError String) : Traced (Except Error Module) :=
  match content with
  | .error cause => { value := .error (.io path cause) }
  | .ok text =>
      let format := Manifest.Format.ofPath path
      let made := ofText format text
      { made with trace := .note (.moduleFileRead path format.label) :: made.trace }

def load (files : FileTree) (path : String) : Traced (Except Error Module) :=
  ofFile path (files.read path)

end Module

end DeferredBinding
