/-
# Module.Error -- why a module does not load

Either its file cannot be read or understood, or what it declares does not fit
together.
-/
import DeferredBinding.Document.Fault
import DeferredBinding.Files.Tree
import DeferredBinding.Manifest.Format
import DeferredBinding.Property.Error

namespace DeferredBinding.Module

set_option autoImplicit false

/-- Why a module does not load. -/
inductive Error where
  | io (path : String) (cause : FileError)
  | parse (format : Manifest.Format) (fault : Document.Fault)
  | unsupportedFormat (format : Manifest.Format)
  | blankName
  | property (error : Property.Error)
  | unknownProperty (rule : Nat) (property : String)
  deriving DecidableEq, Repr

def Error.message : Error → String
  | .io path cause => "failed to read module file " ++ path ++ ": " ++ cause.message
  | .parse format fault =>
      "failed to parse " ++ format.label ++ " module configuration: " ++ fault.detail
  | .unsupportedFormat format => "unsupported module configuration format: " ++ format.label
  | .blankName => "invalid module configuration: module name must not be empty"
  | .property error => error.message
  | .unknownProperty rule name =>
      "rule " ++ toString rule ++ " references unknown binding property '" ++ name ++ "'"

end DeferredBinding.Module
