/-
# Main -- the program as it is called

Reads the environment and the module file, and leaves everything else to
`CommandLine.program`.
-/
import DeferredBinding.CommandLine.Run

namespace DeferredBinding.Main

set_option autoImplicit false

/-- The variables the program looks at. -/
def environmentNames : List String :=
  ["REBIND_LOG", "RUST_LOG", "REBIND_LOG_FORMAT", "NO_COLOR"]

def fileError (error : IO.Error) : FileError :=
  match error with
  | .noFileOrDirectory _ _ _ => .notFound
  | .inappropriateType _ code details =>
      -- some calls tell the number of an error with a minus sign
      if code = 20 ∨ code = -20 then .notDirectory
      else if code = 21 ∨ code = -21 then .isDirectory
      else .other details
  | other => .other (toString other)

def readText (path : String) : IO (Except FileError String) := do
  try
    let content ← IO.FS.readBinFile path
    pure (FileTree.decodeText content)
  catch error => pure (.error (fileError error))

end DeferredBinding.Main

open DeferredBinding in
def main (args : List String) : IO UInt32 := do
  let pairs ← Main.environmentNames.mapM fun name => do pure (name, ← IO.getEnv name)
  let env : Logging.Environment := fun name => (pairs.lookup name).join
  let content ← match CommandLine.parse env args with
    | .ok request => Main.readText request.command.module
    | .error _ => pure (.error .notFound)
  let exit := CommandLine.program env (fun _ => content) args
  IO.print exit.output
  for line in exit.complaint do IO.eprintln line
  pure exit.code.toUInt32
