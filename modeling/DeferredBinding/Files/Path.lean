/-
# Files.Path -- paths as they are written

A path is cut at its slashes.  Empty parts and single dots say nothing, so a slash
at the end, or a slash and a dot, do not change which file is meant by name.

The extension of a name is what follows its last dot, unless that dot is the first
character.
-/
import DeferredBinding.Text.Pieces

namespace DeferredBinding.Path

set_option autoImplicit false

/-- The parts between the slashes, with those that say nothing. -/
def pieces (path : String) : List (List Char) :=
  Text.pieces '/' path.toList

/-- Whether a part says nothing. -/
def isIdle (piece : List Char) : Bool :=
  piece == [] || piece == ['.']

def parts (path : String) : List String :=
  ((pieces path).filter fun piece => !isIdle piece).map String.ofList

/-- The name of the file a path leads to, unless it ends by going up. -/
def fileName? (path : String) : Option String :=
  match (parts path).getLast? with
  | some name => if name = ".." then none else some name
  | none => none

/-- What follows the last dot of a name, where something comes before the dot. -/
def extensionOf (name : List Char) : Option String :=
  let last := name.reverse.takeWhile (· != '.')
  let stem := name.reverse.drop (last.length + 1)
  if stem.isEmpty then none else some (String.ofList last.reverse)

def extension? (path : String) : Option String :=
  (fileName? path).bind fun name => extensionOf name.toList

end DeferredBinding.Path
