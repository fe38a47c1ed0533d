/-
# Files.Tree -- files in directories

A tree holds files under their paths; the directories are those on the way to
them.  Nothing is known of what lies around the tree but that there are directories
above it.  `read` follows a path from the root of the tree and decodes what it finds
there as UTF-8.
-/
import DeferredBinding.Files.Path

namespace DeferredBinding

set_option autoImplicit false

/-- Why a file cannot be read. -/
inductive FileError where
  | notFound
  | isDirectory
  | notDirectory
  | nameTooLong
  | nulInName
  | notUtf8
  | other (text : String)
  deriving DecidableEq, Repr

def FileError.message : FileError → String
  | .notFound => "No such file or directory (os error 2)"
  | .isDirectory => "Is a directory (os error 21)"
  | .notDirectory => "Not a directory (os error 20)"
  | .nameTooLong => "File name too long (os error 36)"
  | .nulInName => "file name contained an unexpected NUL byte"
  | .notUtf8 => "stream did not contain valid UTF-8"
  | .other text => text

/-- Files by the parts of their paths. -/
structure FileTree where
  files : List (List String × ByteArray) := []

namespace FileTree

/-- Files by their paths as they are written. -/
def ofList (files : List (String × ByteArray)) : FileTree :=
  { files := files.map fun file => (Path.parts file.1, file.2) }

def file? (t : FileTree) (place : List String) : Option ByteArray :=
  t.files.lookup place

def isDirectory (t : FileTree) (place : List String) : Bool :=
  place.isEmpty || t.files.any fun file =>
    place.isPrefixOf file.1 && decide (place.length < file.1.length)

/-- A directory on the way along a path: one of the tree, or one above it. -/
inductive Place where
  | inside (parts : List String)
  | above
  deriving DecidableEq, Repr

/-- The directory that holds a directory.  The topmost one holds itself. -/
def Place.parent : Place → Place
  | .inside [] => .above
  | .inside parts => .inside parts.dropLast
  | .above => .above

/-- The longest name there may be, in bytes. -/
def maxName : Nat := 255

/-- The longest path that can be followed, in bytes. -/
def maxPath : Nat := 4095

/-- Follow the pieces of a path from a directory.  What comes after a file, be it an
idle piece, asks for a directory where there is none. -/
def follow (t : FileTree) (place : Place) : List (List Char) → Except FileError ByteArray
  | [] => .error .isDirectory
  | piece :: rest =>
      if Path.isIdle piece then follow t place rest
      else if piece = ['.', '.'] then follow t place.parent rest
      else
        let name := String.ofList piece
        if maxName < name.utf8ByteSize then .error .nameTooLong
        else
          match place with
          | .above => .error .notFound
          | .inside parts =>
              let next := parts ++ [name]
              if t.isDirectory next then follow t (.inside next) rest
              else
                match t.file? next with
                | none => .error .notFound
                | some content => if rest.isEmpty then .ok content else .error .notDirectory

/-- Where a path begins: above the tree if it begins with a slash. -/
def start (path : String) : Place :=
  if path.toList.head? = some '/' then .above else .inside []

def bytes (t : FileTree) (path : String) : Except FileError ByteArray :=
  if '\x00' ∈ path.toList then .error .nulInName
  else if path = "" then .error .notFound
  else if maxPath < path.utf8ByteSize then .error .nameTooLong
  else t.follow (start path) (Path.pieces path)

def decodeText (content : ByteArray) : Except FileError String :=
  match String.fromUTF8? content with
  | some text => .ok text
  | none => .error .notUtf8

def read (t : FileTree) (path : String) : Except FileError String :=
  (t.bytes path).bind decodeText

end FileTree

end DeferredBinding
