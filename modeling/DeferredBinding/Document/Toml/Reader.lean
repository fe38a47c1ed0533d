/-
# Document.Toml.Reader -- from a text to a tree

A text is read line by line: an assignment, a header, or nothing but a comment.
Lists and tables within a line may go on over several lines, as anything inside of
them may but a path; at most `maxDepth` of them may be open at once.

Each loop is bounded by the number of characters left, of which every round takes
at least one.
-/
import DeferredBinding.Document.Toml.Scalar
import DeferredBinding.Document.Toml.Table
import DeferredBinding.Document.Toml.Text

namespace DeferredBinding.Document.Toml

set_option autoImplicit false

/-- How many lists and tables may be open at once within a line. -/
def maxDepth : Nat := 80

def maxKeys : Nat := 80

/-- Reads something where it begins, with what follows it. -/
abbrev Scanner (α : Type) := List Char → Option (α × List Char)

/-! ## Paths -/

/-- Scan the keys of a path in at most `fuel` rounds. -/
def scanKeys : Nat → Scanner (List String)
  | 0, _ => none
  | fuel + 1, cs =>
      (scanKey cs).bind fun (key, after) =>
        match after.dropWhile isSpace with
        | '.' :: rest =>
            (scanKeys fuel (rest.dropWhile isSpace)).map fun (keys, rest) =>
              (String.ofList key :: keys, rest)
        | rest => some ([String.ofList key], rest)

def KeyPath.ofKeys? (keys : List String) : Option KeyPath :=
  keys.getLast?.map fun key => { parents := keys.dropLast, key }

/-- Scan a path and the blanks after it. -/
def scanPath : Scanner KeyPath := fun cs =>
  (scanKeys (cs.length + 1) cs).bind fun (keys, rest) =>
    if keys.length ≤ maxKeys then (KeyPath.ofKeys? keys).map fun path => (path, rest) else none

/-! ## Values -/

/-- Scan what is separated by commas up to a closing bracket, in at most `fuel`
rounds.  A comma may stand before the bracket. -/
def scanItems {α : Type} (one : Scanner α) (bracket : Char) : Nat → Scanner (List α)
  | 0, _ => none
  | fuel + 1, cs =>
      (skipBlanks false cs).bind fun cs =>
        if cs.head? = some bracket then some ([], cs.tail)
        else
          (one cs).bind fun (first, after) =>
            (skipBlanks false after).bind fun after =>
              match after with
              | ',' :: rest =>
                  (scanItems one bracket fuel rest).map fun (others, rest) =>
                    (first :: others, rest)
              | c :: rest => if c = bracket then some ([first], rest) else none
              | [] => none

/-- Scan an assignment whose value `one` scans, passing over what may stand around
the equals sign by `pass`. -/
def scanAssignment (pass : List Char → Option (List Char)) (one : Scanner Node) :
    Scanner Assignment := fun cs =>
  (scanPath cs).bind fun (path, after) =>
    (pass after).bind fun after =>
      match after with
      | '=' :: rest =>
          ((pass rest).bind one).map fun (value, rest) => ({ path, value }, rest)
      | _ => none

def passSpace (cs : List Char) : Option (List Char) :=
  some (cs.dropWhile isSpace)

/-- Scan a value with room for so many lists and tables inside each other. -/
def scanValue : Nat → Scanner Node
  | room, cs =>
      match cs with
      | '[' :: rest =>
          match room with
          | 0 => none
          | room + 1 =>
              (scanItems (scanValue room) ']' (rest.length + 1) rest).map fun (items, rest) =>
                (.list items .closed, rest)
      | '\x7b' :: rest =>
          match room with
          | 0 => none
          | room + 1 =>
              (scanItems (scanAssignment (skipBlanks false) (scanValue room)) '\x7d'
                (rest.length + 1) rest).bind fun (assignments, rest) =>
                  (inlineTable assignments).map fun node => (node, rest)
      | '"' :: _ => (scanText cs).map fun (content, rest) => (.text (String.ofList content), rest)
      | '\'' :: _ => (scanText cs).map fun (content, rest) => (.text (String.ofList content), rest)
      | _ => scanScalar cs

/-! ## Lines -/

/-- A line that says something. -/
inductive Line where
  | assignment (a : Assignment)
  | header (repeated : Bool) (path : KeyPath)
  deriving Repr

/-- Scan a header from after its opening brackets. -/
def scanHeader (repeated : Bool) : Scanner Line := fun cs =>
  (scanPath (cs.dropWhile isSpace)).bind fun (path, after) =>
    match after, repeated with
    | ']' :: ']' :: rest, true => some (.header true path, rest)
    | ']' :: rest, false => some (.header false path, rest)
    | _, _ => none

def scanLine : Scanner Line
  | '[' :: '[' :: rest => scanHeader true rest
  | '[' :: rest => scanHeader false rest
  | cs => (scanAssignment passSpace (scanValue maxDepth) cs).map fun (a, rest) => (.assignment a, rest)

/-- The lines of a text that say something, at most `fuel` of them. -/
def scanLines : Nat → List Char → Option (List Line)
  | 0, _ => none
  | fuel + 1, cs =>
      (skipBlanks false cs).bind fun cs =>
        if cs.isEmpty then some []
        else
          (scanLine cs).bind fun (line, after) =>
            if endsLine after then (scanLines fuel after).map (line :: ·) else none

/-- The assignments before the first header, and the sections. -/
def sections : List Line → List Assignment × List Section
  | [] => ([], [])
  | .assignment a :: rest => (a :: (sections rest).1, (sections rest).2)
  | .header repeated path :: rest =>
      ([], { repeated, path, assignments := (sections rest).1 } :: (sections rest).2)

/-- A text without the mark that tells the order of its bytes. -/
def withoutMark : List Char → List Char
  | '\ufeff' :: rest => rest
  | cs => cs

/-- The record that a text stands for, unless it is malformed. -/
def read (text : String) : Option Node :=
  let cs := withoutMark text.toList
  (scanLines (cs.length + 1) cs).bind fun lines =>
    document (sections lines).1 (sections lines).2

end DeferredBinding.Document.Toml
