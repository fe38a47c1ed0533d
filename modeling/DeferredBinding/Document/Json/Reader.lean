/-
# Document.Json.Reader -- from tokens to a tree

The reader goes through the tokens once.  It keeps the lists and records that are
open, innermost first, and what it expects next.  A token that is not expected
ends the reading: everything open is left unclosed around a fault.

Whatever follows the one value of a text, be it a fault, is trailing.
-/
import DeferredBinding.Document.Json.Token
import DeferredBinding.Document.Node

namespace DeferredBinding.Document.Json

set_option autoImplicit false

/-- What was read of a record, last member first, and how it ends if it is closed
next.  From the first key without a content on members are dropped. -/
structure OpenRecord where
  read : List (String × Node) := []
  ending : Ending := .closed
  deriving Repr

namespace OpenRecord

def add (r : OpenRecord) (key : Option String) (value : Node) : OpenRecord :=
  match key, r.ending with
  | some name, .closed => { r with read := (name, value) :: r.read }
  | _, _ => { r with ending := .passable }

def close (r : OpenRecord) : Node :=
  .record r.read.reverse r.ending

/-- The record, where the text breaks off. -/
def breakOff (r : OpenRecord) : Node :=
  .record r.read.reverse .brokenOff

end OpenRecord

/-- A list or record that is open, and what was read of it. -/
inductive Frame where
  | list (items : List Node)
  | record (members : OpenRecord)
  /-- The value that belongs to `key` is being read. -/
  | member (members : OpenRecord) (key : Option String)
  deriving Repr

/-- What may come next. -/
inductive Expected where
  | value
  | itemOrEnd
  | key
  | keyOrEnd
  | colon
  | commaOrEnd
  deriving DecidableEq, Repr

/-- How far the reading has come. -/
inductive Progress where
  | reading (frames : List Frame) (expected : Expected)
  | finished (root : Node) (trailing : Bool)
  deriving Repr

/-- The tree around a value that could not be read on. -/
def abandon : Node → List Frame → Node
  | node, [] => node
  | node, .list items :: frames => abandon (.list (node :: items).reverse .brokenOff) frames
  | _, .record members :: frames => abandon members.breakOff frames
  | node, .member members key :: frames => abandon (members.add key node).breakOff frames

/-- The reading ended by a fault. -/
def broken (frames : List Frame) : Progress :=
  .finished (abandon .fault frames) false

def complete (node : Node) : List Frame → Progress
  | [] => .finished node false
  | .list items :: frames => .reading (.list (node :: items) :: frames) .commaOrEnd
  | .member members key :: frames => .reading (.record (members.add key node) :: frames) .commaOrEnd
  | .record members :: frames => broken (.record members :: frames)

/-- The innermost list or record closed by its bracket. -/
def close (token : Token) (frames : List Frame) : Progress :=
  match token, frames with
  | .closeList, .list items :: rest => complete (.list items.reverse .closed) rest
  | .closeRecord, .record members :: rest => complete members.close rest
  | _, _ => broken frames

/-- The reading after a token that should begin a value. -/
def beginValue (frames : List Frame) : Token → Progress
  | .openList => .reading (.list [] :: frames) .itemOrEnd
  | .openRecord => .reading (.record {} :: frames) .keyOrEnd
  | .null => complete .null frames
  | .truth value => complete (.truth value) frames
  | .number true => complete (.number .signed) frames
  | .number false => complete .unreadable frames
  | .text (some content) => complete (.text content) frames
  | .text none => complete .unreadable frames
  | _ => broken frames

/-- The reading after a token that should be a key. -/
def beginMember (frames : List Frame) (token : Token) : Progress :=
  match token, frames with
  | .text key, .record members :: rest => .reading (.member members key :: rest) .colon
  | _, _ => broken frames

def afterComma (frames : List Frame) : Progress :=
  match frames with
  | .list _ :: _ => .reading frames .value
  | .record _ :: _ => .reading frames .key
  | _ => broken frames

def Progress.step (progress : Progress) (token : Token) : Progress :=
  match progress with
  | .finished root _ => .finished root true
  | .reading frames .value => beginValue frames token
  | .reading frames .itemOrEnd =>
      if token = .closeList then close token frames else beginValue frames token
  | .reading frames .key => beginMember frames token
  | .reading frames .keyOrEnd =>
      if token = .closeRecord then close token frames else beginMember frames token
  | .reading frames .colon => if token = .colon then .reading frames .value else broken frames
  | .reading frames .commaOrEnd => if token = .comma then afterComma frames else close token frames

def Progress.finish : Progress → Node × Bool
  | .finished root trailing => (root, trailing)
  | .reading frames _ => (abandon .fault frames, false)

/-- The value of a text, and whether anything follows it. -/
def read (text : String) : Node × Bool :=
  ((tokens text.toList).foldl Progress.step (.reading [] .value)).finish

end DeferredBinding.Document.Json
