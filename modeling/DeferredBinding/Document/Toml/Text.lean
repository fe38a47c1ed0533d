/-
# Document.Toml.Text -- quoted texts, blanks and comments

Texts stand between quotation marks or apostrophes, on one line or, where the mark
is written three times, on several.  Between quotation marks a backslash begins an
escape; at the end of a line it takes all blanks up to the next character with it.

No control character but the tab may stand in a text or comment as it is, and a
carriage return only before a line feed.
-/
import DeferredBinding.Text.Digits

namespace DeferredBinding.Document.Toml

set_option autoImplicit false

/-- Whether a character is a blank within a line. -/
def isSpace (c : Char) : Bool :=
  c == ' ' || c == '\t'

/-- Whether a character may stand for itself in a text or comment. -/
def isPlain (c : Char) : Bool :=
  c == '\t' || (decide (' ' ≤ c) && c != '\x7f')

/-- Whether a text goes on with the line feed that a carriage return needs. -/
def feeds (rest : List Char) : Bool :=
  rest.head? == some '\n'

/-! ## Blanks -/

/-- Pass over blanks, line ends and comments, starting inside of a comment or not.
A comment may hold no control character. -/
def skipBlanks : Bool → List Char → Option (List Char)
  | _, [] => some []
  | inComment, c :: rest =>
      if c = '\n' then skipBlanks false rest
      else if c = '\r' then
        if feeds rest then skipBlanks inComment rest else none
      else if inComment then
        if isPlain c then skipBlanks true rest else none
      else if isSpace c then skipBlanks false rest
      else if c = '#' then skipBlanks true rest
      else some (c :: rest)

/-- Whether nothing but blanks and a comment stand before the end of the line. -/
def endsLine (cs : List Char) : Bool :=
  match cs.dropWhile isSpace with
  | [] => true
  | c :: rest => c == '\n' || c == '#' || (c == '\r' && feeds rest)

/-! ## Escapes -/

/-- How many hexadecimal digits belong to the escape of a letter. -/
def escapeDigits (c : Char) : Nat :=
  if c = 'x' then 2 else if c = 'u' then 4 else if c = 'U' then 8 else 0

/-- The character that a letter after a backslash stands for, with its digits. -/
def escape? (c : Char) (digits : List Char) : Option Char :=
  if c = '"' then some '"'
  else if c = '\\' then some '\\'
  else if c = 'b' then some '\x08'
  else if c = 'e' then some '\x1b'
  else if c = 'f' then some '\x0c'
  else if c = 'n' then some '\n'
  else if c = 'r' then some '\r'
  else if c = 't' then some '\t'
  else if escapeDigits c ≠ 0 ∧ digits.length = escapeDigits c then
    (Text.number? 16 digits).bind fun n => if n.isValidChar then some (Char.ofNat n) else none
  else none

/-! ## Texts -/

/-- A content, and what follows the text. -/
abbrev Scanned := List Char × List Char

def withChar (c : Char) (scanned : Scanned) : Scanned :=
  (c :: scanned.1, scanned.2)

/-- Scan a text on one line from after its quotation mark. -/
def scanBasic : List Char → Option Scanned
  | [] => none
  | '"' :: rest => some ([], rest)
  | '\\' :: c :: rest =>
      (escape? c (rest.take (escapeDigits c))).bind fun escaped =>
        (scanBasic (rest.drop (escapeDigits c))).map (withChar escaped)
  | c :: rest => if isPlain c && c != '\\' then (scanBasic rest).map (withChar c) else none
termination_by cs => cs.length
decreasing_by
  all_goals simp only [List.length_cons, List.length_drop]
  all_goals omega

/-- Scan a text on one line from after its apostrophe. -/
def scanLiteral : List Char → Option Scanned
  | [] => none
  | c :: rest =>
      if c = '\'' then some ([], rest)
      else if isPlain c then (scanLiteral rest).map (withChar c) else none

/-- The end of a text whose mark was written three times: up to two marks more
belong to the content. -/
def closing (mark : Char) (rest : List Char) : Scanned :=
  let more := (rest.takeWhile (· == mark)).take 2
  (more, rest.drop more.length)

/-- Whether a backslash stands at the end of a line. -/
def continues (cs : List Char) : Bool :=
  match cs.dropWhile isSpace with
  | '\n' :: _ => true
  | '\r' :: rest => feeds rest
  | _ => false

/-- Scan a text on several lines from after its quotation marks; `passing` says that
blanks are being passed over. -/
def scanBasicLines (passing : Bool) : List Char → Option Scanned
  | [] => none
  | '"' :: '"' :: '"' :: rest => some (closing '"' rest)
  | '\\' :: rest =>
      if continues rest then scanBasicLines true rest
      else
        match rest with
        | [] => none
        | c :: rest =>
            (escape? c (rest.take (escapeDigits c))).bind fun escaped =>
              (scanBasicLines false (rest.drop (escapeDigits c))).map (withChar escaped)
  | '\r' :: rest =>
      if !feeds rest then none
      else if passing then scanBasicLines true rest
      else (scanBasicLines false rest).map (withChar '\r')
  | c :: rest =>
      if passing && (isSpace c || c == '\n') then scanBasicLines true rest
      else if isPlain c || c == '\n' then (scanBasicLines false rest).map (withChar c)
      else none
termination_by cs => cs.length
decreasing_by
  all_goals simp only [List.length_cons, List.length_drop]
  all_goals omega

/-- Scan a text on several lines from after its apostrophes. -/
def scanLiteralLines : List Char → Option Scanned
  | [] => none
  | '\'' :: '\'' :: '\'' :: rest => some (closing '\'' rest)
  | c :: rest =>
      if isPlain c || c == '\n' || (c == '\r' && feeds rest) then
        (scanLiteralLines rest).map (withChar c)
      else none

/-- A text on several lines without the line end it may begin with. -/
def afterLineEnd : List Char → List Char
  | '\n' :: rest => rest
  | '\r' :: '\n' :: rest => rest
  | cs => cs

/-- Scan a text of any form, where one begins. -/
def scanText : List Char → Option Scanned
  | '"' :: '"' :: '"' :: rest => scanBasicLines false (afterLineEnd rest)
  | '"' :: rest => scanBasic rest
  | '\'' :: '\'' :: '\'' :: rest => scanLiteralLines (afterLineEnd rest)
  | '\'' :: rest => scanLiteral rest
  | _ => none

/-! ## Keys -/

/-- Whether a character may stand in a key without quotes. -/
def isBare (c : Char) : Bool :=
  c.isAlphanum || c == '_' || c == '-'

def scanKey : List Char → Option Scanned
  | '"' :: rest => scanBasic rest
  | '\'' :: rest => scanLiteral rest
  | cs =>
      match cs.takeWhile isBare with
      | [] => none
      | name => some (name, cs.dropWhile isBare)

end DeferredBinding.Document.Toml
