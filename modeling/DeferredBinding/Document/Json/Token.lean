/-
# Document.Json.Token -- the tokens of a text

`tokens` cuts a text into punctuation, words, numbers and quoted texts.  Blanks
between them are dropped.  At the first character that begins no token the list
ends with `fault`.

In a quoted text a backslash begins an escape; characters beyond the basic plane are
escaped as two surrogates.  A text with a surrogate that has no partner is a token
without a content.
-/
import DeferredBinding.Document.Json.Number

namespace DeferredBinding.Document.Json

set_option autoImplicit false

inductive Token where
  | openList
  | closeList
  | openRecord
  | closeRecord
  | colon
  | comma
  | null
  | truth (value : Bool)
  | number (readable : Bool)
  | text (content : Option String)
  | fault
  deriving DecidableEq, Repr

/-- The blanks that may stand between tokens. -/
def isSpace (c : Char) : Bool :=
  c == ' ' || c == '\n' || c == '\t' || c == '\r'

/-! ## Quoted texts -/

/-- Whether a number is the first surrogate of a pair. -/
def isHigh (n : Nat) : Bool :=
  decide (0xd800 ≤ n) && decide (n < 0xdc00)

def isLow (n : Nat) : Bool :=
  decide (0xdc00 ≤ n) && decide (n < 0xe000)

def ofSurrogates (high low : Nat) : Char :=
  Char.ofNat (0x10000 + (high - 0xd800) * 0x400 + (low - 0xdc00))

/-- The character that a letter after a backslash stands for. -/
def escape? (c : Char) : Option Char :=
  if c = '"' then some '"'
  else if c = '\\' then some '\\'
  else if c = '/' then some '/'
  else if c = 'b' then some '\x08'
  else if c = 'f' then some '\x0c'
  else if c = 'n' then some '\n'
  else if c = 'r' then some '\r'
  else if c = 't' then some '\t'
  else none

/-- What a character or an escape of a quoted text stands for: a character, or one of
the units of 16 bits that make up characters. -/
inductive Piece where
  | char (c : Char)
  | unit (n : Nat)
  deriving DecidableEq, Repr

/-- The number of four hexadecimal digits. -/
def unit? (digits : List Char) : Option Nat :=
  if digits.length = 4 then Text.number? 16 digits else none

def withPiece (piece : Piece) (scanned : List Piece × List Char) : List Piece × List Char :=
  (piece :: scanned.1, scanned.2)

/-- Scan the pieces of a quoted text from after its opening mark. -/
def scanPieces : List Char → Option (List Piece × List Char)
  | [] => none
  | '"' :: rest => some ([], rest)
  | '\\' :: 'u' :: rest =>
      (unit? (rest.take 4)).bind fun n => (scanPieces (rest.drop 4)).map (withPiece (.unit n))
  | '\\' :: c :: rest => (escape? c).bind fun e => (scanPieces rest).map (withPiece (.char e))
  | c :: rest =>
      if c = '\\' || decide (c < ' ') then none else (scanPieces rest).map (withPiece (.char c))
termination_by cs => cs.length
decreasing_by
  all_goals simp only [List.length_cons, List.length_drop]
  all_goals omega

/-- The characters that pieces make up, unless a surrogate has no partner. -/
def content? : List Piece → Option (List Char)
  | [] => some []
  | .char c :: rest => (content? rest).map (c :: ·)
  | .unit high :: .unit low :: rest =>
      if isHigh high then
        if isLow low then (content? rest).map (ofSurrogates high low :: ·) else none
      else if isLow high then none
      else (content? (.unit low :: rest)).map (Char.ofNat high :: ·)
  | .unit n :: rest =>
      if isHigh n || isLow n then none else (content? rest).map (Char.ofNat n :: ·)

/-- Scan a quoted text from after its opening mark. -/
def scanText (cs : List Char) : Option (Option String × List Char) :=
  (scanPieces cs).map fun scanned => ((content? scanned.1).map String.ofList, scanned.2)

/-! ## Cutting a text -/

/-- What follows a word, where the text begins with it. -/
def afterWord? : List Char → List Char → Option (List Char)
  | [], cs => some cs
  | w :: word, c :: cs => if w = c then afterWord? word cs else none
  | _ :: _, [] => none

/-- A token read, or the fault that takes the rest of the text with it. -/
def orFault (read : Option (Token × List Char)) : Token × List Char :=
  read.getD (.fault, [])

/-- The token that begins with `c`, and the text after it. -/
def tokenFrom (c : Char) (rest : List Char) : Token × List Char :=
  if c = '[' then (.openList, rest)
  else if c = ']' then (.closeList, rest)
  else if c = '\x7b' then (.openRecord, rest)
  else if c = '\x7d' then (.closeRecord, rest)
  else if c = ':' then (.colon, rest)
  else if c = ',' then (.comma, rest)
  else if c = '"' then
    orFault ((scanText rest).map fun scanned => (.text scanned.1, scanned.2))
  else if c = 'n' then orFault ((afterWord? ['u', 'l', 'l'] rest).map fun r => (.null, r))
  else if c = 't' then orFault ((afterWord? ['r', 'u', 'e'] rest).map fun r => (.truth true, r))
  else if c = 'f' then
    orFault ((afterWord? ['a', 'l', 's', 'e'] rest).map fun r => (.truth false, r))
  else orFault ((scanNumber (c :: rest)).map fun found => (.number found.1.readable, found.2))

/-! ## What follows a token is shorter -/

theorem scanPieces_shorter {cs : List Char} {scanned : List Piece × List Char}
    (h : scanPieces cs = some scanned) : scanned.2.length < cs.length := by
  fun_induction scanPieces cs generalizing scanned with
  | case1 => simp at h
  | case2 rest =>
      obtain rfl := Option.some.inj h
      simp
  | case3 rest ih =>
      simp only [Option.bind_eq_some_iff, Option.map_eq_some_iff] at h
      obtain ⟨n, -, found, hf, rfl⟩ := h
      have shorter := ih hf
      simp only [List.length_drop] at shorter
      simp only [withPiece, List.length_cons]
      omega
  | case4 c rest _ ih =>
      simp only [Option.bind_eq_some_iff, Option.map_eq_some_iff] at h
      obtain ⟨e, -, found, hf, rfl⟩ := h
      have shorter := ih hf
      simp only [withPiece, List.length_cons]
      omega
  | case5 => simp at h
  | case6 c rest _ _ _ _ ih =>
      obtain ⟨found, hf, rfl⟩ := Option.map_eq_some_iff.1 h
      have shorter := ih hf
      simp only [withPiece, List.length_cons]
      omega

theorem scanText_shorter {cs : List Char} {scanned : Option String × List Char}
    (h : scanText cs = some scanned) : scanned.2.length < cs.length := by
  obtain ⟨found, hf, rfl⟩ := Option.map_eq_some_iff.1 h
  exact scanPieces_shorter hf

theorem afterWord?_le {word cs rest : List Char} (h : afterWord? word cs = some rest) :
    rest.length ≤ cs.length := by
  induction word generalizing cs with
  | nil => simp_all [afterWord?]
  | cons w word ih =>
      cases cs with
      | nil => simp [afterWord?] at h
      | cons c cs =>
          simp only [afterWord?] at h
          split at h
          · have := ih h
            simp only [List.length_cons]
            omega
          · simp at h

theorem orFault_le {read : Option (Token × List Char)} {n : Nat}
    (h : ∀ found, read = some found → found.2.length ≤ n) : (orFault read).2.length ≤ n := by
  cases read with
  | none => simp [orFault]
  | some found => exact h found rfl

theorem tokenFrom_le (c : Char) (rest : List Char) :
    (tokenFrom c rest).2.length ≤ rest.length := by
  unfold tokenFrom
  repeat' split
  all_goals first
    | exact Nat.le_refl _
    | (refine orFault_le fun found h => ?_
       simp only [Option.map_eq_some_iff] at h
       obtain ⟨x, hx, rfl⟩ := h
       first
         | exact Nat.le_of_lt (scanText_shorter hx)
         | exact afterWord?_le hx
         | exact Nat.le_of_lt_succ (scanNumber_shorter hx))

def tokens (cs : List Char) : List Token :=
  match _h : cs.dropWhile isSpace with
  | [] => []
  | c :: rest => (tokenFrom c rest).1 :: tokens (tokenFrom c rest).2
termination_by cs.length
decreasing_by
  have dropped : (cs.dropWhile isSpace).length ≤ cs.length :=
    (List.dropWhile_suffix isSpace).length_le
  have shorter := tokenFrom_le c rest
  rw [_h, List.length_cons] at dropped
  omega

end DeferredBinding.Document.Json
