/-
# Document.Toml.Scalar -- values written without quotes

A word is a truth value, a number, a date or a time.  Underscores may stand between
the digits of a number.  Integers may be written in other bases.

A word goes on up to a character with a meaning of its own between values, blanks
between its parts included.  One that begins like a number is taken for a number
before its value is asked for.  So a base without digits is a number, and so is an
integer that goes on with anything after an underscore and a digit; but these have no
value.  Neither have integers that do not fit into 128 bits and decimal numbers beyond
the double precision ones.
-/
import DeferredBinding.Document.Node
import DeferredBinding.Document.Toml.Text
import DeferredBinding.Text.Digits
import DeferredBinding.Text.Pieces

namespace DeferredBinding.Document.Toml

set_option autoImplicit false

/-! ## Digits -/

/-- Whether a digit stands before and after every underscore between pieces of a word. -/
def joined (isDigit : Char → Bool) : List (List Char) → Bool
  | [] => true
  | [_] => true
  | left :: right :: rest =>
      left.getLast?.any isDigit && right.head?.any isDigit && joined isDigit (right :: rest)

/-- Whether the underscores of a word stand between digits. -/
def grouped (isDigit : Char → Bool) (word : List Char) : Bool :=
  joined isDigit (Text.pieces '_' word)

/-- A word without its underscores. -/
def plain (word : List Char) : List Char :=
  word.filter (· != '_')

/-- A word without its sign, and whether the sign was a minus. -/
def unsigned : List Char → List Char × Bool
  | '+' :: rest => (rest, false)
  | '-' :: rest => (rest, true)
  | cs => (cs, false)

/-! ## Integers -/

/-- Whether an integer of so many units is one of `bits` bits with a sign. -/
def fitsSigned (bits : Nat) (negative : Bool) (n : Nat) : Bool :=
  decide (n < Nat.pow 2 (bits - 1)) || negative && n == Nat.pow 2 (bits - 1)

def fitsUnsigned (bits : Nat) (negative : Bool) (n : Nat) : Bool :=
  !negative && decide (n < Nat.pow 2 bits)

def integer (negative : Bool) (n : Nat) : Node :=
  if fitsSigned 64 negative n then .number .signed
  else if fitsUnsigned 64 negative n then .number .unsigned
  else if fitsSigned 128 negative n || fitsUnsigned 128 negative n then .number .wide
  else .fault

/-- The node of an integer in digits of a base, if digits they are. -/
def integerNode (base : Nat) (negative : Bool) (digits : List Char) : Node :=
  match Text.number? base (plain digits) with
  | some n => integer negative n
  | none => .fault

/-- An integer whose base is given, from after the base. -/
def based? (base : Nat) (digits : List Char) : Option Node :=
  if (plain digits).all (Text.isDigitOf base) && grouped (Text.isDigitOf 16) digits then
    some (integerNode base false digits)
  else none

/-- A decimal integer, which has no superfluous zero. -/
def decimalInteger? (word : List Char) : Option Node :=
  let (digits, negative) := unsigned word
  if (digits == ['0'] || digits.head? != some '0') && grouped (Text.isDigitOf 16) word then
    some (integerNode 10 negative digits)
  else none

/-! ## Decimal numbers -/

/-- Whether `n` times a power of ten is beyond the double precision numbers.  Beyond
310 digits it always is, below 308 digits it never is. -/
def overflows (n : Nat) (exponent : Int) : Bool :=
  let digits : Int := (Nat.toDigits 10 n).length + exponent
  let limit := Nat.pow 2 1024 - Nat.pow 2 970
  n != 0 && (decide (310 < digits) ||
    (decide (307 < digits) &&
      if 0 ≤ exponent then decide (limit ≤ n * Nat.pow 10 exponent.toNat)
      else decide (limit * Nat.pow 10 (-exponent).toNat ≤ n)))

/-- The digits of a decimal number: before the point, after it if there is one, and
the power of ten if there is one. -/
structure Decimal where
  whole : List Char
  fraction : Option (List Char)
  exponent : Option (List Char)

/-- A word cut at the first character of a kind, if there is one. -/
def cut (splits : Char → Bool) (word : List Char) : List Char × Option (List Char) :=
  match word.dropWhile fun c => !splits c with
  | [] => (word, none)
  | _ :: rest => (word.takeWhile fun c => !splits c, some rest)

/-- A word cut at its point and its exponent. -/
def Decimal.ofWord (word : List Char) : Decimal :=
  let (mantissa, exponent) := cut (fun c => c == 'e' || c == 'E') word
  let (whole, fraction) := cut (· == '.') mantissa
  { whole, fraction, exponent }

/-- Whether a part of a decimal number has digits, underscores left aside. -/
def isDigits (part : List Char) : Bool :=
  (Text.number? 10 (plain part)).isSome

/-- Whether digits begin with a superfluous zero. -/
def padded (digits : List Char) : Bool :=
  digits.head? == some '0' && decide (1 < (plain digits).length)

def Decimal.wellFormed (d : Decimal) : Bool :=
  isDigits d.whole && !padded d.whole && d.fraction.all isDigits &&
    d.exponent.all fun exponent => isDigits (unsigned exponent).1

/-- The power of ten that digits with a sign stand for. -/
def signedNumber (word : List Char) : Int :=
  let (digits, negative) := unsigned word
  let n : Int := Text.ofDigits 10 (plain digits)
  if negative then -n else n

def Decimal.node (d : Decimal) : Node :=
  let fraction := plain (d.fraction.getD [])
  let exponent := (d.exponent.map signedNumber).getD 0 - fraction.length
  if overflows (Text.ofDigits 10 (plain d.whole ++ fraction)) exponent then .fault
  else .number .signed

/-- A number with a fraction or an exponent. -/
def decimal? (word : List Char) : Option Node :=
  let d := Decimal.ofWord (unsigned word).1
  if d.wellFormed && grouped Char.isDigit word then some d.node else none

/-! ## Dates and times -/

/-- So many digits, their number, and what follows. -/
def digits? (count : Nat) (cs : List Char) : Option (Nat × List Char) :=
  let digits := cs.take count
  if digits.length = count then (Text.number? 10 digits).map fun n => (n, cs.drop count) else none

/-- What follows a character. -/
def after? (c : Char) : List Char → Option (List Char)
  | d :: rest => if c = d then some rest else none
  | [] => none

def daysIn (year month : Nat) : Nat :=
  if month = 2 then
    if year % 4 = 0 ∧ (year % 100 ≠ 0 ∨ year % 400 = 0) then 29 else 28
  else if month = 4 ∨ month = 6 ∨ month = 9 ∨ month = 11 then 30
  else 31

def afterDate? (cs : List Char) : Option (List Char) := do
  let (year, cs) ← digits? 4 cs
  let (month, cs) ← digits? 2 (← after? '-' cs)
  let (day, cs) ← digits? 2 (← after? '-' cs)
  if 1 ≤ month ∧ month ≤ 12 ∧ 1 ≤ day ∧ day ≤ daysIn year month then some cs else none

/-- What follows an hour and a minute. -/
def afterMinutes? (cs : List Char) : Option (List Char) := do
  let (hour, cs) ← digits? 2 cs
  let (minute, cs) ← digits? 2 (← after? ':' cs)
  if hour ≤ 23 ∧ minute ≤ 59 then some cs else none

/-- What follows the fraction of a second, if there is one. -/
def afterFraction? : List Char → Option (List Char)
  | '.' :: c :: rest => if c.isDigit then some (rest.dropWhile Char.isDigit) else none
  | '.' :: [] => none
  | cs => some cs

/-- What follows a time of day, whose seconds may be left out. -/
def afterTime? (cs : List Char) : Option (List Char) := do
  let cs ← afterMinutes? cs
  match cs with
  | ':' :: rest => do
      let (second, rest) ← digits? 2 rest
      if second ≤ 60 then afterFraction? rest else none
  | _ => some cs

/-- Whether a word is the distance from universal time, or nothing. -/
def isOffset : List Char → Bool
  | [] => true
  | ['Z'] => true
  | ['z'] => true
  | '+' :: rest => afterMinutes? rest == some []
  | '-' :: rest => afterMinutes? rest == some []
  | _ => false

/-- Whether a word is a date, a time of day, or both with a `T` or a blank between
them. -/
def isMoment (word : List Char) : Bool :=
  match afterDate? word with
  | some [] => true
  | some (c :: rest) => (c == 'T' || c == 't' || c == ' ') && (afterTime? rest).any isOffset
  | none => afterTime? word == some []

/-! ## Words -/

/-- A word that begins with digits, or an underscore, after its sign: what follows
them tells what it is. -/
def numeric? (word : List Char) : Option Node :=
  match (unsigned word).1.dropWhile Char.isDigit with
  | [] => decimalInteger? word
  | c :: rest =>
      if c = '-' ∨ c = ':' then if isMoment word then some .moment else none
      else if (c :: rest).contains ' ' then none
      else if (c :: rest).any fun d => d == '.' || d == 'e' || d == 'E' then decimal? word
      else if c = '_' then decimalInteger? word
      else none

def wordValue? (word : List Char) : Option Node :=
  if word = ['t', 'r', 'u', 'e'] then some (.truth true)
  else if word = ['f', 'a', 'l', 's', 'e'] then some (.truth false)
  else
    match word with
    | '0' :: 'x' :: digits => based? 16 digits
    | '0' :: 'o' :: digits => based? 8 digits
    | '0' :: 'b' :: digits => based? 2 digits
    | _ =>
        match (unsigned word).1 with
        | [] => none
        | ['i', 'n', 'f'] => some (.number .signed)
        | ['n', 'a', 'n'] => some (.number .signed)
        | _ => numeric? word

/-- The characters with a meaning of their own between values. -/
def wordEnds : List Char :=
  ['=', ',', '[', ']', '\x7b', '\x7d', '#', '\r', '\n']

/-- Whether a word may go on with a character behind blanks. -/
def resumes (c : Char) : Bool :=
  !wordEnds.contains c && c != '.' && c != '"' && c != '\''

/-- Whether a word goes on behind the blanks that a text begins with. -/
def goesOn (cs : List Char) : Bool :=
  (cs.dropWhile isSpace).head?.any resumes

/-- The word that a text begins with, and what follows it.  Blanks belong to it if it
goes on behind them; `within` says that they are known to. -/
def scanWord (within : Bool) : List Char → List Char × List Char
  | [] => ([], [])
  | c :: rest =>
      if isSpace c then
        if within || goesOn rest then (c :: (scanWord true rest).1, (scanWord true rest).2)
        else ([], c :: rest)
      else if wordEnds.contains c then ([], c :: rest)
      else (c :: (scanWord false rest).1, (scanWord false rest).2)

def scanScalar (cs : List Char) : Option (Node × List Char) :=
  let (word, rest) := scanWord false cs
  (wordValue? word).map fun node => (node, rest)

end DeferredBinding.Document.Toml
