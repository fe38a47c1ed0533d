/-
# Text.LowerCase -- the lower case of a text

Every character has its lower case by itself, with two exceptions.  A capital I
with a dot becomes two characters.  A capital sigma becomes a final sigma at the
end of a word: where a cased character comes before it and none after it, the
characters that are ignored for case being passed over.
-/
import DeferredBinding.Text.CaseData
import DeferredBinding.Text.CharRanges

namespace DeferredBinding.Text

set_option autoImplicit false

/-- The lower case of a character of its own. -/
def lowerChar (c : Char) : Char :=
  let n := c.toNat
  match lowerTable.find? fun row =>
      decide (row.1 ≤ n) && decide (n ≤ row.2.1) && (n - row.1) % row.2.2.1 == 0 with
  | some row => Char.ofNat (Int.toNat (n + row.2.2.2))
  | none => c

/-- Whether the first character that counts for case is cased. -/
def casedAhead (cs : List Char) : Bool :=
  match cs.dropWhile (inRanges caseIgnorableRanges) with
  | [] => false
  | c :: _ => inRanges casedRanges c

/-- The lower case of a character between the characters before it, nearest first,
and those after it. -/
def lowerBetween (before : List Char) (c : Char) (after : List Char) : List Char :=
  if c = '\u03a3' then
    [if casedAhead before && !casedAhead after then '\u03c2' else '\u03c3']
  else if c = '\u0130' then ['i', '\u0307']
  else [lowerChar c]

/-- The lower case of the characters that follow `before`. -/
def lowerFrom (before : List Char) : List Char → List Char
  | [] => []
  | c :: after => lowerBetween before c after ++ lowerFrom (c :: before) after

def lower (text : String) : String :=
  String.ofList (lowerFrom [] text.toList)

end DeferredBinding.Text
