/-
# Text.Blank -- white space at the ends of a text

The characters of the Unicode property White_Space.
-/
import DeferredBinding.Text.CharRanges

namespace DeferredBinding.Text

set_option autoImplicit false

def blankRanges : List (Nat × Nat) :=
  [ (0x0009, 0x000d), (0x0020, 0x0020), (0x0085, 0x0085), (0x00a0, 0x00a0), (0x1680, 0x1680),
   (0x2000, 0x200a), (0x2028, 0x2029), (0x202f, 0x202f), (0x205f, 0x205f), (0x3000, 0x3000)]

def isBlank (c : Char) : Bool :=
  inRanges blankRanges c

def allBlank (text : String) : Bool :=
  text.toList.all isBlank

/-- The characters between the white space at both ends. -/
def trimChars (cs : List Char) : List Char :=
  ((cs.dropWhile isBlank).reverse.dropWhile isBlank).reverse

def trim (text : String) : String :=
  String.ofList (trimChars text.toList)

end DeferredBinding.Text
