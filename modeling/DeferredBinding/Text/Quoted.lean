/-
# Text.Quoted -- texts in quotation marks

A text is quoted so that all of it can be seen: quotation marks and backslashes
are escaped, the common controls have a letter, and every other hidden character
is written as its code point.
-/
import DeferredBinding.Text.Hidden

namespace DeferredBinding.Text

set_option autoImplicit false

/-- A code point in hexadecimal, in braces. -/
def codePoint (c : Char) : String :=
  "\\u\x7b" ++ String.ofList (Nat.toDigits 16 c.toNat) ++ "\x7d"

/-- A character as it stands between quotation marks. -/
def escaped (c : Char) : String :=
  if c = '\u0000' then "\\0"
  else if c = '\t' then "\\t"
  else if c = '\n' then "\\n"
  else if c = '\r' then "\\r"
  else if c = '"' then "\\\""
  else if c = '\\' then "\\\\"
  else if isHidden c then codePoint c
  else c.toString

def quoted (text : String) : String :=
  "\"" ++ String.join (text.toList.map escaped) ++ "\""

end DeferredBinding.Text
