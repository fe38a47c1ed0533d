/-
# Text.Digits -- numbers written in digits

Digits of all bases up to sixteen.  `number?` reads a text that has nothing but
digits and at least one of them.
-/

namespace DeferredBinding.Text

set_option autoImplicit false

/-- The value of a digit; sixteen for what is no digit. -/
def digitValue (c : Char) : Nat :=
  if c.isDigit then c.toNat - '0'.toNat
  else if 'a' ≤ c ∧ c ≤ 'f' then c.toNat - 'a'.toNat + 10
  else if 'A' ≤ c ∧ c ≤ 'F' then c.toNat - 'A'.toNat + 10
  else 16

def isDigitOf (base : Nat) (c : Char) : Bool :=
  decide (digitValue c < min base 16)

def ofDigits (base : Nat) (digits : List Char) : Nat :=
  digits.foldl (fun n d => n * base + digitValue d) 0

/-- The number a text stands for, if it consists of digits. -/
def number? (base : Nat) (text : List Char) : Option Nat :=
  if !text.isEmpty && text.all (isDigitOf base) then some (ofDigits base text) else none

end DeferredBinding.Text
