/-
# Text.CharRanges -- classes of characters given by ranges

A class of characters is a list of ranges of code points, ends included.
-/

namespace DeferredBinding.Text

set_option autoImplicit false

def inRanges (ranges : List (Nat × Nat)) (c : Char) : Bool :=
  ranges.any fun range => decide (range.1 ≤ c.toNat) && decide (c.toNat ≤ range.2)

end DeferredBinding.Text
