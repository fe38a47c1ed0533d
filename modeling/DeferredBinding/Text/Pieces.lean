/-
# Text.Pieces -- a text cut at a separator

There is one piece more than there are separators, and no piece has a separator in
it.
-/

namespace DeferredBinding.Text

set_option autoImplicit false

/-- The pieces between the separators. -/
def pieces (separator : Char) : List Char → List (List Char)
  | [] => [[]]
  | c :: rest =>
      match pieces separator rest with
      | [] => [[c]]
      | piece :: others => if c = separator then [] :: piece :: others else (c :: piece) :: others

end DeferredBinding.Text
