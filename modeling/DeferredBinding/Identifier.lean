/-
# Identifier -- names of properties and of binding values

A property name or a binding value is an identifier: an ASCII letter or an
underscore, then any number of ASCII letters, digits, underscores, dots and
hyphens.  Type names, generator names and configuration values are free text and
are never checked.
-/

namespace DeferredBinding.Identifier

set_option autoImplicit false

/-- The characters an identifier may begin with. -/
def isHead (c : Char) : Bool :=
  c.isAlpha || c == '_'

/-- The characters an identifier may go on with. -/
def isTail (c : Char) : Bool :=
  c.isAlphanum || c == '_' || c == '.' || c == '-'

def valid (text : String) : Bool :=
  match text.toList with
  | [] => false
  | c :: rest => isHead c && rest.all isTail

end DeferredBinding.Identifier
