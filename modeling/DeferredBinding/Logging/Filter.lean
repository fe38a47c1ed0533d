/-
# Logging.Filter -- which records are wanted

A filter is a list of directives between commas, some of which may be empty.  A
directive is a level for everything, or it names a target, a span in brackets, or
both, and may then set a level for them after an equals sign.  A span may have its
fields in braces.  `wellFormed` says whether a text is a filter.
-/
import DeferredBinding.Text.Alphanumeric
import DeferredBinding.Text.Blank
import DeferredBinding.Text.Digits
import DeferredBinding.Text.Pieces

namespace DeferredBinding.Logging.Filter

set_option autoImplicit false

def levelNames : List String :=
  ["off", "error", "warn", "info", "debug", "trace"]

/-- The number that a text stands for, with a plus sign or without. -/
def number? : List Char → Option Nat
  | '+' :: rest => Text.number? 10 rest
  | cs => Text.number? 10 cs

/-- Whether a text is a level: nothing, a name in any case, or a number up to five. -/
def isLevel (cs : List Char) : Bool :=
  cs.isEmpty || levelNames.contains (String.ofList (cs.map Char.toLower)) ||
    (number? cs).any fun n => decide (n ≤ 5)

/-- Whether the name of a target may begin with a character. -/
def begins (c : Char) : Bool :=
  Text.isAlphanumeric c || c == '-' || c == ':' || c == '_'

/-- How far a directive has been read. -/
inductive Stage where
  | start
  | target
  | span
  /-- In the braces, behind something or behind nothing. -/
  | fields (empty : Bool)
  | afterFields
  | afterSpan
  deriving DecidableEq, Repr

/-- The stage that a character leads to, unless it may not stand there. -/
def Stage.next? (stage : Stage) (c : Char) : Option Stage :=
  match stage with
  | .start => if c = '[' then some .span else if begins c then some .target else none
  | .target => some (if c = '[' then .span else .target)
  | .span => some (if c = ']' then .afterSpan else if c = '\x7b' then .fields true else .span)
  | .fields empty =>
      if c = '\x7d' then if empty then none else some .afterFields else some (.fields false)
  | .afterFields => if c = ']' then some .afterSpan else none
  | .afterSpan => none

/-- Whether a directive may end here, or a level may follow. -/
def Stage.mayEnd (stage : Stage) : Bool :=
  stage == .target || stage == .afterSpan

/-- Whether the rest of a directive fits, what follows the equals sign being tested by
`level`. -/
def fits (level : List Char → Bool) (stage : Stage) : List Char → Bool
  | [] => stage.mayEnd
  | c :: rest =>
      if c = '=' ∧ stage.mayEnd then level rest
      else
        match stage.next? c with
        | none => false
        | some next => fits level next rest

/-- Whether a text is a directive.  Blanks around it are passed over, but not where it
sets a level. -/
def isDirective (cs : List Char) : Bool :=
  let trimmed := Text.trimChars cs
  fits (fun level => trimmed == cs && isLevel level) .start trimmed

/-- Whether a text is a filter. -/
def wellFormed (text : String) : Bool :=
  (Text.pieces ',' text.toList).all fun cs => cs.isEmpty || isDirective cs

end DeferredBinding.Logging.Filter
