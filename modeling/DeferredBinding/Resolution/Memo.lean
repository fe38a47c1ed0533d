/-
# Resolution.Memo -- answers remembered

A memo keeps the first answer given for each type and gives it again, whatever it
is asked against; failures are not kept.  It is good for one set of sources: to
ask under other selections, clear it.
-/
import DeferredBinding.Resolution.Rules

namespace DeferredBinding

set_option autoImplicit false

/-- Rules with the answers they have given. -/
structure Memo where
  rules : Rules
  answers : List (String × Answer) := []
  deriving DecidableEq, Repr

namespace Memo

/-- What a question to a memo leaves behind. -/
structure Reply where
  outcome : Except Failure Answer
  memo : Memo
  census : Census
  trace : List Entry

def answer? (m : Memo) (type : String) : Option Answer :=
  m.answers.lookup type

def remember (m : Memo) (type : String) (answer : Answer) : Memo :=
  { m with answers := (type, answer) :: m.answers }

def clear (m : Memo) : Memo :=
  { m with answers := [] }

variable {γ : Type} [Generator γ]

/-- Resolve the requested type, unless its answer is remembered. -/
def resolve (m : Memo) (ctx : Context γ) (type : String) (census : Census) : Reply :=
  match m.answer? type with
  | some answer =>
      { outcome := .ok answer, memo := m, census, trace := [.note (.answerRemembered type)] }
  | none =>
      let resolution := m.rules.resolve ctx type census
      let memo := { m with rules := resolution.rules }
      { outcome := resolution.outcome
        memo :=
          match resolution.outcome with
          | .ok answer => memo.remember type answer
          | .error _ => memo
        census := resolution.census
        trace := resolution.trace }

end Memo

end DeferredBinding
