/-
# Proofs.CommandLine.Levels -- what one argument does

A level takes its arguments one by one, and each of them does one of four things (`Taken`): it
ends the options, it is an option of the level, alone or in one word with its value, it is the
value that an option waits for, or it is a place.  What is kept by each of them is kept by a
level (`takeLevel_keeps`).

A value that is pending is settled before the next option or place is looked at, and what is
settled goes where it is pending for (`settle_cases`).
-/
import DeferredBinding.CommandLine.Arguments
import DeferredBinding.Proofs.Attempt

namespace DeferredBinding.CommandLine

set_option autoImplicit false

open Attempt

/-! ## Words -/

/-- An option by its long name, in one word with its value if there is one. -/
def word (name : String) (attached : Option String) : String :=
  "--" ++ name ++ (attached.elim "" fun value => "=" ++ value)

theorem ofList_eq_word (cs : List Char) :
    String.ofList ('-' :: '-' :: cs) =
      word (Progress.longParts cs).1 (Progress.longParts cs).2 := by
  have whole := List.takeWhile_append_dropWhile (p := (· != '=')) (l := cs)
  have stops := List.head?_dropWhile_not (· != '=') cs
  unfold Progress.longParts
  apply String.toList_injective
  cases cut : cs.dropWhile (· != '=') with
  | nil =>
      rw [cut, List.append_nil] at whole
      simp [word, whole]
  | cons c value =>
      rw [cut] at whole stops
      obtain rfl : c = '=' := by simpa using stops
      simp [word, whole]

namespace Progress

variable {p q : Progress} {g : Grammar} {arg : String}

/-- Everything that an argument can come to that is not the name of a command. -/
inductive Taken (p : Progress) (g : Grammar) (arg : String) : Progress → Prop
  | dashes : Taken p g arg { p with trailing := true, awaiting := false }
  | option {name : String} {s : Setting} {attached : Option String} {q : Progress}
      (known : (name, s) ∈ g.settings) (written : arg = word name attached)
      (takes : p.option s attached = .ok q) : Taken p g arg q
  | value : Taken p g arg
      { p with pending := p.pending.map fun waiting => (waiting.1, some arg), awaiting := false }
  | place {q : Progress} (takes : p.place g arg = .ok q) : Taken p g arg q

/-- No level goes on behind a flag. -/
theorem flag_refuses (p : Progress) (answer : Refusal) : p.flag answer ≠ .ok q := by
  intro takes
  obtain ⟨middle, -, ended⟩ := bind_ok_iff.1 takes
  cases ended

theorem short_refuses (letter : Char) : p.short g letter ≠ .ok q := by
  unfold short
  split
  · exact flag_refuses p _
  · split
    · exact flag_refuses p _
    · exact nofun

theorem option_of_long {name : String} {attached : Option String}
    (takes : p.long g name attached = .ok q) :
    ∃ s, (name, s) ∈ g.settings ∧ p.option s attached = .ok q := by
  unfold long at takes
  split at takes
  · rename_i s known
    obtain ⟨before, after, split, -⟩ := List.lookup_eq_some_iff.1 known
    exact ⟨s, split ▸ List.mem_append_right before List.mem_cons_self, takes⟩
  · split at takes
    · split at takes
      · cases takes
      · exact absurd takes (flag_refuses p _)
    · cases takes

theorem taken_of_take (takes : p.take g arg = .ok q) : Taken p g arg q := by
  unfold take at takes
  split at takes
  · exact .place takes
  · split at takes
    · cases takes
      exact .dashes
    · rename_i cs _ written
      obtain ⟨s, known, optional⟩ := option_of_long takes
      refine .option known ?_ optional
      rw [← ofList_eq_word, ← written, String.ofList_toList]
    · exact absurd takes (short_refuses _)
    · split at takes
      · cases takes
        exact .value
      · exact .place takes

/-- What is pending is settled where it belongs, and nothing is pending then. -/
theorem settle_cases (settles : p.settle = .ok q) :
    p.pending = none ∧ q = p ∨
      ∃ slot text values, p.pending = some (slot, some text) ∧
        p.values.settle slot text = .ok values ∧
        q = { p with values, pending := none, awaiting := false } := by
  unfold settle at settles
  split at settles
  · rename_i idle
    cases settles
    exact .inl ⟨idle, rfl⟩
  · cases settles
  · rename_i slot text waits
    obtain ⟨values, settled, rfl⟩ := map_ok_iff.1 settles
    exact .inr ⟨slot, text, values, waits, settled, rfl⟩

/-- What every argument keeps, a level keeps; the arguments it leaves are some of its own. -/
theorem takeLevel_keeps {holds : Progress → Prop} {args : List String}
    {rest : Option (String × List String)}
    (keeps : ∀ p q, ∀ arg ∈ args, holds p → Taken p g arg q → holds q) (start : holds p)
    (takes : takeLevel g p args = .ok (q, rest)) :
    holds q ∧ ∀ name more, rest = some (name, more) → more ⊆ args := by
  induction args generalizing p with
  | nil =>
      cases takes
      exact ⟨start, nofun⟩
  | cons arg others ih =>
      rw [takeLevel] at takes
      split at takes
      · cases takes
        refine ⟨start, fun name more same => ?_⟩
        cases same
        exact List.subset_cons_self arg others
      · obtain ⟨next, first, onward⟩ := bind_ok_iff.1 takes
        have kept := keeps p next arg List.mem_cons_self start (taken_of_take first)
        obtain ⟨last, inside⟩ :=
          ih (fun p q arg member => keeps p q arg (List.mem_cons_of_mem _ member)) kept onward
        exact ⟨last, fun name more same =>
          List.Subset.trans (inside name more same) (List.subset_cons_self arg others)⟩

end Progress

/-! ## Two levels -/

/-- A command line has two levels: what stands before a command, and what stands behind it. -/
structure Levels (args : List String) (outer : Progress) (name : String) (inner : Progress) :
    Prop where
  asks : name ≠ "help"
  taken : ∃ more rest, takeLevel outerGrammar {} args = .ok (outer, some (name, more)) ∧
    takeLevel (if name = "check" then checkGrammar else resolveGrammar) {} more = .ok (inner, rest)

/-- What a command line comes to once its levels are taken. -/
theorem Levels.parse {args : List String} {outer inner : Progress} {name : String}
    (levels : Levels args outer name inner) (env : Logging.Environment) :
    parse env args =
      (finish env inner).bind fun innerValues =>
        (command name innerValues).bind fun what =>
          (finish env outer).bind fun outerValues =>
            .ok (request env outerValues innerValues what) := by
  obtain ⟨asks, more, rest, outermost, innermost⟩ := levels
  rw [CommandLine.parse, outermost]
  show (if name = "help" then _ else _) = _
  rw [if_neg asks, innermost]
  rfl

/-- A request is made of two levels. -/
theorem exists_levels {env : Logging.Environment} {args : List String} {r : Request}
    (parsed : parse env args = .ok r) : ∃ outer name inner, Levels args outer name inner := by
  obtain ⟨⟨outer, rest⟩, outermost, within⟩ := bind_ok_iff.1 parsed
  cases rest with
  | none =>
      obtain ⟨values, -, refused⟩ := bind_ok_iff.1 within
      cases refused
  | some named =>
      obtain ⟨name, more⟩ := named
      dsimp only at within
      split at within
      · cases within
      · rename_i asks
        obtain ⟨⟨inner, rest⟩, innermost, -⟩ := bind_ok_iff.1 within
        exact ⟨outer, name, inner, asks, more, rest, outermost, innermost⟩

end DeferredBinding.CommandLine
