/-
# Proofs.Resolution.Calls -- rules under a run of calls

Rules are asked again and again, through a memo or not, and disposed in between.  A
`Stage` is what there is between two such calls: the rules as they were left, the census,
and the record of all calls so far.

Whatever is called, the rules stay what they are but for the instances they hold
(`dispose_run`); so what is read off their actions and conditions holds throughout
(`mem_run`).
-/
import DeferredBinding.Proofs.Resolution.FirstMatch
import DeferredBinding.Resolution.Memo

namespace DeferredBinding

set_option autoImplicit false

/-! ## Calls and stages -/

/-- What can be done with rules. -/
inductive Call (γ : Type) where
  | resolve (ctx : Context γ) (type : String)
  /-- ask through a memo that remembers some answers already -/
  | ask (answers : List (String × Answer)) (ctx : Context γ) (type : String)
  | dispose

/-- Rules between two calls, and the record of the calls so far. -/
structure Stage where
  rules : Rules
  census : Census
  record : List Entry := []

namespace Stage

variable {γ : Type} [Generator γ]

def step (s : Stage) : Call γ → Stage
  | .resolve ctx type =>
      let resolution := s.rules.resolve ctx type s.census
      { rules := resolution.rules
        census := resolution.census
        record := s.record ++ resolution.trace }
  | .ask answers ctx type =>
      let reply := Memo.resolve { rules := s.rules, answers } ctx type s.census
      { rules := reply.memo.rules
        census := reply.census
        record := s.record ++ reply.trace }
  | .dispose =>
      { s with
        rules := s.rules.dispose
        record := s.record ++ s.rules.disposal }

def run (s : Stage) (calls : List (Call γ)) : Stage :=
  calls.foldl step s

/-- A memo either remembers the answer, and nothing happens, or asks the rules. -/
theorem step_ask (s : Stage) (answers : List (String × Answer)) (ctx : Context γ)
    (type : String) :
    s.step (.ask answers ctx type) =
        { s with record := s.record ++ [.note (.answerRemembered type)] } ∨
      s.step (.ask answers ctx type) = s.step (.resolve ctx type) := by
  rw [step, step, Memo.resolve]
  split
  · exact Or.inl rfl
  · refine Or.inr ?_
    dsimp only
    split
    · rfl
    · rfl

/-! ## What calls leave alone -/

end Stage

theorem Rule.dispose_realize {γ : Type} [Generator γ] (ctx : Context γ) (type : String)
    (r : Rule) (census : Census) :
    (r.realize ctx type census).rule.dispose = r.dispose := by
  cases action : r.action with
  | replaceWith name => rw [realize_replaceWith ctx type census action]
  | generateWith name =>
      cases found : ctx.generators name with
      | none => rw [realize_unknown ctx type census action found]
      | some generator =>
          rw [realize_known ctx type census action found]
          rfl
  | fail => rw [realize_fail ctx type census action]

theorem Rules.Course.dispose {γ : Type} [Generator γ] {ctx : Context γ} {type : String}
    {census count : Census} {rs left : Rules} {outcome : Except Failure Answer}
    {work : List Entry} (course : Course ctx type census rs outcome left count work) :
    left.dispose = rs.dispose := by
  cases course with
  | kept all => rfl
  | missing member unknown => rfl
  | undecided member fails => rfl
  | fired split fires =>
      obtain ⟨rules⟩ := rs
      dsimp only at split
      rw [Rules.dispose, Rules.dispose, split, List.map_append, List.map_append, List.map_cons,
        List.map_cons, Rule.dispose_realize]

namespace Stage

variable {γ : Type} [Generator γ]

theorem dispose_step (s : Stage) (call : Call γ) :
    (s.step call).rules.dispose = s.rules.dispose := by
  cases call with
  | resolve ctx type => exact (s.rules.resolve_course ctx type s.census).dispose
  | ask answers ctx type =>
      obtain remembered | asked := s.step_ask answers ctx type
      · rw [remembered]
      · rw [asked]
        exact (s.rules.resolve_course ctx type s.census).dispose
  | dispose =>
      show s.rules.dispose.dispose = s.rules.dispose
      rw [Rules.dispose, Rules.dispose, List.map_map]
      rfl

/-- Calls change nothing of the rules but the instances they hold. -/
theorem dispose_run (s : Stage) (calls : List (Call γ)) :
    (s.run calls).rules.dispose = s.rules.dispose := by
  induction calls generalizing s with
  | nil => rfl
  | cons call rest ih => exact (ih (s.step call)).trans (s.dispose_step call)

/-- After some calls a rule has the action and the conditions of one that was there at
first. -/
theorem mem_run {s : Stage} {calls : List (Call γ)} {r : Rule}
    (member : r ∈ (s.run calls).rules.toList) :
    ∃ q ∈ s.rules.toList, q.action = r.action ∧ q.roots = r.roots := by
  have disposed : r.dispose ∈ (s.run calls).rules.dispose.toList :=
    List.mem_map_of_mem member
  rw [dispose_run] at disposed
  obtain ⟨q, there, same⟩ := List.mem_map.1 disposed
  rw [Rule.dispose, Rule.dispose, Rule.mk.injEq] at same
  exact ⟨q, there, same.1, same.2.1⟩

end Stage

end DeferredBinding
