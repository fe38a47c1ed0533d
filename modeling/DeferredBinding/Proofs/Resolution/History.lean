/-
# Proofs.Resolution.History -- what a memo knows is what it was told

A memo is asked, looked into and cleared in any order, against contexts that may differ
from call to call.  A `Session` keeps a log of these calls: beside what the memo returned,
an entry tells what the rules would have given in the same place.

`firstSuccess` reads the log alone: what the rules gave where a type was first resolved
since the memo was last cleared.  One call keeps the memo in step with it
(`Remembers.step`), hence every run does (`Remembers.run`), and so a memo never gives an
answer that its rules did not give (`run_history`).
-/
import DeferredBinding.Proofs.Resolution.Calls
import DeferredBinding.Proofs.Resolution.Outcome

namespace DeferredBinding

set_option autoImplicit false

namespace Memo

variable {γ : Type} [Generator γ]

/-! ## One question -/

theorem resolve_remembered {m : Memo} {type : String} {answer : Answer}
    (remembered : m.answer? type = some answer) (ctx : Context γ) (census : Census) :
    m.resolve ctx type census =
      { outcome := .ok answer, memo := m, census, trace := [.note (.answerRemembered type)] } := by
  rw [resolve, remembered]

/-- What a memo leaves behind of a resolution made for it. -/
def keep (m : Memo) (type : String) (resolution : Resolution) : Memo :=
  match resolution.outcome with
  | .ok answer => remember { m with rules := resolution.rules } type answer
  | .error _ => { m with rules := resolution.rules }

theorem resolve_forgotten {m : Memo} {type : String} (forgotten : m.answer? type = none)
    (ctx : Context γ) (census : Census) :
    m.resolve ctx type census =
      { outcome := (m.rules.resolve ctx type census).outcome
        memo := m.keep type (m.rules.resolve ctx type census)
        census := (m.rules.resolve ctx type census).census
        trace := (m.rules.resolve ctx type census).trace } := by
  rw [resolve, forgotten]
  rfl

theorem keep_rules (m : Memo) (type : String) (resolution : Resolution) :
    (m.keep type resolution).rules = resolution.rules := by
  unfold keep
  split <;> rfl

theorem keep_of_error {resolution : Resolution} {failure : Failure}
    (failed : resolution.outcome = .error failure) (m : Memo) (type : String) :
    (m.keep type resolution).answers = m.answers := by
  rw [keep, failed]

theorem answer?_keep_of_error {resolution : Resolution} {failure : Failure}
    (failed : resolution.outcome = .error failure) (m : Memo) (type other : String) :
    (m.keep type resolution).answer? other = m.answer? other := by
  rw [answer?, keep_of_error failed, answer?]

theorem answer?_keep_of_ok {resolution : Resolution} {answer : Answer}
    (given : resolution.outcome = .ok answer) (m : Memo) (type other : String) :
    (m.keep type resolution).answer? other =
      if other = type then some answer else m.answer? other := by
  rw [keep, given]
  exact Pairs.lookup_cons_eq_ite type answer m.answers other

/-! ## Sessions -/

/-- What can be done with a memo. -/
inductive Use (γ : Type) where
  | resolve (ctx : Context γ) (type : String)
  | lookUp (type : String)
  | clear

/-- The call is made against `ctx`, if it is made against any context. -/
def Use.Against (ctx : Context γ) : Use γ → Prop
  | .resolve other _ => other = ctx
  | .lookUp _ => True
  | .clear => True

/-- What is logged of a call: of a resolution what was returned, and what the rules give
in its place. -/
inductive Told where
  | resolved (type : String) (returned given : Except Failure Answer)
  | lookedUp (type : String) (found : Option Answer)
  | cleared

/-- A memo between two calls, with the log of the calls so far. -/
structure Session where
  memo : Memo
  census : Census
  log : List Told := []

/-- The session of a memo that was not asked anything yet. -/
def Session.ofRules (rs : Rules) (census : Census) : Session :=
  { memo := { rules := rs }, census }

namespace Session

def step (s : Session) : Use γ → Session
  | .resolve ctx type =>
      let reply := s.memo.resolve ctx type s.census
      { memo := reply.memo
        census := reply.census
        log := s.log ++
          [.resolved type reply.outcome (s.memo.rules.resolve ctx type s.census).outcome] }
  | .lookUp type => { s with log := s.log ++ [.lookedUp type (s.memo.answer? type)] }
  | .clear => { s with memo := s.memo.clear, log := s.log ++ [.cleared] }

def run (s : Session) (uses : List (Use γ)) : Session :=
  uses.foldl step s

/-- A call changes nothing of the rules but the instances they hold. -/
theorem dispose_step (s : Session) (use : Use γ) :
    (s.step use).memo.rules.dispose = s.memo.rules.dispose := by
  cases use with
  | resolve ctx type =>
      show (s.memo.resolve ctx type s.census).memo.rules.dispose = _
      cases known : s.memo.answer? type with
      | some answer => rw [resolve_remembered known]
      | none =>
          rw [resolve_forgotten known, keep_rules]
          exact (s.memo.rules.resolve_course ctx type s.census).dispose
  | lookUp type => rfl
  | clear => rfl

theorem dispose_run (s : Session) (uses : List (Use γ)) :
    (s.run uses).memo.rules.dispose = s.memo.rules.dispose := by
  induction uses generalizing s with
  | nil => rfl
  | cons use rest ih => exact (ih (s.step use)).trans (s.dispose_step use)

end Session

/-! ## What the log says -/

def Told.isCleared : Told → Bool
  | .cleared => true
  | _ => false

/-- What the rules gave where `type` was resolved with success. -/
def Told.success? (type : String) : Told → Option (Except Failure Answer)
  | .resolved other (.ok _) given => if other = type then some given else none
  | _ => none

/-- The calls since the memo was last cleared. -/
def sinceClear (log : List Told) : List Told :=
  (log.reverse.takeWhile fun told => !told.isCleared).reverse

/-- What the rules gave where `type` was first resolved with success since the memo was
last cleared. -/
def firstSuccess (type : String) (log : List Told) : Option (Except Failure Answer) :=
  (sinceClear log).findSome? (Told.success? type)

theorem sinceClear_concat (log : List Told) (told : Told) :
    sinceClear (log ++ [told]) = if told.isCleared then [] else sinceClear log ++ [told] := by
  rw [sinceClear, List.reverse_concat, List.takeWhile_cons]
  cases told.isCleared with
  | true => rfl
  | false => exact List.reverse_cons

theorem mem_of_mem_sinceClear {told : Told} {log : List Told} (member : told ∈ sinceClear log) :
    told ∈ log := by
  rw [sinceClear, List.mem_reverse] at member
  exact List.mem_reverse.1 ((List.takeWhile_sublist _).subset member)

theorem firstSuccess_clear (type : String) (log : List Told) :
    firstSuccess type (log ++ [.cleared]) = none := by
  rw [firstSuccess, sinceClear_concat]
  rfl

theorem firstSuccess_concat {told : Told} (kept : told.isCleared = false) (type : String)
    (log : List Told) :
    firstSuccess type (log ++ [told]) = (firstSuccess type log).or (told.success? type) := by
  rw [firstSuccess, sinceClear_concat, kept, if_neg Bool.false_ne_true, List.findSome?_append,
    List.findSome?_singleton]
  rfl

/-- What `firstSuccess` finds stands in the log. -/
theorem resolved_of_firstSuccess {type : String} {log : List Told}
    {given : Except Failure Answer} (found : firstSuccess type log = some given) :
    ∃ returned, .resolved type returned given ∈ log := by
  obtain ⟨told, member, success⟩ := List.exists_of_findSome?_eq_some found
  cases told with
  | resolved other returned answer =>
      cases returned with
      | error failure => cases success
      | ok returned =>
          rw [Told.success?] at success
          split at success
          · rename_i same
            cases success
            subst same
            exact ⟨.ok returned, mem_of_mem_sinceClear member⟩
          · cases success
  | lookedUp other found => cases success
  | cleared => cases success

namespace Session

/-- The memo remembers, of every type, what the log says the rules gave first. -/
def Remembers (s : Session) : Prop :=
  ∀ type, firstSuccess type s.log = (s.memo.answer? type).map .ok

theorem remembers_ofRules (rs : Rules) (census : Census) : (ofRules rs census).Remembers :=
  fun _ => rfl

section

variable {s : Session}

/-- An answer given again is logged, but it is not the first of its type. -/
theorem Remembers.hit (remembers : s.Remembers) {type : String} {answer : Answer}
    (known : s.memo.answer? type = some answer) (ctx : Context γ) :
    (s.step (.resolve ctx type)).Remembers := by
  intro other
  rw [step, resolve_remembered known]
  dsimp only
  rw [firstSuccess_concat rfl, remembers, Told.success?]
  by_cases same : type = other
  · rw [← same, known]
    rfl
  · rw [if_neg same, Option.or_none]

theorem Remembers.miss (remembers : s.Remembers) {type : String}
    (unknown : s.memo.answer? type = none) (ctx : Context γ) :
    (s.step (.resolve ctx type)).Remembers := by
  intro other
  rw [step, resolve_forgotten unknown]
  dsimp only
  rw [firstSuccess_concat rfl, remembers]
  cases outcome : (s.memo.rules.resolve ctx type s.census).outcome with
  | error failure =>
      rw [answer?_keep_of_error outcome]
      exact Option.or_none
  | ok answer =>
      rw [answer?_keep_of_ok outcome, Told.success?]
      by_cases same : other = type
      · rw [if_pos same, if_pos same.symm, same, unknown]
        rfl
      · rw [if_neg same, if_neg (Ne.symm same), Option.or_none]

/-- One call keeps the memo in step with the log. -/
theorem Remembers.step (remembers : s.Remembers) (use : Use γ) : (s.step use).Remembers := by
  cases use with
  | resolve ctx type =>
      cases known : s.memo.answer? type with
      | some answer => exact remembers.hit known ctx
      | none => exact remembers.miss known ctx
  | lookUp type =>
      intro other
      show firstSuccess other (s.log ++ [.lookedUp type _]) = _
      rw [firstSuccess_concat rfl, remembers]
      exact Option.or_none
  | clear => exact fun other => firstSuccess_clear other s.log

theorem Remembers.run (remembers : s.Remembers) (uses : List (Use γ)) :
    (s.run uses).Remembers := by
  induction uses generalizing s with
  | nil => exact remembers
  | cons use rest ih => exact ih (remembers.step use)

/-! ## One context for all calls -/

/-- All that was returned, and all that the rules gave, is what `answers` says. -/
def Agrees (s : Session) (answers : String → Except Failure Answer) : Prop :=
  ∀ type returned given, .resolved type returned given ∈ s.log →
    returned = answers type ∧ given = answers type

theorem Agrees.concat {answers : String → Except Failure Answer} (agrees : s.Agrees answers)
    {memo : Memo} {census : Census} {told : Told}
    (new : ∀ type returned given, told = .resolved type returned given →
      returned = answers type ∧ given = answers type) :
    Agrees { memo, census, log := s.log ++ [told] } answers := by
  intro type returned given member
  obtain before | same := List.mem_append.1 member
  · exact agrees type returned given before
  · exact new type returned given (List.mem_singleton.1 same).symm

variable {rs : Rules} {ctx : Context γ}

/-- A call against a context whose generators do not count returns what the rules that were
there at first would give. -/
theorem Agrees.step {census : Census}
    (agrees : s.Agrees fun type => (rs.resolve ctx type census).outcome)
    (remembers : s.Remembers) (same : s.memo.rules.dispose = rs.dispose)
    (deterministic : ctx.Deterministic) {use : Use γ} (against : use.Against ctx) :
    (s.step use).Agrees fun type => (rs.resolve ctx type census).outcome := by
  cases use with
  | resolve other type =>
      cases against
      refine agrees.concat fun requested returned given told => ?_
      cases told
      have uncached : (s.memo.rules.resolve ctx type s.census).outcome =
          (rs.resolve ctx type census).outcome :=
        Rules.outcome_resolve_of_deterministic same deterministic type s.census census
      refine ⟨?_, uncached⟩
      cases known : s.memo.answer? type with
      | none =>
          rw [resolve_forgotten known]
          exact uncached
      | some answer =>
          have first : firstSuccess type s.log = some (.ok answer) := by
            rw [remembers, known]
            rfl
          obtain ⟨returned, logged⟩ := resolved_of_firstSuccess first
          rw [resolve_remembered known]
          exact (agrees type returned (.ok answer) logged).2
  | lookUp type => exact agrees.concat fun _ _ _ told => nomatch told
  | clear => exact agrees.concat fun _ _ _ told => nomatch told

theorem Agrees.run {census : Census}
    (agrees : s.Agrees fun type => (rs.resolve ctx type census).outcome)
    (remembers : s.Remembers) (same : s.memo.rules.dispose = rs.dispose)
    (deterministic : ctx.Deterministic) {uses : List (Use γ)}
    (against : ∀ use ∈ uses, use.Against ctx) :
    (s.run uses).Agrees fun type => (rs.resolve ctx type census).outcome := by
  induction uses generalizing s with
  | nil => exact agrees
  | cons use rest ih =>
      obtain ⟨here, onward⟩ := List.forall_mem_cons.1 against
      exact ih (agrees.step remembers same deterministic here) (remembers.step use)
        ((s.dispose_step use).trans same) onward

end

/-! ## The memo is faithful -/

/-- What a session is good for, whatever was asked in it: `uses` lists the calls, and `rs`
are the rules they started from. -/
structure Faithful (γ : Type) [Generator γ] (s : Session) (rs : Rules) (uses : List (Use γ)) :
    Prop where
  /-- a type has an answer just where it was resolved with success since the memo was last
  cleared, and it is what the rules gave first -/
  remembered : ∀ type, firstSuccess type s.log = (s.memo.answer? type).map .ok
  /-- such an answer is given again against any context, and nothing else happens -/
  hit : ∀ type given, firstSuccess type s.log = some given → ∀ ctx : Context γ,
    s.memo.resolve ctx type s.census =
      { outcome := given, memo := s.memo, census := s.census
        trace := [.note (.answerRemembered type)] }
  /-- any other type is resolved by the rules, and no failure is remembered -/
  miss : ∀ type, firstSuccess type s.log = none → ∀ ctx : Context γ,
    let resolution := s.memo.rules.resolve ctx type s.census
    let reply := s.memo.resolve ctx type s.census
    reply.outcome = resolution.outcome ∧ reply.memo.rules = resolution.rules ∧
      reply.census = resolution.census ∧ reply.trace = resolution.trace ∧
      ∀ failure, resolution.outcome = .error failure → reply.memo.answers = s.memo.answers
  /-- the rules are those of the start, up to what they hold on to -/
  rules : s.memo.rules.dispose = rs.dispose
  /-- as long as all is asked against one context whose generators do not count, the memo
  makes no difference to any answer or failure -/
  transparent : ∀ ctx : Context γ, ctx.Deterministic → (∀ use ∈ uses, use.Against ctx) →
    ∀ type returned given, .resolved type returned given ∈ s.log → ∀ census : Census,
      returned = (rs.resolve ctx type census).outcome

/-- **A memo gives the first answer again, and nothing else.**  However a memo was asked,
looked into and cleared, and against whatever contexts. -/
theorem run_history (rs : Rules) (census : Census) (uses : List (Use γ)) :
    ((ofRules rs census).run uses).Faithful γ rs uses := by
  have remembers : ((ofRules rs census).run uses).Remembers :=
    (remembers_ofRules rs census).run uses
  refine ⟨remembers, ?_, ?_, (ofRules rs census).dispose_run uses, ?_⟩
  · intro type given first ctx
    rw [remembers] at first
    obtain ⟨answer, known, rfl⟩ := Option.map_eq_some_iff.1 first
    exact resolve_remembered known ctx _
  · intro type first ctx
    rw [remembers, Option.map_eq_none_iff] at first
    rw [resolve_forgotten first]
    exact ⟨rfl, keep_rules _ _ _, rfl, rfl, fun _ failed => keep_of_error failed _ _⟩
  · intro ctx deterministic against type returned given logged count
    have start : (ofRules rs census).Agrees fun type => (rs.resolve ctx type count).outcome :=
      fun _ _ _ member => absurd member List.not_mem_nil
    exact (start.run (remembers_ofRules rs census) rfl deterministic against
      type returned given logged).1

namespace Example

/-- One generator that answers, and no other. -/
def context : Context Recipe :=
  { properties := Rules.Example.context.properties
    types := Rules.Example.context.types
    generators := fun name => if name = "a.Proxies" then some (.suffix "_Proxy") else none }

/-- Asks a generator for `a.Api`, and one that nobody provides for `a.Lost`. -/
def rules : Rules :=
  { toList := [{ action := .generateWith "a.Proxies", roots := [.typeIs "a.Api"] },
      { action := .generateWith "a.Missing", roots := [.typeIs "a.Lost"] }] }

/-- Asked twice, cleared, and asked for what fails before it is asked again. -/
def uses : List (Use Recipe) :=
  [.resolve context "a.Api", .resolve context "a.Api", .lookUp "a.Api", .clear,
    .resolve context "a.Lost", .resolve context "a.Api"]

theorem uses_against : ∀ use ∈ uses, use.Against context := by
  simp [uses, Use.Against]

theorem proxy_remembered :
    let s := (ofRules rules {}).run uses
    s.Faithful Recipe rules uses ∧ s.census.numbered = 2 ∧
      s.memo.answers = [("a.Api", ⟨"a.Api_Proxy", some 0⟩)] ∧
      ∀ type returned given, .resolved type returned given ∈ s.log → ∀ census : Census,
        returned = (rules.resolve context type census).outcome := by
  have faithful := run_history rules {} uses
  exact ⟨faithful, by decide, by decide,
    faithful.transparent context context.deterministic_of_recipes uses_against⟩

end Example

end Session

end Memo

end DeferredBinding
