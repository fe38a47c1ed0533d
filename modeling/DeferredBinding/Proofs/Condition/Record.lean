/-
# Proofs.Condition.Record -- the record of a decision is a tree of spans

The entries of a record are those of a tree: a span with what was written inside of it, or a
single entry (`Log`).  So whatever has such a tree is well nested, for every span that is
opened is closed again, last in first out (`unwind_entries`).

A decision writes the span of its condition (`Recorded`).  Inside stand the spans of the
children that were visited, in order: all of them, or those up to the first that decides or
fails (`Visits`).  At the end stands the one note in which the decision tells its answer; a
decision that fails tells none, however deep the failure came from.
-/
import Mathlib.Data.List.Forall2
import DeferredBinding.Proofs.Condition.Branches

namespace DeferredBinding

set_option autoImplicit false

/-! ## Records as trees -/

/-- A single entry, or a span with what was written inside of it. -/
inductive Log where
  | note (note : Note)
  | generator (who : Instance) (step : Step)
  | helper (who : Instance) (step : Step)
  | span (span : Span) (inside : List Log)

namespace Log

mutual

def entries : Log → List Entry
  | .note n => [.note n]
  | .generator who step => [.generator who step]
  | .helper who step => [.helper who step]
  | .span s inside => .enter s :: (entriesOf inside ++ [.leave s])

def entriesOf : List Log → List Entry
  | [] => []
  | log :: rest => entries log ++ entriesOf rest

end

theorem entriesOf_append (logs others : List Log) :
    entriesOf (logs ++ others) = entriesOf logs ++ entriesOf others := by
  induction logs with
  | nil => rfl
  | cons log rest ih => rw [List.cons_append, entriesOf, entriesOf, ih, List.append_assoc]

/-- A note that stands here and not inside of a span. -/
def note? : Log → Option Note
  | .note n => some n
  | _ => none

/-- The notes on what was decided or answered that stand here, not inside of further spans. -/
def debugNotes (logs : List Log) : List Note :=
  (logs.filterMap note?).filter fun n => n.level == .debug

theorem debugNotes_eq_nil_iff {logs : List Log} :
    debugNotes logs = [] ↔ ∀ n, .note n ∈ logs → n.level ≠ .debug := by
  rw [debugNotes, List.filter_eq_nil_iff]
  constructor
  · intro none_ n member level
    exact none_ n (List.mem_filterMap.2 ⟨_, member, rfl⟩) (by rw [level]; rfl)
  · intro quiet n noted level
    obtain ⟨log, member, shape⟩ := List.mem_filterMap.1 noted
    cases log with
    | note m => cases shape; exact quiet n member (by simpa using level)
    | _ => cases shape

end Log

/-- The spans that are still open after some entries, innermost first; nothing where one was
closed that was not the innermost. -/
def unwind : List Span → List Entry → Option (List Span)
  | opened, [] => some opened
  | opened, .enter s :: rest => unwind (s :: opened) rest
  | [], .leave _ :: _ => none
  | s :: opened, .leave t :: rest => if s = t then unwind opened rest else none
  | opened, _ :: rest => unwind opened rest

mutual

/-- After the entries of a tree the same spans are open as before. -/
theorem unwind_entries : ∀ (log : Log) (opened : List Span) (rest : List Entry),
    unwind opened (log.entries ++ rest) = unwind opened rest
  | .note _, _, _ => by rw [Log.entries, List.singleton_append, unwind] <;> nofun
  | .generator _ _, _, _ => by rw [Log.entries, List.singleton_append, unwind] <;> nofun
  | .helper _ _, _, _ => by rw [Log.entries, List.singleton_append, unwind] <;> nofun
  | .span s inside, opened, rest => by
      rw [Log.entries, List.cons_append, unwind, List.append_assoc, unwind_entriesOf inside,
        List.singleton_append, unwind, if_pos rfl]

theorem unwind_entriesOf : ∀ (logs : List Log) (opened : List Span) (rest : List Entry),
    unwind opened (Log.entriesOf logs ++ rest) = unwind opened rest
  | [], _, _ => rfl
  | log :: logs, opened, rest => by
      rw [Log.entriesOf, List.append_assoc, unwind_entries log, unwind_entriesOf logs]

end

namespace Condition

variable (given : Sources) (type : String)

/-! ## The children that are visited -/

/-- Of children that are visited until one does not answer as usual, those that are. -/
inductive Visits (usual : Bool) (children : List Condition) : List Condition → Prop
  | all (passed : ∀ c ∈ children, isTrue given type c = .ok usual) : Visits usual children children
  | upTo {earlier later : List Condition} {last : Condition}
      (split : children = earlier ++ last :: later)
      (passed : ∀ c ∈ earlier, isTrue given type c = .ok usual)
      (decides : Verdict.isOther usual (isTrue given type last) = true) :
      Visits usual children (earlier ++ [last])

variable {given type}

theorem Visits.cons {usual : Bool} {c : Condition} {rest visited : List Condition}
    (passed : isTrue given type c = .ok usual) (visits : Visits given type usual rest visited) :
    Visits given type usual (c :: rest) (c :: visited) := by
  cases visits with
  | all others => exact .all (List.forall_mem_cons.2 ⟨passed, others⟩)
  | @upTo earlier later last split others decides =>
      subst split
      exact @Visits.upTo given type usual (c :: (earlier ++ last :: later)) (c :: earlier) later
        last rfl (List.forall_mem_cons.2 ⟨passed, others⟩) decides

theorem Visits.stop {usual : Bool} {c : Condition}
    (decides : Verdict.isOther usual (isTrue given type c) = true) (rest : List Condition) :
    Visits given type usual (c :: rest) [c] :=
  @Visits.upTo given type usual (c :: rest) [] rest c rfl nofun decides

theorem Visits.subset {usual : Bool} {children visited : List Condition}
    (visits : Visits given type usual children visited) : ∀ c ∈ visited, c ∈ children := by
  cases visits with
  | all _ => exact fun _ member => member
  | upTo split _ _ =>
      subst split
      intro c member
      rw [List.mem_append, List.mem_singleton] at member
      rw [List.mem_append, List.mem_cons]
      exact member.imp_right Or.inl

/-- What deciding some conditions one after the other writes. -/
def tracesOf (given : Sources) (type : String) (visited : List Condition) : List Entry :=
  visited.flatMap fun c => (check given type c).trace

/-- Going through some conditions, up to the first that does not answer as usual. -/
def visit (given : Sources) (type : String) : Bool → List Condition → Traced Verdict
  | true => allHold given type
  | false => anyHold given type

theorem visit_nil (usual : Bool) : (visit given type usual []).trace = [] := by
  cases usual <;> rfl

theorem visit_cons (usual : Bool) (c : Condition) (rest : List Condition) :
    visit given type usual (c :: rest) =
      if isTrue given type c = .ok usual then
        followedBy (check given type c) (visit given type usual rest)
      else check given type c := by
  rw [isTrue]
  cases usual with
  | true =>
      rw [visit, allHold]
      split
      · rename_i passed
        rw [if_pos passed]
      · rename_i other
        exact (if_neg fun passed => other passed).symm
  | false =>
      rw [visit, anyHold]
      split
      · rename_i passed
        rw [if_pos passed]
      · rename_i other
        exact (if_neg fun passed => other passed).symm

theorem exists_visits (given : Sources) (type : String) (usual : Bool)
    (children : List Condition) :
    ∃ visited, Visits given type usual children visited ∧
      (visit given type usual children).trace = tracesOf given type visited := by
  induction children with
  | nil => exact ⟨[], .all nofun, visit_nil usual⟩
  | cons c rest ih =>
      rw [visit_cons]
      by_cases passed : isTrue given type c = .ok usual
      · obtain ⟨visited, visits, written⟩ := ih
        refine ⟨c :: visited, visits.cons passed, ?_⟩
        rw [if_pos passed, followedBy, written]
        rfl
      · have decides : Verdict.isOther usual (isTrue given type c) = true := by
          rw [← Bool.not_eq_false, Verdict.isOther_eq_false_iff]
          exact passed
        refine ⟨[c], .stop decides rest, ?_⟩
        rw [if_neg passed, tracesOf, List.flatMap_singleton]

/-- What a branch writes inside of its span, before its answer. -/
theorem exists_visits_branch (given : Sources) (type : String) (w : Wrapping)
    (children : List Condition) :
    ∃ visited, Visits given type w.usual children visited ∧
      (check given type (branch w children)).trace =
        .enter (.condition (question type (branch w children))) :: (tracesOf given type visited ++
          closing type (branch w children) (isTrue given type (branch w children)) ++
          [.leave (.condition (question type (branch w children)))]) := by
  obtain ⟨visited, visits, written⟩ := exists_visits given type w.usual children
  refine ⟨visited, visits, ?_⟩
  rw [← written]
  cases w <;> rfl

/-! ## The record of a decision -/

/-- What a leaf notes before it answers: a type that it does not find. -/
def remarks (types : Types.Source) (type : String) : Condition → List Note
  | .assignableTo target =>
      if types.find? type = none then [.requestedTypeUnknown type]
      else if types.find? target = none then [.targetTypeUnknown target]
      else []
  | _ => []

/-- The note with the answer of a decision, if it comes to one. -/
def answering (type : String) (c : Condition) : Verdict → List Log
  | .ok result => [.note (.conditionDecided (c.reply type result) result)]
  | .error _ => []

/-- The tree that a decision writes. -/
inductive Recorded (given : Sources) (type : String) : Condition → Log → Prop
  | leaf {c : Condition} (leaf : c.isLeaf = true) :
      Recorded given type c (.span (.condition (c.question type))
        ((remarks given.types type c).map .note ++ answering type c (isTrue given type c)))
  | branch {w : Wrapping} {children visited : List Condition} {logs : List Log}
      (visits : Visits given type w.usual children visited)
      (each : List.Forall₂ (Recorded given type) visited logs) :
      Recorded given type (branch w children)
        (.span (.condition ((Condition.branch w children).question type))
          (logs ++ answering type (Condition.branch w children)
            (isTrue given type (Condition.branch w children))))

theorem entriesOf_answering (type : String) (c : Condition) (verdict : Verdict) :
    Log.entriesOf (answering type c verdict) = closing type c verdict := by
  cases verdict <;> rfl

theorem trace_leaf {c : Condition} (leaf : c.isLeaf = true) :
    (check given type c).trace = .enter (.condition (c.question type)) ::
      ((remarks given.types type c).map Entry.note ++
        closing type c (isTrue given type c) ++ [.leave (.condition (c.question type))]) := by
  cases c with
  | typeIs name => rfl
  | propertyIs property value => rfl
  | assignableTo target =>
      rw [isTrue, check, framed, assignability, remarks]
      cases given.types.find? type with
      | none => rfl
      | some lower =>
          cases given.types.find? target with
          | none => rfl
          | some upper => rfl
  | all children => cases leaf
  | any children => cases leaf
  | noneOf children => cases leaf

theorem entriesOf_notes (notes : List Note) :
    Log.entriesOf (notes.map .note) = notes.map Entry.note := by
  induction notes with
  | nil => rfl
  | cons n rest ih => rw [List.map_cons, Log.entriesOf, ih]; rfl

/-- Trees that are written one after the other. -/
theorem exists_logs {α : Type} {recorded : α → Log → Prop} {traceOf : α → List Entry} {xs : List α}
    (each : ∀ x ∈ xs, ∃ log, recorded x log ∧ traceOf x = log.entries) :
    ∃ logs, List.Forall₂ recorded xs logs ∧ xs.flatMap traceOf = Log.entriesOf logs := by
  induction xs with
  | nil => exact ⟨[], .nil, rfl⟩
  | cons x rest ih =>
      obtain ⟨⟨log, here, written⟩, others⟩ := List.forall_mem_cons.1 each
      obtain ⟨logs, later, behind⟩ := ih others
      exact ⟨log :: logs, .cons here later, by
        rw [List.flatMap_cons, written, behind, Log.entriesOf]⟩

/-- What a decision writes is a tree of spans, however it ends. -/
theorem exists_recorded (given : Sources) (type : String) (c : Condition) :
    ∃ log, Recorded given type c log ∧ (check given type c).trace = log.entries := by
  induction c using induction_branches with
  | leaf c leaf =>
      refine ⟨_, .leaf leaf, ?_⟩
      rw [trace_leaf leaf, Log.entries, Log.entriesOf_append, entriesOf_notes,
        entriesOf_answering]
  | node w children ih =>
      obtain ⟨visited, visits, written⟩ := exists_visits_branch given type w children
      obtain ⟨logs, each, inside⟩ := exists_logs fun c member => ih c (visits.subset c member)
      refine ⟨_, .branch visits each, ?_⟩
      rw [written, Log.entries, Log.entriesOf_append, entriesOf_answering, ← inside]
      rfl

/-! ## The note that ends a span -/

/-- The span of a condition ends with the note of its answer, which is the only one of its kind
among its own notes; where there is no answer it has none. -/
structure TellsAnswer (type : String) (c : Condition) (verdict : Verdict) (log : Log) : Prop where
  answered : ∀ result, verdict = .ok result → ∃ before,
    log = .span (.condition (c.question type))
      (before ++ [.note (.conditionDecided (c.reply type result) result)]) ∧
    Log.debugNotes before = []
  failed : ∀ failure, verdict = .error failure → ∃ inside,
    log = .span (.condition (c.question type)) inside ∧ Log.debugNotes inside = []

theorem tellsAnswer_of_quiet {c : Condition} {verdict : Verdict} {before : List Log}
    (quiet : Log.debugNotes before = []) :
    TellsAnswer type c verdict
      (.span (.condition (c.question type)) (before ++ answering type c verdict)) := by
  constructor
  · rintro result rfl
    exact ⟨before, rfl, quiet⟩
  · rintro failure rfl
    exact ⟨before, by rw [answering, List.append_nil], quiet⟩

theorem debugNotes_remarks (types : Types.Source) (c : Condition) :
    Log.debugNotes ((remarks types type c).map .note) = [] := by
  cases c with
  | assignableTo target =>
      rw [remarks]
      split
      · rfl
      · split <;> rfl
  | _ => rfl

/-- A decision writes a span, and no note outside of it. -/
theorem debugNotes_of_recorded {cs : List Condition} {logs : List Log}
    (each : List.Forall₂ (Recorded given type) cs logs) : Log.debugNotes logs = [] := by
  induction each with
  | nil => rfl
  | cons head _ ih =>
      cases head with
      | leaf _ => exact ih
      | branch _ _ => exact ih

theorem Recorded.tellsAnswer {c : Condition} {log : Log} (recorded : Recorded given type c log) :
    TellsAnswer type c (isTrue given type c) log := by
  cases recorded with
  | leaf leaf => exact tellsAnswer_of_quiet (debugNotes_remarks given.types c)
  | branch _ each => exact tellsAnswer_of_quiet (debugNotes_of_recorded each)

end Condition

end DeferredBinding
