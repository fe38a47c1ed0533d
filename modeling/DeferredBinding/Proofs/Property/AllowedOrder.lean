/-
# Proofs.Property.AllowedOrder -- in which order allowed values are listed

The defined values of a binding property stand in the order in which they were defined
(`defined_changeAll`).  The allowed ones stand in the order in which they arrived since the last
restriction: what it lists, in its own order, then what was defined since
(`allowed_changeAll`).

So the allowed values need not stand in the order of definition.  A call on a property whose
allowed values do leaves them so exactly if it is `Timely` (`inOrder_changed_iff`): a
restriction has to list its values in the order of definition, and a value may be allowed again
by a definition only behind all others that are allowed.  Through a whole run of calls the order
is kept exactly if each of them is timely (`allowed_arrived`).
-/
import Mathlib.Data.List.Induction
import DeferredBinding.Proofs.Property.Invariants

namespace DeferredBinding.Property.Binding

set_option autoImplicit false

/-! ## Runs of calls -/

/-- The property after a call that may have been refused. -/
def changed (b : Binding) (call : Call) : Binding :=
  match b.change call with
  | .ok c => c
  | .error _ => b

def changeAll (b : Binding) (calls : List Call) : Binding :=
  calls.foldl changed b

/-- The calls that are not refused, in order. -/
def accepted (b : Binding) : List Call → List Call
  | [] => []
  | call :: rest =>
      match b.change call with
      | .ok c => call :: c.accepted rest
      | .error _ => b.accepted rest

def Call.defines? : Call → Option String
  | .define value => some value
  | .restrict _ => none
  | .setFallback _ => none

/-- The values that some calls define, in order. -/
def definitions (calls : List Call) : List String :=
  calls.filterMap Call.defines?

/-- What has arrived to be allowed after a call; a restriction starts over. -/
def Call.letIn (arrived : List String) : Call → List String
  | .define value => arrived ++ [value]
  | .restrict values => values
  | .setFallback _ => arrived

/-- What has arrived to be allowed since the last restriction, that one included. -/
def arrivals (calls : List Call) : List String :=
  calls.foldl Call.letIn []

theorem changeAll_concat (b : Binding) (calls : List Call) (call : Call) :
    b.changeAll (calls ++ [call]) = (b.changeAll calls).changed call := by
  rw [changeAll, List.foldl_append]
  rfl

theorem Sound.changed {b : Binding} (sound : b.Sound) (call : Call) : (b.changed call).Sound := by
  rw [Binding.changed]
  cases made : b.change call with
  | ok c => exact sound.change made
  | error _ => exact sound

theorem Sound.changeAll {b : Binding} (sound : b.Sound) (calls : List Call) :
    (b.changeAll calls).Sound := by
  induction calls generalizing b with
  | nil => exact sound
  | cons call rest ih => exact ih (sound.changed call)

theorem sound_of_declare {name : String} {b : Binding} (declared : declare name = .ok b) :
    b.Sound ∧ b.defined = [] ∧ b.allowed = [] := by
  unfold declare at declared
  split at declared
  · cases declared
    exact ⟨(Blank.binding name).sound, rfl, rfl⟩
  · cases declared

/-! ## The order of arrival -/

theorem add_eraseDups (values : List String) (value : String) :
    FirstSeen.add values.eraseDups value = (values ++ [value]).eraseDups :=
  FirstSeen.addAll_eraseDups values [value]

/-- A call adds what it defines, and lets in what it lets in. -/
theorem change_lists {b c : Binding} {call : Call} {said arrived : List String}
    (defined : b.defined = said.eraseDups) (allowed : b.allowed = arrived.eraseDups)
    (changes : b.change call = .ok c) :
    c.defined = (said ++ call.defines?.toList).eraseDups ∧
      c.allowed = (call.letIn arrived).eraseDups := by
  cases call with
  | define value =>
      obtain ⟨-, rfl⟩ := define_ok_iff.1 changes
      refine ⟨?_, ?_⟩
      · show FirstSeen.add b.defined value = _
        rw [defined, add_eraseDups]
        rfl
      · show FirstSeen.add b.allowed value = _
        rw [allowed, add_eraseDups]
        rfl
  | restrict values =>
      obtain ⟨-, rfl⟩ := restrict_ok_iff.1 changes
      refine ⟨?_, FirstSeen.distinct_eq_eraseDups values⟩
      rw [Call.defines?, Option.toList_none, List.append_nil]
      exact defined
  | setFallback value =>
      obtain ⟨-, rfl⟩ := setFallback_ok_iff.1 changes
      refine ⟨?_, allowed⟩
      rw [Call.defines?, Option.toList_none, List.append_nil]
      exact defined

theorem lists_changeAll {b : Binding} {said arrived : List String}
    (defined : b.defined = said.eraseDups) (allowed : b.allowed = arrived.eraseDups)
    (calls : List Call) :
    (b.changeAll calls).defined = (said ++ definitions (b.accepted calls)).eraseDups ∧
      (b.changeAll calls).allowed = ((b.accepted calls).foldl Call.letIn arrived).eraseDups := by
  induction calls generalizing b said arrived with
  | nil =>
      rw [accepted, definitions, List.filterMap_nil, List.append_nil]
      exact ⟨defined, allowed⟩
  | cons call rest ih =>
      rw [accepted, changeAll, List.foldl_cons, changed]
      cases made : b.change call with
      | ok c =>
          obtain ⟨newDefined, newAllowed⟩ := change_lists defined allowed made
          have onward := ih newDefined newAllowed
          rw [List.append_assoc] at onward
          refine ⟨onward.1.trans ?_, onward.2⟩
          show _ = (said ++ (call :: c.accepted rest).filterMap Call.defines?).eraseDups
          cases said? : call.defines? with
          | none => rw [List.filterMap_cons_none said?]; rfl
          | some value => rw [List.filterMap_cons_some said?]; rfl
      | error _ => exact ih defined allowed

/-! ## The order of definition -/

/-- The allowed values stand in the order in which they were defined. -/
def InOrder (b : Binding) : Prop :=
  b.allowed.Sublist b.defined

/-- The values defined before a value. -/
def before (b : Binding) (value : String) : List String :=
  b.defined.takeWhile fun other => other != value

/-- The call leaves allowed values in order that stand in order. -/
def Timely (b : Binding) : Call → Prop
  | .define value => value ∈ b.allowed ∨ ∀ other ∈ b.allowed, other ∈ b.before value
  | .restrict values => (∀ value ∈ values, value ∈ b.defined) → values.eraseDups.Sublist b.defined
  | .setFallback _ => True

/-- In a list without repetitions, values in order may be followed by one exactly if all of them
stand before it. -/
theorem concat_sublist_iff {xs ys : List String} {y : String} (distinct : ys.Nodup)
    (member : y ∈ ys) (ordered : xs.Sublist ys) :
    (xs ++ [y]).Sublist ys ↔ ∀ x ∈ xs, x ∈ ys.takeWhile fun other => other != y := by
  constructor
  · intro followed x here
    obtain ⟨left, right, rfl, inLeft, inRight⟩ := List.append_sublist_iff.1 followed
    have later : y ∈ right := inRight.subset List.mem_cons_self
    have others : ∀ z ∈ left, (z != y) = true := fun z there =>
      bne_iff_ne.2 ((List.nodup_append.1 distinct).2.2 z there y later)
    rw [List.takeWhile_append_of_pos others]
    exact List.mem_append_left _ (inLeft.subset here)
  · intro before
    obtain ⟨front, behind, rfl, fresh⟩ := List.eq_append_cons_of_mem member
    have others : ∀ z ∈ front, (z != y) = true := fun z there =>
      bne_iff_ne.2 fun same => fresh (same ▸ there)
    rw [List.takeWhile_append_of_pos others, List.takeWhile_cons_of_neg (by simp),
      List.append_nil] at before
    obtain ⟨left, right, rfl, inFront, inBehind⟩ := List.sublist_append_iff.1 ordered
    have none : right = [] := by
      refine List.eq_nil_iff_forall_not_mem.2 fun x here => ?_
      have ahead : x ∈ front := before x (List.mem_append_right left here)
      exact (List.nodup_append.1 distinct).2.2 x ahead x (inBehind.subset here) rfl
    subst none
    rw [List.append_nil]
    exact inFront.append (List.singleton_sublist.2 List.mem_cons_self)

theorem before_of_undefined {b : Binding} {value : String} (undefined : value ∉ b.defined) :
    b.before value = b.defined := by
  rw [before, ← List.append_nil b.defined, List.takeWhile_append_of_pos, List.takeWhile_nil]
  exact fun other member => bne_iff_ne.2 fun same => undefined (same ▸ member)

/-- Whatever is allowed was defined before a value that is not defined yet. -/
theorem Sound.timely_define {b : Binding} (sound : b.Sound) {value : String}
    (undefined : value ∉ b.defined) : b.Timely (.define value) := by
  refine .inr fun other member => ?_
  rw [before_of_undefined undefined]
  exact sound.allowedDefined other member

/-- A call that is refused is never out of time. -/
theorem Sound.timely_of_refused {b : Binding} (sound : b.Sound) {call : Call} {error : Error}
    (refused : b.change call = .error error) : b.Timely call := by
  cases call with
  | define value =>
      refine sound.timely_define fun defined => ?_
      have valid := Identifier.valid_iff.2 (sound.spelled value defined)
      have made := (define_ok_iff (b := b)).2 ⟨valid, rfl⟩
      cases made.symm.trans refused
  | restrict values =>
      intro defined
      have made := restrict_ok_iff.2 ⟨defined, rfl⟩
      cases made.symm.trans refused
  | setFallback value => trivial

theorem Sound.inOrder_change_iff {b c : Binding} (sound : b.Sound) (ordered : b.InOrder)
    {call : Call} (changes : b.change call = .ok c) : c.InOrder ↔ b.Timely call := by
  cases call with
  | define value =>
      obtain ⟨-, rfl⟩ := define_ok_iff.1 changes
      show (FirstSeen.add b.allowed value).Sublist (FirstSeen.add b.defined value) ↔ _
      by_cases defined : value ∈ b.defined
      · rw [FirstSeen.add_of_mem defined, Timely]
        by_cases allowed : value ∈ b.allowed
        · rw [FirstSeen.add_of_mem allowed]
          exact iff_of_true ordered (.inl allowed)
        · rw [FirstSeen.add, if_neg allowed, or_iff_right allowed]
          exact concat_sublist_iff sound.distinct defined ordered
      · have notAllowed : value ∉ b.allowed := mt (sound.allowedDefined value) defined
        rw [FirstSeen.add, FirstSeen.add, if_neg defined, if_neg notAllowed]
        exact iff_of_true (List.Sublist.append ordered (List.Sublist.refl _))
          (sound.timely_define defined)
  | restrict values =>
      obtain ⟨defined, rfl⟩ := restrict_ok_iff.1 changes
      show (FirstSeen.distinct values).Sublist b.defined ↔ _
      rw [FirstSeen.distinct_eq_eraseDups]
      exact ⟨fun listed _ => listed, fun timely => timely defined⟩
  | setFallback value =>
      obtain ⟨-, rfl⟩ := setFallback_ok_iff.1 changes
      exact iff_of_true ordered trivial

/-- A call keeps the order exactly if it is timely. -/
theorem Sound.inOrder_changed_iff {b : Binding} (sound : b.Sound) (ordered : b.InOrder)
    (call : Call) : (b.changed call).InOrder ↔ b.Timely call := by
  rw [Binding.changed]
  cases made : b.change call with
  | ok c => exact sound.inOrder_change_iff ordered made
  | error _ => exact iff_of_true ordered (sound.timely_of_refused made)

/-- **The order of the allowed values.**  They stand in the order in which they arrived since the
last restriction.  Throughout a run of calls that is the order of definition exactly if every
call is timely. -/
theorem allowed_arrived {name : String} {b : Binding} (declared : declare name = .ok b)
    (calls : List Call) :
    (b.changeAll calls).defined = (definitions (b.accepted calls)).eraseDups ∧
      (b.changeAll calls).allowed = (arrivals (b.accepted calls)).eraseDups ∧
      ((∀ earlier, earlier <+: calls → (b.changeAll earlier).InOrder) ↔
        ∀ earlier call, earlier ++ [call] <+: calls → (b.changeAll earlier).Timely call) := by
  obtain ⟨sound, noneDefined, noneAllowed⟩ := sound_of_declare declared
  obtain ⟨defined, allowed⟩ := @lists_changeAll b [] [] noneDefined noneAllowed calls
  refine ⟨defined, allowed, fun always earlier call upTo => ?_, fun timely earlier => ?_⟩
  · have start : earlier <+: calls := (List.prefix_append earlier [call]).trans upTo
    have next := always _ upTo
    rw [changeAll_concat] at next
    exact ((sound.changeAll earlier).inOrder_changed_iff (always _ start) call).1 next
  · induction earlier using List.reverseRecOn with
    | nil =>
        intro _
        show b.allowed.Sublist b.defined
        rw [noneAllowed]
        exact List.nil_sublist _
    | append_singleton earlier call ih =>
        intro upTo
        have start : earlier <+: calls := (List.prefix_append earlier [call]).trans upTo
        rw [changeAll_concat]
        exact ((sound.changeAll earlier).inOrder_changed_iff (ih start) call).2
          (timely earlier call upTo)

/-- A restriction lists the allowed values in an order of its own. -/
theorem restrict_reorders :
    ¬ ∀ (name : String) (b : Binding) (calls : List Call), declare name = .ok b →
      (b.changeAll calls).allowed.Sublist (b.changeAll calls).defined := by
  intro always
  have ordered := always "user.agent" { name := "user.agent" }
    [.define "safari", .define "ie9", .restrict ["ie9", "safari"]] rfl
  exact absurd ordered (by decide)

/-! ## A value defined again -/

namespace Example

/-- One restriction is refused, the other leaves out a value that is then defined again. -/
def calls : List Call :=
  [.define "safari", .define "ie9", .restrict ["ie9", "opera"], .restrict ["ie9"],
    .setFallback "safari", .define "safari"]

theorem defined_again_stands_last :
    declare "user.agent" = .ok { name := "user.agent" } ∧
      (changeAll { name := "user.agent" } calls).defined = ["safari", "ie9"] ∧
      (changeAll { name := "user.agent" } calls).allowed = ["ie9", "safari"] ∧
      ¬ ∀ earlier, earlier <+: calls → (changeAll { name := "user.agent" } earlier).InOrder := by
  have declared : declare "user.agent" = .ok { name := "user.agent" } := rfl
  obtain ⟨defined, allowed, inOrder⟩ := allowed_arrived declared calls
  refine ⟨declared, defined.trans (by decide), allowed.trans (by decide), fun always => ?_⟩
  -- the last call comes when a value stands allowed that was defined later
  obtain again | before := inOrder.1 always calls.dropLast (.define "safari") (by decide)
  · exact absurd again (by decide)
  · exact absurd (before "ie9" (by decide)) (by decide)

end Example

end DeferredBinding.Property.Binding
