/-
# Proofs.Condition.Algebra -- conditions that may stand for each other

Two conditions may stand for each other where they come to the same verdict, failures
included.  A failure ends a visit, so a law of Boolean algebra holds here only if both sides
look at the same conditions in the same order.  These do:

* a branch may be dissolved in a branch around it that stops at the same answer
  (`isTrue_dissolve`): nothing else is looked at, and in no other order;
* `all` and `noneOf` are each other's opposite with every child turned round
  (`isTrue_all_eq_noneOf`);
* a branch over one child turns its answer round or leaves it (`isTrue_wrap`), so of any
  number of such branches only the parity of `noneOf` counts (`isTrue_foldl_wrap`).

`isTrue_algebra` puts them together.
-/
import DeferredBinding.Proofs.Condition.Branches
import DeferredBinding.Rule.Realize

namespace DeferredBinding.Condition

set_option autoImplicit false

variable (given : Sources) (type : String)

/-! ## Dissolving a branch -/

/-- A branch that passes its verdict on as it is may be dissolved in a branch around it that
stops at the same answer. -/
theorem isTrue_dissolve (inner outer : Wrapping) (plain : inner.turned = id)
    (alike : inner.usual = outer.usual) (earlier children later : List Condition) :
    isTrue given type (branch outer (earlier ++ [branch inner children] ++ later)) =
      isTrue given type (branch outer (earlier ++ children ++ later)) := by
  have passedOn : isTrue given type (branch inner children) =
      Verdict.firstOther outer.usual (children.map (isTrue given type)) := by
    rw [isTrue_branch, Wrapping.map_turned plain, alike]
  rw [isTrue_branch, isTrue_branch, List.append_assoc, List.singleton_append, List.map_append,
    List.map_cons, passedOn, Verdict.firstOther_group, List.map_append, List.map_append]

/-! ## Branches over one child -/

theorem wrap_eq_branch (c : Condition) (w : Wrapping) : wrap c w = branch w [c] := by
  cases w <;> rfl

/-- A branch over one child turns its answer round, or leaves it. -/
theorem isTrue_wrap (c : Condition) (w : Wrapping) :
    isTrue given type (wrap c w) = (isTrue given type c).map w.turned := by
  rw [wrap_eq_branch, isTrue_branch, List.map_singleton, Verdict.firstOther_singleton]

theorem map_not_map_not (verdict : Verdict) : (verdict.map not).map not = verdict := by
  cases verdict with
  | error failure => rfl
  | ok answer => exact congrArg Except.ok (Bool.not_not answer)

/-- Of branches over one child, only the parity of those that turn the answer round counts. -/
theorem isTrue_foldl_wrap (wrappings : List Wrapping) (c : Condition) :
    isTrue given type (wrappings.foldl wrap c) =
      if wrappings.count .noneOf % 2 = 1 then (isTrue given type c).map not
      else isTrue given type c := by
  induction wrappings generalizing c with
  | nil => rfl
  | cons w rest ih =>
      rw [List.foldl_cons, ih, isTrue_wrap]
      cases w with
      | all => rw [List.count_cons_of_ne (by decide), Wrapping.map_turned rfl]
      | any => rw [List.count_cons_of_ne (by decide), Wrapping.map_turned rfl]
      | noneOf =>
          rw [List.count_cons_self, Wrapping.turned, map_not_map_not]
          by_cases odd : rest.count .noneOf % 2 = 1
          · rw [if_pos odd, if_neg (by omega)]
          · rw [if_neg odd, if_pos (by omega)]

/-! ## Opposites -/

theorem isTrue_all_eq_noneOf (children : List Condition) :
    isTrue given type (.all children) =
      isTrue given type (.noneOf (children.map fun c => .noneOf [c])) := by
  have turnedRound : (children.map fun c => noneOf [c]).map (isTrue given type) =
      (children.map (isTrue given type)).map (Except.map not) := by
    rw [List.map_map, List.map_map]
    exact List.map_congr_left fun c _ => isTrue_wrap given type c .noneOf
  show isTrue given type (branch .all children) = isTrue given type (branch .noneOf _)
  rw [isTrue_branch, isTrue_branch, turnedRound, Wrapping.map_turned rfl]
  show Verdict.firstOther true _ = Except.map not (Verdict.firstOther (!true) _)
  rw [Verdict.firstOther_map_not, map_not_map_not]

/-! ## The laws -/

/-- The laws of conditions, each an equation between verdicts. -/
structure Algebra : Prop where
  noneOf_any : ∀ xs, isTrue given type (.noneOf xs) = isTrue given type (.noneOf [.any xs])
  noneOf_noneOf : ∀ xs, isTrue given type (.noneOf [.noneOf xs]) = isTrue given type (.any xs)
  /-- all conditions hold where none of their opposites does -/
  all_noneOf : ∀ xs : List Condition,
    isTrue given type (.all xs) = isTrue given type (.noneOf (xs.map fun x => .noneOf [x]))
  all_all : ∀ xs ys zs,
    isTrue given type (.all (xs ++ [.all ys] ++ zs)) = isTrue given type (.all (xs ++ ys ++ zs))
  any_any : ∀ xs ys zs,
    isTrue given type (.any (xs ++ [.any ys] ++ zs)) = isTrue given type (.any (xs ++ ys ++ zs))
  /-- `any` may be dissolved in `noneOf`, although `noneOf` may not -/
  noneOf_any_among : ∀ xs ys zs,
    isTrue given type (.noneOf (xs ++ [.any ys] ++ zs)) =
      isTrue given type (.noneOf (xs ++ ys ++ zs))
  /-- wrapped any number of times, a condition comes to what it comes to alone, or to the
  opposite; its failure stays -/
  wrapped : ∀ (wrappings : List Wrapping) (c : Condition),
    isTrue given type (wrappings.foldl wrap c) =
      if wrappings.count .noneOf % 2 = 1 then (isTrue given type c).map not
      else isTrue given type c
  /-- a rule applies where all of its root conditions hold -/
  roots : ∀ r : Rule, (r.applies given type).value = isTrue given type (.all r.roots)

/-- **The algebra of conditions.**  Both sides of each law come to the same verdict, whatever
is requested and whatever the sources say, failures included. -/
theorem isTrue_algebra : Algebra given type where
  noneOf_any xs := by
    have dissolved := isTrue_dissolve given type .any .noneOf rfl rfl [] xs []
    rw [List.nil_append, List.nil_append, List.append_nil, List.append_nil] at dissolved
    exact dissolved.symm
  noneOf_noneOf xs := by
    show isTrue given type (wrap (.noneOf xs) .noneOf) = isTrue given type (branch .any xs)
    rw [isTrue_wrap]
    show (isTrue given type (branch .noneOf xs)).map not = _
    rw [isTrue_branch, isTrue_branch]
    exact (map_not_map_not _).trans (Wrapping.map_turned rfl _).symm
  all_noneOf := isTrue_all_eq_noneOf given type
  all_all := isTrue_dissolve given type .all .all rfl rfl
  any_any := isTrue_dissolve given type .any .any rfl rfl
  noneOf_any_among := isTrue_dissolve given type .any .noneOf rfl rfl
  wrapped := isTrue_foldl_wrap given type
  roots r := by
    rw [Rule.applies_value, isTrue, check, framed_value]

end DeferredBinding.Condition
