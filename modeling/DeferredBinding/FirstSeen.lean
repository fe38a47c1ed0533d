/-
# FirstSeen -- lists that keep the first of each value

The sets of this library are shown to their readers, so they have an order: the
order in which their values were first given.  Such a set is a list without
repetitions, and `add` is the only way a value enters it.

`mem_add`, `nodup_add` and `prefix_add` say what `add` does to the set; `mem_addAll` and
`nodup_addAll` say the same of a run of additions, and `addAll_eraseDups` gives its result.
Sets may be merged as they are (`addAll_addAll`), and a search finds the same in the set as in
all that was given (`find?_addAll`).
-/

namespace DeferredBinding.FirstSeen

set_option autoImplicit false

variable {α : Type} [DecidableEq α]

/-- `x` at the end of `xs`, unless it stands there already. -/
def add (xs : List α) (x : α) : List α :=
  if x ∈ xs then xs else xs ++ [x]

/-- Every value of `ys` added to `xs`, in order. -/
def addAll (xs ys : List α) : List α :=
  ys.foldl add xs

/-- The values of `xs` with all repetitions after the first dropped. -/
def distinct (xs : List α) : List α :=
  addAll [] xs

/-- The same values, whatever their order, for lists without repetitions. -/
def sameSet (xs ys : List α) : Bool :=
  xs.length == ys.length && xs.all fun x => decide (x ∈ ys)

/-! ## What an addition does -/

theorem mem_add {xs : List α} {x y : α} : y ∈ add xs x ↔ y ∈ xs ∨ y = x := by
  unfold add
  split
  · rename_i h
    exact ⟨Or.inl, fun hy => hy.elim id fun e => e ▸ h⟩
  · simp

theorem nodup_add {xs : List α} {x : α} (distinctXs : xs.Nodup) : (add xs x).Nodup := by
  unfold add
  split
  · exact distinctXs
  · rename_i absent
    rw [List.nodup_append]
    refine ⟨distinctXs, by simp, fun a ha b hb e => ?_⟩
    rw [List.mem_singleton] at hb
    exact absent (hb ▸ e ▸ ha)

theorem add_of_mem {xs : List α} {x : α} (there : x ∈ xs) : add xs x = xs :=
  if_pos there

theorem prefix_add (xs : List α) (x : α) : xs <+: add xs x := by
  unfold add
  split
  · exact List.prefix_refl _
  · exact List.prefix_append _ _

@[simp] theorem addAll_nil (xs : List α) : addAll xs [] = xs := rfl

@[simp] theorem addAll_cons (xs : List α) (y : α) (ys : List α) :
    addAll xs (y :: ys) = addAll (add xs y) ys := rfl

theorem addAll_append (xs ys zs : List α) :
    addAll xs (ys ++ zs) = addAll (addAll xs ys) zs :=
  List.foldl_append

theorem mem_addAll {xs ys : List α} {z : α} : z ∈ addAll xs ys ↔ z ∈ xs ∨ z ∈ ys := by
  induction ys generalizing xs with
  | nil => simp
  | cons y ys ih => rw [addAll_cons, ih, mem_add, List.mem_cons, or_assoc]

theorem addAll_add (xs ys : List α) (y : α) : addAll xs (add ys y) = add (addAll xs ys) y := by
  have concat : addAll xs (ys ++ [y]) = add (addAll xs ys) y := addAll_append xs ys [y]
  unfold add
  split
  · rename_i there
    have listed : y ∈ addAll xs ys := mem_addAll.2 (Or.inr there)
    exact (if_pos listed).symm
  · exact concat

/-- Repetitions within what is added make no difference. -/
theorem addAll_addAll (xs ys zs : List α) :
    addAll xs (addAll ys zs) = addAll (addAll xs ys) zs := by
  induction zs generalizing ys with
  | nil => rfl
  | cons z zs ih => rw [addAll_cons, addAll_cons, ih, addAll_add]

theorem nodup_addAll {xs : List α} (ys : List α) (distinctXs : xs.Nodup) :
    (addAll xs ys).Nodup := by
  induction ys generalizing xs with
  | nil => exact distinctXs
  | cons y ys ih => exact ih (nodup_add distinctXs)

theorem mem_distinct {xs : List α} {x : α} : x ∈ distinct xs ↔ x ∈ xs := by
  simp [distinct, mem_addAll]

theorem nodup_distinct (xs : List α) : (distinct xs).Nodup :=
  nodup_addAll xs List.nodup_nil

theorem find?_add (p : α → Bool) (xs : List α) (x : α) :
    (add xs x).find? p = (xs ++ [x]).find? p := by
  unfold add
  split
  · rename_i there
    rw [List.find?_append]
    cases found : xs.find? p with
    | some y => rfl
    | none =>
        have fails : ¬ p x = true := List.find?_eq_none.1 found x there
        rw [Option.none_or, List.find?_cons_of_neg fails, List.find?_nil]
  · rfl

/-- A repetition is never the first of its kind. -/
theorem find?_addAll (p : α → Bool) (xs ys : List α) :
    (addAll xs ys).find? p = (xs ++ ys).find? p := by
  induction ys generalizing xs with
  | nil => rw [addAll_nil, List.append_nil]
  | cons y ys ih =>
      rw [addAll_cons, ih, List.find?_append, find?_add, ← List.find?_append,
        List.append_assoc, List.singleton_append]

/-- What a run of additions puts behind the values that were there. -/
theorem addAll_eq_append (xs ys : List α) :
    addAll xs ys = xs ++ (ys.filter fun y => decide (y ∉ xs)).eraseDups := by
  induction ys generalizing xs with
  | nil => simp
  | cons y ys ih =>
      rw [addAll_cons, ih, add]
      by_cases there : y ∈ xs
      · rw [if_pos there, List.filter_cons_of_neg (by simpa using there)]
      · have others : (ys.filter fun z => decide (z ∉ xs ++ [y])) =
            (ys.filter fun z => decide (z ∉ xs)).filter fun z => !z == y := by
          rw [List.filter_filter]
          refine List.filter_congr fun z _ => ?_
          by_cases same : z = y
          · simp [same]
          · simp [same]
        rw [if_neg there, List.filter_cons_of_pos (by simpa using there), List.eraseDups_cons,
          List.append_assoc, List.singleton_append, others]

theorem distinct_eq_eraseDups (xs : List α) : distinct xs = xs.eraseDups := by
  have all : (xs.filter fun x => decide (x ∉ ([] : List α))) = xs := by
    rw [List.filter_eq_self]
    intro x _
    rfl
  rw [distinct, addAll_eq_append, List.nil_append, all]

theorem addAll_eraseDups (xs ys : List α) :
    addAll xs.eraseDups ys = (xs ++ ys).eraseDups := by
  rw [← distinct_eq_eraseDups, ← distinct_eq_eraseDups, distinct, distinct, addAll_append]

end DeferredBinding.FirstSeen
