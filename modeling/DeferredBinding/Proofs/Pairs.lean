/-
# Proofs.Pairs -- lists of names with values that hold each name once

Where the names are distinct, what stands under a name and what is looked up for it are the same
(`lookup_of_mem`, `mem_of_lookup`).  A new name is put in its place among the others and nothing
else changes (`place_perm`).  A list in the order of its names stays in order whatever is put in
its place (`Ordered.place`), and holds each name once (`Ordered.nodup`).
-/
import Mathlib.Data.String.Basic
import DeferredBinding.Pairs

namespace DeferredBinding.Pairs

set_option autoImplicit false

variable {α : Type}

/-! ## Looking up -/

theorem lookup_of_mem {pairs : List (String × α)} (distinct : (pairs.map Prod.fst).Nodup)
    {name : String} {value : α} (member : (name, value) ∈ pairs) :
    pairs.lookup name = some value := by
  induction pairs with
  | nil => cases member
  | cons first rest ih =>
      obtain ⟨key, current⟩ := first
      obtain ⟨single, others⟩ := List.nodup_cons.1 distinct
      rw [lookup_cons_eq_ite]
      obtain same | behind := List.mem_cons.1 member
      · cases same
        exact if_pos rfl
      · have later : name ∈ rest.map Prod.fst := List.mem_map.2 ⟨_, behind, rfl⟩
        have different : name ≠ key := fun same => single (same ▸ later)
        rw [if_neg different]
        exact ih others behind

theorem lookup_of_absent {pairs : List (String × α)} {name : String}
    (absent : name ∉ pairs.map Prod.fst) : pairs.lookup name = none := by
  rw [List.lookup_eq_none_iff]
  intro m member
  rw [bne_iff_ne]
  rintro rfl
  exact absent (List.mem_map_of_mem member)

/-- What stands under a name that is there once at most is what is looked up for it. -/
theorem lookup_of_single {pairs : List (String × α)} {name : String}
    (single : (pairs.map Prod.fst).count name ≤ 1) {value : α} (member : (name, value) ∈ pairs) :
    pairs.lookup name = some value := by
  obtain ⟨before, after, rfl⟩ := List.append_of_mem member
  have absent : name ∉ before.map Prod.fst := by
    intro there
    have some_ := List.count_pos_iff.2 there
    rw [List.map_append, List.count_append, List.map_cons, List.count_cons_self] at single
    omega
  rw [List.lookup_append, lookup_of_absent absent, List.lookup_cons_self]
  rfl

theorem mem_of_lookup {pairs : List (String × α)} {name : String} {value : α}
    (found : pairs.lookup name = some value) : (name, value) ∈ pairs := by
  obtain ⟨before, after, rfl, -⟩ := List.lookup_eq_some_iff.1 found
  exact List.mem_append_right before List.mem_cons_self

theorem absent_of_lookup {pairs : List (String × α)} {name : String}
    (found : pairs.lookup name = none) : name ∉ pairs.map Prod.fst := by
  intro there
  obtain ⟨pair, member, same⟩ := List.mem_map.1 there
  have different := List.lookup_eq_none_iff.1 found pair member
  rw [bne_iff_ne] at different
  exact different same.symm

theorem lookup_cons_of_ne {key name : String} (other : name ≠ key) (value : α)
    (rest : List (String × α)) : List.lookup name ((key, value) :: rest) = rest.lookup name := by
  rw [lookup_cons_eq_ite, if_neg other]

/-- What stands under one name does not matter for what is looked up for another. -/
theorem lookup_replaced {key name : String} (other : name ≠ key)
    (before after : List (String × α)) (value new : α) :
    (before ++ (key, value) :: after).lookup name = (before ++ (key, new) :: after).lookup name := by
  rw [List.lookup_append, List.lookup_append, lookup_cons_of_ne other, lookup_cons_of_ne other]

/-- The order does not matter for a name that stands there once at most. -/
theorem lookup_perm {pairs others : List (String × α)} (perm : pairs.Perm others) {name : String}
    (single : (pairs.map Prod.fst).count name ≤ 1) : pairs.lookup name = others.lookup name := by
  induction perm with
  | nil => rfl
  | cons entry _ ih =>
      obtain ⟨key, value⟩ := entry
      rw [lookup_cons_eq_ite, lookup_cons_eq_ite]
      split
      · rfl
      · exact ih (Nat.le_trans List.count_le_count_cons single)
  | swap first second rest =>
      obtain ⟨key, value⟩ := first
      obtain ⟨later, next⟩ := second
      simp only [lookup_cons_eq_ite]
      by_cases here : name = key
      · by_cases there : name = later
        · subst here there
          simp only [List.map_cons, List.count_cons_self] at single
          omega
        · simp only [if_pos here, if_neg there]
      · simp only [if_neg here]
  | trans front _ first second =>
      rw [first single]
      refine second ?_
      rwa [← (front.map Prod.fst).count_eq]

/-! ## Putting in place -/

theorem place_perm {name : String} {pairs : List (String × α)}
    (fresh : name ∉ pairs.map Prod.fst) (value : α) :
    (place name value pairs).Perm ((name, value) :: pairs) := by
  induction pairs with
  | nil => exact .refl _
  | cons entry rest ih =>
      rw [List.map_cons, List.mem_cons, not_or] at fresh
      rw [place]
      split
      · exact .refl _
      · rw [if_neg fresh.1]
        exact ((ih fresh.2).cons entry).trans (.swap _ _ _)

def placeAll (given pairs : List (String × α)) : List (String × α) :=
  given.foldl (fun pairs m => place m.1 m.2 pairs) pairs

theorem placeAll_perm {given pairs : List (String × α)}
    (distinct : ((pairs ++ given).map Prod.fst).Nodup) :
    (placeAll given pairs).Perm (pairs ++ given) := by
  induction given generalizing pairs with
  | nil =>
      rw [List.append_nil]
      exact .refl _
  | cons m rest ih =>
      have shifted : (pairs ++ m :: rest).Perm (m :: (pairs ++ rest)) := List.perm_middle
      have single := (List.nodup_cons.1 ((shifted.map Prod.fst).nodup_iff.1 distinct)).1
      have fresh : m.1 ∉ pairs.map Prod.fst := by
        intro there
        refine single ?_
        rw [List.map_append]
        exact List.mem_append_left _ there
      have moved : (place m.1 m.2 pairs ++ rest).Perm (pairs ++ m :: rest) :=
        ((place_perm fresh m.2).append_right rest).trans shifted.symm
      exact (ih ((moved.map Prod.fst).nodup_iff.2 distinct)).trans moved

/-! ## Order -/

/-- The names stand in order, each of them once. -/
def Ordered (pairs : List (String × α)) : Prop :=
  pairs.Pairwise fun first second => first.1 < second.1

theorem Ordered.nodup {pairs : List (String × α)} (ordered : Ordered pairs) :
    (pairs.map Prod.fst).Nodup :=
  List.pairwise_map.2 (ordered.imp fun less => ne_of_lt less)

theorem name_of_mem_place {name : String} {value : α} {pairs : List (String × α)}
    {pair : String × α} (member : pair ∈ place name value pairs) :
    pair.1 = name ∨ pair ∈ pairs := by
  induction pairs with
  | nil => exact .inl (congrArg Prod.fst (List.mem_singleton.1 member))
  | cons entry rest ih =>
      rw [place] at member
      split at member
      · obtain rfl | behind := List.mem_cons.1 member
        · exact .inl rfl
        · exact .inr behind
      · split at member
        · obtain rfl | behind := List.mem_cons.1 member
          · exact .inl rfl
          · exact .inr (List.mem_cons_of_mem _ behind)
        · obtain rfl | behind := List.mem_cons.1 member
          · exact .inr List.mem_cons_self
          · exact (ih behind).imp id (List.mem_cons_of_mem _)

/-- What is put in its place leaves the others in order. -/
theorem Ordered.place {pairs : List (String × α)} (ordered : Ordered pairs) (name : String)
    (value : α) : Ordered (Pairs.place name value pairs) := by
  induction pairs with
  | nil => exact List.pairwise_singleton _ _
  | cons entry rest ih =>
      obtain ⟨below, others⟩ := List.pairwise_cons.1 ordered
      rw [Pairs.place]
      split
      · rename_i less
        refine List.pairwise_cons.2 ⟨List.forall_mem_cons.2 ⟨less, fun pair member => ?_⟩, ordered⟩
        exact lt_trans less (below pair member)
      · split
        · rename_i same
          refine List.pairwise_cons.2 ⟨fun pair member => ?_, others⟩
          rw [same]
          exact below pair member
        · rename_i noLess different
          refine List.pairwise_cons.2 ⟨fun pair member => ?_, ih others⟩
          obtain same | there := name_of_mem_place member
          · rw [same]
            exact lt_of_le_of_ne (not_lt.1 noLess) (Ne.symm different)
          · exact below pair there

theorem ordered_nil : Ordered ([] : List (String × α)) :=
  .nil

theorem Ordered.placeAll {pairs : List (String × α)} (ordered : Ordered pairs)
    (given : List (String × α)) : Ordered (Pairs.placeAll given pairs) := by
  induction given generalizing pairs with
  | nil => exact ordered
  | cons m rest ih => exact ih (ordered.place m.1 m.2)

end DeferredBinding.Pairs
