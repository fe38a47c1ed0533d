/-
# Pairs -- look-ups in lists of names with values

What `List.lookup` finds after an entry is put in front (`lookup_cons_eq_ite`), is
put where its name belongs in code point order (`lookup_place`), and after all
entries of a name are taken out (`lookup_filter_ne`).  `find?_replace` says the same of
a list of things that carry their names, after one of them takes the place of its
namesake.
-/

namespace DeferredBinding.Pairs

set_option autoImplicit false

variable {α : Type}

theorem lookup_cons_eq_ite (key : String) (value : α) (rest : List (String × α)) (name : String) :
    ((key, value) :: rest).lookup name = if name = key then some value else rest.lookup name := by
  by_cases h : name = key
  · simp [h]
  · simp [List.lookup_cons, beq_false_of_ne h, h]

theorem lookup_filter_ne (pairs : List (String × α)) (name other : String) :
    (pairs.filter fun pair => pair.1 != name).lookup other =
      if other = name then none else pairs.lookup other := by
  induction pairs with
  | nil => simp
  | cons pair rest ih =>
      obtain ⟨key, value⟩ := pair
      by_cases hk : key = name
      · rw [List.filter_cons_of_neg (by simp [hk]), ih, lookup_cons_eq_ite]
        by_cases ho : other = name
        · simp [ho]
        · simp [ho, hk]
      · rw [List.filter_cons_of_pos (by simp [hk]), lookup_cons_eq_ite, ih, lookup_cons_eq_ite]
        by_cases ho : other = name
        · have : ¬ name = key := fun e => hk e.symm
          simp [ho, this]
        · simp [ho]

theorem find?_replace (nameOf : α → String) (x : α) (xs : List α) (name : String) :
    (xs.map fun y => if nameOf y = nameOf x then x else y).find? (fun y => nameOf y == name) =
      if nameOf x = name then (xs.find? fun y => nameOf y == name).map fun _ => x
      else xs.find? fun y => nameOf y == name := by
  induction xs with
  | nil => simp
  | cons y rest ih =>
      rw [List.map_cons, List.find?_cons, List.find?_cons, ih]
      by_cases same : nameOf y = nameOf x <;> by_cases hx : nameOf x = name
      · simp [same, hx]
      · simp [same, hx, beq_false_of_ne hx]
      · subst hx
        simp [same, beq_false_of_ne same]
      · by_cases hy : nameOf y = name
        · simp [hy, hx, if_neg (fun e => hx e.symm : ¬ name = nameOf x)]
        · simp [same, hx, beq_false_of_ne hy]

/-- An entry put before the names that come after its own in code point order, in the
place of an entry of that name. -/
def place (name : String) (value : α) : List (String × α) → List (String × α)
  | [] => [(name, value)]
  | entry :: rest =>
      if name < entry.1 then (name, value) :: entry :: rest
      else if name = entry.1 then (name, value) :: rest
      else entry :: place name value rest

theorem lookup_place (name : String) (value : α) (entries : List (String × α)) (other : String) :
    (place name value entries).lookup other =
      if other = name then some value else entries.lookup other := by
  induction entries with
  | nil => rw [place, lookup_cons_eq_ite]
  | cons entry rest ih =>
      obtain ⟨key, current⟩ := entry
      rw [place]
      split
      · rw [lookup_cons_eq_ite]
      · split
        · rename_i same
          rw [lookup_cons_eq_ite, lookup_cons_eq_ite, show key = name from same.symm]
          by_cases h : other = name <;> simp [h]
        · rename_i different
          rw [lookup_cons_eq_ite, lookup_cons_eq_ite, ih]
          by_cases h : other = name
          · subst h
            rw [if_pos rfl, if_pos rfl, if_neg different]
          · simp [h]

end DeferredBinding.Pairs
