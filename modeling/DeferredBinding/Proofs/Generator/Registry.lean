/-
# Proofs.Generator.Registry -- the registry in use

A registry in use is worked on by operations that may be refused (`Operation.perform`).  Taking
a generator out writes first and complains afterwards if there was nothing to take out; still an
operation that is refused leaves everything as it was (`perform_of_refused`).

Which generator stands under a name is decided by the last operation on that name that was not
refused (`get?_performAll`); each operation does its part of that (`get?_perform`).  All that can
be asked of a registry follows (`follows_performAll`): which names are known, which generator
goes to work when it is called for, what is refused, and in which order the names are listed.
-/
import DeferredBinding.Generator.Registry
import DeferredBinding.Proofs.Pairs

namespace DeferredBinding.Registry

set_option autoImplicit false

variable {γ : Type}

/-! ## Operations -/

/-- What can be done with a registry. -/
inductive Operation (γ : Type) where
  | register (name : String) (generator : γ)
  | replace (name : String) (generator : γ)
  | remove (name : String)
  | resolve (name : String)

/-- Whether an operation is one on what stands under `name`. -/
def Operation.changes (name : String) : Operation γ → Bool
  | .register other _ => name == other
  | .replace other _ => name == other
  | .remove other => name == other
  | .resolve _ => false

/-- The generator that an operation leaves under its name. -/
def Operation.leaves : Operation γ → Option γ
  | .register _ generator => some generator
  | .replace _ generator => some generator
  | .remove _ => none
  | .resolve _ => none

/-- A registry with the instances made so far and what was recorded. -/
structure InUse (γ : Type) where
  registry : Registry γ := {}
  census : Census := {}
  trace : List Entry := []

/-- A registry after a change that is made or refused as a whole. -/
def settled (u : InUse γ) : Except Error (Registry γ) →
    Except Error (Option (Instance × γ)) × InUse γ
  | .ok r => (.ok none, { u with registry := r })
  | .error e => (.error e, u)

/-- What an operation answers, and what it leaves: the instance that was called for, if any,
with its generator. -/
def Operation.perform [Generator γ] (u : InUse γ) : Operation γ →
    Except Error (Option (Instance × γ)) × InUse γ
  | .register name generator => settled u (u.registry.register name generator)
  | .replace name generator => (.ok none, { u with registry := u.registry.insert name generator })
  | .remove name =>
      -- the entry is gone by the time it is asked whether there was one
      ((u.registry.remove name).map fun _ => none, { u with registry := u.registry.erase name })
  | .resolve name =>
      let call := u.registry.call name u.census
      (.ok call.found, { u with census := call.census, trace := u.trace ++ call.trace })

/-! ## One operation -/

theorem contains_iff {r : Registry γ} {name : String} :
    r.contains name = true ↔ ∃ generator, r.get? name = some generator :=
  Option.isSome_iff_exists

theorem contains_eq_false_iff {r : Registry γ} {name : String} :
    r.contains name = false ↔ r.get? name = none :=
  Option.isSome_eq_false_iff.trans Option.isNone_iff_eq_none

/-- Taking out what is not there changes nothing. -/
theorem erase_of_absent {r : Registry γ} {name : String} (absent : r.contains name = false) :
    r.erase name = r := by
  have missing : r.entries.lookup name = none := contains_eq_false_iff.1 absent
  have kept : (r.entries.filter fun entry => entry.1 != name) = r.entries := by
    refine List.filter_eq_self.2 fun entry member => ?_
    have different := List.lookup_eq_none_iff.1 missing entry member
    rwa [bne_comm] at different
  rw [erase, kept]

section

variable [Generator γ] (u : InUse γ) (name : String)

theorem perform_register (generator : γ) :
    (Operation.register name generator).perform u =
      if u.registry.contains name then (.error (.alreadyExists name), u)
      else (.ok none, { u with registry := u.registry.insert name generator }) := by
  rw [Operation.perform, register]
  split <;> rfl

/-- Although it writes first, a removal is made or refused as a whole. -/
theorem perform_remove :
    (Operation.remove name).perform u = settled u (u.registry.remove name) := by
  rw [Operation.perform, remove]
  split
  · rfl
  · rename_i absent
    rw [erase_of_absent (Bool.eq_false_iff.2 absent)]
    rfl

variable {u name}

theorem perform_resolve_absent (absent : u.registry.contains name = false) :
    (Operation.resolve name).perform u = (.ok none, u) := by
  have missing := contains_eq_false_iff.1 absent
  simp only [Operation.perform, call, missing, List.append_nil]

/-- Calling for a generator makes one instance, of that generator. -/
theorem perform_resolve_present {generator : γ} (found : u.registry.get? name = some generator) :
    (Operation.resolve name).perform u =
      (.ok (some ((u.census.make name (Generator.silent generator)).1, generator)),
        { u with
          census := (u.census.make name (Generator.silent generator)).2
          trace := u.trace ++
            [.generator (u.census.make name (Generator.silent generator)).1 .created] }) := by
  simp only [Operation.perform, call, found]

/-- An operation that is refused leaves everything as it was. -/
theorem perform_of_refused {op : Operation γ} {e : Error}
    (refused : (op.perform u).1 = .error e) : (op.perform u).2 = u := by
  cases op with
  | register name generator =>
      rw [perform_register] at refused ⊢
      split
      · rfl
      · rename_i absent
        rw [if_neg absent] at refused
        cases refused
  | replace name generator => cases refused
  | remove name =>
      rw [perform_remove] at refused ⊢
      cases made : u.registry.remove name with
      | ok r =>
          rw [made] at refused
          cases refused
      | error e => rfl
  | resolve name => cases refused

/-- What stands under a name after an operation that is not refused. -/
theorem get?_perform {op : Operation γ} {answer : Option (Instance × γ)}
    (done : (op.perform u).1 = .ok answer) (name : String) :
    (op.perform u).2.registry.get? name =
      if op.changes name then op.leaves else u.registry.get? name := by
  cases op with
  | register other generator =>
      rw [perform_register] at done ⊢
      split
      · rename_i present
        rw [if_pos present] at done
        cases done
      · rw [get?_insert]
        simp only [Operation.changes, Operation.leaves, beq_iff_eq]
  | replace other generator =>
      show (u.registry.insert other generator).get? name = _
      rw [get?_insert]
      simp only [Operation.changes, Operation.leaves, beq_iff_eq]
  | remove other =>
      show (u.registry.erase other).get? name = _
      rw [get?_erase]
      simp only [Operation.changes, Operation.leaves, beq_iff_eq]
  | resolve other => rfl

/-- The names stay in order. -/
theorem ordered_perform (ordered : Pairs.Ordered u.registry.entries) (op : Operation γ) :
    Pairs.Ordered (op.perform u).2.registry.entries := by
  cases op with
  | register name generator =>
      rw [perform_register]
      split
      · exact ordered
      · exact ordered.place name generator
  | replace name generator => exact ordered.place name generator
  | remove name => exact ordered.filter _
  | resolve name => exact ordered

end

/-! ## Runs -/

section

variable [Generator γ]

def performAll (u : InUse γ) (ops : List (Operation γ)) : InUse γ :=
  ops.foldl (fun u op => (op.perform u).2) u

/-- The operations that are not refused, in order. -/
def accepted (u : InUse γ) : List (Operation γ) → List (Operation γ)
  | [] => []
  | op :: rest =>
      match (op.perform u).1 with
      | .ok _ => op :: accepted (op.perform u).2 rest
      | .error _ => accepted (op.perform u).2 rest

end

/-- The last of some operations on what stands under a name. -/
def lastOn (name : String) (ops : List (Operation γ)) : Option (Operation γ) :=
  (ops.filter (·.changes name)).getLast?

theorem lastOn_concat (name : String) (ops : List (Operation γ)) (op : Operation γ) :
    lastOn name (ops ++ [op]) = if op.changes name then some op else lastOn name ops := by
  rw [lastOn, List.filter_append]
  split
  · rename_i changes
    rw [List.filter_cons_of_pos changes, List.filter_nil, List.getLast?_concat]
  · rename_i other
    rw [List.filter_cons_of_neg other, List.filter_nil, List.append_nil]
    rfl

/-- An operation on a name leaves a generator there, unless it takes one out. -/
theorem leaves_iff {name : String} {op : Operation γ} (changes : op.changes name = true) :
    (∃ generator, op.leaves = some generator) ↔ op ≠ .remove name := by
  cases op with
  | register other generator => exact iff_of_true ⟨generator, rfl⟩ nofun
  | replace other generator => exact iff_of_true ⟨generator, rfl⟩ nofun
  | remove other =>
      obtain rfl : name = other := by simpa [Operation.changes] using changes
      exact iff_of_false (fun ⟨_, left⟩ => by cases left) fun other => other rfl
  | resolve other => cases changes

theorem changes_of_lastOn {name : String} {ops : List (Operation γ)} {op : Operation γ}
    (last : lastOn name ops = some op) : op.changes name = true :=
  (List.mem_filter.1 (List.mem_of_getLast? last)).2

/-- What the last operation on each name left stands there. -/
def Holds (u : InUse γ) (done : List (Operation γ)) : Prop :=
  ∀ name, u.registry.get? name = (lastOn name done).bind Operation.leaves

/-- In a run, what stands under a name is what the last accepted operation on it left. -/
theorem get?_performAll [Generator γ] {u : InUse γ} {done : List (Operation γ)}
    (holds : Holds u done) (ops : List (Operation γ)) :
    Holds (performAll u ops) (done ++ accepted u ops) := by
  induction ops generalizing u done with
  | nil =>
      rw [accepted, List.append_nil]
      exact holds
  | cons op rest ih =>
      rw [accepted]
      show Holds (performAll (op.perform u).2 rest) _
      cases ends : (op.perform u).1 with
      | error e =>
          rw [perform_of_refused ends]
          exact ih holds
      | ok answer =>
          have next : Holds (op.perform u).2 (done ++ [op]) := by
            intro name
            rw [get?_perform ends, lastOn_concat, holds name]
            split <;> rfl
          have onward := ih next
          rwa [List.append_assoc] at onward

theorem ordered_performAll [Generator γ] {u : InUse γ}
    (ordered : Pairs.Ordered u.registry.entries) (ops : List (Operation γ)) :
    Pairs.Ordered (performAll u ops).registry.entries := by
  induction ops generalizing u with
  | nil => exact ordered
  | cons op rest ih => exact ih (ordered_perform ordered op)

/-! ## A map -/

/-- A registry in use that answers as the accepted operations say. -/
structure Follows [Generator γ] (u : InUse γ) (done : List (Operation γ)) : Prop where
  /-- A name is known if the last operation on it was not its removal. -/
  known : ∀ name, u.registry.contains name = true ↔
    ∃ op, lastOn name done = some op ∧ op ≠ .remove name
  /-- A name that is not known is called for in vain. -/
  misses : ∀ name, u.registry.contains name = false →
    (Operation.resolve name).perform u = (.ok none, u)
  /-- A name that is known puts a new instance to work, of the generator left there last, and
  that is all that happens. -/
  makes : ∀ name, u.registry.contains name = true →
    ∃ op generator who census, lastOn name done = some op ∧ op.leaves = some generator ∧
      (Operation.resolve name).perform u =
        (.ok (some (who, generator)),
          { u with census, trace := u.trace ++ [.generator who .created] }) ∧
      who.generator = name ∧ who.silent = Generator.silent generator ∧
      u.census.counts who = false ∧ census.counts who = true
  /-- Registering is refused exactly if the name is known. -/
  registers : ∀ name generator, (Operation.register name generator).perform u =
    if u.registry.contains name then (.error (.alreadyExists name), u)
    else (.ok none, { u with registry := u.registry.insert name generator })
  /-- Removing is refused exactly if the name is not known. -/
  removes : ∀ name, (Operation.remove name).perform u =
    if u.registry.contains name then (.ok none, { u with registry := u.registry.erase name })
    else (.error (.notFound name), u)
  /-- What is refused changes nothing. -/
  refused : ∀ (op : Operation γ) e, (op.perform u).1 = .error e → (op.perform u).2 = u
  /-- The names are listed in order, each of them once. -/
  increasing : u.registry.names.Pairwise (· < ·)
  listed : ∀ name, name ∈ u.registry.names ↔ u.registry.contains name = true
  counted : u.registry.names.length = u.registry.size

theorem follows_of_holds [Generator γ] {u : InUse γ} {done : List (Operation γ)}
    (holds : Holds u done) (ordered : Pairs.Ordered u.registry.entries) : Follows u done where
  known name := by
    rw [contains_iff, holds name]
    constructor
    · rintro ⟨generator, left⟩
      obtain ⟨op, last, leaves⟩ := Option.bind_eq_some_iff.1 left
      exact ⟨op, last, (leaves_iff (changes_of_lastOn last)).1 ⟨generator, leaves⟩⟩
    · rintro ⟨op, last, stays⟩
      obtain ⟨generator, leaves⟩ := (leaves_iff (changes_of_lastOn last)).2 stays
      exact ⟨generator, Option.bind_eq_some_iff.2 ⟨op, last, leaves⟩⟩
  misses name absent := perform_resolve_absent absent
  makes name present := by
    obtain ⟨generator, found⟩ := contains_iff.1 present
    obtain ⟨op, last, leaves⟩ := Option.bind_eq_some_iff.1 ((holds name).symm.trans found)
    obtain ⟨fresh, counted⟩ := u.census.counts_make name (Generator.silent generator)
    refine ⟨op, generator, _, _, last, leaves, perform_resolve_present found,
      Census.make_generator _ _ _, Census.make_silent _ _ _, fresh, counted⟩
  registers name generator := perform_register u name generator
  removes name := by
    rw [perform_remove, remove]
    split <;> rfl
  refused _ _ refused := perform_of_refused refused
  increasing := List.pairwise_map.2 ordered
  listed name := by
    rw [contains_iff]
    constructor
    · intro member
      obtain ⟨entry, there, rfl⟩ := List.mem_map.1 member
      exact ⟨entry.2, Pairs.lookup_of_mem ordered.nodup there⟩
    · rintro ⟨generator, found⟩
      exact List.mem_map.2 ⟨_, Pairs.mem_of_lookup found, rfl⟩
  counted := List.length_map _

/-- **A registry is a map.**  After any operations on a new registry, refused ones among them,
everything that can be asked of it is answered as the accepted operations say. -/
theorem follows_performAll [Generator γ] (census : Census) (ops : List (Operation γ)) :
    Follows (performAll { census } ops) (accepted { census } ops) :=
  follows_of_holds (@get?_performAll γ _ { census } [] (fun _ => rfl) ops)
    (@ordered_performAll γ _ { census } Pairs.ordered_nil ops)

end DeferredBinding.Registry
