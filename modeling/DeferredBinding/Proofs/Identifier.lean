/-
# Proofs.Identifier -- how identifiers are spelled

The test for identifiers asks about characters by their class.  `Spelled` says which
characters these are, one range after the other, and `valid_iff` that the test asks for
nothing else.
-/
import DeferredBinding.Identifier

namespace DeferredBinding.Identifier

set_option autoImplicit false

/-- A letter of the English alphabet. -/
def Letter (c : Char) : Prop :=
  ('a' ≤ c ∧ c ≤ 'z') ∨ ('A' ≤ c ∧ c ≤ 'Z')

/-- An identifier is `[A-Za-z_][A-Za-z0-9_.-]*`. -/
def Spelled (text : String) : Prop :=
  ∃ first rest, text.toList = first :: rest ∧ (Letter first ∨ first = '_') ∧
    ∀ c ∈ rest, Letter c ∨ ('0' ≤ c ∧ c ≤ '9') ∨ c = '_' ∨ c = '.' ∨ c = '-'

theorem isUpper_iff {c : Char} : c.isUpper = true ↔ 'A' ≤ c ∧ c ≤ 'Z' := by
  show decide ('A' ≤ c ∧ c ≤ 'Z') = true ↔ _
  exact decide_eq_true_iff

theorem isLower_iff {c : Char} : c.isLower = true ↔ 'a' ≤ c ∧ c ≤ 'z' := by
  show (decide ('a' ≤ c) && decide (c ≤ 'z')) = true ↔ _
  rw [Bool.and_eq_true, decide_eq_true_iff, decide_eq_true_iff]

theorem isDigit_iff {c : Char} : c.isDigit = true ↔ '0' ≤ c ∧ c ≤ '9' := by
  show (decide ('0' ≤ c) && decide (c ≤ '9')) = true ↔ _
  rw [Bool.and_eq_true, decide_eq_true_iff, decide_eq_true_iff]

theorem isAlpha_iff {c : Char} : c.isAlpha = true ↔ Letter c := by
  show (c.isUpper || c.isLower) = true ↔ _
  rw [Bool.or_eq_true, isUpper_iff, isLower_iff, or_comm, Letter]

theorem isHead_iff {c : Char} : isHead c = true ↔ Letter c ∨ c = '_' := by
  rw [isHead, Bool.or_eq_true, isAlpha_iff, beq_iff_eq]

theorem isTail_iff {c : Char} :
    isTail c = true ↔ Letter c ∨ ('0' ≤ c ∧ c ≤ '9') ∨ c = '_' ∨ c = '.' ∨ c = '-' := by
  simp only [isTail, Char.isAlphanum, Bool.or_eq_true, isAlpha_iff, isDigit_iff, beq_iff_eq,
    or_assoc]

theorem valid_iff {text : String} : valid text = true ↔ Spelled text := by
  rw [valid, Spelled]
  cases spelling : text.toList with
  | nil => simp
  | cons first rest =>
      simp only [Bool.and_eq_true, List.all_eq_true, isHead_iff, isTail_iff]
      constructor
      · exact fun spelled => ⟨first, rest, rfl, spelled⟩
      · rintro ⟨_, _, same, spelled⟩
        cases same
        exact spelled

end DeferredBinding.Identifier
