/-
# Document.Json.Number -- numbers as they are written

A number is an optional minus sign, an integer without superfluous zeros, and
optionally a fraction and an exponent.

What a number is worth matters nowhere, but whether it has a value at all does:
one beyond the double precision numbers can be passed over, not read.  It is read
as a significand of at most 64 bits times a power of ten; digits that no longer fit
are dropped.  Both factors are rounded to 53 bits before they are multiplied, and
the product overflows from the midpoint above the largest double precision number.
-/
import DeferredBinding.Text.Digits

namespace DeferredBinding.Document.Json

set_option autoImplicit false

def significandLimit : Nat := Nat.pow 2 64 - 1

/-- Take up the digits that fit after `significand`; with it the digits that did not. -/
def takeUp (significand : Nat) : List Char → Nat × List Char
  | [] => (significand, [])
  | d :: rest =>
      let next := significand * 10 + Text.digitValue d
      if next ≤ significandLimit then takeUp next rest else (significand, d :: rest)

/-- The nearest multiple of `unit`, ties to the even one. -/
def roundTo (unit n : Nat) : Nat :=
  let low := n / unit
  let twice := 2 * (n % unit)
  if twice < unit then low * unit
  else if unit < twice then (low + 1) * unit
  else if low % 2 = 0 then low * unit else (low + 1) * unit

def round53 (n : Nat) : Nat :=
  roundTo (Nat.pow 2 (Nat.log2 n - 52)) n

/-- From here on an integer is beyond the double precision numbers. -/
def overflowAt : Nat := Nat.pow 2 1024 - Nat.pow 2 970

/-- Whether `significand` times a power of ten is a double precision number. -/
def isFinite (significand : Nat) (exponent : Int) : Bool :=
  significand == 0 || decide (exponent < 0) ||
    (decide (exponent ≤ 308) &&
      decide (round53 significand * round53 (Nat.pow 10 exponent.toNat) < overflowAt))

/-- The parts of a written number. -/
structure Numeral where
  whole : List Char
  fraction : List Char := []
  exponent : Int := 0

/-- Whether a number has a value. -/
def Numeral.readable (n : Numeral) : Bool :=
  let whole := takeUp 0 n.whole
  let both := takeUp whole.1 n.fraction
  let taken := n.fraction.length - both.2.length
  isFinite both.1 (n.exponent + whole.2.length - taken)

/-- A run of digits and what follows it; there must be one digit at least. -/
def scanDigits (cs : List Char) : Option (List Char × List Char) :=
  match cs.takeWhile Char.isDigit with
  | [] => none
  | digits => some (digits, cs.dropWhile Char.isDigit)

/-- The digits of an integer: one zero, or digits that begin otherwise. -/
def scanWhole (cs : List Char) : Option (List Char × List Char) :=
  match scanDigits cs with
  | some ('0' :: _ :: _, _) => none
  | found => found

def scanFraction (cs : List Char) : Option (List Char × List Char) :=
  match cs with
  | '.' :: rest => scanDigits rest
  | _ => some ([], cs)

def scanSigned (cs : List Char) : Option (Int × List Char) :=
  match cs with
  | '+' :: rest => (scanDigits rest).map fun found => ((Text.ofDigits 10 found.1 : Int), found.2)
  | '-' :: rest => (scanDigits rest).map fun found => (-(Text.ofDigits 10 found.1 : Int), found.2)
  | _ => (scanDigits cs).map fun found => ((Text.ofDigits 10 found.1 : Int), found.2)

def scanExponent (cs : List Char) : Option (Int × List Char) :=
  match cs with
  | 'e' :: rest => scanSigned rest
  | 'E' :: rest => scanSigned rest
  | _ => some (0, cs)

def scanUnsigned (cs : List Char) : Option (Numeral × List Char) :=
  (scanWhole cs).bind fun whole =>
    (scanFraction whole.2).bind fun fraction =>
      (scanExponent fraction.2).map fun exponent =>
        ({ whole := whole.1, fraction := fraction.1, exponent := exponent.1 }, exponent.2)

def scanNumber (cs : List Char) : Option (Numeral × List Char) :=
  match cs with
  | '-' :: rest => scanUnsigned rest
  | _ => scanUnsigned cs

/-! ## What follows is shorter -/

theorem scanDigits_shorter {cs ds rest : List Char} (h : scanDigits cs = some (ds, rest)) :
    rest.length < cs.length := by
  unfold scanDigits at h
  cases cs with
  | nil => simp at h
  | cons c cs =>
      by_cases hc : c.isDigit = true
      · simp only [List.takeWhile_cons, hc, if_true, List.dropWhile_cons, Option.some.injEq,
          Prod.mk.injEq] at h
        have dropped : (cs.dropWhile Char.isDigit).length ≤ cs.length :=
          (List.dropWhile_suffix Char.isDigit).length_le
        rw [← h.2, List.length_cons]
        exact Nat.lt_succ_of_le dropped
      · simp [hc] at h

theorem scanWhole_shorter {cs ds rest : List Char} (h : scanWhole cs = some (ds, rest)) :
    rest.length < cs.length := by
  unfold scanWhole at h
  split at h
  · simp at h
  · exact scanDigits_shorter h

theorem scanFraction_le {cs ds rest : List Char} (h : scanFraction cs = some (ds, rest)) :
    rest.length ≤ cs.length := by
  unfold scanFraction at h
  split at h
  · have := scanDigits_shorter h
    simp only [List.length_cons]
    omega
  · simp only [Option.some.injEq, Prod.mk.injEq] at h
    exact Nat.le_of_eq (congrArg List.length h.2.symm)

theorem scanSigned_le {cs rest : List Char} {n : Int} (h : scanSigned cs = some (n, rest)) :
    rest.length ≤ cs.length := by
  unfold scanSigned at h
  split at h
  all_goals
    simp only [Option.map_eq_some_iff, Prod.mk.injEq] at h
    obtain ⟨⟨ds, r⟩, hf, -, rfl⟩ := h
    have := scanDigits_shorter hf
    grind

theorem scanExponent_le {cs rest : List Char} {n : Int} (h : scanExponent cs = some (n, rest)) :
    rest.length ≤ cs.length := by
  unfold scanExponent at h
  split at h
  · have := scanSigned_le h
    simp only [List.length_cons]
    omega
  · have := scanSigned_le h
    simp only [List.length_cons]
    omega
  · simp only [Option.some.injEq, Prod.mk.injEq] at h
    exact Nat.le_of_eq (congrArg List.length h.2.symm)

theorem scanUnsigned_shorter {cs rest : List Char} {n : Numeral}
    (h : scanUnsigned cs = some (n, rest)) : rest.length < cs.length := by
  simp only [scanUnsigned, Option.bind_eq_some_iff, Option.map_eq_some_iff, Prod.mk.injEq] at h
  obtain ⟨⟨w, r₁⟩, h₁, ⟨f, r₂⟩, h₂, ⟨e, r₃⟩, h₃, -, rfl⟩ := h
  have := scanWhole_shorter h₁
  have := scanFraction_le h₂
  have := scanExponent_le h₃
  grind

theorem scanNumber_shorter {cs rest : List Char} {n : Numeral}
    (h : scanNumber cs = some (n, rest)) : rest.length < cs.length := by
  unfold scanNumber at h
  split at h
  · have := scanUnsigned_shorter h
    simp only [List.length_cons]
    omega
  · exact scanUnsigned_shorter h

end DeferredBinding.Document.Json
