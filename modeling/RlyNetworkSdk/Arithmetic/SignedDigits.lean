import Mathlib.Algebra.Order.BigOperators.Group.Finset
import Mathlib.Algebra.Order.Ring.Abs
import Mathlib.Algebra.Ring.Parity
import Mathlib.Data.Int.ModEq
import Mathlib.Tactic.Linarith
import Mathlib.Tactic.Ring

/-!
# Odd Signed Digits

An odd number is written in an even base with odd digits only, each between minus the base and the
base: where a digit would be even, one is added to it and the base is taken from the digit below,
which becomes negative. The sign of a digit is the lowest bit above it.
-/

namespace RlyNetworkSdk.Arithmetic

variable {B v a : Nat}

/-- The number, or the odd one after it. -/
def makeOdd (v : Nat) : Nat := v + (1 - v % 2)

/-- The digit with the sign that the next bit tells. It is odd, and so never zero. -/
def oddDigit (B v : Nat) : ℤ :=
  if v / B % 2 = 1 then (makeOdd v % B : Nat) else (makeOdd v % B : Nat) - B

theorem makeOdd_mod_two (v : Nat) : makeOdd v % 2 = 1 := by
  rw [makeOdd]
  omega

theorem makeOdd_of_odd (hv : v % 2 = 1) : makeOdd v = v := by
  rw [makeOdd, hv, Nat.sub_self, Nat.add_zero]

/-- One digit is taken off, and the rest is made odd again. -/
theorem makeOdd_eq (hB : B % 2 = 0) (hpos : 0 < B) (v : Nat) :
    (makeOdd v : ℤ) = oddDigit B v + B * makeOdd (v / B) := by
  have hdiv : makeOdd v / B = v / B := by
    rcases Nat.mod_two_eq_zero_or_one v with heven | hodd
    · -- there is room for one above an even number
      have hmod : v % B % 2 = 0 := by
        rw [Nat.mod_mod_of_dvd v (Nat.dvd_of_mod_eq_zero hB), heven]
      have hlt : v % B + 1 < B := by
        have hlt' := Nat.mod_lt v hpos
        omega
      have hsplit := Nat.div_add_mod v B
      rw [makeOdd, heven, Nat.sub_zero]
      calc (v + 1) / B = (B * (v / B) + (v % B + 1)) / B := by rw [← Nat.add_assoc, hsplit]
        _ = v / B := by rw [Nat.mul_add_div hpos, Nat.div_eq_of_lt hlt, Nat.add_zero]
    · rw [makeOdd_of_odd hodd]
  have hsplit := Nat.div_add_mod (makeOdd v) B
  rw [hdiv] at hsplit
  have hcast : (makeOdd v : ℤ) = B * (v / B : Nat) + (makeOdd v % B : Nat) := by
    exact_mod_cast hsplit.symm
  rw [oddDigit, hcast]
  rcases Nat.mod_two_eq_zero_or_one (v / B) with heven | hodd
  · have hnext : makeOdd (v / B) = v / B + 1 := by rw [makeOdd, heven]
    rw [if_neg (by omega), hnext]
    push_cast
    ring
  · rw [if_pos hodd, makeOdd_of_odd hodd]
    ring

theorem oddDigit_emod_two (hB : B % 2 = 0) (hpos : 0 < B) (v : Nat) :
    oddDigit B v % 2 = 1 := by
  have heq := makeOdd_eq hB hpos v
  have hodd := makeOdd_mod_two v
  obtain ⟨h, rfl⟩ := Nat.dvd_of_mod_eq_zero hB
  push_cast at heq
  rw [Int.mul_assoc] at heq
  omega

theorem abs_oddDigit_lt (hpos : 0 < B) (hB : B % 2 = 0) (v : Nat) : |oddDigit B v| < B := by
  have hlt := Nat.mod_lt (makeOdd v) hpos
  have hodd : makeOdd v % B % 2 = 1 := by
    rw [Nat.mod_mod_of_dvd _ (Nat.dvd_of_mod_eq_zero hB), makeOdd_mod_two]
  rw [abs_lt, oddDigit]
  split <;> constructor <;> omega

/-! ## Sums -/

/-- The number that the digits below `n` stand for, some of them with a minus. -/
def digitSum (B a : Nat) (n : Nat) : ℤ := ∑ i ∈ Finset.range n, oddDigit B (a / B ^ i) * B ^ i

@[simp] theorem digitSum_zero (B a : Nat) : digitSum B a 0 = 0 := rfl

theorem digitSum_succ (B a n : Nat) :
    digitSum B a (n + 1) = digitSum B a n + oddDigit B (a / B ^ n) * B ^ n := by
  rw [digitSum, Finset.sum_range_succ, digitSum]

/-- **The digits stand for the number**, with what is left above them, for an even base and an
odd number. -/
theorem digitSum_add (hB : B % 2 = 0) (hpos : 0 < B) (ha : a % 2 = 1) (n : Nat) :
    digitSum B a n + B ^ n * makeOdd (a / B ^ n) = a := by
  induction n with
  | zero => rw [digitSum_zero, pow_zero, pow_zero, Nat.div_one, makeOdd_of_odd ha, one_mul, zero_add]
  | succ n ih =>
    have hstep := makeOdd_eq hB hpos (a / B ^ n)
    rw [Nat.div_div_eq_div_mul, ← pow_succ] at hstep
    calc digitSum B a (n + 1) + B ^ (n + 1) * makeOdd (a / B ^ (n + 1))
        = digitSum B a n + B ^ n * (oddDigit B (a / B ^ n) + B * makeOdd (a / B ^ (n + 1))) := by
          rw [digitSum_succ]
          ring
      _ = a := by rw [← hstep, ih]

theorem abs_digitSum_lt (hB : B % 2 = 0) (hpos : 0 < B) (a n : Nat) :
    |digitSum B a n| < B ^ n := by
  -- the digits so far are less than one of the next place
  induction n with
  | zero => simp
  | succ n ih =>
    have hdigit : |oddDigit B (a / B ^ n)| ≤ B - 1 := by
      have hlt := abs_oddDigit_lt hpos hB (a / B ^ n)
      omega
    have hpow : (0 : ℤ) ≤ (B : ℤ) ^ n := pow_nonneg (Int.natCast_nonneg B) n
    have hterm : |oddDigit B (a / B ^ n) * (B : ℤ) ^ n| ≤ (B - 1) * (B : ℤ) ^ n := by
      rw [abs_mul, abs_of_nonneg hpow]
      exact mul_le_mul_of_nonneg_right hdigit hpow
    calc |digitSum B a (n + 1)| ≤ |digitSum B a n| + |oddDigit B (a / B ^ n) * (B : ℤ) ^ n| := by
          rw [digitSum_succ]
          exact abs_add_le _ _
      _ < (B : ℤ) ^ n + (B - 1) * (B : ℤ) ^ n := add_lt_add_of_lt_of_le ih hterm
      _ = (B : ℤ) ^ (n + 1) := by ring

/-- A sum of digits is odd, and so it is not zero. -/
theorem digitSum_emod_two (hB : B % 2 = 0) (hpos : 0 < B) (a : Nat) {n : Nat} (hn : n ≠ 0) :
    digitSum B a n % 2 = 1 := by
  obtain ⟨n, rfl⟩ := Nat.exists_eq_succ_of_ne_zero hn
  induction n with
  | zero =>
    rw [digitSum_succ, digitSum_zero, pow_zero, pow_zero, zero_add, mul_one]
    exact oddDigit_emod_two hB hpos _
  | succ n ih =>
    obtain ⟨h, hh⟩ := Nat.dvd_of_mod_eq_zero hB
    -- every digit but the first counts an even number of times
    have heven : oddDigit B (a / B ^ (n + 1)) * (B : ℤ) ^ (n + 1) =
        2 * (oddDigit B (a / B ^ (n + 1)) * h * (B : ℤ) ^ n) := by
      have hcast : (B : ℤ) = 2 * h := by exact_mod_cast hh
      rw [pow_succ, hcast]
      ring
    have hsum := ih (Nat.succ_ne_zero n)
    rw [Nat.succ_eq_add_one] at hsum ⊢
    rw [digitSum_succ, heven]
    omega

end RlyNetworkSdk.Arithmetic
