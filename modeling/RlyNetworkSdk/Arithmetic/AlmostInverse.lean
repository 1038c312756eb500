import Mathlib.Algebra.Order.Ring.Int
import Mathlib.Data.Int.GCD
import Mathlib.Data.Nat.ModEq
import Mathlib.Data.Nat.Prime.Basic
import Mathlib.Tactic.LinearCombination
import Mathlib.Tactic.Ring

/-!
# The Almost Modular Inverse

The binary algorithm that finds `s` with `x * s = 2 ^ k` modulo an odd number `p`: two numbers,
one of which may be even, are halved and subtracted from each other until both are one, and a
cofactor of each keeps account of it. `Almost` is its invariant, and the halving and the
subtraction keep it. Halving `s` modulo `p` afterwards, some bits at a time, turns `2 ^ k` into
one (`halve_modEq`).
-/

namespace RlyNetworkSdk.Arithmetic

/-! ## The Invariant -/

/-- The numbers `even` and `odd` with their cofactors, of which only `even` may be even. The sign
tells which of the two started as the modulus. -/
structure Almost (p x : Nat) (sign : ℤ) (even evenCo odd oddCo k : Nat) : Prop where
  pos : 0 < even
  odd_mod : odd % 2 = 1
  coprime : Nat.Coprime even odd
  product : even * evenCo + odd * oddCo = p
  dvd_odd : (p : ℤ) ∣ odd * 2 ^ k - sign * x * evenCo
  dvd_even : (p : ℤ) ∣ even * 2 ^ k + sign * x * oddCo

variable {p x even evenCo odd oddCo k : Nat} {sign : ℤ}

theorem Almost.odd_pos (h : Almost p x sign even evenCo odd oddCo k) : 0 < odd := by
  have hodd := h.odd_mod
  omega

/-- What the algorithm begins with. -/
theorem almost_start (hx : 0 < x) (hp : p % 2 = 1) (hcoprime : Nat.Coprime x p) :
    Almost p x (-1) x 0 p 1 0 where
  pos := hx
  odd_mod := hp
  coprime := hcoprime
  product := by omega
  dvd_odd := by simp
  dvd_even := by simp

/-- The even number is halved, and its cofactor is doubled. -/
theorem Almost.shift (h : Almost p x sign even evenCo odd oddCo k) {t m : Nat}
    (heven : even = 2 ^ t * m) : Almost p x sign m (evenCo * 2 ^ t) odd oddCo (k + t) where
  pos := by
    have hpos := h.pos
    rw [heven] at hpos
    exact Nat.pos_of_mul_pos_left hpos
  odd_mod := h.odd_mod
  coprime := by
    have hcoprime := h.coprime
    rw [heven] at hcoprime
    exact hcoprime.coprime_mul_left
  product := by
    rw [← h.product, heven]
    ring
  dvd_odd := by
    obtain ⟨c, hc⟩ := h.dvd_odd
    refine ⟨c * 2 ^ t, ?_⟩
    push_cast
    -- the equation of the odd number is multiplied by the power
    linear_combination 2 ^ t * hc
  dvd_even := by
    obtain ⟨c, hc⟩ := h.dvd_even
    refine ⟨c, ?_⟩
    rw [heven] at hc
    push_cast at hc
    -- the one of the even number is the same as before
    linear_combination hc

/-- The smaller of two odd numbers is subtracted from the greater one, and the cofactor of the
greater one is added to that of the smaller one. -/
theorem Almost.subtract (h : Almost p x sign even evenCo odd oddCo k) (hlt : odd < even) :
    Almost p x sign (even - odd) evenCo odd (oddCo + evenCo) k where
  pos := Nat.sub_pos_of_lt hlt
  odd_mod := h.odd_mod
  coprime := (Nat.coprime_sub_self_left hlt.le).mpr h.coprime
  product := by
    rw [← h.product]
    -- the product is kept, as what one number loses the cofactor of the other gains
    obtain ⟨d, rfl⟩ := Nat.exists_eq_add_of_lt hlt
    rw [Nat.add_assoc odd, Nat.add_sub_cancel_left]
    ring
  dvd_odd := h.dvd_odd
  dvd_even := by
    rw [Nat.cast_sub hlt.le]
    have hdvd := Int.dvd_sub h.dvd_even h.dvd_odd
    convert hdvd using 1
    push_cast
    ring

/-- Two odd numbers change their places. -/
theorem Almost.swap (h : Almost p x sign even evenCo odd oddCo k) (heven : even % 2 = 1) :
    Almost p x (-sign) odd oddCo even evenCo k where
  pos := h.odd_pos
  odd_mod := heven
  coprime := h.coprime.symm
  product := by
    rw [← h.product]
    ring
  dvd_odd := by
    convert h.dvd_even using 1
    ring
  dvd_even := by
    convert h.dvd_odd using 1
    ring

/-- Equal numbers are one, and the cofactors add up to the modulus. -/
theorem Almost.eq_one (h : Almost p x sign even evenCo odd oddCo k) (heq : even = odd) :
    odd = 1 ∧ evenCo + oddCo = p := by
  have hone : odd = 1 := by
    have hcoprime := h.coprime
    rw [heq] at hcoprime
    exact (Nat.coprime_self odd).mp hcoprime
  refine ⟨hone, ?_⟩
  rw [← h.product, heq, hone]
  ring

theorem coprime_two_pow (hp : p % 2 = 1) (k : Nat) : Nat.Coprime p (2 ^ k) :=
  (Nat.coprime_two_right.mpr (Nat.odd_iff.mpr hp)).pow_right k

/-- A modulus above one divides no power of two. -/
theorem not_dvd_two_pow (hp : p % 2 = 1) (hone : 1 < p) (k : Nat) : ¬ (p : ℤ) ∣ 2 ^ k := by
  intro hdvd
  have hnat : p ∣ 2 ^ k := by exact_mod_cast hdvd
  have heq : p = 1 := Nat.Coprime.eq_one_of_dvd (coprime_two_pow hp k) hnat
  omega

/-- **The result, where the number of the modulus ended as the even one.** The two numbers have
met at their greatest common divisor, which is one. -/
theorem Almost.inverse_of_even (h : Almost p x 1 even evenCo odd oddCo k) (heq : even = odd)
    (hp : p % 2 = 1) (hone : 1 < p) : evenCo < p ∧ x * evenCo ≡ 2 ^ k [MOD p] := by
  obtain ⟨hodd, hsum⟩ := h.eq_one heq
  have hdvd := h.dvd_odd
  have hdvd' := h.dvd_even
  rw [heq, hodd] at hdvd'
  rw [hodd] at hdvd
  constructor
  · -- with no cofactor an odd number above one would divide a power of two
    have hpos : oddCo ≠ 0 := by
      rintro rfl
      apply not_dvd_two_pow hp hone k
      simpa using hdvd'
    omega
  · rw [Nat.modEq_iff_dvd]
    push_cast
    simpa using hdvd

/-- **The result, where the number of the modulus ended as the odd one.** It is the other
cofactor then. -/
theorem Almost.inverse_of_odd (h : Almost p x (-1) even evenCo odd oddCo k) (heq : even = odd)
    (hp : p % 2 = 1) (hone : 1 < p) : oddCo < p ∧ x * oddCo ≡ 2 ^ k [MOD p] := by
  have hodd : even % 2 = 1 := heq ▸ h.odd_mod
  have hswap := h.swap hodd
  rw [neg_neg] at hswap
  exact hswap.inverse_of_even heq.symm hp hone

/-! ## Halving -/

/-- A number below the modulus is divided by `2 ^ m` modulo it: a multiple of the modulus makes it
divisible. -/
theorem halve_modEq {s factor m : Nat} (hs : s < p) (hfactor : factor < 2 ^ m)
    (hdvd : 2 ^ m ∣ s + factor * p) :
    (s + factor * p) / 2 ^ m < p ∧ 2 ^ m * ((s + factor * p) / 2 ^ m) ≡ s [MOD p] := by
  constructor
  · rw [Nat.div_lt_iff_lt_mul (Nat.two_pow_pos m)]
    calc s + factor * p < (factor + 1) * p := by rw [Nat.add_mul]; omega
      _ ≤ 2 ^ m * p := Nat.mul_le_mul_right p hfactor
      _ = p * 2 ^ m := Nat.mul_comm _ _
  · rw [Nat.mul_div_cancel' hdvd]
    exact (Nat.modEq_iff_dvd' (Nat.le_add_right s _)).mpr (by simp) |>.symm

/-- The almost inverse, divided by the power of two, is the inverse. -/
theorem inverse_of_almost {s q : Nat} (hp : p % 2 = 1) (hs : x * s ≡ 2 ^ k [MOD p])
    (hq : 2 ^ k * q ≡ s [MOD p]) : x * q ≡ 1 [MOD p] := by
  have hcoprime : Nat.gcd p (2 ^ k) = 1 := coprime_two_pow hp k
  apply Nat.ModEq.cancel_left_of_coprime hcoprime
  calc 2 ^ k * (x * q) = x * (2 ^ k * q) := by ring
    _ ≡ x * s [MOD p] := hq.mul_left x
    _ ≡ 2 ^ k [MOD p] := hs
    _ = 2 ^ k * 1 := (Nat.mul_one _).symm

end RlyNetworkSdk.Arithmetic
