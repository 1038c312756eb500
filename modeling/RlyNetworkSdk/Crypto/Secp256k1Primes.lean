import RlyNetworkSdk.Arithmetic.Primality
import RlyNetworkSdk.Crypto.ModularInverse
import RlyNetworkSdk.Crypto.Secp256k1
import Mathlib.Tactic.NormNum.Prime

/-!
# The Primes of secp256k1

The field and the order of the curve are prime, by a chain of certificates with prime factors of
`n - 1`. With a prime modulus `bn_inverse` inverts every number but the multiples of it.
-/

namespace RlyNetworkSdk.Crypto.Bignum

open Arithmetic

/-! ## The Certificates -/

/-- Factors that are small enough for trial division. -/
def smallPrimes : List Nat := [7, 29, 53, 9349, 28181, 96557, 120233, 1627771, 7240687]

/-- The primes up to those of the curve, with a base and the factors of `n - 1` that are used.
Each of the factors is small, or stands earlier in the list. -/
def certificates : List (Nat × Nat × List Nat) :=
  [(107590001, 2, [53, 29, 7]),
    (255515944373312847190720520512484175977, 2, [107590001, 7240687, 96557]),
    (205115282021455665897114700593932402728804164701536103180137503955397371, 2,
      [255515944373312847190720520512484175977]),
    (2 ^ 256 - 2 ^ 32 - 977, 2,
      [205115282021455665897114700593932402728804164701536103180137503955397371]),
    (297159362677, 2, [1627771]),
    (545358713, 2, [28181]),
    (29047611873442575647497758179, 2, [297159362677, 545358713]),
    (341948486974166000522343609283189, 2, [29047611873442575647497758179]),
    (44706919, 2, [9349]),
    (174723607534414371449, 2, [44706919, 120233]),
    (0xFFFFFFFFFFFFFFFFFFFFFFFFFFFFFFFEBAAEDCE6AF48A03BBFD25E8CD0364141, 2,
      [341948486974166000522343609283189, 174723607534414371449])]

theorem prime_of_mem_smallPrimes : ∀ q ∈ smallPrimes, q.Prime := by
  simp only [smallPrimes, List.forall_mem_cons]
  norm_num

theorem prime_of_mem_certificates : ∀ c ∈ certificates, c.1.Prime :=
  prime_of_chained prime_of_mem_smallPrimes (by decide +kernel)

/-- The field is one of a prime. -/
theorem prime_value_fieldPrime : (value fieldPrime).Prime := by
  rw [value_fieldPrime]
  apply prime_of_mem_certificates (2 ^ 256 - 2 ^ 32 - 977, 2,
    [205115282021455665897114700593932402728804164701536103180137503955397371])
  simp [certificates]

/-- The order of the curve is prime. -/
theorem prime_value_groupOrder : (value groupOrder).Prime := by
  rw [value_groupOrder]
  apply prime_of_mem_certificates
    (0xFFFFFFFFFFFFFFFFFFFFFFFFFFFFFFFEBAAEDCE6AF48A03BBFD25E8CD0364141, 2,
      [341948486974166000522343609283189, 174723607534414371449])
  simp [certificates]

instance : Fact (value fieldPrime).Prime := ⟨prime_value_fieldPrime⟩

instance : Fact (value groupOrder).Prime := ⟨prime_value_groupOrder⟩

/-! ## Inverses -/

theorem prime_odd {m : Modulus} (hprime : (value m.prime).Prime) : value m.prime % 2 = 1 := by
  have hle := m.le_value
  exact hprime.eq_two_or_odd.resolve_left (by omega)

/-- **`bn_inverse` ends for every number that the modulus does not divide, with its inverse**,
fully reduced. -/
theorem modular_inverse (m : Modulus) (hprime : (value m.prime).Prime) {x : Bignum256}
    (hx : ¬ value m.prime ∣ value x) :
    ∃ y, bnInverse x m.prime = some y ∧ Normalized y ∧ value y < value m.prime ∧
      value x * value y % value m.prime = 1 := by
  have hcoprime : Nat.Coprime (value x) (value m.prime) :=
    ((Nat.Prime.coprime_iff_not_dvd hprime).mpr hx).symm
  obtain ⟨y, hy, hnormalized, hlt, hmod⟩ := bnInverse_spec (prime_odd hprime) hcoprime
  refine ⟨y, hy, hnormalized, hlt, ?_⟩
  rw [hmod, Nat.mod_eq_of_lt hprime.one_lt]

theorem modular_inverse_groupOrder :
    ∃ y, bnInverse groupOrder fieldPrime = some y ∧ Normalized y ∧ value y < value fieldPrime ∧
      value groupOrder * value y % value fieldPrime = 1 := by
  apply modular_inverse field prime_value_fieldPrime
  change ¬ value fieldPrime ∣ value groupOrder
  rw [value_fieldPrime, value_groupOrder]
  norm_num

end RlyNetworkSdk.Crypto.Bignum
