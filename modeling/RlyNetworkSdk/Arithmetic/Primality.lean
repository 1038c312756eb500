import Mathlib.Algebra.BigOperators.Associated
import Mathlib.Algebra.Field.ZMod
import Mathlib.Data.Nat.Prime.Basic
import Mathlib.FieldTheory.Finite.Basic

/-!
# Certificates of Primality

Large numbers are proved prime by the test of Pocklington: some prime factors of `n - 1` are known
whose product is above the square root of `n`, and one number has the order that they ask for.
Powers are computed modulo `n`, so that the kernel can check a certificate.
-/

namespace RlyNetworkSdk.Arithmetic

/-! ## Powers -/

/-- `acc * a ^ n` modulo `m`, for an exponent of at most so many bits. It squares at every bit,
so that the kernel can compute it. -/
def powMod (m : Nat) : Nat → Nat → Nat → Nat → Nat
  | 0, acc, _, _ => acc
  | bits + 1, acc, a, n =>
    powMod m bits (if n % 2 = 1 then acc * a % m else acc) (a * a % m) (n / 2)

theorem powMod_modEq {m bits acc a n : Nat} (hn : n < 2 ^ bits) :
    powMod m bits acc a n ≡ acc * a ^ n [MOD m] := by
  induction bits generalizing acc a n with
  | zero =>
    obtain rfl : n = 0 := by simpa using hn
    rw [powMod, pow_zero, Nat.mul_one]
  | succ bits ih =>
    have hhalf : n / 2 < 2 ^ bits := by
      rw [pow_succ] at hn
      omega
    have hsquare : (a * a % m) ^ (n / 2) ≡ a ^ (2 * (n / 2)) [MOD m] := by
      rw [pow_mul, pow_two]
      exact (Nat.mod_modEq _ m).pow _
    rw [powMod]
    apply (ih hhalf).trans
    rcases Nat.mod_two_eq_zero_or_one n with heven | hodd
    · have hsplit : a ^ n = a ^ (2 * (n / 2)) := by
        congr 1
        omega
      rw [if_neg (by omega), hsplit]
      exact hsquare.mul_left acc
    · have hsplit : acc * a ^ n = acc * a * a ^ (2 * (n / 2)) := by
        rw [Nat.mul_assoc, ← pow_succ']
        congr 2
        omega
      rw [if_pos hodd, hsplit]
      exact (Nat.mod_modEq _ m).mul hsquare

/-! ## The Test -/

/-- A prime factor of the exponent is one of the order, if the power without it is not one. -/
theorem dvd_orderOf {G : Type*} [Monoid G] {a : G} {k q : Nat} (hq : q.Prime) (hdvd : q ∣ k)
    (hpow : a ^ k = 1) (hne : a ^ (k / q) ≠ 1) : q ∣ orderOf a := by
  by_contra hnot
  apply hne
  apply orderOf_dvd_iff_pow_eq_one.mp
  have hcoprime : Nat.Coprime (orderOf a) q := ((Nat.Prime.coprime_iff_not_dvd hq).mpr hnot).symm
  apply hcoprime.dvd_of_dvd_mul_left
  rw [Nat.mul_div_cancel' hdvd]
  exact orderOf_dvd_of_pow_eq_one hpow

/-- **The test of Pocklington.** The factors that are known need only have a product whose
square is above the number; the rest of `n - 1` need not be factored. -/
theorem pocklington (a : Nat) (qs : Finset Nat) {n : Nat} (hn : 1 < n) (hqs : ∀ q ∈ qs, q.Prime)
    (hdvd : ∀ q ∈ qs, q ∣ n - 1) (hlarge : n < (∏ q ∈ qs, q) * ∏ q ∈ qs, q)
    (hpow : a ^ (n - 1) ≡ 1 [MOD n])
    (hcoprime : ∀ q ∈ qs, Nat.Coprime (a ^ ((n - 1) / q) + (n - 1)) n) : n.Prime := by
  by_contra hnot
  have hmin : (n.minFac).Prime := Nat.minFac_prime (by omega)
  have : Fact (n.minFac).Prime := ⟨hmin⟩
  have hfactor := n.minFac_dvd
  have hone : (a : ZMod n.minFac) ^ (n - 1) = 1 := by
    have hmod := (ZMod.natCast_eq_natCast_iff _ _ _).mpr (hpow.of_dvd hfactor)
    simpa using hmod
  have hne : ∀ q ∈ qs, (a : ZMod n.minFac) ^ ((n - 1) / q) ≠ 1 := by
    intro q hq heq
    -- otherwise the factor divides a number that is coprime to it
    have hzero : ((a ^ ((n - 1) / q) + (n - 1) : Nat) : ZMod n.minFac) = 0 := by
      have hn' : ((n : Nat) : ZMod n.minFac) = 0 := (ZMod.natCast_eq_zero_iff _ _).mpr hfactor
      rw [Nat.cast_add, Nat.cast_sub hn.le, hn', Nat.cast_pow, heq]
      simp
    have hdvd' := (ZMod.natCast_eq_zero_iff _ _).mp hzero
    exact hmin.one_lt.ne' (Nat.eq_one_of_dvd_coprimes (hcoprime q hq) hdvd' hfactor)
  have horder : (∏ q ∈ qs, q) ∣ orderOf (a : ZMod n.minFac) := by
    apply Finset.prod_primes_dvd
    · intro q hq
      exact (hqs q hq).prime
    · intro q hq
      exact dvd_orderOf (hqs q hq) (hdvd q hq) hone (hne q hq)
  have hunit : (a : ZMod n.minFac) ≠ 0 := by
    intro hzero
    rw [hzero, zero_pow (by omega)] at hone
    exact zero_ne_one hone
  have hle : (∏ q ∈ qs, q) ≤ n.minFac - 1 :=
    Nat.le_of_dvd (Nat.sub_pos_of_lt hmin.one_lt) (horder.trans (ZMod.orderOf_dvd_card_sub_one hunit))
  have hsquare : n.minFac ^ 2 ≤ n := Nat.minFac_sq_le_self (by omega) hnot
  have hlt : (∏ q ∈ qs, q) * ∏ q ∈ qs, q ≤ n.minFac ^ 2 := by
    rw [pow_two]
    exact Nat.mul_le_mul (by omega) (by omega)
  omega

/-- What a certificate claims of `n`, with prime factors `qs` of `n - 1` and a base `a`, as a
computation. -/
def certified (n a : Nat) (qs : List Nat) : Bool :=
  decide (1 < n) && decide (n < 2 ^ 256) && decide qs.Nodup &&
    qs.all (fun q => (n - 1) % q == 0) && decide (n < qs.prod * qs.prod) &&
    powMod n 256 1 a (n - 1) == 1 &&
    qs.all fun q => Nat.gcd (powMod n 256 1 a ((n - 1) / q) + (n - 1)) n == 1

/-- **A number with a certificate is prime**, if the factors that it names are. -/
theorem prime_of_certified (a : Nat) (qs : List Nat) {n : Nat} (hqs : ∀ q ∈ qs, q.Prime)
    (h : certified n a qs = true) : n.Prime := by
  simp only [certified, Bool.and_eq_true, decide_eq_true_eq, List.all_eq_true, beq_iff_eq] at h
  obtain ⟨⟨⟨⟨⟨⟨hone, hbits⟩, hnodup⟩, hdvd⟩, hlarge⟩, hpow⟩, hgcd⟩ := h
  have hpowMod : ∀ k ≤ n - 1, powMod n 256 1 a k ≡ a ^ k [MOD n] := by
    intro k hk
    have hbits' : k < 2 ^ 256 := by omega
    have hmod : powMod n 256 1 a k ≡ 1 * a ^ k [MOD n] := powMod_modEq hbits'
    rwa [Nat.one_mul] at hmod
  have hprod : (∏ q ∈ qs.toFinset, q) = qs.prod := by
    rw [List.prod_toFinset _ hnodup, List.map_id']
  apply pocklington a qs.toFinset hone
  · intro q hq
    exact hqs q (List.mem_toFinset.mp hq)
  · intro q hq
    exact Nat.dvd_of_mod_eq_zero (hdvd q (List.mem_toFinset.mp hq))
  · rwa [hprod]
  · have hmod := hpowMod (n - 1) le_rfl
    rw [hpow] at hmod
    exact hmod.symm
  · intro q hq
    have hmod := (hpowMod ((n - 1) / q) (Nat.div_le_self _ _)).add_right (n - 1)
    rw [Nat.Coprime, ← hmod.gcd_eq]
    exact hgcd q (List.mem_toFinset.mp hq)

/-! ## Chains -/

/-- Certificates whose factors are known or stand earlier in the list, so that each can rely on
those before it. -/
def chained : List Nat → List (Nat × Nat × List Nat) → Bool
  | _, [] => true
  | known, (n, a, qs) :: rest =>
    (qs.all fun q => decide (q ∈ known)) && certified n a qs && chained (n :: known) rest

/-- **Every number of a chain of certificates is prime**, by induction on the chain. -/
theorem prime_of_chained {cs : List (Nat × Nat × List Nat)} {known : List Nat}
    (hknown : ∀ q ∈ known, q.Prime) (h : chained known cs = true) : ∀ c ∈ cs, c.1.Prime := by
  induction cs generalizing known with
  | nil => simp
  | cons c rest ih =>
    obtain ⟨n, a, qs⟩ := c
    simp only [chained, Bool.and_eq_true, List.all_eq_true, decide_eq_true_eq] at h
    obtain ⟨⟨hqs, hcertified⟩, hrest⟩ := h
    have hn : n.Prime := prime_of_certified a qs (fun q hq => hknown q (hqs q hq)) hcertified
    have hmore := ih (List.forall_mem_cons.mpr ⟨hn, hknown⟩) hrest
    exact List.forall_mem_cons.mpr ⟨hn, hmore⟩

end RlyNetworkSdk.Arithmetic
