import RlyNetworkSdk.Crypto.ModularInverse
import RlyNetworkSdk.Crypto.ModularMultiplication
import Mathlib.Algebra.CharP.Basic
import Mathlib.Algebra.CharP.Defs
import Mathlib.Algebra.Field.Basic
import Mathlib.Data.ZMod.Basic

/-!
# Field Elements

Big numbers as elements of a field whose characteristic is the modulus. The operations of
`bignum.c` are right up to a multiple of the modulus and leave their results below a small
multiple of it; `Stands` says both, and every operation has one lemma that carries it on.
-/

namespace RlyNetworkSdk.Crypto.Bignum

open Encoding

/-! ## More Operations -/

/-- The number zero. -/
def bnZero : Bignum256 := Vector.replicate 9 0

/-- `conditional_negate`: a mask of ones selects the negated limbs. -/
def conditionalNegate (cond : BitVec 32) (a prime : Bignum256) : Bignum256 :=
  let negated : Bignum256 :=
    Limbs.ripple 30 32 1 (Vector.zipWith (fun p a => 0x3FFFFFFF + 2 * p - a) prime a)
  Vector.zipWith (fun n a => n &&& cond ||| a &&& ~~~cond) negated a

@[simp] theorem value_bnZero : value bnZero = 0 := by
  simp [value, Limbs.value, bnZero]

theorem normalized_bnZero : Normalized bnZero := by
  intro i
  simp [bnZero]

/-- The limbs are negated as if they were subtracted from zero. -/
theorem conditionalNegate_eq {c : Prop} [Decidable c] (a prime : Bignum256) :
    conditionalNegate (if c then -1 else 0) a prime =
      if c then bnSubtractmod bnZero a prime else a := by
  have hzero : ∀ i : Fin 9, bnZero[i] = 0 := by decide
  -- the columns of the two functions are the same, up to the zero
  have hcolumns : (Vector.ofFn fun i : Fin 9 => 0x3FFFFFFF + bnZero[i] + 2 * prime[i] - a[i]) =
      Vector.zipWith (fun p a => 0x3FFFFFFF + 2 * p - a) prime a := by
    apply Vector.ext
    intro i hi
    simp [hzero]
  rw [conditionalNegate, bnSubtractmod, hcolumns]
  apply Vector.ext
  intro i hi
  have hand (x : BitVec 32) : x &&& 4294967295#32 = x := BitVec.and_allOnes
  split <;> simp [hand]

/-- A small multiple of the modulus that is not zero is reduced to the modulus itself. -/
theorem bnFastMod_eq_prime_iff {x : Bignum256} {m : Modulus} (hx : Normalized x)
    (hpos : 0 < value x) (hlt : value x < 4 * value m.prime) :
    bnFastMod x m.prime = m.prime ↔ value m.prime ∣ value x := by
  have hmod := bnFastMod_modEq x m
  have hle := m.le_value
  have hprime := m.value_lt
  constructor
  · intro heq
    rw [heq] at hmod
    exact Nat.modEq_zero_iff_dvd.mp (hmod.symm.trans (by simp [Nat.ModEq]))
  · rintro ⟨k, hk⟩
    apply Limbs.eq_of_value_eq (by decide) (partlyReduced_bnFastMod x m).normalized m.normalized
    change value (bnFastMod x m.prime) = value m.prime
    -- below four times the modulus there are three multiples
    have hk4 : k < 4 := by
      by_contra hge
      have hmul : value m.prime * 4 ≤ value m.prime * k := Nat.mul_le_mul_left _ (Nat.not_lt.mp hge)
      omega
    have hk0 : k ≠ 0 := by
      rintro rfl
      omega
    rw [value_bnFastMod, top_eq hx, hk]
    -- of each of them the coefficient is one less than the multiple
    rcases (by omega : k = 1 ∨ k = 2 ∨ k = 3) with rfl | rfl | rfl
    · have hcoef : value m.prime * 1 / 2 ^ 240 / 2 ^ 16 = 0 := by omega
      rw [hcoef]
      omega
    · have hcoef : value m.prime * 2 / 2 ^ 240 / 2 ^ 16 = 1 := by omega
      rw [hcoef]
      omega
    · have hcoef : value m.prime * 3 / 2 ^ 240 / 2 ^ 16 = 2 := by omega
      rw [hcoef]
      omega

/-! ## Elements -/

variable {F : Type*} [Field F] {m : Modulus} {x y : Bignum256} {u v : F} {i j : Nat}

/-- The number stands for the element of the field and is below a multiple of the modulus. The
multiple says what sums may still be made with it before they have to be reduced. -/
structure Stands (m : Modulus) (n : Nat) (x : Bignum256) (v : F) : Prop where
  normalized : Normalized x
  lt : value x < n * value m.prime
  eq : (value x : F) = v

theorem Stands.partlyReduced (h : Stands m 2 x v) : PartlyReduced x m := ⟨h.normalized, h.lt⟩

theorem Stands.mono (h : Stands m i x v) (hij : i ≤ j) : Stands m j x v where
  normalized := h.normalized
  lt := h.lt.trans_le (Nat.mul_le_mul_right _ hij)
  eq := h.eq

/-- Another expression for the element. -/
theorem Stands.congr (h : Stands m i x u) (huv : u = v) : Stands m i x v := huv ▸ h

theorem Stands.add (hx : Stands m i x u) (hy : Stands m j y v) (hi : i ≤ 180) (hj : j ≤ 180) :
    Stands m (i + j) (bnAdd x y) (u + v) := by
  have hprime := m.value_lt
  have hx' := (hx.mono hi).lt
  have hy' := (hy.mono hj).lt
  have hvalue : value (bnAdd x y) = value x + value y := by
    rw [value_bnAdd hx.normalized hy.normalized, Nat.mod_eq_of_lt (by omega)]
  refine ⟨Limbs.normalized_ripple (by decide) (by decide) _ _, ?_, ?_⟩
  · rw [hvalue, Nat.add_mul]
    exact Nat.add_lt_add hx.lt hy.lt
  · rw [hvalue, Nat.cast_add, hx.eq, hy.eq]

theorem Stands.cmov (hx : Stands m i x u) (hy : Stands m i y v) (c : Bool) :
    Stands m i (bnCmov c x y) (if c then u else v) := by
  rw [bnCmov_eq]
  cases c with
  | true => exact hx
  | false => exact hy

/-- The difference is never zero as a number. -/
theorem Stands.pos_subtractmod (hx : Stands m i x u) (hy : Stands m 2 y v) (hi : i ≤ 180) :
    0 < value (bnSubtractmod x y m.prime) := by
  have hprime := m.value_lt
  have hlt := (hx.mono hi).lt
  have hy' := hy.lt
  rw [value_bnSubtractmod hx.normalized hy.partlyReduced (by omega)]
  omega

section Operations

variable [CharP F (value m.prime)]

/-- A congruence is an equation in the field. -/
theorem cast_eq_of_modEq {a b : Nat} (h : a ≡ b [MOD value m.prime]) : (a : F) = (b : F) :=
  (CharP.natCast_eq_natCast F (value m.prime)).mpr h

theorem Stands.eq_zero_iff (h : Stands m i x v) : v = 0 ↔ value m.prime ∣ value x := by
  rw [← h.eq]
  exact CharP.cast_eq_zero_iff F (value m.prime) (value x)

theorem two_ne_zero_of_char (m : Modulus) [CharP F (value m.prime)] : (2 : F) ≠ 0 := by
  have hle := m.le_value
  intro hzero
  have hcast : ((2 : Nat) : F) = 0 := by exact_mod_cast hzero
  have hdvd := (CharP.cast_eq_zero_iff F (value m.prime) 2).mp hcast
  have hsmall := Nat.le_of_dvd (by decide) hdvd
  omega

theorem Stands.multiply (hx : Stands m i x u) (hy : Stands m j y v) (hi : i ≤ 180)
    (hj : j ≤ 180) : Stands m 2 (bnMultiply x y m.prime) (u * v) := by
  have hx' := (hx.mono hi).lt
  have hy' := (hy.mono hj).lt
  have hreduced := partlyReduced_bnMultiply hx.normalized hy.normalized hx' hy'
  refine ⟨hreduced.normalized, hreduced.lt, ?_⟩
  have hcast := cast_eq_of_modEq (F := F) (bnMultiply_modEq hx.normalized hy.normalized hx' hy')
  rw [hcast, Nat.cast_mul, hx.eq, hy.eq]

theorem Stands.fastMod (hx : Stands m i x v) : Stands m 2 (bnFastMod x m.prime) v := by
  have hreduced := partlyReduced_bnFastMod x m
  refine ⟨hreduced.normalized, hreduced.lt, ?_⟩
  rw [cast_eq_of_modEq (bnFastMod_modEq x m), hx.eq]

theorem Stands.mod (hx : Stands m 2 x v) : Stands m 1 (bnMod x m.prime) v := by
  have hvalue := value_bnMod hx.partlyReduced
  have hle := m.le_value
  refine ⟨normalized_bnMod hx.partlyReduced, ?_, ?_⟩
  · rw [hvalue, Nat.one_mul]
    exact Nat.mod_lt _ (by omega)
  · rw [hvalue, cast_eq_of_modEq (Nat.mod_modEq _ _), hx.eq]

theorem Stands.subtractmod (hx : Stands m i x u) (hy : Stands m 2 y v) (hi : i ≤ 180) :
    Stands m (i + 2) (bnSubtractmod x y m.prime) (u - v) := by
  have hprime := m.value_lt
  have hlt := (hx.mono hi).lt
  have hvalue := value_bnSubtractmod hx.normalized hy.partlyReduced (by omega)
  -- lifted by twice the modulus, the difference is not negative
  have hle : value y ≤ value x + 2 * value m.prime := by
    have hy' := hy.lt
    omega
  refine ⟨Limbs.normalized_ripple (by decide) (by decide) _ _, ?_, ?_⟩
  · have hx' := hx.lt
    rw [hvalue, Nat.add_mul]
    omega
  · rw [hvalue, Nat.cast_sub hle, Nat.cast_add, Nat.cast_mul, CharP.cast_eq_zero F (value m.prime), mul_zero,
      add_zero, hx.eq, hy.eq]

theorem Stands.addmod (hx : Stands m i x u) (hy : Stands m j y v) :
    Stands m 2 (bnAddmod x y m.prime) (u + v) := by
  have hreduced := partlyReduced_bnAddmod x y m
  refine ⟨hreduced.normalized, hreduced.lt, ?_⟩
  rw [cast_eq_of_modEq (bnAddmod_modEq hx.normalized hy.normalized m), Nat.cast_add, hx.eq, hy.eq]

theorem Stands.multK (hx : Stands m i x v) {k : BitVec 8} (hk : k.toNat ≤ 4) :
    Stands m 2 (bnMultK x k m.prime) (k.toNat * v) := by
  have hreduced := partlyReduced_bnMultK x k m
  refine ⟨hreduced.normalized, hreduced.lt, ?_⟩
  rw [cast_eq_of_modEq (bnMultK_modEq hx.normalized hk m), Nat.cast_mul, hx.eq]

theorem Stands.multHalf (hx : Stands m i x v) (hodd : value m.prime % 2 = 1) (hi : 0 < i) :
    Stands m i (bnMultHalf x m.prime) (v / 2) := by
  have hvalue := value_bnMultHalf hx.normalized hodd
  have hmod := bnMultHalf_modEq hx.normalized hodd
  refine ⟨normalized_bnMultHalf hx.normalized hodd, ?_, ?_⟩
  · have hlt := hx.lt
    have hmul : value x % 2 * value m.prime ≤ i * value m.prime :=
      Nat.mul_le_mul_right _ (by omega)
    omega
  · have hcast := cast_eq_of_modEq (F := F) hmod
    rw [Nat.cast_mul, hx.eq] at hcast
    rw [eq_div_iff (two_ne_zero_of_char m), mul_comm]
    exact_mod_cast hcast

/-- The negated number is partly reduced, if it did not stand for zero. -/
theorem Stands.conditionalNegate (hx : Stands m 2 x v) (hv : v ≠ 0) (c : Prop) [Decidable c] :
    Stands m 2 (conditionalNegate (if c then -1 else 0) x m.prime) (if c then -v else v) := by
  rw [conditionalNegate_eq]
  split
  case isTrue =>
    have hprime := m.value_lt
    have hlt := hx.lt
    -- a zero would become twice the modulus
    have hpos : value x ≠ 0 := by
      intro h0
      apply hv
      rw [← hx.eq, h0, Nat.cast_zero]
    have hvalue := value_bnSubtractmod normalized_bnZero hx.partlyReduced
      (by rw [value_bnZero]; omega)
    rw [value_bnZero, Nat.zero_add] at hvalue
    refine ⟨Limbs.normalized_ripple (by decide) (by decide) _ _, ?_, ?_⟩
    · omega
    · rw [hvalue, Nat.cast_sub hlt.le, Nat.cast_mul, CharP.cast_eq_zero F (value m.prime), mul_zero, zero_sub, hx.eq]
  case isFalse => exact hx

theorem Stands.inverse (hx : Stands m i x v) (hodd : value m.prime % 2 = 1) (hv : v ≠ 0)
    (hprime : (value m.prime).Prime) :
    ∃ y, bnInverse x m.prime = some y ∧ Stands m 1 y v⁻¹ := by
  have hcoprime : Nat.Coprime (value x) (value m.prime) := by
    rw [Nat.coprime_comm, Nat.Prime.coprime_iff_not_dvd hprime]
    exact fun hdvd => hv (hx.eq_zero_iff.mpr hdvd)
  obtain ⟨y, hy, hnormalized, hlt, hmod⟩ := bnInverse_spec hodd hcoprime
  refine ⟨y, hy, hnormalized, by rwa [Nat.one_mul], ?_⟩
  have hcast := cast_eq_of_modEq (F := F) hmod
  rw [Nat.cast_mul, hx.eq, Nat.cast_one] at hcast
  exact eq_inv_of_mul_eq_one_right hcast

/-- The difference of equal elements is the modulus after a reduction, and so a comparison with the
modulus tells whether they are equal. -/
theorem Stands.cmov_isEqual {t f : Bignum256} {u' v' : F} (hx : Stands m 2 x u)
    (hy : Stands m 2 y v) (ht : Stands m i t u') (hf : Stands m i f v') :
    ∃ w, Stands m i
        (bnCmov (bnIsEqual (bnFastMod (bnSubtractmod x y m.prime) m.prime) m.prime) t f) w ∧
      (u = v → w = u') ∧ (u ≠ v → w = v') := by
  have hsub := hx.subtractmod hy (by decide)
  -- the lifted difference is a multiple of the modulus, and never zero
  have hequal : bnFastMod (bnSubtractmod x y m.prime) m.prime = m.prime ↔ u = v := by
    rw [← sub_eq_zero (a := u), hsub.eq_zero_iff]
    exact bnFastMod_eq_prime_iff hsub.normalized (hx.pos_subtractmod hy (by decide)) hsub.lt
  rw [bnIsEqual_eq]
  by_cases huv : u = v
  · refine ⟨u', ?_, fun _ => rfl, fun hne => absurd huv hne⟩
    simpa [hequal.mpr huv] using ht.cmov hf true
  · refine ⟨v', ?_, fun heq => absurd heq huv, fun _ => rfl⟩
    simpa [mt hequal.mp huv] using ht.cmov hf false

/-- A difference that is only computed where the subtrahend is not zero. -/
theorem Stands.subtract_if {c : Prop} [Decidable c] (hx : Stands m 2 x u) (hy : Stands m 2 y v)
    (hv : ¬ c → v = 0) : Stands m 4 (if c then bnSubtractmod x y m.prime else x) (u - v) := by
  split
  case isTrue => exact hx.subtractmod hy (by decide)
  case isFalse hc =>
    rw [hv hc, sub_zero]
    exact hx.mono (by decide)

end Operations

end RlyNetworkSdk.Crypto.Bignum
