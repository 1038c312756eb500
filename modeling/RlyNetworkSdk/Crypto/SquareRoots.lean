import RlyNetworkSdk.Crypto.PointAddition

/-!
# Square Roots

`bn_sqrt` raises a number to the power `(p + 1) / 4`, bit by bit from the lowest one. For a prime
that is three modulo four this is a square root of every number that has one.
-/

namespace RlyNetworkSdk.Crypto.Bignum

open Encoding

/-! ## The Code -/

def bnOne : Bignum256 := #v[1, 0, 0, 0, 0, 0, 0, 0, 0]

structure SqrtState where
  res : Bignum256
  x : Bignum256

/-- The turns for one limb of the exponent; in the last limb the loop ends with the bits. -/
def sqrtLimb (isLast : Bool) (prime : Bignum256) : Nat → BitVec 32 → SqrtState → SqrtState
  | 0, _, s => s
  | bits + 1, limb, s =>
    if isLast && limb == 0 then s
    else
      let res := if limb &&& 1 != 0 then bnMultiply s.x s.res prime else s.res
      sqrtLimb isLast prime bits (limb >>> 1) ⟨res, bnMultiply s.x s.x prime⟩

def sqrtLimbs (prime : Bignum256) : List (BitVec 32) → SqrtState → SqrtState
  | [], s => s
  | [limb], s => sqrtLimb true prime 30 limb s
  | limb :: limb' :: limbs, s =>
    sqrtLimbs prime (limb' :: limbs) (sqrtLimb false prime 30 limb s)

def bnSqrt (x prime : Bignum256) : Bignum256 :=
  let p := bnRshift (bnRshift (bnAddi prime 1))
  bnMod (sqrtLimbs prime p.toList ⟨bnOne, x⟩).res prime

/-! ## Powers -/

theorem value_bnAddi {a : Bignum256} (ha : Normalized a) {b : BitVec 32} (hb : b.toNat < 4)
    (hlt : b.toNat + value a < (2 ^ 30) ^ 9) :
    value (bnAddi a b) = b.toNat + value a ∧ Normalized (bnAddi a b) := by
  have hroom : ∀ i : Fin 9, Limbs.Room 30 a[i] := by
    intro i
    have hai := ha i
    rw [Limbs.Room]
    omega
  constructor
  · rw [bnAddi, value, Limbs.value_ripple (by decide) (by decide) (by simpa using hb) hroom,
      Nat.mod_eq_of_lt hlt]
  · exact Limbs.normalized_ripple (by decide) (by decide) _ _

variable {F : Type*} [Field F] {m : Modulus} [CharP F (value m.prime)] {s : SqrtState} {u v : F}

theorem toNat_lowBit (limb : BitVec 32) : (limb &&& 1 != 0) = decide (limb.toNat % 2 = 1) := by
  rw [Bool.eq_iff_iff, bne_iff_ne, decide_eq_true_eq, ne_eq, ← BitVec.toNat_inj, toNat_and_one]
  have hzero : (0 : BitVec 32).toNat = 0 := rfl
  omega

/-- What a limb multiplies the result by. The base goes on to be squared for each bit, whether
or not the bit is set. -/
theorem sqrtLimb_stands (isLast : Bool) (bits : Nat) {limb : BitVec 32}
    (hlimb : limb.toNat < 2 ^ bits) (hres : Stands m 2 s.res u) (hx : Stands m 180 s.x v) :
    Stands m 2 (sqrtLimb isLast m.prime bits limb s).res (u * v ^ limb.toNat) ∧
      ∃ w, Stands m 180 (sqrtLimb isLast m.prime bits limb s).x w ∧
        (isLast = false → w = v ^ 2 ^ bits) := by
  induction bits generalizing limb s u v with
  | zero =>
    have hzero : limb.toNat = 0 := by simpa using hlimb
    rw [hzero, pow_zero, mul_one]
    exact ⟨hres, v, hx, fun _ => by rw [pow_zero, pow_one]⟩
  | succ bits ih =>
    by_cases hdone : (isLast && limb == 0) = true
    · -- no bits are left
      rw [sqrtLimb, if_pos hdone]
      simp only [Bool.and_eq_true, beq_iff_eq] at hdone
      obtain ⟨rfl, rfl⟩ := hdone
      have hzero : (0 : BitVec 32).toNat = 0 := rfl
      rw [hzero, pow_zero, mul_one]
      exact ⟨hres, v, hx, fun h => absurd h (by decide)⟩
    · rw [sqrtLimb, if_neg hdone]
      have hhalf : (limb >>> 1).toNat = limb.toNat / 2 := by
        rw [BitVec.toNat_ushiftRight, Nat.shiftRight_eq_div_pow, pow_one]
      have hsquare := (hx.multiply hx le_rfl le_rfl).mono (by decide : 2 ≤ 180)
      have hproduct := hx.multiply hres le_rfl (by decide)
      have hnext : Stands m 2 (if limb &&& 1 != 0 then bnMultiply s.x s.res m.prime else s.res)
          (u * v ^ (limb.toNat % 2)) := by
        rw [toNat_lowBit]
        rcases Nat.mod_two_eq_zero_or_one limb.toNat with h | h
        · simpa [h] using hres
        · simpa [h, mul_comm] using hproduct
      have hlt : (limb >>> 1).toNat < 2 ^ bits := by
        rw [pow_succ] at hlimb
        omega
      -- the rest of the bits, with the square of `x`
      obtain ⟨hres', w, hw, hpow⟩ := ih (s := ⟨_, _⟩) hlt hnext hsquare
      refine ⟨hres'.congr ?_, w, hw, fun h => ?_⟩
      · rw [hhalf, mul_assoc, ← pow_two, ← pow_mul, ← pow_add, Nat.mod_add_div]
      · rw [hpow h, ← pow_two, ← pow_mul, pow_succ']

theorem sqrtLimbs_stands {limbs : List (BitVec 32)} (hlimbs : Limbs.Digits 30 limbs)
    (hres : Stands m 2 s.res u) (hx : Stands m 180 s.x v) :
    Stands m 2 (sqrtLimbs m.prime limbs s).res
      (u * v ^ Nat.ofDigits (2 ^ 30) (limbs.map BitVec.toNat)) := by
  -- the last limb ends with its highest bit, the others always take thirty squares
  induction limbs generalizing s u v with
  | nil => simpa [sqrtLimbs] using hres
  | cons limb limbs ih =>
    have hlimb := hlimbs limb List.mem_cons_self
    cases limbs with
    | nil => simpa [sqrtLimbs] using (sqrtLimb_stands true 30 hlimb hres hx).1
    | cons limb' rest =>
      obtain ⟨hres', w, hw, hpow⟩ := sqrtLimb_stands false 30 hlimb hres hx
      have hrest := ih (fun y hy => hlimbs y (List.mem_cons_of_mem limb hy)) hres' hw
      rw [sqrtLimbs, List.map_cons (a := limb), Nat.ofDigits_cons]
      apply hrest.congr
      rw [hpow rfl, ← pow_mul, mul_assoc, ← pow_add]

theorem value_bnOne : value bnOne = 1 := by decide +kernel

theorem normalized_bnOne : Normalized bnOne := by decide +kernel

/-- **The power that `bn_sqrt` computes**, limb by limb: its exponent is a quarter of the
modulus plus one. -/
theorem Stands.sqrt {x : Bignum256} (hx : Stands m 180 x v) :
    Stands m 1 (bnSqrt x m.prime) (v ^ ((value m.prime + 1) / 4)) := by
  have hprime := m.value_lt
  have hone : (1 : BitVec 32).toNat = 1 := rfl
  obtain ⟨hsum, hnormalized⟩ := value_bnAddi (b := 1) m.normalized (by decide)
    (by rw [hone]; omega)
  obtain ⟨hhalf, hnormalized⟩ := value_bnRshift hnormalized
  obtain ⟨hquarter, hnormalized⟩ := value_bnRshift hnormalized
  -- the exponent is the prime and one, shifted by two bits
  have hdigits : Nat.ofDigits (2 ^ 30)
      ((bnRshift (bnRshift (bnAddi m.prime 1))).toList.map BitVec.toNat) =
        (value m.prime + 1) / 4 := by
    rw [← Limbs.value_eq_ofDigits]
    change value _ = _
    rw [hquarter, hhalf, hsum, Nat.div_div_eq_div_mul, hone, Nat.add_comm]
  have hle := m.le_value
  have hres : Stands m 2 bnOne (1 : F) := by
    refine ⟨normalized_bnOne, ?_, ?_⟩
    · rw [value_bnOne]
      omega
    · rw [value_bnOne, Nat.cast_one]
  -- all the bits of it, over the number one
  have hpower := sqrtLimbs_stands (s := ⟨bnOne, x⟩) (digits_toList hnormalized) hres hx
  rw [hdigits, one_mul] at hpower
  exact hpower.mod

/-! ## Roots -/

/-- The power of a square squares to it, for a prime that is three modulo four. -/
theorem sq_pow_quarter {p : Nat} [Fact p.Prime] (hp : p % 4 = 3) (y : ZMod p) :
    ((y ^ 2) ^ ((p + 1) / 4)) ^ 2 = y ^ 2 := by
  have hexponent : 2 * ((p + 1) / 4 * 2) = p + 1 := by omega
  -- squared, the power is one above the characteristic
  rw [← pow_mul, ← pow_mul, hexponent, pow_succ, ZMod.pow_card, pow_two]

/-- **`bn_sqrt` finds a root of every number that has one.** For any other number the result is
no root, which the caller has to check. -/
theorem square_root (m : Modulus) (hprime : (value m.prime).Prime)
    (hmod : value m.prime % 4 = 3) {x : Bignum256} (hx : Normalized x)
    (hlt : value x < 180 * value m.prime) :
    Normalized (bnSqrt x m.prime) ∧ value (bnSqrt x m.prime) < value m.prime ∧
      (value (bnSqrt x m.prime) ^ 2 % value m.prime = value x % value m.prime ↔
        ∃ r, r ^ 2 % value m.prime = value x % value m.prime) := by
  -- the residues are taken modulo a variable: the digits of the prime play no part
  obtain ⟨p, hp⟩ : ∃ p, p = value m.prime := ⟨_, rfl⟩
  have hfact : Fact p.Prime := ⟨hp ▸ hprime⟩
  have hchar : CharP (ZMod p) (value m.prime) := hp ▸ ZMod.charP p
  have hstands : Stands m 180 x (value x : ZMod p) := ⟨hx, hlt, rfl⟩
  obtain ⟨hnormalized, hbound, hroot⟩ := hstands.sqrt
  rw [Nat.one_mul] at hbound
  refine ⟨hnormalized, hbound, fun h => ⟨_, h⟩, fun ⟨r, hr⟩ => ?_⟩
  have hcast : (value x : ZMod p) = (r : ZMod p) ^ 2 := by
    rw [← Nat.cast_pow, ZMod.natCast_eq_natCast_iff', hp]
    exact hr.symm
  rw [← hp, ← ZMod.natCast_eq_natCast_iff', Nat.cast_pow, hroot, ← hp, hcast,
    sq_pow_quarter (hp ▸ hmod)]

/-- The field of secp256k1 has a root of two. -/
theorem square_root_two : value (bnSqrt #v[2, 0, 0, 0, 0, 0, 0, 0, 0] field.prime) ^ 2 %
    value field.prime = 2 := by
  have hprime : value field.prime = 2 ^ 256 - 2 ^ 32 - 977 := value_fieldPrime
  have htwo : value #v[2, 0, 0, 0, 0, 0, 0, 0, 0] = 2 := by decide +kernel
  have hmod : value field.prime % 4 = 3 := by
    rw [hprime]
    norm_num
  have hlt : value #v[2, 0, 0, 0, 0, 0, 0, 0, 0] < 180 * value field.prime := by
    rw [htwo, hprime]
    norm_num
  have hroot := square_root field prime_value_fieldPrime hmod (by decide +kernel) hlt
  -- a root of two that is known shows that there is one
  have hsquare := hroot.2.2.mpr
    ⟨14948361426284523007780350147288027888107167579622651558244346453762823115767,
      by rw [htwo, hprime]; norm_num⟩
  rw [hsquare, htwo, hprime]
  norm_num

end RlyNetworkSdk.Crypto.Bignum
