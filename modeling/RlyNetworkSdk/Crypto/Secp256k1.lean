import RlyNetworkSdk.Crypto.ModularMultiplication

/-!
# The Moduli of secp256k1

The field and the group order of the curve, as `secp256k1.c` lists their limbs, and what the
modular operations compute for every modulus of this kind.
-/

namespace RlyNetworkSdk.Crypto.Bignum

/-! ## The Limbs -/

/-- `secp256k1.prime`. -/
def fieldPrime : Bignum256 :=
  #v[0x3ffffc2f, 0x3ffffffb, 0x3fffffff, 0x3fffffff, 0x3fffffff, 0x3fffffff, 0x3fffffff,
    0x3fffffff, 0xffff]

/-- `secp256k1.order`. -/
def groupOrder : Bignum256 :=
  #v[0x10364141, 0x3f497a33, 0x348a03bb, 0x2bb739ab, 0x3ffffeba, 0x3fffffff, 0x3fffffff,
    0x3fffffff, 0xffff]

theorem value_fieldPrime : value fieldPrime = 2 ^ 256 - 2 ^ 32 - 977 := by decide +kernel

theorem value_groupOrder : value groupOrder =
    0xFFFFFFFFFFFFFFFFFFFFFFFFFFFFFFFEBAAEDCE6AF48A03BBFD25E8CD0364141 := by decide +kernel

def field : Modulus where
  prime := fieldPrime
  normalized := by decide +kernel
  le_value := by rw [value_fieldPrime]; omega
  value_lt := by rw [value_fieldPrime]; omega

def order : Modulus where
  prime := groupOrder
  normalized := by decide +kernel
  le_value := by rw [value_groupOrder]; omega
  value_lt := by rw [value_groupOrder]; omega

/-! ## Modular Operations -/

/-- **Sums, differences, multiples and halves are right modulo the prime.** All but the differences
are partly reduced, which is what `bn_mod` needs; the differences go through `bn_fast_mod` first. -/
theorem modular_sums (m : Modulus) {a b : Bignum256} (ha : PartlyReduced a m)
    (hb : PartlyReduced b m) {k : BitVec 8} (hk : k.toNat ≤ 4) (hodd : value m.prime % 2 = 1) :
    value (bnMod (bnAddmod a b m.prime) m.prime) = (value a + value b) % value m.prime ∧
      (value (bnMod (bnFastMod (bnSubtractmod a b m.prime) m.prime) m.prime) + value b) %
        value m.prime = value a % value m.prime ∧
      value (bnMod (bnMultK a k m.prime) m.prime) = k.toNat * value a % value m.prime ∧
      2 * value (bnMod (bnMultHalf a m.prime) m.prime) % value m.prime =
        value a % value m.prime ∧
      PartlyReduced (bnAddmod a b m.prime) m ∧ PartlyReduced (bnMultK a k m.prime) m ∧
        PartlyReduced (bnMultHalf a m.prime) m := by
  refine ⟨?_, ?_, ?_, ?_, partlyReduced_bnAddmod a b m, partlyReduced_bnMultK a k m,
    partlyReduced_bnMultHalf ha hodd⟩
  · rw [value_bnMod (partlyReduced_bnAddmod a b m)]
    exact bnAddmod_modEq ha.normalized hb.normalized m
  · rw [value_bnMod (partlyReduced_bnFastMod _ m), Nat.mod_add_mod]
    exact ((bnFastMod_modEq _ m).add_right _).trans (bnSubtractmod_modEq ha hb)
  · rw [value_bnMod (partlyReduced_bnMultK a k m)]
    exact bnMultK_modEq ha.normalized hk m
  · rw [value_bnMod (partlyReduced_bnMultHalf ha hodd), Nat.mul_mod, Nat.mod_mod, ← Nat.mul_mod]
    exact bnMultHalf_modEq ha.normalized hodd

theorem partlyReduced_fieldPrime : PartlyReduced fieldPrime field where
  normalized := field.normalized
  lt := by
    change value fieldPrime < 2 * value fieldPrime
    rw [value_fieldPrime]
    omega

theorem modular_sums_field :
    value (bnMod (bnAddmod fieldPrime fieldPrime fieldPrime) fieldPrime) =
      (value fieldPrime + value fieldPrime) % value fieldPrime :=
  (modular_sums field partlyReduced_fieldPrime partlyReduced_fieldPrime (k := 3) (by decide)
    (by decide +kernel)).1

/-- **Products are reduced**, and no assertion of the reduction fails, for factors that are up
to 180 times the modulus, as sums and multiples of reduced numbers may be. -/
theorem modular_product (m : Modulus) {k x : Bignum256} (hk : Normalized k) (hx : Normalized x)
    (hk' : value k < 180 * value m.prime) (hx' : value x < 180 * value m.prime) :
    value (bnMod (bnMultiply k x m.prime) m.prime) = value k * value x % value m.prime ∧
      ∀ i ≤ 8, (reduceCoef (reducedTo m.prime (bnMultiplyLong k x) (i + 1)) (8 + i)).toNat < 2 ^ 31 ∧
        (reducedTo m.prime (bnMultiplyLong k x) i).getD (8 + i + 1) 0 = 0 := by
  constructor
  · rw [value_bnMod (partlyReduced_bnMultiply hk hx hk' hx')]
    exact bnMultiply_modEq hk hx hk' hx'
  · intro i hi
    have hrun := (reducing_product hk hx hk' hx').run (i + 1) (by omega)
    rw [reducedTo_succ m.prime _ hi]
    exact hrun.assertions hi

theorem modular_product_field :
    value (bnMod (bnMultiply groupOrder groupOrder fieldPrime) fieldPrime) =
      value groupOrder * value groupOrder % value fieldPrime := by
  have hlt : value groupOrder < 180 * value fieldPrime := by
    rw [value_groupOrder, value_fieldPrime]
    omega
  exact (modular_product field order.normalized order.normalized hlt hlt).1

end RlyNetworkSdk.Crypto.Bignum
