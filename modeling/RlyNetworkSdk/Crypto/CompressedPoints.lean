import RlyNetworkSdk.Crypto.PublicKeys
import RlyNetworkSdk.Crypto.SquareRoots

/-!
# Reading Compressed Points

`ecdsa_read_pubkey` finds the `y` of a compressed point as a square root, with the parity that the
first byte tells, and checks the point it has found. It reads what `compressed` writes.
-/

namespace RlyNetworkSdk.Crypto.Ecdsa

open Bignum Encoding Arithmetic WeierstrassCurve.Affine

/-! ## The Code -/

/-- `x ^ 3 + a * x`, in the order of operations of the source; `b` is added after it. -/
def cubePart (curve : EcdsaCurve) (x : Bignum256) : Bignum256 :=
  let y := bnMultiply x x curve.prime
  let y := bnSubi y (BitVec.ofInt 32 (-curve.a)) curve.prime
  bnMultiply x y curve.prime

def uncompressCoords (curve : EcdsaCurve) (odd : UInt8) (x : Bignum256) : Bignum256 :=
  let y := bnSqrt (bnAdd (cubePart curve x) curve.b) curve.prime
  if odd.toNat &&& 0x01 ≠ (lowLimb y &&& 1).toNat then bnSubtract curve.prime y else y

def ecdsaValidatePubkey (curve : EcdsaCurve) (pub : CurvePoint) : Bool :=
  if pointIsInfinity pub then false
  else if !bnIsLess pub.x curve.prime || !bnIsLess pub.y curve.prime then false
  else
    let y2 := bnMod (bnMultiply pub.y pub.y curve.prime) curve.prime
    bnIsEqual (bnMod (bnAddmod (cubePart curve pub.x) curve.b curve.prime) curve.prime) y2

def ecdsaReadPubkey (curve : EcdsaCurve) (pubKey : List UInt8) : Option CurvePoint :=
  let x := bnReadBe ((pubKey.drop 1).take 32)
  if pubKey.getD 0 0 = 0x04 then
    let pub := ⟨x, bnReadBe ((pubKey.drop 33).take 32)⟩
    if ecdsaValidatePubkey curve pub then some pub else none
  else if pubKey.getD 0 0 = 0x02 ∨ pubKey.getD 0 0 = 0x03 then
    let pub := ⟨x, uncompressCoords curve (pubKey.getD 0 0) x⟩
    if ecdsaValidatePubkey curve pub then some pub else none
  else none

/-! ## Roots -/

theorem modulus_mod_four : value field.prime % 4 = 3 := by
  change value fieldPrime % 4 = 3
  rw [value_fieldPrime]
  decide

/-- The power is a root of every square. -/
theorem sqrt_sq (y : BaseField) :
    (y ^ 2) ^ ((value field.prime + 1) / 4) = y ∨ (y ^ 2) ^ ((value field.prime + 1) / 4) = -y := by
  exact sq_eq_sq_iff_eq_or_eq_neg.mp (sq_pow_quarter modulus_mod_four y)

/-- The parity of opposite elements differs. -/
theorem val_neg_mod_two {y : BaseField} (hy : y ≠ 0) : (-y).val % 2 ≠ y.val % 2 := by
  have hneg : (-y).val = value field.prime - y.val := by
    have : NeZero y := ⟨hy⟩
    exact ZMod.val_neg_of_ne_zero y
  have hlt := ZMod.val_lt y
  have hodd := prime_odd (m := field) prime_value_fieldPrime
  omega

variable {x y : BaseField} {X Y : Bignum256}

theorem val_of_stands (h : Stands field 1 X x) : value X = x.val := by
  have hlt := h.lt
  rw [Nat.one_mul] at hlt
  rw [← h.eq, ZMod.val_natCast_of_lt hlt]

theorem prime_secp256k1 : secp256k1.prime = field.prime := rfl

theorem cubePart_stands (hX : Stands field 1 X x) :
    Stands field 2 (cubePart secp256k1 X) (x ^ 3) := by
  have hzero : (BitVec.ofInt 32 (-secp256k1.a)).toNat = 0 := by decide
  have hsquare := (hX.multiply hX (by decide) (by decide)).subi (by decide)
    (hzero.le.trans (Nat.zero_le _))
  rw [cubePart, prime_secp256k1]
  apply (hX.multiply hsquare (by decide) (by decide)).congr
  rw [hzero, Nat.cast_zero, sub_zero]
  ring

theorem b_stands : Stands field 1 secp256k1.b (7 : BaseField) := by
  refine ⟨by decide, ?_, ?_⟩
  · rw [value_b, Nat.one_mul]
    change 7 < value fieldPrime
    rw [value_fieldPrime]
    decide
  · rw [value_b]
    rfl

/-- **The root with the right parity.** The two roots of a square add up to the prime, which is
odd, so just one of them is odd. -/
theorem uncompressCoords_stands (hX : Stands field 1 X x) (heq : y ^ 2 = x ^ 3 + 7) {odd : UInt8}
    (hodd : odd.toNat % 2 = y.val % 2) :
    Stands field 1 (uncompressCoords secp256k1 odd X) y := by
  have hsum := ((cubePart_stands hX).add b_stands (by decide) (by decide)).congr heq.symm
  have hroot := (hsum.mono (by decide : 3 ≤ 180)).sqrt
  rw [uncompressCoords, prime_secp256k1]
  generalize bnSqrt (bnAdd (cubePart secp256k1 X) secp256k1.b) field.prime = root at hroot ⊢
  have hlow : (lowLimb root &&& 1).toNat = value root % 2 := by
    rw [toNat_and_one]
    exact (value_mod_two root).symm
  rw [hlow, Nat.and_one_is_mod, hodd]
  rcases sqrt_sq y with hsame | hopposite
  · -- the parity is right already
    rw [hsame] at hroot
    rw [val_of_stands hroot, if_neg (by simp)]
    exact hroot
  · rw [hopposite] at hroot
    by_cases hy : y = 0
    · rw [hy, neg_zero] at hroot
      rw [hy, val_of_stands hroot, if_neg (by simp)]
      exact hroot
    · -- the parity is wrong, and the other root is taken
      rw [val_of_stands hroot, if_pos (val_neg_mod_two hy).symm]
      have hlt := hroot.lt
      have hprime := field.value_lt
      have hpos : value root ≠ 0 := by
        intro hzero
        have heq := hroot.eq
        rw [hzero, Nat.cast_zero] at heq
        exact hy (neg_eq_zero.mp heq.symm)
      have hvalue : value (bnSubtract field.prime root) = value field.prime - value root := by
        rw [value_bnSubtract field.normalized hroot.normalized]
        omega
      refine ⟨normalized_bnSubtract _ _, by omega, ?_⟩
      rw [hvalue, Nat.cast_sub (by omega), CharP.cast_eq_zero, hroot.eq, zero_sub, neg_neg]

/-! ## Reading -/

theorem ecdsaValidatePubkey_of_affine {p : CurvePoint} {P : CurveGroup} (h : p.Affine field P) :
    ecdsaValidatePubkey secp256k1 p = true := by
  have hequation := h.at_values.equation
  rw [zero_mul, add_zero] at hequation
  -- the checks of the code one by one: both coordinates are below the prime
  have hless_x : bnIsLess p.x secp256k1.prime = true := by
    rw [prime_secp256k1, bnIsLess_eq h.normalized_x field.normalized]
    exact decide_eq_true h.lt_x
  have hless_y : bnIsLess p.y secp256k1.prime = true := by
    rw [prime_secp256k1, bnIsLess_eq h.normalized_y field.normalized]
    exact decide_eq_true h.lt_y
  have hleft := ((cubePart_stands h.x).addmod b_stands).mod
  have hright := ((h.y.multiply h.y (by decide) (by decide)).mod).congr
    ((pow_two _).symm.trans hequation)
  -- both sides are fully reduced, so equal numbers are equal limbs
  have hequal := (bnIsEqual_iff hleft hright).mpr rfl
  rw [ecdsaValidatePubkey, h.not_infinity affineUsable_secp256k1.b_ne_zero, hless_x, hless_y,
    prime_secp256k1, hequal]
  rfl

/-- **What is written in compressed form is read as the point.** Its `x` gives the square, and
the first byte says which of the two roots is meant. -/
theorem ecdsaReadPubkey_compressed {P : CurveGroup} (hP : P ≠ 0) :
    ∃ p, ecdsaReadPubkey secp256k1 (compressed P) = some p ∧ p.Affine field P := by
  obtain ⟨x, y, hxy, rfl⟩ := exists_at_of_ne_zero hP
  have hat : At (Point.some x y hxy : CurveGroup) x y := ⟨hxy, rfl⟩
  have hequation := hat.equation
  rw [zero_mul, add_zero] at hequation
  have hlt := ZMod.val_lt x
  have hprime := field.value_lt
  have hfits : ZMod.val x < 256 ^ 32 := (hlt.trans hprime).trans_eq (by norm_num)
  -- the coordinate that is written is read back as the same element
  have hX : Stands field 1 (bnReadBe (BigEndian.ofNat 32 (ZMod.val x))) x := by
    have hvalue : value (bnReadBe (BigEndian.ofNat 32 (ZMod.val x))) = ZMod.val x := by
      rw [value_bnReadBe (BigEndian.length_ofNat 32 _), BigEndian.value_ofNat_of_lt hfits]
    refine ⟨normalized_bnReadBe _, by rw [hvalue, Nat.one_mul]; exact hlt, ?_⟩
    rw [hvalue, ZMod.natCast_zmod_val]
  have htake : (BigEndian.ofNat 32 (ZMod.val x)).take 32 = BigEndian.ofNat 32 (ZMod.val x) :=
    List.take_of_length_le (BigEndian.length_ofNat 32 _).le
  -- the parity picks one of the two roots, which is the one that was written
  have hread : ∀ b : UInt8, b ≠ 4 → b = 2 ∨ b = 3 → b.toNat % 2 = ZMod.val y % 2 →
      ∃ p, ecdsaReadPubkey secp256k1 (b :: BigEndian.ofNat 32 (ZMod.val x)) = some p ∧
        p.Affine field (Point.some x y hxy : CurveGroup) := by
    intro b hne hb hparity
    have haffine := affine_mk hX (uncompressCoords_stands hX hequation hparity) hat
    have hvalid := ecdsaValidatePubkey_of_affine haffine
    refine ⟨_, ?_, haffine⟩
    rw [ecdsaReadPubkey, List.getD_cons_zero, if_neg hne, if_pos hb, List.drop_one, List.tail_cons,
      htake]
    exact if_pos hvalid
  rw [compressed]
  rcases Nat.mod_two_eq_zero_or_one (ZMod.val y) with heven | hodd
  · rw [heven]
    exact hread 2 (by decide) (Or.inl rfl) heven.symm
  · rw [hodd]
    exact hread 3 (by decide) (Or.inr rfl) hodd.symm

end RlyNetworkSdk.Crypto.Ecdsa
