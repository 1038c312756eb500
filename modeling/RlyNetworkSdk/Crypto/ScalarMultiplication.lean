import RlyNetworkSdk.Crypto.CurvePoints
import RlyNetworkSdk.Crypto.ScalarDigits

/-!
# Scalar Multiplication

`scalar_multiply` adds one entry of the precomputed table for every digit of the scalar, and negates
what it has so far where the sign changes. The partial sums are odd multiples of `G` below the order,
so that none of them is the point at infinity, which the Jacobian coordinates could not express.
-/

namespace RlyNetworkSdk.Crypto.Ecdsa

open Bignum Arithmetic

/-! ## The Loop -/

/-- `curve->cp[i][j]`. -/
def EcdsaCurve.multiple (curve : EcdsaCurve) (i j : Nat) : CurvePoint :=
  (curve.cp.getD i []).getD j ⟨bnZero, bnZero⟩

/-- What is left of the scalar, and the sum so far, which is kept in Jacobian coordinates until
the end. -/
structure ScalarState where
  a : Bignum256
  jres : JacobianCurvePoint

/-- Turn `i` of the loop: the scalar is shifted by a digit, and a multiple from the table is
added, or its opposite. -/
def scalarTurn (curve : EcdsaCurve) (s : ScalarState) (i : Nat) : ScalarState :=
  let a := shiftDigit s.a
  let lowbits := lowbits (lowLimb a)
  let y := conditionalNegate ((lowbits &&& 1) - 1) s.jres.y curve.prime
  let multiple := curve.multiple i (lowbits >>> 1).toNat
  ⟨a, pointJacobianAdd multiple ⟨s.jres.x, y, s.jres.z⟩ curve⟩

/-- The state before the loop. -/
def scalarStart (random : Vector (BitVec 32) 9) (curve : EcdsaCurve) (a : Bignum256) :
    ScalarState :=
  ⟨a, curveToJacobian random (curve.multiple 0 (lowbits (lowLimb a) >>> 1).toNat) curve.prime⟩

/-- `res = k * G`, with the random words that blind the coordinates. Zero is handled apart,
since its sum would end at infinity. -/
def scalarMultiply (random : Vector (BitVec 32) 9) (curve : EcdsaCurve) (k : Bignum256) :
    Option CurvePoint :=
  if bnIsZero k then some ⟨bnZero, bnZero⟩
  else
    let s := (List.range' 1 63).foldl (scalarTurn curve)
      (scalarStart random curve (oddScalar k curve.order))
    let y := conditionalNegate ((lowLimb s.a >>> 4 &&& 1) - 1) s.jres.y curve.prime
    jacobianToCurve ⟨s.jres.x, y, s.jres.z⟩ curve.prime

/-! ## The Table and the Order -/

variable {F : Type*} [Field F] [DecidableEq F] {m n : Modulus} {a b : F} {curve : EcdsaCurve}
  {G P : (shortCurve a b).Point}

/-- The table holds `(2 * j + 1) * 16 ^ i * G`: the odd multiples for every digit, of which only
the positive ones are stored. -/
def EcdsaCurve.Table (curve : EcdsaCurve) (m : Modulus) (G : (shortCurve a b).Point) : Prop :=
  ∀ i < 64, ∀ j < 8, (curve.multiple i j).Affine m (((2 * j + 1) * 16 ^ i : ℤ) • G)

/-- Only the multiples of the order make `G` vanish, so a sum of digits that is no such multiple
is a point. -/
def HasOrder (n : Modulus) (G : (shortCurve a b).Point) : Prop :=
  ∀ s : ℤ, s • G = 0 ↔ (value n.prime : ℤ) ∣ s

/-- An affine point, or zeros for the point at infinity, which is how `point_set_infinity`
writes it. -/
def CurvePoint.Denotes (m : Modulus) (p : CurvePoint) (P : (shortCurve a b).Point) : Prop :=
  (P = 0 ∧ p = ⟨bnZero, bnZero⟩) ∨ p.Affine m P

/-- Twice a point vanishes only with the point, since the order is odd. -/
theorem HasOrder.two_zsmul (h : HasOrder n G) (hodd : value n.prime % 2 = 1) {s : ℤ}
    (hs : s • G ≠ 0) : s • G + s • G ≠ 0 := by
  rw [← add_zsmul, ← two_mul, ne_eq, h]
  intro hdvd
  apply hs
  have hcoprime : IsCoprime (value n.prime : ℤ) ((2 : Nat) : ℤ) :=
    Nat.isCoprime_iff_coprime.mpr (Nat.coprime_two_right.mpr (Nat.odd_iff.mpr hodd))
  rw [h]
  exact hcoprime.dvd_of_dvd_mul_left hdvd

/-! ## Partial Sums -/

variable {k : Bignum256}

/-- The odd scalar is odd. -/
theorem oddScalar_mod_two (hk : Normalized k) (hlt : value k < value n.prime)
    (hodd : value n.prime % 2 = 1) : value (oddScalar k n.prime) % 2 = 1 := by
  have hprime := n.value_lt
  rw [(value_oddScalar hk hlt).1]
  split <;> omega

/-- The digits of the odd scalar add up to the scalar, or to what it lacks to the order. -/
theorem digitSum_oddScalar (hk : Normalized k) (hlt : value k < value n.prime)
    (hodd : value n.prime % 2 = 1) :
    digitSum 16 (value (oddScalar k n.prime)) 64 =
      value k - (if value k % 2 = 0 then value n.prime else 0 : Nat) := by
  have hvalue := (value_oddScalar hk hlt).1
  have hprime := n.value_lt
  have hsum := digitSum_add (B := 16) rfl (by decide) (oddScalar_mod_two hk hlt hodd) 64
  -- the top digit is the `2 ^ 256` that was added
  have htop : makeOdd (value (oddScalar k n.prime) / 16 ^ 64) = 1 := by
    rw [makeOdd]
    split at hvalue <;> omega
  rw [htop] at hsum
  by_cases heven : value k % 2 = 0
  · rw [if_pos heven] at hvalue ⊢
    omega
  · rw [if_neg heven] at hvalue ⊢
    omega

/-- All the digits together are the scalar, for `G`. -/
theorem digitSum_zsmul (h : HasOrder n G) (hk : Normalized k) (hlt : value k < value n.prime)
    (hodd : value n.prime % 2 = 1) :
    digitSum 16 (value (oddScalar k n.prime)) 64 • G = value k • G := by
  have hmultiple : (((if value k % 2 = 0 then value n.prime else 0 : Nat) : ℤ)) • G = 0 := by
    rw [h]
    split <;> simp
  rw [digitSum_oddScalar hk hlt hodd, sub_zsmul, hmultiple, neg_zero, add_zero, natCast_zsmul]

/-- **No partial sum vanishes.** Up to the last digit it is odd and smaller than the order, and
the whole is the scalar; this is why the addition needs no case for it. -/
theorem digitSum_zsmul_ne_zero (h : HasOrder n G) (hk : Normalized k)
    (hlt : value k < value n.prime) (hne : value k ≠ 0) (hodd : value n.prime % 2 = 1) {i : Nat}
    (hi : i ≤ 63) : digitSum 16 (value (oddScalar k n.prime)) (i + 1) • G ≠ 0 := by
  rw [ne_eq, h]
  intro hdvd
  rcases Nat.lt_or_eq_of_le hi with hless | rfl
  · -- an odd number that is smaller than the order
    have hsmall := abs_digitSum_lt (B := 16) rfl (by decide) (value (oddScalar k n.prime)) (i + 1)
    have hpow : (16 : ℤ) ^ (i + 1) ≤ 16 ^ 63 := pow_le_pow_right₀ (by decide) hless
    have hle := n.le_value
    have hzero := Int.eq_zero_of_abs_lt_dvd hdvd (by push_cast at hsmall; omega)
    have hparity := digitSum_emod_two (B := 16) rfl (by decide) (value (oddScalar k n.prime))
      (Nat.succ_ne_zero i)
    rw [hzero] at hparity
    exact absurd hparity (by decide)
  · rw [digitSum_oddScalar hk hlt hodd] at hdvd
    have hdvd' : (value n.prime : ℤ) ∣ value k := by
      have hself : (value n.prime : ℤ) ∣ (if value k % 2 = 0 then value n.prime else 0 : Nat) := by
        split <;> simp
      exact (dvd_sub_left hself).mp hdvd
    exact Nat.not_dvd_of_pos_of_lt (Nat.pos_of_ne_zero hne) hlt (Int.natCast_dvd_natCast.mp hdvd')

/-! ## Steps -/

/-- The mask selects the opposite point. -/
theorem JacobianCurvePoint.Denotes.negate [CharP F (value m.prime)] {jp : JacobianCurvePoint}
    (h : jp.Denotes m P) (htwice : P + P ≠ 0) (c : Prop) [Decidable c] :
    JacobianCurvePoint.Denotes m
      ⟨jp.x, conditionalNegate (if c then -1 else 0) jp.y m.prime, jp.z⟩
      ((if c then -1 else 1 : ℤ) • P) := by
  obtain ⟨x, y, z, hx, hy, hz, hP⟩ := h
  refine ⟨x, _, z, hx, hy.conditionalNegate (hP.y_ne_zero htwice) c, hz, ?_⟩
  split
  · rw [neg_one_zsmul]
    exact hP.neg
  · rwa [one_zsmul]

/-- What the loop has done up to turn `i`: the digits below are added up, with the sign of the
last one. -/
structure Progress (m : Modulus) (G : (shortCurve a b).Point) (A i : Nat) (s : ScalarState) :
    Prop where
  normalized : Normalized s.a
  value_a : value s.a = A / 16 ^ i
  denotes : s.jres.Denotes m ((digitSign (A / 16 ^ i) * digitSum 16 A (i + 1)) • G)

/-- What the loop relies on: the parameters of the curve, a prime modulus, the table, and the
order of the base point. -/
structure Usable (curve : EcdsaCurve) (m n : Modulus) (G : (shortCurve a b).Point) : Prop where
  params : curve.Over m a b
  prime : (value m.prime).Prime
  table : curve.Table m G
  order : curve.order = n.prime
  order_odd : value n.prime % 2 = 1
  hasOrder : HasOrder n G

theorem digitSign_zsmul_ne_zero (v : Nat) {t : ℤ} (ht : t • G ≠ 0) : (digitSign v * t) • G ≠ 0 := by
  rw [digitSign]
  split
  · rwa [one_mul]
  · rwa [neg_one_mul, neg_zsmul, neg_ne_zero]

theorem low_bits_value (v : Bignum256) : value v % 32 = (lowLimb v).toNat % 32 := by
  have hlimb : value v % 2 ^ 30 = (lowLimb v).toNat % 2 ^ 30 := value_mod_limb v
  omega

section Loop

variable [CharP F (value m.prime)] {A : Nat} {s : ScalarState} {i : Nat}

theorem progress_start (h : Usable curve m n G) {v : Bignum256} (hv : Normalized v)
    (random : Vector (BitVec 32) 9) : Progress m G (value v) 0 (scalarStart random curve v) := by
  obtain ⟨hdigit, hindex, -⟩ := lowbits_spec (lowLimb v) (low_bits_value v)
  have hmultiple := h.table 0 (by decide) _ hindex
  have hvalue : value v = value v / 16 ^ 0 := by rw [pow_zero, Nat.div_one]
  refine ⟨hv, hvalue, ?_⟩
  rw [← hvalue, digitSum_succ, digitSum_zero, zero_add, ← hvalue, pow_zero, mul_one, hdigit]
  rw [pow_zero, mul_one] at hmultiple
  rw [scalarStart, h.params.prime]
  exact curveToJacobian_denotes hmultiple random

/-- **One turn** keeps the progress, if neither sum vanishes: the sum has a digit more, and the
scalar one less. -/
theorem Progress.turn (hp : Progress m G A i s) (h : Usable curve m n G) (hi : i + 1 < 64)
    (hsum : digitSum 16 A (i + 1) • G ≠ 0) (hnext : digitSum 16 A (i + 2) • G ≠ 0) :
    Progress m G A (i + 1) (scalarTurn curve s (i + 1)) := by
  obtain ⟨hshift, hnormalized⟩ := value_shiftDigit hp.normalized
  have hvalue : value (shiftDigit s.a) = A / 16 ^ i / 16 := by rw [hshift, hp.value_a]
  have hpow : A / 16 ^ i / 16 = A / 16 ^ (i + 1) := by rw [Nat.div_div_eq_div_mul, ← pow_succ]
  have hlow := low_bits_value (shiftDigit s.a)
  rw [hvalue] at hlow
  -- the low bits give the digit, its place in the table and the sign of the next one
  obtain ⟨hdigit, hindex, hmask⟩ := lowbits_spec (lowLimb (shiftDigit s.a)) hlow
  have hsign := digitSign_div (A / 16 ^ i)
  have hsigned : ∀ (v : Nat) {t : ℤ}, t • G ≠ 0 → (digitSign v * t) • G ≠ 0 := by
    intro v t ht
    rw [digitSign]
    split
    · rwa [one_mul]
    · rwa [neg_one_mul, neg_zsmul, neg_ne_zero]
  -- the sum so far changes its sign along with the digit
  have hnegated := hp.denotes.negate (h.hasOrder.two_zsmul h.order_odd
    (digitSign_zsmul_ne_zero _ hsum))
    (A / 16 ^ i / 16 / 16 % 2 ≠ A / 16 ^ i / 16 % 2)
  rw [smul_smul, ← mul_assoc, ← hsign, ← hmask] at hnegated
  have hmultiple := h.table (i + 1) hi _ hindex
  -- the entry and the sum make the next sum, by the equation of the digits
  have htotal : (((2 : ℤ) * (lowbits (lowLimb (shiftDigit s.a)) >>> 1).toNat + 1) * 16 ^ (i + 1)) • G +
      (digitSign (A / 16 ^ i / 16) * digitSum 16 A (i + 1)) • G =
        (digitSign (A / 16 ^ i / 16) * digitSum 16 A (i + 2)) • G := by
    rw [← add_zsmul, ← hdigit, digitSum_succ 16 A (i + 1), ← hpow]
    congr 1
    push_cast
    ring
  have hadd := pointJacobianAdd_denotes h.params hmultiple hnegated
    (by rw [htotal]; exact digitSign_zsmul_ne_zero _ hnext)
  rw [htotal] at hadd
  refine ⟨hnormalized, hvalue.trans hpow, ?_⟩
  rw [← hpow, scalarTurn, h.params.prime]
  exact hadd

/-- The whole loop. -/
theorem progress_run (h : Usable curve m n G) (hp : Progress m G A 0 s)
    (hsums : ∀ i ≤ 63, digitSum 16 A (i + 1) • G ≠ 0) {j : Nat} (hj : j ≤ 63) :
    Progress m G A j ((List.range' 1 j).foldl (scalarTurn curve) s) := by
  induction j with
  | zero => exact hp
  | succ j ih =>
    have hstep := (ih (by omega)).turn h (by omega) (hsums j (by omega)) (hsums (j + 1) hj)
    rw [List.range'_concat, List.foldl_append, Nat.one_mul, Nat.add_comm 1 j]
    exact hstep

/-- **`scalar_multiply` multiplies `G` by the scalar**, for every scalar below the order, zero
among them. -/
theorem scalarMultiply_denotes (h : Usable curve m n G) {k : Bignum256} (hk : Normalized k)
    (hlt : value k < value n.prime) (random : Vector (BitVec 32) 9) :
    ∃ p, scalarMultiply random curve k = some p ∧ p.Denotes m (value k • G) := by
  by_cases hzero : value k = 0
  · refine ⟨⟨bnZero, bnZero⟩, ?_, Or.inl ⟨by rw [hzero, zero_nsmul], rfl⟩⟩
    rw [scalarMultiply, bnIsZero_eq]
    simp [hzero]
  · have hsums := fun i hi => digitSum_zsmul_ne_zero (i := i) h.hasOrder hk hlt hzero h.order_odd hi
    obtain ⟨-, hnormalized⟩ := value_oddScalar hk hlt
    have hrun := progress_run h (progress_start h hnormalized random) hsums (Nat.le_refl 63)
    rw [scalarMultiply, bnIsZero_eq, decide_eq_false hzero, if_neg Bool.false_ne_true, h.order]
    generalize (List.range' 1 63).foldl (scalarTurn curve)
      (scalarStart random curve (oddScalar k n.prime)) = s at hrun ⊢
    have hlow := low_bits_value s.a
    rw [hrun.value_a] at hlow
    have hnegated := hrun.denotes.negate (h.hasOrder.two_zsmul h.order_odd
      (digitSign_zsmul_ne_zero _ (hsums 63 le_rfl))) (value (oddScalar k n.prime) / 16 ^ 63 / 16 % 2 ≠ 1)
    -- the last sign is taken back
    have hsign : (if value (oddScalar k n.prime) / 16 ^ 63 / 16 % 2 ≠ 1 then -1 else 1 : ℤ) =
        digitSign (value (oddScalar k n.prime) / 16 ^ 63) := by
      rw [digitSign, ite_not]
    rw [← signMask_eq _ hlow, hsign, smul_smul, ← mul_assoc, digitSign_mul_self, one_mul,
      digitSum_zsmul h.hasOrder hk hlt h.order_odd] at hnegated
    obtain ⟨p, hp, haffine⟩ := jacobianToCurve_affine hnegated h.prime h.params.odd
    refine ⟨p, ?_, Or.inr haffine⟩
    rw [h.params.prime]
    exact hp

end Loop

end RlyNetworkSdk.Crypto.Ecdsa
