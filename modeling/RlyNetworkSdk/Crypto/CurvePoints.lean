import RlyNetworkSdk.Arithmetic.JacobianCoordinates
import RlyNetworkSdk.Crypto.FieldElements

/-!
# Points of a Curve

The points of `ecdsa.c` in affine and in Jacobian coordinates, and the operations on the latter:
they have no branches on the coordinates but one that selects by a mask. Every operation is followed
through its big numbers to the elements that they stand for, and ends in the group law.
-/

namespace RlyNetworkSdk.Crypto.Ecdsa

open Bignum Arithmetic

/-! ## Types -/

/-- `curve_point`: the coordinates as numbers, with two zeros for the point at infinity. -/
structure CurvePoint where
  x : Bignum256
  y : Bignum256
  deriving DecidableEq

/-- `jacobian_curve_point`, which stands for `x / z²` and `y / z³`. -/
structure JacobianCurvePoint where
  x : Bignum256
  y : Bignum256
  z : Bignum256

/-- `ecdsa_curve`, with the table `cp`, but for `order_half`, which only signatures look at. -/
structure EcdsaCurve where
  prime : Bignum256
  G : CurvePoint
  order : Bignum256
  a : Int
  b : Bignum256
  cp : List (List CurvePoint)

/-! ## Operations -/

/-- The random `z` coordinate, which is never zero: one is added to its top limb. -/
def randomZ (random : Vector (BitVec 32) 9) : Bignum256 :=
  random.mapIdx fun i word => if i < 8 then word &&& 0x3FFFFFFF else (word &&& 0x7fff) + 1

def curveToJacobian (random : Vector (BitVec 32) 9) (p : CurvePoint) (prime : Bignum256) :
    JacobianCurvePoint :=
  let z := randomZ random
  let x := bnMultiply z z prime
  let y := bnMultiply z x prime
  ⟨bnMultiply p.x x prime, bnMultiply p.y y prime, z⟩

def jacobianToCurve (jp : JacobianCurvePoint) (prime : Bignum256) : Option CurvePoint := do
  let y ← bnInverse jp.z prime
  let x := bnMultiply y y prime
  let y := bnMultiply x y prime
  let x := bnMultiply jp.x x prime
  let y := bnMultiply jp.y y prime
  return ⟨bnMod x prime, bnMod y prime⟩

/-- `p2 = p1 + p2`, without an inverse. There is no branch on the coordinates: both the slope of
a tangent and that of a chord are computed, and one is selected. -/
def pointJacobianAdd (p1 : CurvePoint) (p2 : JacobianCurvePoint) (curve : EcdsaCurve) :
    JacobianCurvePoint :=
  let prime := curve.prime
  let xz := bnMultiply p2.z p2.z prime
  let yz := bnMultiply xz p2.z prime
  let az := bnMultK (bnMultiply xz xz prime) (BitVec.ofInt 8 (-curve.a)) prime
  let xz := bnMultiply p1.x xz prime
  let h := bnFastMod (bnSubtractmod xz p2.x prime) prime
  let xz := bnAdd xz p2.x
  let isDoubling := bnIsEqual h prime
  let yz := bnMultiply p1.y yz prime
  let r := bnSubtractmod yz p2.y prime
  let yz := bnAdd yz p2.y
  let r2 := bnMultK (bnMultiply p2.x p2.x prime) 3 prime
  let r2 := if curve.a ≠ 0 then bnSubtractmod r2 az prime else r2
  let r := bnCmov isDoubling r2 r
  let h := bnCmov isDoubling yz h
  let hsqx := bnMultiply h h prime
  let hcby := bnMultiply hsqx h prime
  let hsqx := bnMultiply xz hsqx prime
  let hcby := bnMultiply yz hcby prime
  let z := bnMultiply h p2.z prime
  let x := bnFastMod (bnSubtractmod (bnMultiply r r prime) hsqx prime) prime
  let y := bnSubtractmod (bnSubtractmod hsqx x prime) x prime
  let y := bnSubtractmod (bnMultiply r y prime) hcby prime
  ⟨x, bnFastMod (bnMultHalf y prime) prime, z⟩

/-! ## What They Stand For -/

variable {F : Type*} [Field F] {m : Modulus} {a b : F} {curve : EcdsaCurve}
  {P Q : (shortCurve a b).Point}

/-- The affine coordinates of a point that is not at infinity, fully reduced. Such coordinates
are unique, which lets them be compared limb by limb. -/
structure CurvePoint.Affine (m : Modulus) (p : CurvePoint) (P : (shortCurve a b).Point) : Prop where
  normalized_x : Normalized p.x
  normalized_y : Normalized p.y
  lt_x : value p.x < value m.prime
  lt_y : value p.y < value m.prime
  at_values : At P (value p.x : F) (value p.y : F)

theorem CurvePoint.Affine.x {p : CurvePoint} (h : p.Affine m P) :
    Stands m 1 p.x (value p.x : F) := ⟨h.normalized_x, by rw [Nat.one_mul]; exact h.lt_x, rfl⟩

theorem CurvePoint.Affine.y {p : CurvePoint} (h : p.Affine m P) :
    Stands m 1 p.y (value p.y : F) := ⟨h.normalized_y, by rw [Nat.one_mul]; exact h.lt_y, rfl⟩

theorem affine_of_stands {p : CurvePoint} {x y : F} (hx : Stands m 1 p.x x)
    (hy : Stands m 1 p.y y) (hP : At P x y) : p.Affine m P where
  normalized_x := hx.normalized
  normalized_y := hy.normalized
  lt_x := by simpa using hx.lt
  lt_y := by simpa using hy.lt
  at_values := by rwa [hx.eq, hy.eq]

/-- The coordinates of a point in a Jacobian triple. They are only partly reduced, and a point
has as many triples as there are values of `z`. -/
def JacobianCurvePoint.Denotes (m : Modulus) (p : JacobianCurvePoint)
    (P : (shortCurve a b).Point) : Prop :=
  ∃ x y z : F, Stands m 2 p.x x ∧ Stands m 2 p.y y ∧ Stands m 2 p.z z ∧ Projects P x y z

/-- The parameters of a curve over the field. -/
structure EcdsaCurve.Over (curve : EcdsaCurve) (m : Modulus) (a b : F) : Prop where
  prime : curve.prime = m.prime
  odd : value m.prime % 2 = 1
  le_a : -3 ≤ curve.a
  a_le : curve.a ≤ 0
  cast_a : (curve.a : F) = a
  cast_b : (value curve.b : F) = b

/-- The factor `-a` fits. -/
theorem EcdsaCurve.Over.neg_a (h : curve.Over m a b) {w : Nat} (hw : 2 ≤ w) :
    (BitVec.ofInt w (-curve.a)).toNat ≤ 3 ∧ ((BitVec.ofInt w (-curve.a)).toNat : F) = -a := by
  have hle := h.le_a
  have hwidth : 2 ^ 2 ≤ 2 ^ w := Nat.pow_le_pow_right (by decide) hw
  obtain ⟨n, hn⟩ := Int.eq_ofNat_of_zero_le (neg_nonneg.mpr h.a_le)
  have hvalue : (BitVec.ofInt w (-curve.a)).toNat = n := by
    rw [hn, BitVec.ofInt_natCast, BitVec.toNat_ofNat, Nat.mod_eq_of_lt (by omega)]
  have hcast : ((-curve.a : ℤ) : F) = (n : F) := by
    rw [hn]
    simp
  rw [hvalue, ← hcast, Int.cast_neg, h.cast_a]
  exact ⟨by omega, rfl⟩

/-! ## Conversions -/

section Conversions

variable [CharP F (value m.prime)] {p : CurvePoint} {jp : JacobianCurvePoint}

/-- The random coordinate is neither zero nor as large as the modulus. -/
theorem randomZ_stands (random : Vector (BitVec 32) 9) (m : Modulus) [CharP F (value m.prime)] :
    ∃ z : F, Stands m 2 (randomZ random) z ∧ z ≠ 0 := by
  have htop : 1 ≤ (top (randomZ random)).toNat ∧ (top (randomZ random)).toNat ≤ 2 ^ 15 := by
    have hmask : (0x7fff : BitVec 32).toNat = 2 ^ 15 - 1 := rfl
    have hlt : (random[8] &&& 0x7fff).toNat < 2 ^ 15 := by
      rw [BitVec.toNat_and, hmask, Nat.and_two_pow_sub_one_eq_mod]
      exact Nat.mod_lt _ (by decide)
    have hvalue : top (randomZ random) = (random[8] &&& 0x7fff) + 1 := by simp [top, randomZ]
    have hone : (1 : BitVec 32).toNat = 1 := rfl
    rw [hvalue, BitVec.toNat_add, hone]
    omega
  have hnormalized : Normalized (randomZ random) := by
    intro i
    by_cases hi : i.val < 8
    · simp only [randomZ, Fin.getElem_fin, Vector.getElem_mapIdx, hi, if_true]
      exact toNat_read_limb_lt _
    · have hlast : i = 8 := Fin.ext (by have := i.isLt; omega)
      rw [hlast]
      change (top (randomZ random)).toNat < 2 ^ 30
      omega
  have heq := top_eq hnormalized
  have hle := m.le_value
  have hpos : 0 < value (randomZ random) := by omega
  have hlt : value (randomZ random) < value m.prime := by omega
  have hstands : Stands m 2 (randomZ random) (value (randomZ random) : F) :=
    ⟨hnormalized, by omega, rfl⟩
  refine ⟨_, hstands, ?_⟩
  rw [ne_eq, hstands.eq_zero_iff]
  exact Nat.not_dvd_of_pos_of_lt hpos hlt

theorem curveToJacobian_denotes (h : p.Affine m P) (random : Vector (BitVec 32) 9) :
    (curveToJacobian random p m.prime).Denotes m P := by
  obtain ⟨z, hz, hne⟩ := randomZ_stands (F := F) random m
  have hzz := hz.multiply hz (by decide) (by decide)
  have hzzz := hz.multiply hzz (by decide) (by decide)
  have hx := h.x.multiply hzz (by decide) (by decide)
  have hy := h.y.multiply hzzz (by decide) (by decide)
  refine ⟨_, _, _, hx, hy, hz, ?_⟩
  convert h.at_values.projects hne using 1
  · ring
  · ring

/-- The affine coordinates of a triple, which exist. -/
theorem jacobianToCurve_affine (h : jp.Denotes m P) (hprime : (value m.prime).Prime)
    (hodd : value m.prime % 2 = 1) :
    ∃ p, jacobianToCurve jp m.prime = some p ∧ p.Affine m P := by
  obtain ⟨x, y, z, hx, hy, hz, hP⟩ := h
  obtain ⟨w, hw, hinverse⟩ := hz.inverse hodd hP.z_ne_zero hprime
  have hxz := hinverse.multiply hinverse (by decide) (by decide)
  have hyz := hxz.multiply hinverse (by decide) (by decide)
  have hx' := (hx.multiply hxz (by decide) (by decide)).mod
  have hy' := (hy.multiply hyz (by decide) (by decide)).mod
  refine ⟨_, by rw [jacobianToCurve, hw]; rfl, affine_of_stands hx' hy' ?_⟩
  convert hP.at using 1
  · ring
  · ring

end Conversions

/-! ## Adding -/

variable [DecidableEq F]

/-- **`point_jacobian_add` adds**, a point to itself as well. Only a sum at infinity is
excluded, as a triple cannot stand for it. -/
theorem pointJacobianAdd_denotes [CharP F (value m.prime)] (hcurve : curve.Over m a b)
    {p1 : CurvePoint} {p2 : JacobianCurvePoint} (h1 : p1.Affine m P) (h2 : p2.Denotes m Q)
    (hne : P + Q ≠ 0) : (pointJacobianAdd p1 p2 curve).Denotes m (P + Q) := by
  obtain ⟨x₂, y₂, z, hx₂, hy₂, hz, hQ⟩ := h2
  obtain ⟨hk, hcast⟩ := hcurve.neg_a (w := 8) (by decide)
  have hx₁ := h1.x
  have hy₁ := h1.y
  have hzz := hz.multiply hz (by decide) (by decide)
  have hzzz := hzz.multiply hz (by decide) (by decide)
  have haz := (hzz.multiply hzz (by decide) (by decide)).multK (hk.trans (by decide))
  -- both points over the same denominator
  have hxz := hx₁.multiply hzz (by decide) (by decide)
  have hyz := hy₁.multiply hzzz (by decide) (by decide)
  have hdx := (hxz.subtractmod hx₂ (by decide)).fastMod
  have hdy := hyz.subtractmod hy₂ (by decide)
  have hsx := hxz.add hx₂ (by decide) (by decide)
  have hsy := hyz.add hy₂ (by decide) (by decide)
  have hthree := (hx₂.multiply hx₂ (by decide) (by decide)).multK (k := 3) (by decide)
  have hr2 := hthree.subtract_if (c := curve.a ≠ 0) haz (by
    intro ha
    rw [hcast, ← hcurve.cast_a, not_not.mp ha]
    simp)
  -- the comparison selects the tangent or the chord
  obtain ⟨r, hr, hrTangent, hrChord⟩ := hxz.cmov_isEqual hx₂ hr2 hdy
  obtain ⟨h, hh, hhTangent, hhChord⟩ := hxz.cmov_isEqual hx₂ hsy (hdx.mono (by decide))
  have hsquare := hh.multiply hh (by decide) (by decide)
  have hcube := hsquare.multiply hh (by decide) (by decide)
  have hhsqx := hsx.multiply hsquare (by decide) (by decide)
  have hhcby := hsy.multiply hcube (by decide) (by decide)
  have hz₃ := hh.multiply hz (by decide) (by decide)
  have hx₃ := ((hr.multiply hr (by decide) (by decide)).subtractmod hhsqx (by decide)).fastMod
  have hdiff := (hhsqx.subtractmod hx₃ (by decide)).subtractmod hx₃ (by decide)
  have hy₃ := (((hr.multiply hdiff (by decide) (by decide)).subtractmod hhcby
    (by decide)).multHalf hcurve.odd (by decide)).fastMod
  have htwo : (2 : F) ≠ 0 := two_ne_zero_of_char m
  rw [pointJacobianAdd, hcurve.prime]
  refine ⟨_, _, _, hx₃, hy₃, hz₃, ?_⟩
  have hsquares : (value p1.x : F) * z ^ 2 = value p1.x * (z * z) := by ring
  apply Projects.add h1.at_values hQ htwo hne (r := r) (h := h)
  · constructor
    · intro hchord
      rw [hsquares] at hchord ⊢
      rw [hrChord hchord, hhChord hchord]
      exact ⟨by ring, rfl⟩
    · intro htangent
      rw [hsquares] at htangent
      rw [hrTangent htangent, hhTangent htangent, hcast]
      constructor
      · simp
        ring
      · ring
  · ring
  · rw [mul_div_cancel₀ _ htwo]
    ring

end RlyNetworkSdk.Crypto.Ecdsa
