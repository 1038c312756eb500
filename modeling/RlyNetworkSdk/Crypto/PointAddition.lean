import RlyNetworkSdk.Crypto.Secp256k1Curve

/-!
# Adding Points

`point_add` and `point_double` work on affine coordinates, with zeros for the point at infinity, and
divide by the denominator of the slope. All the cases of the group law are told apart before, so
that the division is always possible.
-/

namespace RlyNetworkSdk.Crypto.Bignum

open Encoding

/-! ## More Operations -/

/-- `a - b`, plus the modulus. -/
def bnSubi (a : Bignum256) (b : BitVec 32) (prime : Bignum256) : Bignum256 :=
  bnAdd (a.mapIdx fun i x => if i = 0 then x - b else x) prime

/-- A limb is doubled, and takes the highest bit of the limb below. The mask takes off the bit
that goes to the limb above. -/
def doubledLimb (below x : BitVec 32) : BitVec 32 :=
  ((x <<< 1) &&& 0x3FFFFFFF#32) ||| ((below &&& 0x20000000#32) >>> 29)

def doubleLimbs : BitVec 32 → List (BitVec 32) → List (BitVec 32)
  | _, [] => []
  | below, x :: xs => doubledLimb below x :: doubleLimbs x xs

theorem length_doubleLimbs (below : BitVec 32) (xs : List (BitVec 32)) :
    (doubleLimbs below xs).length = xs.length := by
  induction xs generalizing below with
  | nil => rfl
  | cons x xs ih => rw [doubleLimbs, List.length_cons, ih, List.length_cons]

theorem size_doubleLimbs (a : Bignum256) : (doubleLimbs 0 a.toList).toArray.size = 9 := by
  simp [length_doubleLimbs]

/-- `a = a << 1`. -/
def bnLshift (a : Bignum256) : Bignum256 := ⟨(doubleLimbs 0 a.toList).toArray, size_doubleLimbs a⟩

theorem toNat_doubledLimb (x : BitVec 32) {below : BitVec 32} (hbelow : below.toNat < 2 ^ 30) :
    (doubledLimb below x).toNat = 2 * x.toNat % 2 ^ 30 + below.toNat / 2 ^ 29 := by
  have hmask : (0x3FFFFFFF#32).toNat = 2 ^ 30 - 1 := rfl
  have hlow : ((x <<< 1) &&& 0x3FFFFFFF#32).toNat = 2 ^ 1 * (x.toNat % 2 ^ 29) := by
    rw [BitVec.toNat_and, hmask, Nat.and_two_pow_sub_one_eq_mod, BitVec.toNat_shiftLeft,
      Nat.shiftLeft_eq]
    omega
  -- the bit that enters is the top one of the limb below
  have hhigh : ((below &&& 0x20000000#32) >>> 29).toNat = below.toNat / 2 ^ 29 := by
    have hshift : (below &&& 0x20000000#32) >>> 29 = (below >>> 29) &&& 1 := by
      rw [BitVec.ushiftRight_and_distrib]
      rfl
    rw [hshift, toNat_and_one, BitVec.toNat_ushiftRight, Nat.shiftRight_eq_div_pow]
    omega
  have hbit : below.toNat / 2 ^ 29 < 2 ^ 1 := by omega
  rw [doubledLimb, BitVec.toNat_or, hlow, hhigh, ← Nat.two_pow_add_eq_or_of_lt hbit]
  omega

theorem ofDigits_doubleLimbs {below : BitVec 32} (hbelow : below.toNat < 2 ^ 30)
    {xs : List (BitVec 32)} (hxs : Limbs.Digits 30 xs) :
    Nat.ofDigits (2 ^ 30) ((doubleLimbs below xs).map BitVec.toNat) =
        (2 * Nat.ofDigits (2 ^ 30) (xs.map BitVec.toNat) + below.toNat / 2 ^ 29) %
          (2 ^ 30) ^ xs.length ∧
      Limbs.Digits 30 (doubleLimbs below xs) := by
  induction xs generalizing below with
  | nil => exact ⟨by simp [doubleLimbs, Nat.mod_one], hxs⟩
  | cons x xs ih =>
    have hx := hxs x List.mem_cons_self
    obtain ⟨hvalue, hdigits⟩ := ih hx fun y hy => hxs y (List.mem_cons_of_mem x hy)
    have hlimb := toNat_doubledLimb x hbelow
    constructor
    · rw [doubleLimbs, List.map_cons, Nat.ofDigits_cons, hlimb, hvalue, List.map_cons,
        Nat.ofDigits_cons, List.length_cons, pow_succ' (2 ^ 30)]
      generalize Nat.ofDigits (2 ^ 30) (xs.map BitVec.toNat) = upper
      -- what the limb has no room for is the bit that the limb above takes
      have hlow : 2 * x.toNat % 2 ^ 30 + below.toNat / 2 ^ 29 < 2 ^ 30 := by omega
      have hsplit : 2 * (x.toNat + 2 ^ 30 * upper) + below.toNat / 2 ^ 29 =
          (2 * x.toNat % 2 ^ 30 + below.toNat / 2 ^ 29) +
            2 ^ 30 * (2 * upper + x.toNat / 2 ^ 29) := by omega
      rw [hsplit, Nat.mod_mul, Nat.add_mul_mod_self_left, Nat.mod_eq_of_lt hlow,
        Nat.add_mul_div_left _ _ (by decide), Nat.div_eq_of_lt hlow, Nat.zero_add]
    · intro y hy
      rw [doubleLimbs] at hy
      rcases List.mem_cons.mp hy with rfl | hmem
      · rw [hlimb]
        omega
      · exact hdigits y hmem

theorem value_bnLshift {a : Bignum256} (ha : Normalized a) (hlt : 2 * value a < (2 ^ 30) ^ 9) :
    value (bnLshift a) = 2 * value a ∧ Normalized (bnLshift a) := by
  have hlimbs : Limbs.Digits 30 a.toList := digits_toList ha
  obtain ⟨hvalue, hdigits⟩ := ofDigits_doubleLimbs (by decide : (0 : BitVec 32).toNat < 2 ^ 30) hlimbs
  constructor
  · have hself : Nat.ofDigits (2 ^ 30) (a.toList.map BitVec.toNat) = value a := by
      rw [value, Limbs.value_eq_ofDigits]
    have hbelow : (0 : BitVec 32).toNat / 2 ^ 29 = 0 := rfl
    rw [value, Limbs.value_eq_ofDigits]
    rw [hself, hbelow, Nat.add_zero, Vector.length_toList, Nat.mod_eq_of_lt hlt] at hvalue
    exact hvalue
  · exact normalized_of_mem hdigits

/-- Without the underflow of a word, since the assertion says that `b` is at most the lowest limb of
the modulus. -/
theorem value_bnSubi {a prime : Bignum256} (ha : Normalized a) (hprime : Normalized prime)
    {b : BitVec 32} (hb : b.toNat ≤ (lowLimb prime).toNat)
    (hlt : value a + value prime < (2 ^ 30) ^ 9) :
    value (bnSubi a b prime) + b.toNat = value a + value prime := by
  have hcolumn : ∀ i : Fin 9, (Vector.zipWith (· + ·)
      (a.mapIdx fun i x => if i = 0 then x - b else x) prime)[i].toNat =
        a[i].toNat + prime[i].toNat - (if i = 0 then b.toNat else 0) := by
    intro i
    have hai := ha i
    have hpi := hprime i
    have hb32 := b.isLt
    simp only [Fin.getElem_fin, Vector.getElem_zipWith, Vector.getElem_mapIdx] at *
    by_cases hi : i = 0
    · -- the word underflows, and the limb of the modulus brings it back
      subst hi
      have hb' : b.toNat ≤ prime[0].toNat := hb
      simp only [Fin.val_zero, if_true, BitVec.toNat_add, BitVec.toNat_sub] at *
      omega
    · have hval : i.val ≠ 0 := fun h => hi (Fin.ext h)
      simp only [hi, hval, if_false, BitVec.toNat_add] at *
      omega
  have hroom : ∀ i : Fin 9, Limbs.Room 30 (Vector.zipWith (· + ·)
      (a.mapIdx fun i x => if i = 0 then x - b else x) prime)[i] := by
    intro i
    have hai := ha i
    have hpi := hprime i
    rw [Limbs.Room, hcolumn i]
    omega
  have hcolumns := Limbs.sum_sub_columns Finset.univ (fun i : Fin 9 => a[i].toNat)
    (fun i => prime[i].toNat) (fun i => if i = 0 then b.toNat else 0) (fun i => (2 ^ 30) ^ i.val) (by
      intro i _
      split
      case isTrue hi =>
        rw [hi]
        exact hb.trans (Nat.le_add_left _ _)
      case isFalse => exact Nat.zero_le _)
  have hsubtrahend : ∑ i : Fin 9, (if i = 0 then b.toNat else 0) * (2 ^ 30) ^ i.val = b.toNat := by
    simp [ite_mul]
  have hvalue : Limbs.value 30 (Vector.zipWith (· + ·)
      (a.mapIdx fun i x => if i = 0 then x - b else x) prime) + b.toNat =
        value a + value prime := by
    rw [hsubtrahend] at hcolumns
    simp only [Limbs.value, hcolumn]
    exact hcolumns
  have hzero : (0 : BitVec 32).toNat = 0 := rfl
  rw [bnSubi, bnAdd, value, Limbs.value_ripple (by decide) (by decide) (by decide) hroom, hzero,
    Nat.zero_add, Nat.mod_eq_of_lt (by omega), hvalue]

/-! ## Elements -/

variable {F : Type*} [Field F] {m : Modulus} {x : Bignum256} {v : F} {i : Nat}

theorem Stands.lshift (hx : Stands m 1 x v) : Stands m 2 (bnLshift x) (2 * v) := by
  have hprime := m.value_lt
  have hlt := hx.lt
  obtain ⟨hvalue, hnormalized⟩ := value_bnLshift hx.normalized (by omega)
  refine ⟨hnormalized, by omega, ?_⟩
  rw [hvalue, Nat.cast_mul, hx.eq, Nat.cast_ofNat]

theorem Stands.subi [CharP F (value m.prime)] (hx : Stands m i x v) (hi : i ≤ 180) {b : BitVec 32}
    (hb : b.toNat ≤ (lowLimb m.prime).toNat) :
    Stands m (i + 1) (bnSubi x b m.prime) (v - b.toNat) := by
  have hprime := m.value_lt
  have hlt := (hx.mono hi).lt
  have hvalue := value_bnSubi hx.normalized m.normalized hb (by omega)
  refine ⟨Limbs.normalized_ripple (by decide) (by decide) _ _, ?_, ?_⟩
  · have hx' := hx.lt
    rw [Nat.add_mul]
    omega
  · have hcast := congrArg (Nat.cast (R := F)) hvalue
    rw [Nat.cast_add, Nat.cast_add, CharP.cast_eq_zero F (value m.prime), add_zero, hx.eq] at hcast
    exact eq_sub_of_add_eq hcast

end RlyNetworkSdk.Crypto.Bignum

namespace RlyNetworkSdk.Crypto.Ecdsa

open Bignum Encoding Arithmetic

/-! ## The Code -/

/-- The point at infinity, as `point_set_infinity` writes it. -/
def infinity : CurvePoint := ⟨bnZero, bnZero⟩

def pointIsInfinity (p : CurvePoint) : Bool := bnIsZero p.x && bnIsZero p.y

def pointIsEqual (p q : CurvePoint) : Bool := bnIsEqual p.x q.x && bnIsEqual p.y q.y

def pointIsNegativeOf (p q : CurvePoint) : Bool :=
  if !bnIsEqual p.x q.x then false
  else if bnIsZero p.y then false
  else !bnIsEqual p.y q.y

/-- `cp = cp + cp`. A point whose `y` is zero is its own opposite, so its double is at infinity. -/
def pointDouble (curve : EcdsaCurve) (cp : CurvePoint) : Option CurvePoint :=
  if pointIsInfinity cp then some cp
  else if bnIsZero cp.y then some infinity
  else do
    let lambda ← bnInverse (bnMultK cp.y 2 curve.prime) curve.prime
    let xr := bnMultK (bnMultiply cp.x cp.x curve.prime) 3 curve.prime
    let xr := bnSubi xr (BitVec.ofInt 32 (-curve.a)) curve.prime
    let lambda := bnMultiply xr lambda curve.prime
    let xr := bnMultiply lambda lambda curve.prime
    let yr := bnLshift cp.x
    let xr := bnMod (bnFastMod (bnSubtractmod xr yr curve.prime) curve.prime) curve.prime
    let yr := bnMultiply lambda (bnSubtractmod cp.x xr curve.prime) curve.prime
    let yr := bnMod (bnFastMod (bnSubtractmod yr cp.y curve.prime) curve.prime) curve.prime
    return ⟨xr, yr⟩

/-- `cp2 = cp1 + cp2`. The cases in which the chord has no slope are sorted out first, by
comparing the coordinates. -/
def pointAdd (curve : EcdsaCurve) (cp1 cp2 : CurvePoint) : Option CurvePoint :=
  if pointIsInfinity cp1 then some cp2
  else if pointIsInfinity cp2 then some cp1
  else if pointIsEqual cp1 cp2 then pointDouble curve cp2
  else if pointIsNegativeOf cp1 cp2 then some infinity
  else do
    let inv ← bnInverse (bnSubtractmod cp2.x cp1.x curve.prime) curve.prime
    let lambda := bnMultiply inv (bnSubtractmod cp2.y cp1.y curve.prime) curve.prime
    let xr := bnMultiply lambda lambda curve.prime
    let yr := bnAddmod cp1.x cp2.x curve.prime
    let xr := bnMod (bnFastMod (bnSubtractmod xr yr curve.prime) curve.prime) curve.prime
    let yr := bnMultiply lambda (bnSubtractmod cp1.x xr curve.prime) curve.prime
    let yr := bnMod (bnFastMod (bnSubtractmod yr cp1.y curve.prime) curve.prime) curve.prime
    return ⟨xr, yr⟩

/-! ## Cases -/

variable {F : Type*} [Field F] {m : Modulus} {a b : F} {curve : EcdsaCurve}
  {P Q : (shortCurve a b).Point} {p q : CurvePoint}

theorem pointIsInfinity_infinity : pointIsInfinity infinity = true := by
  simp [pointIsInfinity, infinity, bnIsZero_eq]

theorem CurvePoint.Affine.y_eq_zero_iff [CharP F (value m.prime)] (h : p.Affine m P) :
    bnIsZero p.y = true ↔ (value p.y : F) = 0 := by
  rw [bnIsZero_eq, decide_eq_true_eq, CharP.cast_eq_zero_iff F (value m.prime)]
  exact ⟨fun hzero => hzero ▸ dvd_zero _, fun hdvd => Nat.eq_zero_of_dvd_of_lt hdvd h.lt_y⟩

/-- The representation of the point at infinity is not on the curve. -/
theorem CurvePoint.Affine.not_infinity (h : p.Affine m P) (hb : b ≠ 0) :
    pointIsInfinity p = false := by
  rw [Bool.eq_false_iff, pointIsInfinity, ne_eq, Bool.and_eq_true]
  rintro ⟨hx, hy⟩
  have hequation := h.at_values.equation
  rw [bnIsZero_eq, decide_eq_true_eq] at hx hy
  rw [hx, hy, Nat.cast_zero] at hequation
  apply hb
  linear_combination -hequation

/-- Reduced numbers that stand for the same element are equal. -/
theorem eq_of_stands [CharP F (value m.prime)] {x y : Bignum256} {v : F} (hx : Stands m 1 x v) (hy : Stands m 1 y v) :
    x = y := by
  apply Limbs.eq_of_value_eq (by decide) hx.normalized hy.normalized
  have hcast : (value x : F) = value y := by rw [hx.eq, hy.eq]
  have hmod := (CharP.natCast_eq_natCast F (value m.prime)).mp hcast
  have hlt := hx.lt
  have hlt' := hy.lt
  rw [Nat.one_mul] at hlt hlt'
  exact Nat.ModEq.eq_of_lt_of_lt hmod hlt hlt'

/-- Coordinates are equal as limbs if and only if they are equal in the field. -/
theorem bnIsEqual_iff [CharP F (value m.prime)] {x y : Bignum256} {u v : F} (hx : Stands m 1 x u) (hy : Stands m 1 y v) :
    bnIsEqual x y = true ↔ u = v := by
  rw [bnIsEqual_eq, decide_eq_true_eq]
  constructor
  · rintro rfl
    rw [← hx.eq, hy.eq]
  · rintro rfl
    exact eq_of_stands hx hy

theorem affine_mk {x y : Bignum256} {u v : F} (hx : Stands m 1 x u) (hy : Stands m 1 y v)
    (hP : At P u v) : CurvePoint.Affine m ⟨x, y⟩ P :=
  affine_of_stands (p := ⟨x, y⟩) hx hy hP

/-! ## The Group Law -/

/-- What the affine operations rely on. They divide by a difference of coordinates, so the
modulus has to be a prime. -/
structure AffineUsable (curve : EcdsaCurve) (m : Modulus) (a b : F) : Prop where
  params : curve.Over m a b
  prime : (value m.prime).Prime
  b_ne_zero : b ≠ 0
  le_limb : 3 ≤ (lowLimb m.prime).toNat

variable [DecidableEq F] [CharP F (value m.prime)]

/-- **`point_double` doubles**, with the point at infinity and the points of order two among the
cases. -/
theorem pointDouble_denotes (h : AffineUsable curve m a b) (hp : p.Denotes m P) :
    ∃ r, pointDouble curve p = some r ∧ r.Denotes m (P + P) := by
  rcases hp with ⟨rfl, rfl⟩ | hp
  · refine ⟨infinity, ?_, Or.inl ⟨add_zero 0, rfl⟩⟩
    exact if_pos pointIsInfinity_infinity
  · have htwo : (2 : F) ≠ 0 := two_ne_zero_of_char m
    by_cases hy : (value p.y : F) = 0
    · -- the point is its own opposite
      refine ⟨infinity, ?_, Or.inl ⟨?_, rfl⟩⟩
      · rw [pointDouble, hp.not_infinity h.b_ne_zero, hp.y_eq_zero_iff.mpr hy]
        rfl
      · by_contra hne
        exact hp.at_values.y_ne_zero hne hy
    · have hnonzero : bnIsZero p.y = false := by
        rw [Bool.eq_false_iff, ne_eq, hp.y_eq_zero_iff]
        exact hy
      have hdouble : ((2 : BitVec 8).toNat : F) * value p.y = 2 * value p.y := rfl
      have hthree : ((3 : BitVec 8).toNat : F) * (value p.x * value p.x) = 3 * (value p.x) ^ 2 := by
        rw [← pow_two]
        rfl
      obtain ⟨hle, hcast⟩ := h.params.neg_a (w := 32) (by decide)
      have hden := (hp.y.multK (k := 2) (by decide)).congr hdouble
      obtain ⟨w, hw, hinverse⟩ := hden.inverse h.params.odd (mul_ne_zero htwo hy) h.prime
      have hsquare := hp.x.multiply hp.x (by decide) (by decide)
      have hnum := ((hsquare.multK (k := 3) (by decide)).congr hthree).subi (by decide)
        (hle.trans h.le_limb)
      have hlambda := hnum.multiply hinverse (by decide) (by decide)
      have hxr := ((hlambda.multiply hlambda (by decide) (by decide)).subtractmod hp.x.lshift
        (by decide)).fastMod.mod
      have hdiff := hp.x.subtractmod (hxr.mono (by decide)) (by decide)
      have hyr := ((hlambda.multiply hdiff (by decide) (by decide)).subtractmod
        (hp.y.mono (by decide)) (by decide)).fastMod.mod
      refine ⟨_, ?_, Or.inr (affine_mk hxr hyr ?_)⟩
      · rw [pointDouble, hp.not_infinity h.b_ne_zero, hnonzero, h.params.prime, hw]
        rfl
      · have hslope : (3 * (value p.x : F) ^ 2 - -a) * (2 * (value p.y : F))⁻¹ *
            (2 * (value p.y : F)) = 3 * (value p.x : F) ^ 2 + a := by
          rw [inv_mul_cancel_right₀ (mul_ne_zero htwo hy), sub_neg_eq_add]
        have hsum := hp.at_values.tangent (mul_ne_zero htwo hy) hslope
        rw [hcast]
        convert hsum using 1
        · ring
        · ring

/-- **`point_add` adds**, in all cases of the group law. The cases of the code are those of the
law, one by one. -/
theorem pointAdd_denotes (h : AffineUsable curve m a b) (hp : p.Denotes m P) (hq : q.Denotes m Q) :
    ∃ r, pointAdd curve p q = some r ∧ r.Denotes m (P + Q) := by
  rcases hp with ⟨rfl, rfl⟩ | hp
  · refine ⟨q, ?_, by rwa [zero_add]⟩
    exact if_pos pointIsInfinity_infinity
  rcases hq with ⟨rfl, rfl⟩ | hq
  · refine ⟨p, ?_, Or.inr (by rwa [add_zero])⟩
    have hinfinity : pointIsInfinity ⟨bnZero, bnZero⟩ = true := pointIsInfinity_infinity
    rw [pointAdd, hp.not_infinity h.b_ne_zero, hinfinity]
    rfl
  rw [pointAdd, hp.not_infinity h.b_ne_zero, hq.not_infinity h.b_ne_zero]
  by_cases hx : (value p.x : F) = value q.x
  · have hequal_x := (bnIsEqual_iff hp.x hq.x).mpr hx
    have hat := hq.at_values
    rw [← hx] at hat
    by_cases hy : (value p.y : F) = value q.y
    · -- the same point
      have hequal_y := (bnIsEqual_iff hp.y hq.y).mpr hy
      have heq : P = Q := by
        rw [← hy] at hat
        exact hp.at_values.eq hat
      obtain ⟨r, hr, hdenotes⟩ := pointDouble_denotes h (Or.inr hq)
      refine ⟨r, ?_, heq ▸ hdenotes⟩
      rw [pointIsEqual, hequal_x, hequal_y]
      exact hr
    · -- opposite points
      have hequal_y : bnIsEqual p.y q.y = false := by
        rw [Bool.eq_false_iff, ne_eq, bnIsEqual_iff hp.y hq.y]
        exact hy
      have hopposite : P = -Q := by
        rcases hp.at_values.eq_or_eq_neg hat with heq | hneg
        · exact absurd (heq ▸ hp.at_values |>.coordinates hat).2 hy
        · exact hneg
      have hnonzero : bnIsZero p.y = false := by
        rw [Bool.eq_false_iff, ne_eq, hp.y_eq_zero_iff]
        intro hzero
        have hneg := (hp.at_values.coordinates (hopposite ▸ hat.neg)).2
        rw [hzero] at hneg hy
        exact hy (zero_eq_neg.mp hneg).symm
      refine ⟨infinity, ?_, Or.inl ⟨by rw [hopposite, neg_add_cancel], rfl⟩⟩
      rw [pointIsEqual, pointIsNegativeOf, hequal_x, hequal_y, hnonzero]
      rfl
  · -- a chord
    have hequal_x : bnIsEqual p.x q.x = false := by
      rw [Bool.eq_false_iff, ne_eq, bnIsEqual_iff hp.x hq.x]
      exact hx
    have hne : (value q.x : F) - value p.x ≠ 0 := sub_ne_zero.mpr (Ne.symm hx)
    have hden := hq.x.subtractmod (hp.x.mono (by decide)) (by decide)
    obtain ⟨w, hw, hinverse⟩ := hden.inverse h.params.odd hne h.prime
    have hnum := hq.y.subtractmod (hp.y.mono (by decide)) (by decide)
    have hlambda := hinverse.multiply hnum (by decide) (by decide)
    have hxr := ((hlambda.multiply hlambda (by decide) (by decide)).subtractmod
      (hp.x.addmod hq.x) (by decide)).fastMod.mod
    have hdiff := hp.x.subtractmod (hxr.mono (by decide)) (by decide)
    have hyr := ((hlambda.multiply hdiff (by decide) (by decide)).subtractmod
      (hp.y.mono (by decide)) (by decide)).fastMod.mod
    refine ⟨_, ?_, Or.inr (affine_mk hxr hyr ?_)⟩
    · rw [pointIsEqual, pointIsNegativeOf, hequal_x, h.params.prime, hw]
      rfl
    · have hslope : ((value q.x : F) - value p.x)⁻¹ * (value q.y - value p.y) *
          (value q.x - value p.x) = value q.y - value p.y := by
        field_simp
      have hsum := hp.at_values.chord hq.at_values hx hslope
      convert hsum using 1
      · ring
      · ring

/-! ## secp256k1 -/

theorem affineUsable_secp256k1 : AffineUsable secp256k1 field (0 : BaseField) 7 where
  params := (usable exists_base_affine.choose_spec).params
  prime := prime_value_fieldPrime
  b_ne_zero := by
    have hcast := cast_ne_zero_of_mod (F := BaseField) (p := value field.prime) (n := 7)
      (by change 7 % value fieldPrime ≠ 0; rw [value_fieldPrime]; decide)
    exact_mod_cast hcast
  le_limb := by decide

/-- **`point_add` and `point_double` are the group law of secp256k1**, with the point at infinity,
opposite points and a point that is added to itself. -/
theorem group_law {P Q : CurveGroup} {p q : CurvePoint} (hp : p.Denotes field P)
    (hq : q.Denotes field Q) :
    (∃ r, pointAdd secp256k1 p q = some r ∧ r.Denotes field (P + Q)) ∧
      ∃ r, pointDouble secp256k1 p = some r ∧ r.Denotes field (P + P) :=
  ⟨pointAdd_denotes affineUsable_secp256k1 hp hq, pointDouble_denotes affineUsable_secp256k1 hp⟩

/-- The base point and three times the base point, from the table. -/
theorem group_law_base : ∃ G : CurveGroup, secp256k1.G.Affine field G ∧
    (∃ r, pointAdd secp256k1 secp256k1.G (curvePoint (entryLimbs 0 1)) = some r ∧
      r.Denotes field (G + (3 : ℤ) • G)) ∧
    ∃ r, pointDouble secp256k1 secp256k1.G = some r ∧ r.Denotes field (G + G) := by
  obtain ⟨G, hG⟩ := exists_base_affine
  have hentry := entryAt (entryAt_base hG) (i := 0) (j := 1) (by decide) (by decide)
  have hthree : ((2 * (1 : Nat) + 1) * 16 ^ 0 : ℤ) = 3 := by norm_num
  rw [EntryAt, hthree] at hentry
  exact ⟨G, hG, group_law (Or.inr hG) (Or.inr (multiple_affine (by decide) (by decide) hentry))⟩

end RlyNetworkSdk.Crypto.Ecdsa
