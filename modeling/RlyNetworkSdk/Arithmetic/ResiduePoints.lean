import RlyNetworkSdk.Arithmetic.JacobianCoordinates
import Mathlib.Algebra.CharP.Basic
import Mathlib.Algebra.CharP.Defs

/-!
# Points by Residues

Jacobian triples of natural numbers modulo the characteristic, so that the kernel can compute with
points. No step looks at what it divides by: a triple whose `z` is not zero at the end has met no
zero on the way.
-/

namespace RlyNetworkSdk.Arithmetic

/-! ## Computation -/

/-- The difference of residues. -/
def subMod (p x y : Nat) : Nat := (x + (p - y % p)) % p

/-- The opposite of a point. -/
def oppositeAt (p : Nat) (q : Nat × Nat) : Nat × Nat := (q.1, subMod p 0 q.2)

structure Triple where
  x : Nat
  y : Nat
  z : Nat

/-- A point by its affine coordinates, with a `z` of one. -/
def Triple.affine (q : Nat × Nat) : Triple := ⟨q.1, q.2, 1⟩

/-- The double of such a point, where `num` is the numerator of the tangent. There is no
division, since `z` takes the denominator. -/
def Triple.twice (p a : Nat) (q : Nat × Nat) : Triple :=
  let num := (3 * (q.1 * q.1) + a) % p
  let ysq := q.2 * q.2 % p
  let mid := 4 * (q.1 * ysq) % p
  let x := subMod p (num * num) (2 * mid)
  ⟨x, subMod p (num * subMod p mid x) (8 * (ysq * ysq)), 2 * q.2 % p⟩

/-- The sum with such a point over another `x`. Where the two are over the same one, `z` becomes
zero. -/
def Triple.add (p : Nat) (t : Triple) (q : Nat × Nat) : Triple :=
  let zsq := t.z * t.z % p
  let x₁ := q.1 * zsq % p
  let y₁ := q.2 * (zsq * t.z % p) % p
  let h := subMod p x₁ t.x
  let r := subMod p y₁ t.y
  let hsq := h * h % p
  let mid := x₁ * hsq % p
  let x := subMod p (r * r) (hsq * (x₁ + t.x))
  ⟨x, subMod p (r * subMod p mid x) (y₁ * (hsq * h % p)), h * t.z % p⟩

/-- Whether the triple is at these coordinates, decided by multiplying out. -/
def Triple.isAt (p : Nat) (t : Triple) (q : Nat × Nat) : Bool :=
  let zsq := t.z * t.z % p
  t.z % p != 0 && t.x % p == q.1 * zsq % p && t.y % p == q.2 * (zsq * t.z % p) % p

/-! ## What It Stands For -/

section

variable {F : Type*} [Field F] {p : Nat} [CharP F p]

@[simp] theorem cast_mod (n : Nat) : ((n % p : Nat) : F) = n := (CharP.cast_eq_mod F p n).symm

theorem cast_subMod (hp : 0 < p) (x y : Nat) : (subMod p x y : F) = x - y := by
  have hlt := Nat.mod_lt y hp
  rw [subMod, cast_mod, Nat.cast_add, Nat.cast_sub hlt.le, CharP.cast_eq_zero F p, cast_mod,
    zero_sub, ← sub_eq_add_neg]

theorem cast_eq_of_mod_eq {m n : Nat} (h : m % p = n % p) : (m : F) = n := by
  rw [← cast_mod (p := p) m, h, cast_mod]

theorem cast_ne_zero_of_mod {n : Nat} (h : n % p ≠ 0) : (n : F) ≠ 0 := by
  rw [ne_eq, CharP.cast_eq_zero_iff F p]
  exact fun hdvd => h (Nat.mod_eq_zero_of_dvd hdvd)

variable {a b : F} {P Q : (shortCurve a b).Point} {q : Nat × Nat} {t : Triple}

/-- The triple is the point, if its `z` is not zero. Sums can then be taken without asking at
each of them whether it is at infinity. -/
def Triple.Represents (t : Triple) (P : (shortCurve a b).Point) : Prop :=
  (t.z : F) ≠ 0 → Projects P (t.x : F) t.y t.z

theorem represents_affine (h : At P (q.1 : F) q.2) : (Triple.affine q).Represents P := by
  intro hz
  have hprojects := h.projects hz
  simpa [Triple.affine] using hprojects

/-- **A triple at these coordinates is the point there.** This is where `z` has to be looked at,
once for a whole sum. -/
theorem Triple.Represents.at (ht : t.Represents P) (h : t.isAt p q = true) :
    At P (q.1 : F) q.2 := by
  rw [Triple.isAt] at h
  simp only [Bool.and_eq_true, bne_iff_ne, beq_iff_eq] at h
  obtain ⟨⟨hz, hx⟩, hy⟩ := h
  -- only here is it looked at whether anything was divided by zero
  have hne : (t.z : F) ≠ 0 := cast_ne_zero_of_mod hz
  have hquotients := (ht hne).at_quotients
  have hx' : (t.x : F) = q.1 * t.z ^ 2 := by
    rw [cast_eq_of_mod_eq hx, Nat.cast_mul, cast_mod, Nat.cast_mul, ← pow_two]
  have hy' : (t.y : F) = q.2 * t.z ^ 3 := by
    rw [cast_eq_of_mod_eq hy, Nat.cast_mul, cast_mod, Nat.cast_mul, cast_mod, Nat.cast_mul]
    ring
  rwa [hx', hy', mul_div_cancel_right₀ _ (pow_ne_zero 2 hne),
    mul_div_cancel_right₀ _ (pow_ne_zero 3 hne)] at hquotients

theorem at_opposite (hp : 0 < p) (h : At P (q.1 : F) q.2) :
    At (-P) ((oppositeAt p q).1 : F) (oppositeAt p q).2 := by
  rw [oppositeAt, cast_subMod hp, Nat.cast_zero, zero_sub]
  exact h.neg

end

section

variable {F : Type*} [Field F] [DecidableEq F] {p : Nat} [CharP F p] {a b : F}
  {P Q : (shortCurve a b).Point} {q : Nat × Nat} {t : Triple}

theorem represents_twice (hp : 0 < p) {n : Nat} (ha : (n : F) = a) (h : At P (q.1 : F) q.2) :
    (Triple.twice p n q).Represents (P + P) := by
  intro hz
  have hz' : ((Triple.twice p n q).z : F) = 2 * q.2 := by simp [Triple.twice]
  rw [hz'] at hz ⊢
  -- the denominator of the slope is the new `z`
  have hslope : (3 * q.1 ^ 2 + a) / (2 * q.2) * (2 * q.2) = 3 * (q.1 : F) ^ 2 + a :=
    div_mul_cancel₀ _ hz
  have hsum := h.tangent hz hslope
  have htwo : (2 : F) ≠ 0 := left_ne_zero_of_mul hz
  have hy : (q.2 : F) ≠ 0 := right_ne_zero_of_mul hz
  have hx : ((Triple.twice p n q).x : F) = (3 * q.1 ^ 2 + a) ^ 2 - 8 * q.1 * q.2 ^ 2 := by
    simp only [Triple.twice, cast_subMod hp, cast_mod, Nat.cast_mul, Nat.cast_add, Nat.cast_ofNat, ha]
    ring
  have hy' : ((Triple.twice p n q).y : F) =
      (3 * q.1 ^ 2 + a) * (4 * q.1 * q.2 ^ 2 - (Triple.twice p n q).x) - 8 * q.2 ^ 4 := by
    simp only [Triple.twice, cast_subMod hp, cast_mod, Nat.cast_mul, Nat.cast_add, Nat.cast_ofNat, ha]
    ring
  refine ⟨hz, ?_⟩
  rw [hy', hx]
  convert hsum using 1
  · field_simp
    ring
  · field_simp
    ring

/-- **The sum**, which cannot be at infinity, since the points are over different `x`. -/
theorem Triple.Represents.add (hp : 0 < p) (htwo : (2 : F) ≠ 0) (ht : t.Represents Q)
    (h : At P (q.1 : F) q.2) : (t.add p q).Represents (P + Q) := by
  intro hz
  have hz' : ((t.add p q).z : F) = (q.1 * t.z ^ 2 - t.x) * t.z := by
    simp only [Triple.add, cast_subMod hp, cast_mod, Nat.cast_mul]
    ring
  rw [hz'] at hz ⊢
  have hQ := ht (right_ne_zero_of_mul hz)
  have hx : (q.1 : F) * t.z ^ 2 ≠ t.x := sub_ne_zero.mp (left_ne_zero_of_mul hz)
  have hne : P + Q ≠ 0 := by
    -- opposite points are over the same `x`
    intro hsum
    rw [eq_neg_of_add_eq_zero_left hsum] at h
    apply hx
    rw [(h.coordinates hQ.at_quotients.neg).1]
    exact div_mul_cancel₀ _ (pow_ne_zero 2 hQ.z_ne_zero)
  have hslope : Slope a (q.1 : F) q.2 t.x t.y t.z (q.2 * t.z ^ 3 - t.y) (q.1 * t.z ^ 2 - t.x) :=
    ⟨fun _ => ⟨rfl, rfl⟩, fun heq => absurd heq hx⟩
  apply Projects.add h hQ htwo hne hslope
  · simp only [Triple.add, cast_subMod hp, cast_mod, Nat.cast_mul, Nat.cast_add]
    ring
  · simp only [Triple.add, cast_subMod hp, cast_mod, Nat.cast_mul, Nat.cast_add]
    ring

end

end RlyNetworkSdk.Arithmetic
