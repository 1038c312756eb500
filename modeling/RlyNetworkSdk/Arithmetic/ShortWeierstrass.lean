import Mathlib.AlgebraicGeometry.EllipticCurve.Affine.Point
import Mathlib.Tactic.FieldSimp
import Mathlib.Tactic.LinearCombination

/-!
# Short Weierstrass Curves

The group of the curve `y² = x³ + ax + b`. A point is given by its coordinates, and sums are
stated by the slope of a chord or a tangent, so that whoever has computed the slope in some way
need not divide again.
-/

namespace RlyNetworkSdk.Arithmetic

open WeierstrassCurve.Affine

section

variable {F : Type*} [Field F]

/-- The curve `y² = x³ + ax + b`, as one of Mathlib's Weierstrass curves, so that the group of
its points is at hand. -/
def shortCurve (a b : F) : WeierstrassCurve.Affine F := ⟨0, 0, 0, a, b⟩

variable {a b : F} {P Q : (shortCurve a b).Point} {x y x₁ y₁ x₂ y₂ ℓ : F}

/-- The point is not at infinity and has these coordinates. That they fulfil the equation is
part of it. -/
def At (P : (shortCurve a b).Point) (x y : F) : Prop :=
  ∃ h : (shortCurve a b).Nonsingular x y, P = .some x y h

@[simp] theorem shortCurve_negY (x y : F) : (shortCurve a b).negY x y = -y := by
  simp [negY, shortCurve]

theorem At.equation (h : At P x y) : y ^ 2 = x ^ 3 + a * x + b := by
  obtain ⟨⟨heq, -⟩, -⟩ := h
  rw [equation_iff] at heq
  simpa [shortCurve] using heq

/-- Every solution of the equation is a point, unless the curve is singular. -/
theorem exists_at (hΔ : 4 * a ^ 3 + 27 * b ^ 2 ≠ 0) (htwo : (2 : F) ≠ 0)
    (heq : y ^ 2 = x ^ 3 + a * x + b) : ∃ P : (shortCurve a b).Point, At P x y := by
  -- the discriminant is the usual one, up to a factor of sixteen
  have hne : (shortCurve a b).Δ ≠ 0 := by
    have hvalue : (shortCurve a b).Δ = -2 ^ 4 * (4 * a ^ 3 + 27 * b ^ 2) := by
      simp only [shortCurve, WeierstrassCurve.Δ, WeierstrassCurve.b₂, WeierstrassCurve.b₄,
        WeierstrassCurve.b₆, WeierstrassCurve.b₈]
      ring
    rw [hvalue]
    exact mul_ne_zero (neg_ne_zero.mpr (pow_ne_zero 4 htwo)) hΔ
  have hequation : (shortCurve a b).Equation x y := by
    rw [equation_iff]
    simpa [shortCurve] using heq
  have hnonsingular := (equation_iff_nonsingular_of_Δ_ne_zero hne).mp hequation
  exact ⟨.some x y hnonsingular, hnonsingular, rfl⟩

theorem At.ne_zero (h : At P x y) : P ≠ 0 := by
  obtain ⟨hxy, rfl⟩ := h
  exact Point.some_ne_zero hxy

theorem At.eq (hP : At P x y) (hQ : At Q x y) : P = Q := by
  obtain ⟨_, rfl⟩ := hP
  obtain ⟨_, rfl⟩ := hQ
  rfl

theorem At.coordinates (h : At P x₁ y₁) (h' : At P x₂ y₂) : x₁ = x₂ ∧ y₁ = y₂ := by
  obtain ⟨_, rfl⟩ := h
  obtain ⟨_, heq⟩ := h'
  simpa using heq

theorem exists_at_of_ne_zero (hP : P ≠ 0) : ∃ x y, At P x y := by
  cases P with
  | zero => exact absurd rfl hP
  | some x y h => exact ⟨x, y, h, rfl⟩

theorem At.neg (h : At P x y) : At (-P) x (-y) := by
  obtain ⟨hxy, rfl⟩ := h
  rw [Point.neg_some]
  simp only [shortCurve_negY]
  exact ⟨_, rfl⟩

/-- Points over the same `x` are equal or opposite. -/
theorem At.eq_or_eq_neg (hP : At P x y₁) (hQ : At Q x y₂) : P = Q ∨ P = -Q := by
  obtain ⟨h₁, rfl⟩ := hP
  obtain ⟨h₂, rfl⟩ := hQ
  exact Point.X_eq_iff.mp rfl

end

section

variable {F : Type*} [Field F] [DecidableEq F] {a b : F} {P Q : (shortCurve a b).Point}
  {x y x₁ y₁ x₂ y₂ ℓ : F}

/-- The sum of two points over different `x`, by the slope of the chord. -/
theorem At.chord (hP : At P x₁ y₁) (hQ : At Q x₂ y₂) (hx : x₁ ≠ x₂)
    (hℓ : ℓ * (x₂ - x₁) = y₂ - y₁) :
    At (P + Q) (ℓ ^ 2 - x₁ - x₂) (ℓ * (x₁ - (ℓ ^ 2 - x₁ - x₂)) - y₁) := by
  obtain ⟨h₁, rfl⟩ := hP
  obtain ⟨h₂, rfl⟩ := hQ
  -- the slope is determined by the equation, as the points are not over one `x`
  have hslope : (shortCurve a b).slope x₁ x₂ y₁ y₂ = ℓ := by
    rw [slope_of_X_ne hx, div_eq_iff (sub_ne_zero.mpr hx)]
    linear_combination hℓ
  have haddX : (shortCurve a b).addX x₁ x₂ ℓ = ℓ ^ 2 - x₁ - x₂ := by
    simp [addX, shortCurve]
  have haddY : (shortCurve a b).addY x₁ x₂ y₁ ℓ = ℓ * (x₁ - (ℓ ^ 2 - x₁ - x₂)) - y₁ := by
    rw [addY, shortCurve_negY, negAddY, haddX]
    ring
  rw [Point.add_of_X_ne hx]
  simp only [hslope, haddX, haddY]
  exact ⟨_, rfl⟩

/-- The double of a point, by the slope of the tangent. -/
theorem At.tangent (hP : At P x y) (hy : 2 * y ≠ 0) (hℓ : ℓ * (2 * y) = 3 * x ^ 2 + a) :
    At (P + P) (ℓ ^ 2 - x - x) (ℓ * (x - (ℓ ^ 2 - x - x)) - y) := by
  obtain ⟨h, rfl⟩ := hP
  -- the point is not its own negative, so the tangent is not vertical
  have hne : y ≠ (shortCurve a b).negY x y := by
    rw [shortCurve_negY]
    intro heq
    apply hy
    linear_combination heq
  have hslope : (shortCurve a b).slope x x y y = ℓ := by
    rw [slope_of_Y_ne rfl hne, shortCurve_negY, div_eq_iff (by rwa [sub_neg_eq_add, ← two_mul])]
    simp only [shortCurve]
    linear_combination -hℓ
  have haddX : (shortCurve a b).addX x x ℓ = ℓ ^ 2 - x - x := by
    simp [addX, shortCurve]
  have haddY : (shortCurve a b).addY x x y ℓ = ℓ * (x - (ℓ ^ 2 - x - x)) - y := by
    rw [addY, shortCurve_negY, negAddY, haddX]
    ring
  rw [Point.add_of_Y_ne hne]
  simp only [hslope, haddX, haddY]
  exact ⟨_, rfl⟩

/-- A point is its own opposite where `y` is zero. -/
theorem At.y_ne_zero (hP : At P x y) (htwo : P + P ≠ 0) : y ≠ 0 := by
  rintro rfl
  apply htwo
  have hneg := hP.neg
  rw [neg_zero] at hneg
  calc P + P = -P + P := by rw [hneg.eq hP]
    _ = 0 := neg_add_cancel P

end

end RlyNetworkSdk.Arithmetic
