import RlyNetworkSdk.Arithmetic.ShortWeierstrass

/-!
# Jacobian Coordinates

Triples `(x, y, z)` that stand for the point `(x / z², y / z³)`. With the slope as a fraction whose
denominator divides the new `z`, adding a point that is given by its affine coordinates takes no
division but one by two.
-/

namespace RlyNetworkSdk.Arithmetic

variable {F : Type*} [Field F] {a b : F} {P Q : (shortCurve a b).Point}
  {x y z x₁ y₁ x₂ y₂ : F}

/-- The point that the triple stands for, which is not at infinity. -/
structure Projects (P : (shortCurve a b).Point) (x y z : F) : Prop where
  z_ne_zero : z ≠ 0
  at_quotients : At P (x / z ^ 2) (y / z ^ 3)

/-- Any `z` will do. -/
theorem At.projects (h : At P x y) (hz : z ≠ 0) : Projects P (z ^ 2 * x) (z ^ 3 * y) z where
  z_ne_zero := hz
  at_quotients := by
    rwa [mul_div_cancel_left₀ x (pow_ne_zero 2 hz), mul_div_cancel_left₀ y (pow_ne_zero 3 hz)]

/-- The opposite point. -/
theorem Projects.neg (h : Projects P x y z) : Projects (-P) x (-y) z where
  z_ne_zero := h.z_ne_zero
  at_quotients := by
    rw [neg_div]
    exact h.at_quotients.neg

/-- Back to affine coordinates, with the inverse of `z`. -/
theorem Projects.at (h : Projects P x y z) : At P (x * z⁻¹ ^ 2) (y * z⁻¹ ^ 3) := by
  rw [inv_pow, inv_pow, ← div_eq_mul_inv, ← div_eq_mul_inv]
  exact h.at_quotients

theorem Projects.ne_zero (h : Projects P x y z) : P ≠ 0 := h.at_quotients.ne_zero

variable [DecidableEq F]

theorem Projects.y_ne_zero (h : Projects P x y z) (hP : P + P ≠ 0) : y ≠ 0 := by
  rintro rfl
  apply h.at_quotients.y_ne_zero hP
  exact zero_div _

/-- What `lambda` is a quotient of: of two differences, or for a point that is added to itself, of
the numerator and the denominator of the tangent. -/
structure Slope (a x₁ y₁ x₂ y₂ z r h : F) : Prop where
  chord : x₁ * z ^ 2 ≠ x₂ → r = y₁ * z ^ 3 - y₂ ∧ h = x₁ * z ^ 2 - x₂
  tangent : x₁ * z ^ 2 = x₂ → r = 3 * x₂ ^ 2 + a * z ^ 4 ∧ h = y₁ * z ^ 3 + y₂

/-- **Adding an affine point.** The same formulas hold for a chord and for a tangent; they
differ in the slope that they are given. -/
theorem Projects.add (hP : At P x₁ y₁) (hQ : Projects Q x₂ y₂ z) (htwo : (2 : F) ≠ 0)
    (hne : P + Q ≠ 0) {r h x₃ y₃ : F} (hslope : Slope a x₁ y₁ x₂ y₂ z r h)
    (hx₃ : x₃ = r ^ 2 - h ^ 2 * (x₁ * z ^ 2 + x₂))
    (hy₃ : 2 * y₃ = r * (h ^ 2 * (x₁ * z ^ 2 + x₂) - 2 * x₃) - h ^ 3 * (y₁ * z ^ 3 + y₂)) :
    Projects (P + Q) x₃ y₃ (h * z) := by
  have hz := hQ.z_ne_zero
  by_cases hx : x₁ * z ^ 2 = x₂
  · -- over the same `x` the points are equal, since they are not opposite
    obtain ⟨hr, hh⟩ := hslope.tangent hx
    have hx' : x₂ / z ^ 2 = x₁ := by
      rw [← hx, mul_div_cancel_right₀ x₁ (pow_ne_zero 2 hz)]
    have hQ' := hQ.at_quotients
    rw [hx'] at hQ'
    have heq : P = Q := by
      rcases hP.eq_or_eq_neg hQ' with heq | hopposite
      · exact heq
      · rw [hopposite, neg_add_cancel] at hne
        exact absurd rfl hne
    obtain ⟨-, hy⟩ := (heq ▸ hP).coordinates hQ'
    have hy' : y₁ * z ^ 3 = y₂ := by
      rw [hy, div_mul_cancel₀ y₂ (pow_ne_zero 3 hz)]
    rw [← heq] at hne ⊢
    have hy₁ := hP.y_ne_zero hne
    have hh' : h ≠ 0 := by
      rw [hh, ← hy', ← two_mul]
      exact mul_ne_zero htwo (mul_ne_zero hy₁ (pow_ne_zero 3 hz))
    have hlambda : r / (h * z) * (2 * y₁) = 3 * x₁ ^ 2 + a := by
      rw [div_mul_eq_mul_div, div_eq_iff (mul_ne_zero hh' hz), hr, hh, ← hx, ← hy']
      ring
    have hsum := hP.tangent (mul_ne_zero htwo hy₁) hlambda
    have hX : (r / (h * z)) ^ 2 - x₁ - x₁ = x₃ / (h * z) ^ 2 := by
      rw [hx₃, ← hx]
      field_simp
      ring
    rw [hX] at hsum
    refine ⟨mul_ne_zero hh' hz, ?_⟩
    convert hsum using 1
    rw [← hx, ← hy'] at hy₃
    have htwice : 2 * y₃ = 2 * (r * (h ^ 2 * (x₁ * z ^ 2) - x₃) - h ^ 3 * (y₁ * z ^ 3)) := by
      linear_combination hy₃
    rw [mul_left_cancel₀ htwo htwice]
    field_simp
  · obtain ⟨hr, hh⟩ := hslope.chord hx
    have hh' : h ≠ 0 := by
      rw [hh]
      exact sub_ne_zero.mpr hx
    have hx' : x₁ ≠ x₂ / z ^ 2 := by
      intro heq
      apply hx
      rw [heq, div_mul_cancel₀ x₂ (pow_ne_zero 2 hz)]
    have hlambda : r / (h * z) * (x₂ / z ^ 2 - x₁) = y₂ / z ^ 3 - y₁ := by
      field_simp
      rw [hr, hh]
      ring
    have hsum := hP.chord hQ.at_quotients hx' hlambda
    have hX : (r / (h * z)) ^ 2 - x₁ - x₂ / z ^ 2 = x₃ / (h * z) ^ 2 := by
      rw [hx₃]
      field_simp
      ring
    rw [hX] at hsum
    refine ⟨mul_ne_zero hh' hz, ?_⟩
    convert hsum using 1
    -- both points give the same `y`
    have hsame : r * (x₁ * z ^ 2 - x₂) = h * (y₁ * z ^ 3 - y₂) := by
      rw [hr, hh]
      ring
    have htwice : 2 * y₃ = 2 * (r * (h ^ 2 * (x₁ * z ^ 2) - x₃) - h ^ 3 * (y₁ * z ^ 3)) := by
      linear_combination hy₃ - h ^ 2 * hsame
    rw [mul_left_cancel₀ htwo htwice]
    field_simp

end RlyNetworkSdk.Arithmetic
