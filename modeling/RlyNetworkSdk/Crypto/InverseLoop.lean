import RlyNetworkSdk.Arithmetic.AlmostInverse
import RlyNetworkSdk.Crypto.InverseRegisters

/-!
# The Loop of `bn_inverse`

The almost inverse as it is built with `USE_INVERSE_FAST`. Every turn reduces the register that
may be even, compares the two, and subtracts; it keeps the invariant of the binary algorithm on the
numbers that the registers hold, and halves their product.
-/

namespace RlyNetworkSdk.Crypto.Bignum

open Encoding Limbs Arithmetic

/-! ## The Loop -/

/-- The loop, for at most so many turns. The flag tells whether `even` points to `us`. The result is
`us` and `k`. -/
def almostInverse : Nat → Combo → Combo → Bool → Nat → Option (Combo × Nat)
  | 0, _, _, _, _ => none
  | fuel + 1, even, odd, evenIsUs, k =>
    match even.reduce k with
    | none => none
    | some (even, k) =>
      match compareHeads even odd with
      | .eq => some (if evenIsUs then even else odd, k)
      | .gt => almostInverse fuel ⟨subtractHeads even odd, even.tail⟩ ⟨odd.head, addTails even odd⟩
          evenIsUs k
      | .lt => almostInverse fuel ⟨subtractHeads odd even, odd.tail⟩ ⟨even.head, addTails odd even⟩
          (!evenIsUs) k

/-- The loop ends with one in the head of `us`, and the almost inverse in its tail: the inverse,
up to a power of two that has been counted. -/
def Finds (p x : Nat) (result : Option (Combo × Nat)) : Prop :=
  ∃ us k s, result = some (us, k) ∧ us.Holds 1 s ∧ us.Trimmed ∧ s < p ∧ x * s ≡ 2 ^ k [MOD p]

/-- The two registers in a turn of the loop. Each of them holds a number and a cofactor, and the
two exchange their names from turn to turn. -/
structure Turn (p x : Nat) (even odd : Combo) (evenIsUs : Bool) (u s v r k : Nat) : Prop where
  holds_even : even.Holds u s
  holds_odd : odd.Holds v r
  trimmed : odd.Trimmed
  almost : Almost p x (if evenIsUs then 1 else -1) u s v r k

section Loop

variable {p x : Nat} {even odd : Combo} {evenIsUs : Bool} {u s v r k : Nat}

theorem Turn.product_lt (h : Turn p x even odd evenIsUs u s v r k) (hlt : p < (2 ^ 32) ^ 8) :
    u * s < (2 ^ 32) ^ 8 ∧ v * r < (2 ^ 32) ^ 8 := by
  have hproduct := h.almost.product
  omega

/-- Where the loop stops. -/
theorem Turn.finds (h : Turn p x even odd evenIsUs u s v r k) (htrim : even.Trimmed) (heq : u = v)
    (hp : p % 2 = 1) (hone : 1 < p) :
    Finds p x (some (if evenIsUs then even else odd, k)) := by
  have hv := (h.almost.eq_one heq).1
  have hu : u = 1 := heq.trans hv
  have halmost := h.almost
  cases evenIsUs with
  | true =>
    obtain ⟨hlt, hmod⟩ := halmost.inverse_of_even heq hp hone
    exact ⟨even, k, s, rfl, hu ▸ h.holds_even, htrim, hlt, hmod⟩
  | false =>
    obtain ⟨hlt, hmod⟩ := halmost.inverse_of_odd heq hp hone
    exact ⟨odd, k, r, rfl, hv ▸ h.holds_odd, h.trimmed, hlt, hmod⟩

/-- The registers after a subtraction. -/
theorem Turn.subtract (h : Turn p x even odd evenIsUs u s v r k) (hlt : v < u)
    (hbound : p < (2 ^ 32) ^ 8) :
    Turn p x ⟨subtractHeads even odd, even.tail⟩ ⟨odd.head, addTails even odd⟩ evenIsUs
      (u - v) s v (r + s) k := by
  have halmost := h.almost.subtract hlt
  have hproduct : v * (r + s) < (2 ^ 32) ^ 8 := by
    have hsum := halmost.product
    omega
  obtain ⟨heven, hodd⟩ := h.holds_even.subtract h.holds_odd h.trimmed hlt hproduct
  exact ⟨heven, hodd, h.trimmed, halmost⟩

/-- The registers change their parts. -/
theorem Turn.swap (h : Turn p x even odd evenIsUs u s v r k) (htrim : even.Trimmed)
    (hu : u % 2 = 1) : Turn p x odd even (!evenIsUs) v r u s k where
  holds_even := h.holds_odd
  holds_odd := h.holds_even
  trimmed := htrim
  almost := by
    have halmost := h.almost.swap hu
    cases evenIsUs <;> simpa using halmost

/-- The registers after the reduction, and what the rest of the turn looks at. -/
theorem Turn.reduce (h : Turn p x even odd evenIsUs u s v r k) (hbound : p < (2 ^ 32) ^ 8) :
    ∃ even' t m, even.reduce k = some (even', k + t) ∧ u = 2 ^ t * m ∧ m % 2 = 1 ∧
      even'.Trimmed ∧ Turn p x even' odd evenIsUs m (s * 2 ^ t) v r (k + t) := by
  obtain ⟨even', t, m, hreduce, hu, hm, heven, htrim⟩ :=
    h.holds_even.reduce h.almost.pos (h.product_lt hbound).1 k
  exact ⟨even', t, m, hreduce, hu, hm, htrim, heven, h.holds_odd, h.trimmed, h.almost.shift hu⟩

/-- One turn: it stops, or leaves smaller registers of which one is even. -/
theorem Turn.next (h : Turn p x even odd evenIsUs u s v r k) (hp : p % 2 = 1) (hone : 1 < p)
    (hbound : p < (2 ^ 32) ^ 8) (fuel : Nat)
    (hrest : ∀ {even' odd' : Combo} {evenIsUs' : Bool} {u' s' v' r' k' : Nat},
      Turn p x even' odd' evenIsUs' u' s' v' r' k' → u' % 2 = 0 → u' * v' ≤ u * v →
        (u % 2 = 0 → 2 * (u' * v') ≤ u * v) →
        Finds p x (almostInverse fuel even' odd' evenIsUs' k')) :
    Finds p x (almostInverse (fuel + 1) even odd evenIsUs k) := by
  obtain ⟨even', t, m, hreduce, hu, hm, htrim, h'⟩ := h.reduce hbound
  have hv := h.almost.odd_mod
  have hmu : m ≤ u := by
    rw [hu]
    exact Nat.le_mul_of_pos_left m (Nat.two_pow_pos t)
  -- an even number loses at least one bit by the reduction
  have hhalf : u % 2 = 0 → 2 * m ≤ u := by
    intro heven
    have ht : t ≠ 0 := by
      rintro rfl
      omega
    obtain ⟨t', rfl⟩ := Nat.exists_eq_succ_of_ne_zero ht
    rw [hu, Nat.succ_eq_add_one, pow_succ', Nat.mul_assoc]
    exact Nat.mul_le_mul_left 2 (Nat.le_mul_of_pos_left m (Nat.two_pow_pos t'))
  have hmeasure : ∀ w, w ≤ m * v → w ≤ u * v ∧ (u % 2 = 0 → 2 * w ≤ u * v) := by
    intro w hw
    refine ⟨hw.trans (Nat.mul_le_mul_right v hmu), fun heven => ?_⟩
    calc 2 * w ≤ 2 * (m * v) := Nat.mul_le_mul_left 2 hw
      _ = 2 * m * v := by rw [Nat.mul_assoc]
      _ ≤ u * v := Nat.mul_le_mul_right v (hhalf heven)
  rw [almostInverse, hreduce]
  simp only [compareHeads_eq h'.holds_even h'.holds_odd htrim h'.trimmed]
  rcases Nat.lt_trichotomy m v with hlt | heq | hgt
  · rw [Nat.compare_eq_lt.mpr hlt]
    -- the other number is the greater one, and takes the place of the even one
    have hnext := (h'.swap htrim hm).subtract hlt hbound
    have hw := hmeasure ((v - m) * m) (by
      rw [Nat.mul_comm m]
      exact Nat.mul_le_mul_right m (Nat.sub_le v m))
    exact hrest hnext (by omega) hw.1 hw.2
  · rw [Nat.compare_eq_eq.mpr heq]
    -- equal numbers are both one, and the loop ends
    exact h'.finds htrim heq hp hone
  · rw [Nat.compare_eq_gt.mpr hgt]
    have hnext := h'.subtract hgt hbound
    have hw := hmeasure ((m - v) * v) (Nat.mul_le_mul_right v (Nat.sub_le m v))
    exact hrest hnext (by omega) hw.1 hw.2

/-- The product of the numbers is halved in every turn. -/
theorem Turn.run (h : Turn p x even odd evenIsUs u s v r k) (hp : p % 2 = 1) (hone : 1 < p)
    (hbound : p < (2 ^ 32) ^ 8) (hu : u % 2 = 0) {fuel : Nat} (hfuel : u * v < 2 ^ fuel) :
    Finds p x (almostInverse fuel even odd evenIsUs k) := by
  induction fuel generalizing even odd evenIsUs u s v r k with
  | zero =>
    -- the product is never zero, so the turns cannot run out
    have hpos := Nat.mul_pos h.almost.pos h.almost.odd_pos
    omega
  | succ fuel ih =>
    apply h.next hp hone hbound fuel
    intro even' odd' evenIsUs' u' s' v' r' k' h' hu' _ hhalf
    apply ih h' hu'
    have hle := hhalf hu
    rw [pow_succ'] at hfuel
    omega

/-- **The loop finds the almost inverse.** The product of the two numbers is at least halved in
a turn, which bounds the number of turns. -/
theorem Turn.start (h : Turn p x even odd evenIsUs u s v r k) (hp : p % 2 = 1) (hone : 1 < p)
    (hbound : p < (2 ^ 32) ^ 8) {fuel : Nat} (hfuel : u * v < 2 ^ fuel) :
    Finds p x (almostInverse (fuel + 1) even odd evenIsUs k) := by
  apply h.next hp hone hbound fuel
  intro even' odd' evenIsUs' u' s' v' r' k' h' hu' hle _
  exact h'.run hp hone hbound hu' (hle.trans_lt hfuel)

end Loop

end RlyNetworkSdk.Crypto.Bignum
