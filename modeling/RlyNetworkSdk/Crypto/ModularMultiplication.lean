import RlyNetworkSdk.Crypto.ModularArithmetic
import Mathlib.Tactic.IntervalCases

/-!
# Modular Multiplication

`bn_multiply` forms the whole product of two big numbers, of eighteen limbs, and reduces it from
the top: nine times a multiple of the modulus is subtracted that is estimated from the highest
limbs. Each time one limb more is left zero, and in the end the product is below twice the
modulus.
-/

namespace RlyNetworkSdk.Crypto.Bignum

open Encoding

/-! ## The Operations -/

/-- A limb as a 64-bit factor. -/
def factor (a : Bignum256) (j : Nat) : BitVec 64 := (a.toList.getD j 0).setWidth 64

/-- What the two inner loops of `bn_multiply_long` add for limb `i` of the product: nine
products at most, which fit in 64 bits. -/
def productColumn (k x : Bignum256) (i : Nat) : BitVec 64 :=
  if i < 9 then ((List.range (i + 1)).map fun j => factor k j * factor x (i - j)).sum
  else ((List.range' (i - 8) (17 - i)).map fun j => factor k j * factor x (i - j)).sum

def bnMultiplyLong (k x : Bignum256) : List (BitVec 32) :=
  Limbs.rippleList 30 32 0 ((List.range 18).map (productColumn k x))

/-- The estimate of the multiple that is subtracted, from the upper bits of two limbs. -/
def reduceCoef (res : List (BitVec 32)) (i : Nat) : BitVec 32 :=
  (res.getD i 0 >>> 16) + (res.getD (i + 1) 0 <<< 14)

/-- One step of the reduction, on the limbs from `i - 8` to `i + 1`. The highest of them is used
up by it. -/
def bnMultiplyReduceStep (prime : Bignum256) (res : List (BitVec 32)) (i : Nat) :
    List (BitVec 32) :=
  let coef := (reduceCoef res i).setWidth 64
  let columns := (List.range 10).map fun j =>
    multipleColumn coef j (res.getD (i - 8 + j) 0) (prime.toList.getD j 0)
  res.take (i - 8) ++ Limbs.rippleList 30 32 0 columns ++ res.drop (i + 2)

/-- The values of `i` in the order of the loop. -/
def reduceIndices : List Nat := (List.range' 8 9).reverse

def bnMultiplyReduce (res : List (BitVec 32)) (prime : Bignum256) : Bignum256 :=
  let res := reduceIndices.foldl (bnMultiplyReduceStep prime) res
  Vector.ofFn fun i : Fin 9 => res.getD i 0

def bnMultiply (k x prime : Bignum256) : Bignum256 :=
  bnMultiplyReduce (bnMultiplyLong k x) prime

/-! ## The Product -/

theorem toNat_factor (a : Bignum256) (j : Nat) :
    (factor a j).toNat = (a.toList.getD j 0).toNat := by
  have hlt := (a.toList.getD j 0).isLt
  rw [factor, BitVec.toNat_setWidth, Nat.mod_eq_of_lt (by omega)]

theorem toNat_factor_lt {a : Bignum256} (ha : Normalized a) (j : Nat) :
    (factor a j).toNat < 2 ^ 30 := by
  rw [toNat_factor]
  rcases Nat.lt_or_ge j 9 with hj | hj
  · have hlimb := ha ⟨j, hj⟩
    simpa [List.getD_eq_getElem?_getD, hj] using hlimb
  · simp [List.getD_eq_getElem?_getD, hj]

theorem toNat_factor_of_ge (a : Bignum256) {j : Nat} (hj : 9 ≤ j) : (factor a j).toNat = 0 := by
  rw [toNat_factor]
  simp [List.getD_eq_getElem?_getD, hj]

/-- Two digits have a product of two digits. -/
theorem mul_digits_lt {c d : Nat} (hc : c < 2 ^ 30) (hd : d < 2 ^ 30) : c * d < 2 ^ 60 := by
  have hle : c * d ≤ 2 ^ 30 * d := Nat.mul_le_mul_right d (Nat.le_of_lt hc)
  omega

section Product

variable {k x : Bignum256} (hk : Normalized k) (hx : Normalized x)
include hk hx

theorem toNat_factor_mul_lt (j l : Nat) :
    (factor k j).toNat * (factor x l).toNat < 2 ^ 60 :=
  mul_digits_lt (toNat_factor_lt hk j) (toNat_factor_lt hx l)

theorem toNat_term (j l : Nat) :
    (factor k j * factor x l).toNat = (factor k j).toNat * (factor x l).toNat := by
  have hlt := toNat_factor_mul_lt hk hx j l
  rw [BitVec.toNat_mul, Nat.mod_eq_of_lt (by omega)]

/-- At most nine products are added. -/
theorem sum_terms_le (i m : Nat) {n : Nat} (hn : n ≤ 9) :
    ∑ j ∈ Finset.range n, (factor k (m + j)).toNat * (factor x (i - (m + j))).toNat
      ≤ 9 * 2 ^ 60 := by
  have hsum := Finset.sum_le_card_nsmul (Finset.range n)
    (fun j => (factor k (m + j)).toNat * (factor x (i - (m + j))).toNat) (2 ^ 60)
    fun j _ => Nat.le_of_lt (toNat_factor_mul_lt hk hx _ _)
  rw [Finset.card_range, smul_eq_mul] at hsum
  exact Nat.le_trans hsum (Nat.mul_le_mul_right _ hn)

/-- The loop of one column adds its products without a carry out of sixty-four bits. -/
theorem toNat_sum_terms (i m : Nat) {n : Nat} (hn : n ≤ 9) :
    (((List.range n).map fun j => factor k (m + j) * factor x (i - (m + j))).sum).toNat =
      ∑ j ∈ Finset.range n, (factor k (m + j)).toNat * (factor x (i - (m + j))).toNat := by
  have hmap : ((List.range n).map fun j => factor k (m + j) * factor x (i - (m + j))).map
      BitVec.toNat = (List.range n).map fun j =>
        (factor k (m + j)).toNat * (factor x (i - (m + j))).toNat := by
    rw [List.map_map]
    apply List.map_congr_left
    intro j _
    exact toNat_term hk hx _ _
  have hsum : ((List.range n).map fun j =>
      (factor k (m + j)).toNat * (factor x (i - (m + j))).toNat).sum =
        ∑ j ∈ Finset.range n, (factor k (m + j)).toNat * (factor x (i - (m + j))).toNat := rfl
  -- at most nine products of limbs: the sum of sixty-four bits does not wrap
  have hle := sum_terms_le hk hx i m hn
  rw [Limbs.toNat_sum, hmap, hsum]
  rw [hmap, hsum]
  omega

/-- The loops leave out the products with limbs that are not there. -/
theorem toNat_productColumn {i : Nat} (hi : i < 18) :
    (productColumn k x i).toNat =
        ∑ j ∈ Finset.range (i + 1), (factor k j).toNat * (factor x (i - j)).toNat ∧
      (productColumn k x i).toNat ≤ 9 * 2 ^ 60 := by
  rw [productColumn]
  split
  case isTrue h =>
    -- the first loop: all products up to the column
    have hsum := toNat_sum_terms hk hx i 0 (n := i + 1) (by omega)
    have hle := sum_terms_le hk hx i 0 (n := i + 1) (by omega)
    simp only [Nat.zero_add] at hsum hle
    rw [hsum]
    exact ⟨rfl, hle⟩
  case isFalse h =>
    -- the second loop starts where the other factor has its last limb
    have hsum := toNat_sum_terms hk hx i (i - 8) (n := 17 - i) (by omega)
    have hle := sum_terms_le hk hx i (i - 8) (n := 17 - i) (by omega)
    have hrange : (List.range' (i - 8) (17 - i)).map (fun j => factor k j * factor x (i - j)) =
        (List.range (17 - i)).map fun j => factor k (i - 8 + j) * factor x (i - (i - 8 + j)) := by
      rw [List.range'_eq_map_range, List.map_map]
      rfl
    have hcount : 17 - i = 9 - (i - 8) := by omega
    have hico : ∑ j ∈ Finset.range (17 - i),
        (factor k (i - 8 + j)).toNat * (factor x (i - (i - 8 + j))).toNat =
          ∑ j ∈ Finset.Ico (i - 8) 9, (factor k j).toNat * (factor x (i - j)).toNat := by
      rw [hcount, Finset.sum_Ico_eq_sum_range]
    have hsubset : Finset.Ico (i - 8) 9 ⊆ Finset.range (i + 1) := by
      intro j hj
      have hlt := (Finset.mem_Ico.mp hj).2
      exact Finset.mem_range.mpr (by omega)
    rw [hrange, hsum]
    refine ⟨?_, hle⟩
    rw [hico]
    -- the products that are left out have a factor beyond the ninth limb, which is zero
    apply Finset.sum_subset hsubset
    intro j hj hout
    rw [Finset.mem_Ico] at hout
    rcases Nat.lt_or_ge j 9 with hlt | hge
    · rw [toNat_factor_of_ge x (by omega), Nat.mul_zero]
    · rw [toNat_factor_of_ge k hge, Nat.zero_mul]

/-- **The product is that of the numbers.** It has eighteen limbs, and nothing is lost in the
columns. -/
theorem ofDigits_bnMultiplyLong :
    Nat.ofDigits (2 ^ 30) ((bnMultiplyLong k x).map BitVec.toNat) = value k * value x := by
  -- the carries fit, as nine products leave four bits
  have hroom : ∀ c ∈ (List.range 18).map (productColumn k x), Limbs.Room 30 c := by
    intro c hc
    obtain ⟨i, hi, rfl⟩ := List.mem_map.mp hc
    have hle := (toNat_productColumn hk hx (List.mem_range.mp hi)).2
    rw [Limbs.Room]
    omega
  -- the columns are the convolution of the limbs
  have hcolumns : Nat.ofDigits (2 ^ 30)
      (((List.range 18).map (productColumn k x)).map BitVec.toNat) = value k * value x := by
    have hfactors : ∀ a : Bignum256,
        value a = ∑ i ∈ Finset.range 9, (factor a i).toNat * (2 ^ 30) ^ i := by
      intro a
      rw [value, Limbs.value_eq_sum_range]
      simp only [toNat_factor]
    rw [Limbs.ofDigits_map_range, hfactors k, hfactors x,
      ← Limbs.sum_convolution (fun i => toNat_factor_of_ge k) (fun i => toNat_factor_of_ge x)]
    apply Finset.sum_congr rfl
    intro i hi
    rw [(toNat_productColumn hk hx (Finset.mem_range.mp hi)).1]
  -- eighteen limbs hold the product, so no carry is left
  have hlt : value k * value x < (2 ^ 30) ^ 18 := by
    have hmul := Nat.mul_lt_mul'' hk.value_lt hx.value_lt
    rwa [← pow_add] at hmul
  have hzero : (0 : BitVec 64).toNat = 0 := rfl
  rw [bnMultiplyLong, Limbs.ofDigits_rippleList (by decide) (by decide) (by decide) hroom, hcolumns,
    List.length_map, List.length_range, hzero, Nat.zero_add, Nat.mod_eq_of_lt hlt]

end Product

/-! ## The Reduction -/

/-- The number of a list of limbs. -/
abbrev number (res : List (BitVec 32)) : Nat := Nat.ofDigits (2 ^ 30) (res.map BitVec.toNat)

theorem number_append (as bs : List (BitVec 32)) :
    number (as ++ bs) = number as + (2 ^ 30) ^ as.length * number bs := by
  rw [number, List.map_append, Nat.ofDigits_append, List.length_map]

/-- What the product has become when the limbs from `9 + k` on are reduced: another number of
the same class, with `k` limbs fewer to go. -/
structure Reducing (m : Modulus) (c k : Nat) (res : List (BitVec 32)) : Prop where
  length : res.length = 18
  digits : Limbs.Digits 30 res
  lt : number res < (2 ^ 30) ^ k * (2 * value m.prime)
  modEq : number res ≡ c [MOD value m.prime]

/-- The ten limbs that a step looks at. All others are left as they were. -/
def window (res : List (BitVec 32)) (k : Nat) : List (BitVec 32) := (res.drop k).take 10

theorem window_split (res : List (BitVec 32)) (k : Nat) :
    res = res.take k ++ window res k ++ res.drop (k + 10) := by
  rw [window, List.append_assoc, ← List.drop_drop, List.take_append_drop, List.take_append_drop]

theorem getD_window (res : List (BitVec 32)) (k : Nat) {j : Nat} (hj : j < 10) :
    (window res k).getD j 0 = res.getD (k + j) 0 := by
  rw [window, List.getD_eq_getElem?_getD, List.getElem?_take_of_lt hj, List.getElem?_drop,
    ← List.getD_eq_getElem?_getD]

section Step

variable {m : Modulus} {c k : Nat} {res : List (BitVec 32)} (h : Reducing m c (k + 1) res)
  (hk : k ≤ 8)
include h hk

theorem Reducing.length_window : (window res k).length = 10 := by
  have hlen := h.length
  rw [window, List.length_take, List.length_drop]
  omega

theorem Reducing.length_take : (res.take k).length = k := by
  have hlen := h.length
  rw [List.length_take]
  omega

/-- The limbs above the window are zero, and the window is bounded. -/
theorem Reducing.window_lt :
    number (res.drop (k + 10)) = 0 ∧ number (window res k) < 2 ^ 31 * value m.prime := by
  have hlt := h.lt
  have hsplit := congrArg number (window_split res k)
  rw [number_append, number_append, h.length_take hk, List.length_append, h.length_take hk,
    h.length_window hk] at hsplit
  have hprime := m.value_lt
  have hpos : 0 < (2 ^ 30) ^ k := by positivity
  constructor
  · -- a limb above the window alone would be more than the whole number may be
    by_contra hne
    have hone : 1 ≤ number (res.drop (k + 10)) := Nat.one_le_iff_ne_zero.mpr hne
    have hle : (2 ^ 30) ^ (k + 10) ≤ (2 ^ 30) ^ (k + 10) * number (res.drop (k + 10)) :=
      Nat.le_mul_of_pos_right _ hone
    have hmul : (2 ^ 30) ^ (k + 1) * (2 * value m.prime) ≤ (2 ^ 30) ^ (k + 1) * (2 ^ 30) ^ 9 :=
      Nat.mul_le_mul_left _ (by omega)
    rw [← pow_add] at hmul
    have hexp : k + 1 + 9 = k + 10 := by omega
    rw [hexp] at hmul
    omega
  · -- the bound of the number, without the limbs below the window
    have hle : (2 ^ 30) ^ k * number (window res k) < (2 ^ 30) ^ k * (2 ^ 31 * value m.prime) := by
      calc (2 ^ 30) ^ k * number (window res k) ≤ number res := by rw [hsplit]; omega
        _ < (2 ^ 30) ^ (k + 1) * (2 * value m.prime) := hlt
        _ = (2 ^ 30) ^ k * (2 ^ 31 * value m.prime) := by rw [pow_succ]; ring
    exact Nat.lt_of_mul_lt_mul_left hle

/-- The highest two limbs of the window. -/
theorem Reducing.number_window :
    ∃ low < 2 ^ 240, number (window res k) =
      low + 2 ^ 240 * ((res.getD (k + 8) 0).toNat + 2 ^ 30 * (res.getD (k + 9) 0).toNat) := by
  have hdigits : Limbs.Digits 30 (window res k) := by
    intro x hx
    exact h.digits x (List.mem_of_mem_drop (List.mem_of_mem_take hx))
  -- the two limbs that the estimate reads are the ninth and tenth of the window
  have htake : (window res k).drop 8 = [(res.getD (k + 8) 0), (res.getD (k + 9) 0)] := by
    apply List.ext_getElem
    · rw [List.length_drop, h.length_window hk]
      rfl
    · intro i h₁ h₂
      have hi : 8 + i < (window res k).length := by
        rw [List.length_drop] at h₁
        omega
      rw [List.getElem_drop, ← List.getD_eq_getElem _ 0 hi]
      have hlen := h.length_window hk
      rw [getD_window res k (by omega)]
      have hcases : i = 0 ∨ i = 1 := by omega
      rcases hcases with rfl | rfl
      · rfl
      · rfl
  have hlow : Limbs.Digits 30 ((window res k).take 8) := fun x hx =>
    hdigits x (List.mem_of_mem_take hx)
  refine ⟨number ((window res k).take 8), ?_, ?_⟩
  · have hlt := hlow.lt
    have hlen : ((window res k).take 8).length = 8 := by
      rw [List.length_take, h.length_window hk]
      rfl
    rw [hlen] at hlt
    have hpow : ((2 : Nat) ^ 30) ^ 8 = 2 ^ 240 := by norm_num
    rwa [hpow] at hlt
  · have hsplit := congrArg number (List.take_append_drop 8 (window res k)).symm
    have hlen : ((window res k).take 8).length = 8 := by
      rw [List.length_take, h.length_window hk]
      rfl
    have hpow : ((2 : Nat) ^ 30) ^ 8 = 2 ^ 240 := by norm_num
    rw [number_append, hlen, htake, hpow] at hsplit
    rw [hsplit]
    simp [number, Nat.ofDigits_cons]

/-- The estimate is the quotient by `2 ^ 256`. -/
theorem Reducing.toNat_reduceCoef :
    (reduceCoef res (8 + k)).toNat = number (window res k) / 2 ^ 256 := by
  obtain ⟨low, hlow, hnumber⟩ := h.number_window hk
  have hlt := (h.window_lt hk).2
  have hprime := m.value_lt
  have h8 : (res.getD (k + 8) 0).toNat < 2 ^ 30 := h.digits.getD_lt _
  -- the highest limb is short, so the shifted sum stays within a word
  have h9 : (res.getD (k + 9) 0).toNat < 2 ^ 17 := by omega
  have hexp : 8 + k = k + 8 := by omega
  have hshift : (res.getD (k + 9) 0 <<< 14).toNat = (res.getD (k + 9) 0).toNat * 2 ^ 14 := by
    rw [BitVec.toNat_shiftLeft, Nat.shiftLeft_eq, Nat.mod_eq_of_lt (by omega)]
  rw [reduceCoef, hexp, BitVec.toNat_add, BitVec.toNat_ushiftRight, Nat.shiftRight_eq_div_pow,
    hshift, Nat.mod_eq_of_lt (by omega)]
  omega

theorem Reducing.toNat_coef :
    ((reduceCoef res (8 + k)).setWidth 64).toNat = number (window res k) / 2 ^ 256 ∧
      number (window res k) / 2 ^ 256 < 2 ^ 31 := by
  have hcoef := h.toNat_reduceCoef hk
  have hlt := (h.window_lt hk).2
  have hprime := m.value_lt
  have hbound : number (window res k) / 2 ^ 256 < 2 ^ 31 := by omega
  refine ⟨?_, hbound⟩
  rw [BitVec.toNat_setWidth, hcoef, Nat.mod_eq_of_lt (by omega)]

/-- The multiple is not greater than what it is subtracted from, and leaves less than twice the
modulus. -/
theorem Reducing.multiple_le :
    number (window res k) / 2 ^ 256 * value m.prime ≤ number (window res k) ∧
      number (window res k) < number (window res k) / 2 ^ 256 * value m.prime +
        2 * value m.prime := by
  have hbound := (h.toNat_coef hk).2
  have hprime := m.value_lt
  have hprime' := m.le_value
  -- the modulus is below `2 ^ 256`, so the estimate is not too large
  have hupper : number (window res k) / 2 ^ 256 * value m.prime ≤
      number (window res k) / 2 ^ 256 * 2 ^ 256 := Nat.mul_le_mul_left _ (Nat.le_of_lt hprime)
  -- and above `2 ^ 256 - 2 ^ 224`, so it is too small by less than two
  have hlower : number (window res k) / 2 ^ 256 * (2 ^ 256 - 2 ^ 224) ≤
      number (window res k) / 2 ^ 256 * value m.prime := Nat.mul_le_mul_left _ hprime'
  omega

/-- The window after the step. -/
theorem Reducing.number_ripple :
    number (Limbs.rippleList 30 32 (0 : BitVec 64) ((List.range 10).map fun j =>
      multipleColumn ((reduceCoef res (8 + k)).setWidth 64) j (res.getD (8 + k - 8 + j) 0)
        (m.prime.toList.getD j 0))) =
      number (window res k) - number (window res k) / 2 ^ 256 * value m.prime := by
  obtain ⟨hcoef, hbound⟩ := h.toNat_coef hk
  obtain ⟨hle, hlt⟩ := h.multiple_le hk
  have hprime := m.value_lt
  have hdigits : Limbs.Digits 30 m.prime.toList := fun x hx =>
    m.normalized.digit_lt _ (List.mem_map_of_mem hx)
  -- each product stays below the offset that the column adds to remain positive
  have hproduct : ∀ j, (m.prime.toList.getD j 0).toNat *
      ((reduceCoef res (8 + k)).setWidth 64).toNat ≤ 2 ^ 61 - 2 ^ 31 := by
    intro j
    have hmul : (m.prime.toList.getD j 0).toNat * ((reduceCoef res (8 + k)).setWidth 64).toNat ≤
        (2 ^ 30 - 1) * (2 ^ 31 - 1) := by
      apply Nat.mul_le_mul
      · have hj := hdigits.getD_lt j
        omega
      · rw [hcoef]
        omega
    exact Nat.le_trans hmul (by norm_num)
  -- the offsets, the window and the multiple are summed apart
  have hcolumns := Limbs.sum_sub_columns (Finset.range 10) offset
    (fun j => (res.getD (8 + k - 8 + j) 0).toNat)
    (fun j => (m.prime.toList.getD j 0).toNat * ((reduceCoef res (8 + k)).setWidth 64).toNat)
    (fun j => (2 ^ 30) ^ j) fun j _ => by
      have hj := hproduct j
      have hj' := le_offset j
      omega
  have hwindow : ∑ j ∈ Finset.range 10, (res.getD (8 + k - 8 + j) 0).toNat * (2 ^ 30) ^ j =
      number (window res k) := by
    rw [number, Limbs.ofDigits_eq_sum_range (n := 10) (by rw [h.length_window hk])]
    apply Finset.sum_congr rfl
    intro j hj
    rw [getD_window res k (Finset.mem_range.mp hj), Nat.add_sub_cancel_left]
  have hmultiple : ∑ j ∈ Finset.range 10, (m.prime.toList.getD j 0).toNat *
      ((reduceCoef res (8 + k)).setWidth 64).toNat * (2 ^ 30) ^ j =
        number (window res k) / 2 ^ 256 * value m.prime := by
    rw [hcoef, value, Limbs.value_eq_ofDigits,
      Limbs.ofDigits_eq_sum_range (n := 10) (by simp), Finset.mul_sum]
    apply Finset.sum_congr rfl
    intro j _
    ring
  -- the offsets add up to a carry out of the last column, which is dropped
  rw [hwindow, hmultiple, sum_offset 9] at hcolumns
  rw [number, Limbs.ofDigits_rippleList (by decide) (by decide) (by decide),
    Limbs.ofDigits_map_range, List.length_map, List.length_range]
  · simp only [toNat_multipleColumn (hproduct _)]
    have hzero : (0 : BitVec 64).toNat = 0 := rfl
    rw [hzero]
    omega
  · intro column hcolumn
    obtain ⟨j, -, rfl⟩ := List.mem_map.mp hcolumn
    exact room_multipleColumn (hproduct j)

/-- One step subtracts the multiple of the modulus at the height of the window, and nothing
else. -/
theorem Reducing.number_step :
    number (bnMultiplyReduceStep m.prime res (8 + k)) + (2 ^ 30) ^ k *
      (number (window res k) / 2 ^ 256 * value m.prime) = number res := by
  have hle := (h.multiple_le hk).1
  have hzero := (h.window_lt hk).1
  have hlow : 8 + k - 8 = k := by omega
  have hhigh : 8 + k + 2 = k + 10 := by omega
  -- below the window nothing changes, above it everything is zero
  have hstep : number (bnMultiplyReduceStep m.prime res (8 + k)) = number (res.take k) +
      (2 ^ 30) ^ k * (number (window res k) -
        number (window res k) / 2 ^ 256 * value m.prime) := by
    rw [bnMultiplyReduceStep, number_append, number_append, h.number_ripple hk, hlow, hhigh, hzero,
      h.length_take hk, Nat.mul_zero, Nat.add_zero]
  have hsplit := congrArg number (window_split res k)
  rw [number_append, number_append, h.length_take hk, hzero, Nat.mul_zero, Nat.add_zero] at hsplit
  rw [hstep, hsplit, Nat.add_assoc, ← Nat.mul_add, Nat.sub_add_cancel hle]

/-- **One step of the reduction** takes off one limb, and none of its sums is negative. -/
theorem Reducing.step : Reducing m c k (bnMultiplyReduceStep m.prime res (8 + k)) where
  length := by
    have hlen := h.length
    have htake := h.length_take hk
    have hlow : 8 + k - 8 = k := by omega
    rw [bnMultiplyReduceStep, List.length_append, List.length_append, hlow, htake,
      Limbs.length_rippleList, List.length_map, List.length_range, List.length_drop]
    omega
  digits := by
    intro x hx
    rw [bnMultiplyReduceStep] at hx
    rcases List.mem_append.mp hx with hx' | hdrop
    · rcases List.mem_append.mp hx' with htake | hripple
      · exact h.digits x (List.mem_of_mem_take htake)
      · exact Limbs.digit_lt_of_mem_rippleList (by decide) (by decide) hripple
    · exact h.digits x (List.mem_of_mem_drop hdrop)
  lt := by
    have hstep := h.number_step hk
    have hlt := (h.multiple_le hk).2
    have hzero := (h.window_lt hk).1
    have hsplit := congrArg number (window_split res k)
    rw [number_append, number_append, h.length_take hk, hzero, Nat.mul_zero, Nat.add_zero]
      at hsplit
    have hlow : number (res.take k) < (2 ^ 30) ^ k := by
      have hdigits : Limbs.Digits 30 (res.take k) := fun x hx =>
        h.digits x (List.mem_of_mem_take hx)
      have hlt' := hdigits.lt
      rwa [h.length_take hk] at hlt'
    -- what is left of the window is below twice the modulus, and the limbs under it are digits
    have hmul : (2 ^ 30) ^ k * (number (window res k) + 1) ≤ (2 ^ 30) ^ k *
        (number (window res k) / 2 ^ 256 * value m.prime + 2 * value m.prime) :=
      Nat.mul_le_mul_left _ hlt
    rw [Nat.mul_add, Nat.mul_one, Nat.mul_add] at hmul
    omega
  modEq := by
    have hstep := h.number_step hk
    have hmultiple : (2 ^ 30) ^ k * (number (window res k) / 2 ^ 256 * value m.prime) =
        value m.prime * ((2 ^ 30) ^ k * (number (window res k) / 2 ^ 256)) := by ring
    apply Nat.ModEq.trans _ h.modEq
    rw [Nat.ModEq, ← hstep, hmultiple, Nat.add_mul_mod_self_left]

/-- The assertions of the step hold. -/
theorem Reducing.assertions :
    (reduceCoef res (8 + k)).toNat < 2 ^ 31 ∧
      (bnMultiplyReduceStep m.prime res (8 + k)).getD (8 + k + 1) 0 = 0 := by
  constructor
  · rw [h.toNat_reduceCoef hk]
    exact (h.toNat_coef hk).2
  · -- what is left is less than twice the modulus at this height, which has no such limb
    have hlt := (h.step hk).lt
    have hle := Limbs.getD_mul_le (bnMultiplyReduceStep m.prime res (8 + k)) (2 ^ 30) (8 + k + 1)
    have hprime := m.value_lt
    have hexp : 8 + k + 1 = k + 9 := by omega
    have hbound : (2 ^ 30) ^ k * (2 * value m.prime) < (2 ^ 30) ^ (k + 9) := by
      rw [pow_add]
      exact Nat.mul_lt_mul_of_pos_left (by omega) (by positivity)
    rw [hexp] at hle ⊢
    apply BitVec.eq_of_toNat_eq
    by_contra hne
    have hpos : (2 ^ 30) ^ (k + 9) ≤
        ((bnMultiplyReduceStep m.prime res (8 + k)).getD (k + 9) 0).toNat * (2 ^ 30) ^ (k + 9) :=
      Nat.le_mul_of_pos_left _ (Nat.pos_of_ne_zero hne)
    exact absurd (Nat.lt_of_le_of_lt (Nat.le_trans hpos hle) (Nat.lt_trans hlt hbound))
      (Nat.lt_irrefl _)

end Step

/-- The limbs while `n` steps remain. The loop counts down, so that the highest limbs go first. -/
def reducedTo (prime : Bignum256) (res : List (BitVec 32)) (n : Nat) : List (BitVec 32) :=
  (reduceIndices.take (9 - n)).foldl (bnMultiplyReduceStep prime) res

theorem reducedTo_succ (prime : Bignum256) (res : List (BitVec 32)) {k : Nat} (hk : k ≤ 8) :
    reducedTo prime res k = bnMultiplyReduceStep prime (reducedTo prime res (k + 1)) (8 + k) := by
  have htake : reduceIndices.take (9 - k) = reduceIndices.take (9 - (k + 1)) ++ [8 + k] := by
    interval_cases k <;> rfl
  rw [reducedTo, htake, List.foldl_append]
  rfl

/-- **The whole reduction**, from any number that it can start with, by induction on the steps
that remain. -/
theorem Reducing.run {m : Modulus} {c : Nat} {res : List (BitVec 32)} (h : Reducing m c 9 res) :
    ∀ k ≤ 9, Reducing m c k (reducedTo m.prime res k) := by
  intro k hk
  induction hk using Nat.decreasingInduction with
  | self => exact h
  | of_succ k hlt ih =>
    rw [reducedTo_succ m.prime res (by omega)]
    exact ih.step (by omega)

/-! ## Modular Products -/

/-- The product of two numbers below 180 times the modulus is what the nine steps start from. -/
theorem reducing_product {k x : Bignum256} {m : Modulus} (hk : Normalized k) (hx : Normalized x)
    (hk' : value k < 180 * value m.prime) (hx' : value x < 180 * value m.prime) :
    Reducing m (value k * value x) 9 (bnMultiplyLong k x) where
  length := by simp [bnMultiplyLong]
  digits := fun _ hy => Limbs.digit_lt_of_mem_rippleList (by decide) (by decide) hy
  lt := by
    have hprime := m.value_lt
    have hmul : value k * value x ≤ 180 * value m.prime * (180 * value m.prime) :=
      Nat.mul_le_mul (Nat.le_of_lt hk') (Nat.le_of_lt hx')
    -- 180 squared is 32400, which is just below the `2 ^ 15` that the bound allows
    have hsquare : value m.prime * value m.prime ≤ 2 ^ 256 * value m.prime :=
      Nat.mul_le_mul_right _ (Nat.le_of_lt hprime)
    have hle := m.le_value
    rw [number, ofDigits_bnMultiplyLong hk hx]
    calc value k * value x ≤ 32400 * (value m.prime * value m.prime) := by linarith
      _ < (2 ^ 30) ^ 9 * (2 * value m.prime) := by omega
  modEq := by rw [number, ofDigits_bnMultiplyLong hk hx]

/-- A number that fits keeps its value without the upper limbs. -/
theorem value_ofFn_getD {res : List (BitVec 32)} (hlen : res.length = 18)
    (hlt : number res < (2 ^ 30) ^ 9) :
    value (Vector.ofFn fun i : Fin 9 => res.getD i 0) = number res := by
  have hsubset : Finset.range 9 ⊆ Finset.range 18 := Finset.range_subset_range.mpr (by decide)
  rw [value, Limbs.value_ofFn, number, Limbs.ofDigits_eq_sum_range (Nat.le_of_eq hlen),
    ← Finset.sum_subset hsubset, Finset.sum_range]
  intro i _ hi
  have hge : 9 ≤ i := Nat.not_lt.mp fun h => hi (Finset.mem_range.mpr h)
  have hle := Limbs.getD_mul_le res (2 ^ 30) i
  have hpow : ((2 : Nat) ^ 30) ^ 9 ≤ (2 ^ 30) ^ i := Nat.pow_le_pow_right (by decide) hge
  -- an upper limb that is not zero would alone exceed the number
  have hzero : (res.getD i 0).toNat = 0 := by
    by_contra hne
    have hpos : (2 ^ 30) ^ i ≤ (res.getD i 0).toNat * (2 ^ 30) ^ i :=
      Nat.le_mul_of_pos_left _ (Nat.pos_of_ne_zero hne)
    exact absurd (Nat.lt_of_le_of_lt (Nat.le_trans hpow (Nat.le_trans hpos hle)) hlt)
      (Nat.lt_irrefl _)
  rw [hzero, Nat.zero_mul]

section Multiply

variable {k x : Bignum256} {m : Modulus} (hk : Normalized k) (hx : Normalized x)
  (hk' : value k < 180 * value m.prime) (hx' : value x < 180 * value m.prime)
include hk hx hk' hx'

theorem value_bnMultiply :
    value (bnMultiply k x m.prime) = number (reducedTo m.prime (bnMultiplyLong k x) 0) := by
  have hrun := (reducing_product hk hx hk' hx').run 0 (by decide)
  have hlt := hrun.lt
  have hprime := m.value_lt
  have hfits : number (reducedTo m.prime (bnMultiplyLong k x) 0) < (2 ^ 30) ^ 9 := by omega
  exact value_ofFn_getD hrun.length hfits

theorem partlyReduced_bnMultiply : PartlyReduced (bnMultiply k x m.prime) m where
  normalized := by
    have hrun := (reducing_product hk hx hk' hx').run 0 (by decide)
    intro i
    rw [bnMultiply, bnMultiplyReduce, Fin.getElem_fin, Vector.getElem_ofFn]
    exact hrun.digits.getD_lt _
  lt := by
    have hrun := (reducing_product hk hx hk' hx').run 0 (by decide)
    have hlt := hrun.lt
    rw [value_bnMultiply hk hx hk' hx']
    omega

theorem bnMultiply_modEq :
    value (bnMultiply k x m.prime) ≡ value k * value x [MOD value m.prime] := by
  rw [value_bnMultiply hk hx hk' hx']
  exact ((reducing_product hk hx hk' hx').run 0 (by decide)).modEq

end Multiply

end RlyNetworkSdk.Crypto.Bignum
