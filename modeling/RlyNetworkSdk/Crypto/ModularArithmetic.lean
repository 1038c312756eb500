import RlyNetworkSdk.Crypto.Bignum
import Mathlib.Data.Nat.ModEq

/-!
# Modular Arithmetic

Sums, differences and products of big numbers, up to a multiple of the modulus. Every operation
is one carry loop over columns, and so its value is a sum of columns (`Limbs.value_ripple`). A
result is *partly reduced* when it is normalized and below twice the modulus; `bn_mod` reduces it
fully.
-/

namespace RlyNetworkSdk.Crypto.Bignum

open Encoding

/-- A modulus as the comment at the head of the file assumes it: a normalized number, not far
below 2^256. -/
structure Modulus where
  prime : Bignum256
  normalized : Normalized prime
  le_value : 2 ^ 256 - 2 ^ 224 ≤ value prime
  value_lt : value prime < 2 ^ 256

/-- What the operations leave. A number below twice the modulus is enough for each of them to be
applied to the results of the others. -/
structure PartlyReduced (x : Bignum256) (m : Modulus) : Prop where
  normalized : Normalized x
  lt : value x < 2 * value m.prime

/-! ## The Operations -/

def bnAdd (a b : Bignum256) : Bignum256 := Limbs.ripple 30 32 0 (Vector.zipWith (· + ·) a b)

def bnAddi (a : Bignum256) (b : BitVec 32) : Bignum256 := Limbs.ripple 30 32 b a

def bnSubtract (a b : Bignum256) : Bignum256 :=
  Limbs.ripple 30 32 1 (Vector.zipWith (fun x y => 0x3FFFFFFF + x - y) a b)

/-- `res = a - b mod prime`, more exactly `res = a + (2 * prime - b)`. -/
def bnSubtractmod (a b prime : Bignum256) : Bignum256 :=
  Limbs.ripple 30 32 1 (Vector.ofFn fun i : Fin 9 => 0x3FFFFFFF + a[i] + 2 * prime[i] - b[i])

/-- The column of limb `j` where a multiple of the modulus is subtracted. The constants keep it
from getting negative. -/
def multipleColumn (coef : BitVec 64) (j : Nat) (x prime : BitVec 32) : BitVec 64 :=
  (if j = 0 then 0x2000000000000000#64 else 0x1FFFFFFF80000000#64) + x.setWidth 64 -
    prime.setWidth 64 * coef

def bnFastMod (x prime : Bignum256) : Bignum256 :=
  let coef := (top x >>> 16).setWidth 64
  Limbs.ripple 30 32 (0 : BitVec 64)
    (Vector.ofFn fun j : Fin 9 => multipleColumn coef j x[j] prime[j])

def bnAddmod (a b prime : Bignum256) : Bignum256 := bnFastMod (Vector.zipWith (· + ·) a b) prime

def bnMultK (x : Bignum256) (k : BitVec 8) (prime : Bignum256) : Bignum256 :=
  bnFastMod (x.map (k.setWidth 32 * ·)) prime

/-- Half of the number, or of its sum with the modulus if it is odd: the loop from limb `j` on,
where `tmp1` is what is carried, over the pairs of limbs above. -/
def halveLimbs (xodd tmp1 : BitVec 32) : List (BitVec 32 × BitVec 32) → List (BitVec 32)
  | [] => [tmp1]
  | (x, prime) :: limbs =>
    let tmp2 := x + (prime &&& xodd)
    let tmp1 := tmp1 + (tmp2 &&& 1) <<< 29
    (tmp1 &&& 0x3FFFFFFF) :: halveLimbs xodd (tmp1 >>> 30 + tmp2 >>> 1) limbs

theorem length_halveLimbs (xodd tmp1 : BitVec 32) (limbs : List (BitVec 32 × BitVec 32)) :
    (halveLimbs xodd tmp1 limbs).length = limbs.length + 1 := by
  induction limbs generalizing tmp1 with
  | nil => rfl
  | cons p limbs ih => rw [halveLimbs, List.length_cons, ih, List.length_cons]

theorem size_halveLimbs (xodd tmp1 : BitVec 32) (x prime : Bignum256) :
    (halveLimbs xodd tmp1 (x.toList.zip prime.toList).tail).toArray.size = 9 := by
  simp [length_halveLimbs]

def bnMultHalf (x prime : Bignum256) : Bignum256 :=
  let xodd := -(x[0] &&& 1)
  let tmp1 := (x[0] + (prime[0] &&& xodd)) >>> 1
  ⟨(halveLimbs xodd tmp1 (x.toList.zip prime.toList).tail).toArray, size_halveLimbs _ _ _ _⟩

def bnMod (x prime : Bignum256) : Bignum256 :=
  let flag := bnIsLess x prime
  let temp := bnSubtract x prime
  bnCmov flag x temp

/-! ## Sums and Differences -/

theorem sum_mask : ∑ i : Fin 9, (2 ^ 30 - 1) * (2 ^ 30) ^ i.val = (2 ^ 30) ^ 9 - 1 := by
  simp [Fin.sum_univ_succ]

/-- The columns of a sum of normalized numbers do not overflow. -/
theorem value_zipWith_add {a b : Bignum256} (ha : Normalized a) (hb : Normalized b) :
    value (Vector.zipWith (· + ·) a b) = value a + value b := by
  have hcolumn : ∀ i : Fin 9, (Vector.zipWith (· + ·) a b)[i].toNat = a[i].toNat + b[i].toNat := by
    intro i
    have ha' := ha i
    have hb' := hb i
    simp only [Fin.getElem_fin, Vector.getElem_zipWith, BitVec.toNat_add] at *
    omega
  simp only [value, Limbs.value, hcolumn, Nat.add_mul, Finset.sum_add_distrib]

/-- What is carried out of the last limb is lost. -/
theorem value_bnAdd {a b : Bignum256} (ha : Normalized a) (hb : Normalized b) :
    value (bnAdd a b) = (value a + value b) % (2 ^ 30) ^ 9 := by
  rw [bnAdd, value, Limbs.value_ripple (by decide) (by decide) (by decide)]
  · rw [← value_zipWith_add ha hb]
    simp
  · intro i
    have ha' := ha i
    have hb' := hb i
    simp only [Limbs.Room, Fin.getElem_fin, Vector.getElem_zipWith, BitVec.toNat_add] at *
    omega

theorem normalized_bnSubtract (a b : Bignum256) : Normalized (bnSubtract a b) :=
  Limbs.normalized_ripple (by decide) (by decide) _ _

theorem value_bnSubtract {a b : Bignum256} (ha : Normalized a) (hb : Normalized b) :
    value (bnSubtract a b) = (value a + (2 ^ 30) ^ 9 - value b) % (2 ^ 30) ^ 9 := by
  -- each column borrows `2 ^ 30 - 1` in advance, so it is not negative
  have hcolumn : ∀ i : Fin 9, (Vector.zipWith (fun x y => 0x3FFFFFFF + x - y) a b)[i].toNat =
      (2 ^ 30 - 1) + a[i].toNat - b[i].toNat := by
    intro i
    have ha' := ha i
    have hb' := hb i
    simp only [Fin.getElem_fin, Vector.getElem_zipWith] at *
    bv_omega
  -- the borrowed columns add up to one less than the next power, and the carry starts with one
  have hcolumns : Limbs.value 30 (Vector.zipWith (fun x y => 0x3FFFFFFF + x - y) a b) + value b =
      ((2 ^ 30) ^ 9 - 1) + value a := by
    simp only [value, Limbs.value, hcolumn, ← sum_mask]
    apply Limbs.sum_sub_columns Finset.univ (fun _ => 2 ^ 30 - 1) (fun i : Fin 9 => a[i].toNat)
      (fun i => b[i].toNat) fun i => (2 ^ 30) ^ i.val
    intro i _
    have hb' := hb i
    omega
  have hlt := hb.value_lt
  rw [bnSubtract, value, Limbs.value_ripple (by decide) (by decide) (by decide)]
  · have hone : (1 : BitVec 32).toNat = 1 := rfl
    rw [hone]
    omega
  · intro i
    have ha' := ha i
    rw [Limbs.Room, hcolumn i]
    omega

/-! ## Reduction -/

theorem value_bnMod {x : Bignum256} {m : Modulus} (hx : PartlyReduced x m) :
    value (bnMod x m.prime) = value x % value m.prime := by
  have hlt := hx.lt
  have hlt' := m.value_lt
  rw [bnMod, bnCmov_eq, bnIsLess_eq hx.normalized m.normalized]
  -- less than twice the modulus, so at most one subtraction is due
  by_cases hless : value x < value m.prime
  · simp [hless, Nat.mod_eq_of_lt]
  · have hmod : value x % value m.prime = value x - value m.prime := by
      rw [Nat.mod_eq_sub_mod (Nat.not_lt.mp hless), Nat.mod_eq_of_lt (by omega)]
    have hsub := value_bnSubtract hx.normalized m.normalized
    simp only [hless, decide_false, Bool.false_eq_true, if_false, hsub]
    omega

theorem normalized_bnMod {x : Bignum256} {m : Modulus} (hx : PartlyReduced x m) :
    Normalized (bnMod x m.prime) := by
  rw [bnMod, bnCmov_eq]
  split
  · exact hx.normalized
  · exact normalized_bnSubtract _ _

/-- What is added to each column, so that none is negative. What it adds to one is taken from
the next, as a borrow. -/
def offset (j : Nat) : Nat := if j = 0 then 2 ^ 61 else 2 ^ 61 - 2 ^ 31

theorem le_offset (j : Nat) : 2 ^ 61 - 2 ^ 31 ≤ offset j := by
  rw [offset]
  split <;> omega

theorem offset_le (j : Nat) : offset j ≤ 2 ^ 61 := by
  rw [offset]
  split <;> omega

/-- The offsets add up to a multiple of what the limbs hold. -/
theorem sum_offset (n : Nat) :
    ∑ j ∈ Finset.range (n + 1), offset j * (2 ^ 30) ^ j = 2 ^ 31 * (2 ^ 30) ^ (n + 1) := by
  induction n with
  | zero => simp [offset]
  | succ n ih =>
    have hoffset : offset (n + 1) = 2 ^ 61 - 2 ^ 31 := by simp [offset]
    rw [Finset.sum_range_succ, ih, hoffset, pow_succ _ (n + 1)]
    ring

theorem toNat_multipleColumn {coef : BitVec 64} {j : Nat} {x prime : BitVec 32}
    (h : prime.toNat * coef.toNat ≤ 2 ^ 61 - 2 ^ 31) :
    (multipleColumn coef j x prime).toNat = offset j + x.toNat - prime.toNat * coef.toNat := by
  have hx := x.isLt
  have hprime := prime.isLt
  have hle := le_offset j
  have hle' := offset_le j
  -- the offset of the first column and of the others differ by the carry that they pass on
  have hoffset : (if j = 0 then 0x2000000000000000#64 else 0x1FFFFFFF80000000#64).toNat =
      offset j := by
    rw [offset]
    split <;> rfl
  have hwide : (x.setWidth 64).toNat = x.toNat := by
    rw [BitVec.toNat_setWidth, Nat.mod_eq_of_lt (by omega)]
  -- the product of a limb and the coefficient fits in sixty-four bits
  have hmul : (prime.setWidth 64 * coef).toNat = prime.toNat * coef.toNat := by
    have hwide' : (prime.setWidth 64).toNat = prime.toNat := by
      rw [BitVec.toNat_setWidth, Nat.mod_eq_of_lt (by omega)]
    rw [BitVec.toNat_mul, hwide', Nat.mod_eq_of_lt (by omega)]
  rw [multipleColumn, BitVec.toNat_sub, BitVec.toNat_add, hmul, hoffset, hwide]
  omega

/-- No column overflows, whatever is carried into it. -/
theorem room_multipleColumn {coef : BitVec 64} {j : Nat} {x prime : BitVec 32}
    (h : prime.toNat * coef.toNat ≤ 2 ^ 61 - 2 ^ 31) :
    Limbs.Room 30 (multipleColumn coef j x prime) := by
  have hx := x.isLt
  have hle := offset_le j
  rw [Limbs.Room, toNat_multipleColumn h]
  omega

theorem top_eq {x : Bignum256} (hx : Normalized x) : (top x).toNat = value x / 2 ^ 240 := by
  have hvalue := value_eq_take x
  have hlow : Nat.ofDigits (2 ^ 30) ((x.toList.take 8).map BitVec.toNat) <
      (2 ^ 30) ^ (x.toList.take 8).length := by
    apply Limbs.Digits.lt
    intro y hy
    exact hx.digit_lt _ (List.mem_map_of_mem (List.mem_of_mem_take hy))
  have hlength : (x.toList.take 8).length = 8 := by simp
  rw [hlength] at hlow
  omega

/-- The number is above the multiple that is subtracted. -/
theorem coef_mul_le (x : Bignum256) (m : Modulus) :
    (top x).toNat / 2 ^ 16 * value m.prime ≤ value x := by
  have htop : (top x).toNat * 2 ^ 240 ≤ value x := by
    have hvalue := value_eq_take x
    omega
  have hprime := m.value_lt
  have hmul : (top x).toNat / 2 ^ 16 * value m.prime ≤ (top x).toNat / 2 ^ 16 * 2 ^ 256 :=
    Nat.mul_le_mul_left _ (Nat.le_of_lt hprime)
  omega

theorem sub_coef_mul_lt (x : Bignum256) (m : Modulus) :
    value x < (top x).toNat / 2 ^ 16 * value m.prime + 2 * value m.prime := by
  have hvalue : value x ≤ (top x).toNat * 2 ^ 240 + ∑ i : Fin 8, (2 ^ 32 - 1) * (2 ^ 30) ^ i.val := by
    rw [value, Limbs.value, Fin.sum_univ_castSucc]
    have hlow : ∑ i : Fin 8, x[i.castSucc].toNat * (2 ^ 30) ^ i.castSucc.val ≤
        ∑ i : Fin 8, (2 ^ 32 - 1) * (2 ^ 30) ^ i.val := by
      apply Finset.sum_le_sum
      intro i _
      have hi := x[i.castSucc].isLt
      exact Nat.mul_le_mul (by omega) (Nat.le_refl _)
    have htop : x[Fin.last 8].toNat * (2 ^ 30) ^ (Fin.last 8).val = (top x).toNat * 2 ^ 240 := by
      simp
    omega
  have hsum : ∑ i : Fin 8, (2 ^ 32 - 1) * (2 ^ 30) ^ i.val ≤ 2 ^ 243 := by
    simp [Fin.sum_univ_succ]
  have hprime := m.le_value
  have hcoef : (top x).toNat / 2 ^ 16 < 2 ^ 16 := by
    have hx := (top x).isLt
    omega
  -- the multiple is short of the top limbs by at most `2 ^ 16` times what the modulus lacks
  have hmul : (top x).toNat / 2 ^ 16 * (2 ^ 256 - 2 ^ 224) ≤ (top x).toNat / 2 ^ 16 * value m.prime :=
    Nat.mul_le_mul_left _ hprime
  omega

/-- **The fast reduction subtracts a multiple of the modulus**, from any limbs whatever. The
multiple is guessed from the upper bits of the top limb. -/
theorem value_bnFastMod (x : Bignum256) (m : Modulus) :
    value (bnFastMod x m.prime) = value x - (top x).toNat / 2 ^ 16 * value m.prime := by
  -- the coefficient is read from the highest limb, above bit 256
  have hcoef : ((top x >>> 16).setWidth 64).toNat = (top x).toNat / 2 ^ 16 := by
    have hx := (top x).isLt
    rw [BitVec.toNat_setWidth, BitVec.toNat_ushiftRight, Nat.shiftRight_eq_div_pow,
      Nat.mod_eq_of_lt (by omega)]
  have hproduct : ∀ j : Fin 9,
      m.prime[j].toNat * ((top x >>> 16).setWidth 64).toNat ≤ 2 ^ 61 - 2 ^ 31 := by
    intro j
    have hx := (top x).isLt
    have hmul : m.prime[j].toNat * ((top x).toNat / 2 ^ 16) ≤ 2 ^ 30 * 2 ^ 16 :=
      Nat.mul_le_mul (Nat.le_of_lt (m.normalized j)) (by omega)
    rw [hcoef]
    omega
  have hnonneg : ∀ j : Fin 9, m.prime[j].toNat * ((top x >>> 16).setWidth 64).toNat ≤
      offset j + x[j].toNat := by
    intro j
    have hle := le_offset j
    have hp := hproduct j
    omega
  -- no column is negative, so the sums may be taken apart
  have hcolumns := Limbs.sum_sub_columns Finset.univ (fun j : Fin 9 => offset j.val)
    (fun j => x[j].toNat) _ (fun j => (2 ^ 30) ^ j.val) fun j _ => hnonneg j
  have hmultiple : ∑ j : Fin 9, m.prime[j].toNat * ((top x >>> 16).setWidth 64).toNat *
      (2 ^ 30) ^ j.val = (top x).toNat / 2 ^ 16 * value m.prime := by
    rw [hcoef, value, Limbs.value, Finset.mul_sum]
    apply Finset.sum_congr rfl
    intro j _
    ring
  have hx : ∑ j : Fin 9, x[j].toNat * (2 ^ 30) ^ j.val = value x := rfl
  have hoffset : ∑ j : Fin 9, offset j.val * (2 ^ 30) ^ j.val = 2 ^ 31 * (2 ^ 30) ^ 9 := by
    rw [← sum_offset 8, Finset.sum_range]
  rw [hmultiple, hoffset, hx] at hcolumns
  rw [bnFastMod, value, Limbs.value_ripple (by decide) (by decide) (by decide), Limbs.value_ofFn]
  · simp only [toNat_multipleColumn (hproduct _)]
    -- the coefficient never exceeds the quotient, and the rest fits in nine limbs
    have hle := coef_mul_le x m
    have hlt := sub_coef_mul_lt x m
    have hprime := m.value_lt
    have hzero : (0 : BitVec 64).toNat = 0 := rfl
    rw [hzero]
    omega
  · intro j
    rw [Fin.getElem_fin, Vector.getElem_ofFn]
    exact room_multipleColumn (hproduct j)

theorem partlyReduced_bnFastMod (x : Bignum256) (m : Modulus) :
    PartlyReduced (bnFastMod x m.prime) m where
  normalized := Limbs.normalized_ripple (by decide) (by decide) _ _
  lt := by
    have hlt := sub_coef_mul_lt x m
    have hprime := m.le_value
    rw [value_bnFastMod]
    omega

theorem bnFastMod_modEq (x : Bignum256) (m : Modulus) :
    value (bnFastMod x m.prime) ≡ value x [MOD value m.prime] := by
  rw [value_bnFastMod]
  exact (Nat.modEq_of_dvd' (Nat.sub_le _ _) (by
    rw [Nat.sub_sub_self (coef_mul_le x m)]
    exact Nat.dvd_mul_left _ _))

theorem partlyReduced_bnAddmod (a b : Bignum256) (m : Modulus) :
    PartlyReduced (bnAddmod a b m.prime) m := partlyReduced_bnFastMod _ m

theorem bnAddmod_modEq {a b : Bignum256} (ha : Normalized a) (hb : Normalized b) (m : Modulus) :
    value (bnAddmod a b m.prime) ≡ value a + value b [MOD value m.prime] := by
  have hsum := bnFastMod_modEq (Vector.zipWith (· + ·) a b) m
  rwa [value_zipWith_add ha hb] at hsum

/-- A small factor does not make the limbs overflow. -/
theorem value_map_mul {x : Bignum256} (hx : Normalized x) {k : BitVec 8} (hk : k.toNat ≤ 4) :
    value (x.map (k.setWidth 32 * ·)) = k.toNat * value x := by
  have hcolumn : ∀ i : Fin 9, (x.map (k.setWidth 32 * ·))[i].toNat = k.toNat * x[i].toNat := by
    intro i
    have hx' := hx i
    have hmul : k.toNat * x[i].toNat ≤ 4 * x[i].toNat := Nat.mul_le_mul_right _ hk
    have hwide : (k.setWidth 32).toNat = k.toNat := by
      rw [BitVec.toNat_setWidth, Nat.mod_eq_of_lt (by omega)]
    rw [Fin.getElem_fin, Vector.getElem_map, BitVec.toNat_mul, hwide]
    exact Nat.mod_eq_of_lt (by rw [Fin.getElem_fin] at *; omega)
  simp only [value, Limbs.value, hcolumn, Finset.mul_sum, Nat.mul_assoc]

theorem partlyReduced_bnMultK (x : Bignum256) (k : BitVec 8) (m : Modulus) :
    PartlyReduced (bnMultK x k m.prime) m := partlyReduced_bnFastMod _ m

theorem bnMultK_modEq {x : Bignum256} (hx : Normalized x) {k : BitVec 8} (hk : k.toNat ≤ 4)
    (m : Modulus) :
    value (bnMultK x k m.prime) ≡ k.toNat * value x [MOD value m.prime] := by
  have hmul := bnFastMod_modEq (x.map (k.setWidth 32 * ·)) m
  rwa [value_map_mul hx hk] at hmul

theorem toNat_liftedColumn {x prime y : BitVec 32} (hx : x.toNat < 2 ^ 30)
    (hprime : prime.toNat < 2 ^ 30) (hy : y.toNat < 2 ^ 30) :
    (0x3FFFFFFF + x + 2 * prime - y).toNat =
      (2 ^ 30 - 1) + (x.toNat + 2 * prime.toNat) - y.toNat := by
  have hmask : (0x3FFFFFFF : BitVec 32).toNat = 2 ^ 30 - 1 := rfl
  have htwo : (2 * prime).toNat = 2 * prime.toNat := by
    have h2 : (2 : BitVec 32).toNat = 2 := rfl
    rw [BitVec.toNat_mul, h2, Nat.mod_eq_of_lt (by omega)]
  rw [BitVec.toNat_sub, BitVec.toNat_add, BitVec.toNat_add, htwo, hmask]
  omega

theorem toNat_liftedColumns {a b : Bignum256} {m : Modulus} (ha : Normalized a)
    (hb : Normalized b) (i : Fin 9) : (0x3FFFFFFF + a[i] + 2 * m.prime[i] - b[i]).toNat =
      (2 ^ 30 - 1) + (a[i].toNat + 2 * m.prime[i].toNat) - b[i].toNat :=
  toNat_liftedColumn (ha i) (m.normalized i) (hb i)

theorem sum_liftedColumns {a b : Bignum256} {m : Modulus} (hb : Normalized b) :
    ∑ i : Fin 9, ((2 ^ 30 - 1) + (a[i].toNat + 2 * m.prime[i].toNat) - b[i].toNat) *
      (2 ^ 30) ^ i.val + value b = (2 ^ 30) ^ 9 - 1 + (value a + 2 * value m.prime) := by
  have hsum : value a + 2 * value m.prime =
      ∑ i : Fin 9, (a[i].toNat + 2 * m.prime[i].toNat) * (2 ^ 30) ^ i.val := by
    simp only [value, Limbs.value, Nat.add_mul, Finset.sum_add_distrib, Finset.mul_sum,
      Nat.mul_assoc]
  -- lifted by twice the modulus, each column is at least the limb that is subtracted
  rw [hsum, ← sum_mask]
  apply Limbs.sum_sub_columns Finset.univ (fun _ => 2 ^ 30 - 1)
    (fun i : Fin 9 => a[i].toNat + 2 * m.prime[i].toNat) (fun i => b[i].toNat)
    fun i => (2 ^ 30) ^ i.val
  intro i _
  have hb' := hb i
  omega

/-- The difference is lifted by twice the modulus, so that it is not negative. -/
theorem value_bnSubtractmod {a b : Bignum256} {m : Modulus} (ha : Normalized a)
    (hb : PartlyReduced b m) (hlt : value a + 2 * value m.prime < (2 ^ 30) ^ 9) :
    value (bnSubtractmod a b m.prime) = value a + 2 * value m.prime - value b := by
  have hcolumns := sum_liftedColumns (a := a) (m := m) hb.normalized
  have hlt' := hb.lt
  rw [bnSubtractmod, value, Limbs.value_ripple (by decide) (by decide) (by decide),
    Limbs.value_ofFn]
  · -- the carry that starts with one completes the borrowed columns
    have hone : (1 : BitVec 32).toNat = 1 := rfl
    simp only [toNat_liftedColumns ha hb.normalized, hone]
    omega
  · intro i
    have ha' := ha i
    have hprime := m.normalized i
    rw [Fin.getElem_fin, Vector.getElem_ofFn, Limbs.Room,
      toNat_liftedColumns ha hb.normalized ⟨i, _⟩]
    simp only [Fin.getElem_fin] at *
    omega

theorem bnSubtractmod_modEq {a b : Bignum256} {m : Modulus} (ha : PartlyReduced a m)
    (hb : PartlyReduced b m) :
    value (bnSubtractmod a b m.prime) + value b ≡ value a [MOD value m.prime] := by
  have hprime := m.value_lt
  have hlt := ha.lt
  have hlt' := hb.lt
  have hsub := value_bnSubtractmod ha.normalized hb (by omega)
  have hsum : value (bnSubtractmod a b m.prime) + value b = value a + 2 * value m.prime := by omega
  rw [hsum, Nat.ModEq, Nat.add_mul_mod_self_right]

/-! ## Halves -/

/-- What the loop of `bn_mult_half` adds for a pair of limbs. The mask is all ones for an odd
number. -/
def halveTerm (xodd : BitVec 32) (p : BitVec 32 × BitVec 32) : BitVec 32 := p.1 + (p.2 &&& xodd)

/-- The lowest bit. -/
theorem toNat_and_one (x : BitVec 32) : (x &&& 1).toNat = x.toNat % 2 := by
  have hone : (1 : BitVec 32).toNat = 2 ^ 1 - 1 := rfl
  rw [BitVec.toNat_and, hone, Nat.and_two_pow_sub_one_eq_mod, pow_one]

theorem halve_step {tmp1 tmp2 : BitVec 32} (h₁ : tmp1.toNat < 2 ^ 31) (h₂ : tmp2.toNat < 2 ^ 31) :
    ((tmp1 + (tmp2 &&& 1) <<< 29) &&& 0x3FFFFFFF).toNat +
        2 ^ 30 * ((tmp1 + (tmp2 &&& 1) <<< 29) >>> 30 + tmp2 >>> 1).toNat =
      tmp1.toNat + 2 ^ 29 * tmp2.toNat ∧
    ((tmp1 + (tmp2 &&& 1) <<< 29) >>> 30 + tmp2 >>> 1).toNat < 2 ^ 31 := by
  have hmask : (0x3FFFFFFF : BitVec 32).toNat = 2 ^ 30 - 1 := rfl
  -- the low bit of the next limb becomes the high bit of this one
  have hbit : ((tmp2 &&& 1) <<< 29).toNat = tmp2.toNat % 2 * 2 ^ 29 := by
    rw [BitVec.toNat_shiftLeft, Nat.shiftLeft_eq, toNat_and_one]
    omega
  have hsum : (tmp1 + (tmp2 &&& 1) <<< 29).toNat = tmp1.toNat + tmp2.toNat % 2 * 2 ^ 29 := by
    rw [BitVec.toNat_add, hbit]
    omega
  -- both shifts together are less than thirty-one bits, which keeps the invariant
  have hcarry : ((tmp1 + (tmp2 &&& 1) <<< 29) >>> 30 + tmp2 >>> 1).toNat =
      (tmp1.toNat + tmp2.toNat % 2 * 2 ^ 29) / 2 ^ 30 + tmp2.toNat / 2 := by
    rw [BitVec.toNat_add, BitVec.toNat_ushiftRight, BitVec.toNat_ushiftRight, hsum,
      Nat.shiftRight_eq_div_pow, Nat.shiftRight_eq_div_pow]
    omega
  rw [BitVec.toNat_and, hsum, hmask, Nat.and_two_pow_sub_one_eq_mod, hcarry]
  omega

/-- The loop halves the limbs that it passes. -/
theorem ofDigits_halveLimbs {xodd tmp1 : BitVec 32} {limbs : List (BitVec 32 × BitVec 32)}
    (htmp : tmp1.toNat < 2 ^ 31) (hlimbs : ∀ p ∈ limbs, (halveTerm xodd p).toNat < 2 ^ 31) :
    Nat.ofDigits (2 ^ 30) ((halveLimbs xodd tmp1 limbs).map BitVec.toNat) =
      tmp1.toNat + 2 ^ 29 * Nat.ofDigits (2 ^ 30) (limbs.map fun p => (halveTerm xodd p).toNat) := by
  -- the carry of thirty-one bits is the invariant
  induction limbs generalizing tmp1 with
  | nil => simp [halveLimbs]
  | cons p limbs ih =>
    obtain ⟨hstep, hlt⟩ := halve_step htmp (hlimbs p List.mem_cons_self)
    have hrest := ih hlt fun q hq => hlimbs q (List.mem_cons_of_mem p hq)
    rw [halveTerm] at hstep hrest
    rw [halveLimbs, List.map_cons, Nat.ofDigits_cons, hrest, List.map_cons, Nat.ofDigits_cons,
      halveTerm]
    linarith

theorem digit_of_mem_halveLimbs {xodd tmp1 : BitVec 32} {limbs : List (BitVec 32 × BitVec 32)}
    {i : Nat} (hi : i < limbs.length) :
    ((halveLimbs xodd tmp1 limbs).getD i 0).toNat < 2 ^ 30 := by
  induction limbs generalizing tmp1 i with
  | nil => simp at hi
  | cons p limbs ih =>
    cases i with
    | zero => exact toNat_read_limb_lt _
    | succ i => exact ih (by simpa using hi)

/-- The mask of an odd number selects the modulus, and that of an even number nothing. -/
theorem toNat_halveTerm {x prime y : BitVec 32} (hx : x.toNat < 2 ^ 30)
    (hprime : prime.toNat < 2 ^ 30) :
    (halveTerm (-(y &&& 1)) (x, prime)).toNat = x.toNat + y.toNat % 2 * prime.toNat := by
  have hbit := toNat_and_one y
  -- the mask is the negated low bit: no bits or all of them
  rcases Nat.mod_two_eq_zero_or_one y.toNat with heven | hodd
  · have hmask : -(y &&& 1) = 0#32 := by
      apply BitVec.eq_of_toNat_eq
      rw [BitVec.toNat_neg, hbit, heven]
      rfl
    rw [halveTerm, hmask, BitVec.and_zero, BitVec.add_zero, heven, Nat.zero_mul, Nat.add_zero]
  · have hmask : -(y &&& 1) = BitVec.allOnes 32 := by
      apply BitVec.eq_of_toNat_eq
      rw [BitVec.toNat_neg, hbit, hodd]
      rfl
    rw [halveTerm, hmask, BitVec.and_allOnes, BitVec.toNat_add, hodd, Nat.one_mul]
    exact Nat.mod_eq_of_lt (by dsimp only; omega)

/-- The terms of all limbs. -/
theorem ofDigits_halveTerms {x : Bignum256} (hx : Normalized x) (m : Modulus) :
    Nat.ofDigits (2 ^ 30) ((x.toList.zip m.prime.toList).map fun p =>
      (halveTerm (-(x[0] &&& 1)) p).toNat) = value x + x[0].toNat % 2 * value m.prime := by
  -- limb by limb, with the same mask for all nine
  have hlist : ((x.toList.zip m.prime.toList).map fun p =>
      (halveTerm (-(x[0] &&& 1)) p).toNat) =
        List.ofFn fun i : Fin 9 => x[i].toNat + x[0].toNat % 2 * m.prime[i].toNat := by
    apply List.ext_getElem
    · simp
    · intro i h₁ h₂
      have hi : i < 9 := by simpa using h₂
      have hx' := hx ⟨i, hi⟩
      have hprime := m.normalized ⟨i, hi⟩
      simp only [Fin.getElem_fin] at hx' hprime
      rw [List.getElem_map, List.getElem_zip, List.getElem_ofFn, Vector.getElem_toList,
        Vector.getElem_toList]
      exact toNat_halveTerm hx' hprime
  rw [hlist, Limbs.ofDigits_ofFn, value, value, Limbs.value, Limbs.value, Finset.mul_sum,
    ← Finset.sum_add_distrib]
  apply Finset.sum_congr rfl
  intro i _
  ring

/-- The low bits are those of the first limb. -/
theorem value_mod_limb (a : Bignum256) : value a % 2 ^ 30 = a[0].toNat % 2 ^ 30 := by
  have hcons : a.toList = a[0] :: a.toList.tail := by
    apply List.ext_getElem
    · simp
    · intro i h₁ h₂
      cases i with
      | zero => simp
      | succ i => simp
  rw [value, Limbs.value_eq_ofDigits, hcons, List.map_cons, Nat.ofDigits_cons]
  omega

/-- The parity is that of the lowest limb. -/
theorem value_mod_two (a : Bignum256) : value a % 2 = a[0].toNat % 2 := by
  have hlimb := value_mod_limb a
  omega

theorem zip_eq_cons (x prime : Bignum256) :
    x.toList.zip prime.toList = (x[0], prime[0]) :: (x.toList.zip prime.toList).tail := by
  apply List.ext_getElem
  · simp
  · intro i h₁ h₂
    cases i with
    | zero => simp
    | succ i => simp

/-- **Twice the half is the number**, with the modulus added if it is odd. The sum of two odd
numbers is even, so nothing is lost. -/
theorem value_bnMultHalf {x : Bignum256} (hx : Normalized x) {m : Modulus}
    (hodd : value m.prime % 2 = 1) :
    2 * value (bnMultHalf x m.prime) = value x + value x % 2 * value m.prime := by
  have hterms := ofDigits_halveTerms hx m
  rw [zip_eq_cons, List.map_cons, Nat.ofDigits_cons, ← value_mod_two] at hterms
  have hlimbs : ∀ p ∈ x.toList.zip m.prime.toList,
      (halveTerm (-(x[0] &&& 1)) p).toNat < 2 ^ 31 := by
    intro p hp
    obtain ⟨hp₁, hp₂⟩ := List.of_mem_zip hp
    have h₁ := hx.digit_lt _ (List.mem_map_of_mem hp₁)
    have h₂ := m.normalized.digit_lt _ (List.mem_map_of_mem hp₂)
    have hmul : x[0].toNat % 2 * p.2.toNat ≤ 1 * p.2.toNat :=
      Nat.mul_le_mul_right _ (Nat.lt_succ_iff.mp (Nat.mod_lt _ (by decide)))
    rw [toNat_halveTerm h₁ h₂]
    omega
  have hfirst := hlimbs (x[0], m.prime[0]) (by rw [zip_eq_cons]; exact List.mem_cons_self)
  have hshift : (halveTerm (-(x[0] &&& 1)) (x[0], m.prime[0]) >>> 1).toNat =
      (halveTerm (-(x[0] &&& 1)) (x[0], m.prime[0])).toNat / 2 := by
    rw [BitVec.toNat_ushiftRight, Nat.shiftRight_eq_div_pow]
  have htail : ∀ p ∈ (x.toList.zip m.prime.toList).tail,
      (halveTerm (-(x[0] &&& 1)) p).toNat < 2 ^ 31 := fun p hp =>
    hlimbs p (List.mem_of_mem_tail hp)
  have hstart : (halveTerm (-(x[0] &&& 1)) (x[0], m.prime[0]) >>> 1).toNat < 2 ^ 31 := by
    rw [hshift]
    omega
  have hvalue : value (bnMultHalf x m.prime) =
      (halveTerm (-(x[0] &&& 1)) (x[0], m.prime[0])).toNat / 2 +
        2 ^ 29 * Nat.ofDigits (2 ^ 30) ((x.toList.zip m.prime.toList).tail.map fun p =>
          (halveTerm (-(x[0] &&& 1)) p).toNat) := by
    rw [value, Limbs.value_eq_ofDigits, ← hshift]
    exact ofDigits_halveLimbs hstart htail
  -- the modulus is added to an odd number only, and so what is halved is even
  have heven : (value x + value x % 2 * value m.prime) % 2 = 0 := by
    rcases Nat.mod_two_eq_zero_or_one (value x) with hx' | hx'
    · rw [hx']
      omega
    · rw [hx']
      omega
  omega

theorem normalized_bnMultHalf {x : Bignum256} (hx : Normalized x) {m : Modulus}
    (hodd : value m.prime % 2 = 1) : Normalized (bnMultHalf x m.prime) := by
  have hvalue := value_bnMultHalf hx hodd
  have hlt : value x < (2 ^ 30) ^ 9 := hx.value_lt
  have hprime := m.value_lt
  have hmul : value x % 2 * value m.prime ≤ 1 * value m.prime :=
    Nat.mul_le_mul_right _ (Nat.lt_succ_iff.mp (Nat.mod_lt _ (by decide)))
  intro i
  have hlimb : (bnMultHalf x m.prime)[i] = (halveLimbs (-(x[0] &&& 1))
      ((x[0] + (m.prime[0] &&& -(x[0] &&& 1))) >>> 1)
        (x.toList.zip m.prime.toList).tail).getD i 0 := by
    rw [List.getD_eq_getElem _ _ (by simp [length_halveLimbs])]
    rfl
  rcases Nat.lt_or_ge i.val 8 with hi | hi
  · rw [hlimb]
    exact digit_of_mem_halveLimbs (by simpa using hi)
  · -- the last limb is what the others leave of the number
    have hlast : i = 8 := Fin.ext (by have := i.isLt; omega)
    have htake := value_eq_take (bnMultHalf x m.prime)
    rw [hlast]
    change (top (bnMultHalf x m.prime)).toNat < 2 ^ 30
    omega

theorem bnMultHalf_modEq {x : Bignum256} (hx : Normalized x) {m : Modulus}
    (hodd : value m.prime % 2 = 1) :
    2 * value (bnMultHalf x m.prime) ≡ value x [MOD value m.prime] := by
  rw [Nat.ModEq, value_bnMultHalf hx hodd, Nat.add_mul_mod_self_right]

theorem partlyReduced_bnMultHalf {x : Bignum256} {m : Modulus} (hx : PartlyReduced x m)
    (hodd : value m.prime % 2 = 1) : PartlyReduced (bnMultHalf x m.prime) m where
  normalized := normalized_bnMultHalf hx.normalized hodd
  lt := by
    have hvalue := value_bnMultHalf hx.normalized hodd
    have hlt := hx.lt
    have hmul : value x % 2 * value m.prime ≤ 1 * value m.prime :=
      Nat.mul_le_mul_right _ (Nat.lt_succ_iff.mp (Nat.mod_lt _ (by decide)))
    omega

end RlyNetworkSdk.Crypto.Bignum
