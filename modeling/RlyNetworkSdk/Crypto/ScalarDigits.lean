import RlyNetworkSdk.Arithmetic.SignedDigits
import RlyNetworkSdk.Crypto.ModularArithmetic

/-!
# The Digits of a Scalar

What `scalar_multiply` and `point_multiply` do to a scalar before they use it: `2 ^ 256` is added,
and the order is subtracted if the scalar is even, so that it becomes odd without a branch. The odd
number is then read four bits at a time, as odd digits with a sign.
-/

namespace RlyNetworkSdk.Crypto.Bignum

open Encoding Arithmetic

/-! ## Shifting -/

/-- The limbs are shifted right by `s` bits; the mask keeps the bits that go to the limb below. -/
def shiftLimbs (s : Nat) (mask : BitVec 32) : List (BitVec 32) → List (BitVec 32)
  | [] => []
  | [x] => [x >>> s]
  | x :: y :: rest => (x >>> s ||| (y &&& mask) <<< (30 - s)) :: shiftLimbs s mask (y :: rest)

@[simp] theorem length_shiftLimbs (s : Nat) (mask : BitVec 32) (xs : List (BitVec 32)) :
    (shiftLimbs s mask xs).length = xs.length := by
  induction xs with
  | nil => rfl
  | cons x xs ih =>
    cases xs with
    | nil => rfl
    | cons y rest =>
      rw [shiftLimbs, List.length_cons, ih]
      rfl

theorem size_shiftLimbs (s : Nat) (mask : BitVec 32) (a : Bignum256) :
    (shiftLimbs s mask a.toList).toArray.size = 9 := by simp

/-- `a = a >> 1`. -/
def bnRshift (a : Bignum256) : Bignum256 := ⟨(shiftLimbs 1 1 a.toList).toArray, size_shiftLimbs _ _ _⟩

/-- `a` is shifted by four places. -/
def shiftDigit (a : Bignum256) : Bignum256 :=
  ⟨(shiftLimbs 4 0xf a.toList).toArray, size_shiftLimbs _ _ _⟩

/-- The bits that enter a limb from the one above. -/
theorem toNat_shifted {s : Nat} (hs : s ≤ 30) {mask : BitVec 32} (hmask : mask.toNat = 2 ^ s - 1)
    {x : BitVec 32} (hx : x.toNat < 2 ^ 30) (y : BitVec 32) :
    (x >>> s ||| (y &&& mask) <<< (30 - s)).toNat =
      x.toNat / 2 ^ s + 2 ^ (30 - s) * (y.toNat % 2 ^ s) := by
  have hlimb : 2 ^ (30 - s) * 2 ^ s = 2 ^ 30 := by rw [← pow_add, Nat.sub_add_cancel hs]
  -- the upper bits of this limb and the lower ones of the next do not overlap
  have hlow : x.toNat / 2 ^ s < 2 ^ (30 - s) := by
    rw [Nat.div_lt_iff_lt_mul (Nat.two_pow_pos s), hlimb]
    exact hx
  have hmod := Nat.mod_lt y.toNat (Nat.two_pow_pos s)
  -- and nothing is shifted out of the word
  have hfits : (y.toNat % 2 ^ s) * 2 ^ (30 - s) < 2 ^ 32 := by
    calc (y.toNat % 2 ^ s) * 2 ^ (30 - s) < 2 ^ s * 2 ^ (30 - s) :=
          Nat.mul_lt_mul_of_pos_right hmod (Nat.two_pow_pos _)
      _ = 2 ^ 30 := by rw [Nat.mul_comm, hlimb]
      _ < 2 ^ 32 := by decide
  rw [BitVec.toNat_or, BitVec.toNat_ushiftRight, Nat.shiftRight_eq_div_pow, BitVec.toNat_shiftLeft,
    BitVec.toNat_and, hmask, Nat.and_two_pow_sub_one_eq_mod, Nat.shiftLeft_eq,
    Nat.mod_eq_of_lt hfits, Nat.mul_comm (y.toNat % 2 ^ s), Nat.or_comm,
    ← Nat.two_pow_add_eq_or_of_lt hlow, Nat.add_comm]

theorem ofDigits_shiftLimbs {s : Nat} (hs : s ≤ 30) {mask : BitVec 32}
    (hmask : mask.toNat = 2 ^ s - 1) {xs : List (BitVec 32)} (hxs : Limbs.Digits 30 xs) :
    Nat.ofDigits (2 ^ 30) ((shiftLimbs s mask xs).map BitVec.toNat) =
        Nat.ofDigits (2 ^ 30) (xs.map BitVec.toNat) / 2 ^ s ∧
      Limbs.Digits 30 (shiftLimbs s mask xs) := by
  have hlimb : 2 ^ s * 2 ^ (30 - s) = 2 ^ 30 := by rw [← pow_add, Nat.add_sub_cancel' hs]
  induction xs with
  | nil => exact ⟨by simp [shiftLimbs], hxs⟩
  | cons x xs ih =>
    have hx := hxs x List.mem_cons_self
    obtain ⟨hvalue, hdigits⟩ := ih fun y hy => hxs y (List.mem_cons_of_mem x hy)
    cases xs with
    | nil =>
      constructor
      · simp [shiftLimbs, Nat.shiftRight_eq_div_pow]
      · intro y hy
        rw [List.mem_singleton.mp hy, BitVec.toNat_ushiftRight, Nat.shiftRight_eq_div_pow]
        exact Nat.lt_of_le_of_lt (Nat.div_le_self _ _) hx
    | cons y rest =>
      have hlimbs := toNat_shifted hs hmask hx y
      constructor
      · -- the low bits of what is above are those of its first limb
        have hmod : Nat.ofDigits (2 ^ 30) ((y :: rest).map BitVec.toNat) % 2 ^ s = y.toNat % 2 ^ s := by
          rw [List.map_cons, Nat.ofDigits_cons, ← hlimb, Nat.mul_assoc, Nat.add_mul_mod_self_left]
        have hsplit := Nat.div_add_mod (Nat.ofDigits (2 ^ 30) ((y :: rest).map BitVec.toNat)) (2 ^ s)
        rw [hmod] at hsplit
        rw [shiftLimbs, List.map_cons, Nat.ofDigits_cons, hlimbs, hvalue, List.map_cons (a := x),
          Nat.ofDigits_cons]
        generalize Nat.ofDigits (2 ^ 30) ((y :: rest).map BitVec.toNat) = upper at hsplit ⊢
        calc x.toNat / 2 ^ s + 2 ^ (30 - s) * (y.toNat % 2 ^ s) + 2 ^ 30 * (upper / 2 ^ s)
            = x.toNat / 2 ^ s + 2 ^ (30 - s) * (2 ^ s * (upper / 2 ^ s) + y.toNat % 2 ^ s) := by
              rw [← hlimb]
              ring
          _ = (x.toNat + 2 ^ s * (2 ^ (30 - s) * upper)) / 2 ^ s := by
              rw [hsplit, Nat.add_mul_div_left _ _ (Nat.two_pow_pos s)]
          _ = (x.toNat + 2 ^ 30 * upper) / 2 ^ s := by rw [← Nat.mul_assoc, hlimb]
      · intro w hw
        rw [shiftLimbs] at hw
        rcases List.mem_cons.mp hw with rfl | hmem
        · have hmod := Nat.mod_lt y.toNat (Nat.two_pow_pos s)
          have hlow : x.toNat / 2 ^ s < 2 ^ (30 - s) := by
            rw [Nat.div_lt_iff_lt_mul (Nat.two_pow_pos s), Nat.mul_comm, hlimb]
            exact hx
          calc _ = x.toNat / 2 ^ s + 2 ^ (30 - s) * (y.toNat % 2 ^ s) := hlimbs
            _ < 2 ^ (30 - s) * (y.toNat % 2 ^ s + 1) := by rw [Nat.mul_add]; omega
            _ ≤ 2 ^ (30 - s) * 2 ^ s := Nat.mul_le_mul_left _ hmod
            _ = 2 ^ 30 := by rw [Nat.mul_comm, hlimb]
        · exact hdigits w hmem

theorem digits_toList {a : Bignum256} (ha : Normalized a) : Limbs.Digits 30 a.toList := by
  intro x hx
  exact ha.digit_lt _ (List.mem_map_of_mem hx)

/-- The number is divided. -/
theorem value_shift (s : Nat) (hs : s ≤ 30) (mask : BitVec 32) (hmask : mask.toNat = 2 ^ s - 1)
    {a b : Bignum256} (ha : Normalized a) (hb : b.toList = shiftLimbs s mask a.toList) :
    value b = value a / 2 ^ s ∧ Normalized b := by
  obtain ⟨hvalue, hdigits⟩ := ofDigits_shiftLimbs hs hmask (digits_toList ha)
  constructor
  · rw [value, Limbs.value_eq_ofDigits, hb, hvalue, value, Limbs.value_eq_ofDigits]
  · apply normalized_of_mem
    rw [hb]
    exact hdigits

theorem value_bnRshift {a : Bignum256} (ha : Normalized a) :
    value (bnRshift a) = value a / 2 ∧ Normalized (bnRshift a) :=
  value_shift 1 (by decide) 1 rfl ha rfl

theorem value_shiftDigit {a : Bignum256} (ha : Normalized a) :
    value (shiftDigit a) = value a / 16 ∧ Normalized (shiftDigit a) :=
  value_shift 4 (by decide) 0xf rfl ha rfl

/-! ## Making a Scalar Odd -/

/-- The carries of a loop that does not mask the last limb, which keeps what is above its thirty
bits. -/
def rippleOpen : BitVec 32 → List (BitVec 32) → List (BitVec 32)
  | _, [] => []
  | tmp, [c] => [tmp + c]
  | tmp, c :: c' :: rest =>
    ((tmp + c) &&& 0x3FFFFFFF) :: rippleOpen ((tmp + c) >>> 30) (c' :: rest)

theorem length_rippleOpen (tmp : BitVec 32) (cs : List (BitVec 32)) :
    (rippleOpen tmp cs).length = cs.length := by
  induction cs generalizing tmp with
  | nil => rfl
  | cons c cs ih =>
    cases cs with
    | nil => rfl
    | cons c' rest =>
      rw [rippleOpen, List.length_cons, ih]
      rfl

/-- `a->val[0]`. -/
def lowLimb (a : Bignum256) : BitVec 32 := a.get 0

/-- The columns of the odd scalar: `2 ^ 256` is added, and the order is subtracted under a mask. -/
def oddColumns (k order : Bignum256) : Vector (BitVec 32) 9 :=
  let isEven := (lowLimb k &&& 1) - 1
  Vector.ofFn fun j : Fin 9 =>
    (if j.val < 8 then 0x3FFFFFFF else 0xFFFF) + k.get j - (order.get j &&& isEven)

theorem size_rippleOpen (k order : Bignum256) :
    (rippleOpen 1 (oddColumns k order).toList).toArray.size = 9 := by
  simp [length_rippleOpen]

/-- `a`: the scalar, made odd. The order, which is odd itself, is taken off an even one; this
changes the parity and not the multiple. -/
def oddScalar (k order : Bignum256) : Bignum256 :=
  ⟨(rippleOpen 1 (oddColumns k order).toList).toArray, size_rippleOpen k order⟩

/-- Without an overflow the mask makes no difference. -/
theorem rippleOpen_eq {tmp : BitVec 32} {cs : List (BitVec 32)} (htmp : tmp.toNat < 2 ^ 2)
    (hroom : ∀ c ∈ cs, Limbs.Room 30 c)
    (hlt : tmp.toNat + Nat.ofDigits (2 ^ 30) (cs.map BitVec.toNat) < (2 ^ 30) ^ cs.length) :
    rippleOpen tmp cs = Limbs.rippleList 30 32 tmp cs := by
  induction cs generalizing tmp with
  | nil => rfl
  | cons c cs ih =>
    have hc : c.toNat + 2 ^ 2 ≤ 2 ^ 32 := hroom c List.mem_cons_self
    have hsum : (tmp + c).toNat = tmp.toNat + c.toNat := by
      rw [BitVec.toNat_add, Nat.mod_eq_of_lt (by omega)]
    -- the last column keeps all of its bits, which are few enough
    cases cs with
    | nil =>
      have hlow : Limbs.low 30 32 (tmp + c) = tmp + c := by
        apply BitVec.eq_of_toNat_eq
        rw [Limbs.toNat_low (by decide) (by decide), hsum, Nat.mod_eq_of_lt]
        simpa using hlt
      rw [rippleOpen, Limbs.rippleList, hlow]
      rfl
    | cons c' rest =>
      have hcarry : ((tmp + c) >>> 30).toNat = (tmp.toNat + c.toNat) / 2 ^ 30 := by
        rw [BitVec.toNat_ushiftRight, Nat.shiftRight_eq_div_pow, hsum]
      rw [rippleOpen, Limbs.rippleList, ih]
      · simp [Limbs.low]
      · omega
      · exact fun d hd => hroom d (List.mem_cons_of_mem c hd)
      · rw [List.map_cons, Nat.ofDigits_cons, List.length_cons, pow_succ' (2 ^ 30)] at hlt
        omega

theorem and_isEven (k0 x : BitVec 32) :
    x &&& ((k0 &&& 1) - 1) = if k0.toNat % 2 = 0 then x else 0 := by
  have hbit := toNat_and_one k0
  split
  case isTrue h =>
    have hzero : k0 &&& 1 = 0 := BitVec.eq_of_toNat_eq (by rw [hbit, h]; rfl)
    rw [hzero]
    exact BitVec.and_allOnes
  case isFalse h =>
    have hone : k0 &&& 1 = 1 := BitVec.eq_of_toNat_eq (by rw [hbit]; show _ = 1; omega)
    rw [hone]
    exact BitVec.and_zero

/-- What is added to limb `j` so that the column is not negative. Together the offsets make up
`2 ^ 256`, less the one that is carried in. -/
def oddOffset (j : Nat) : Nat := if j < 8 then 2 ^ 30 - 1 else 2 ^ 16 - 1

theorem sum_oddOffset : ∑ j : Fin 9, oddOffset j * (2 ^ 30) ^ j.val = 2 ^ 256 - 1 := by
  simp [Fin.sum_univ_succ, oddOffset]

/-- What the mask leaves of the order. -/
theorem toNat_oddColumn {k : Bignum256} {n : Modulus} (hk : Normalized k) (j : Fin 9) :
    (if value k % 2 = 0 then n.prime.get j else 0).toNat ≤ oddOffset j ∧
      ((oddColumns k n.prime).get j).toNat =
        oddOffset j + (k.get j).toNat - (if value k % 2 = 0 then n.prime.get j else 0).toNat := by
  have hkj : (k.get j).toNat < 2 ^ 30 := hk j
  -- the order has sixteen bits in its top limb, like the offset
  have horder : (n.prime.get j).toNat ≤ oddOffset j := by
    have hnj : (n.prime.get j).toNat < 2 ^ 30 := n.normalized j
    by_cases hj : j.val < 8
    · rw [oddOffset, if_pos hj]
      omega
    · have hlast : j = 8 := Fin.ext (by have := j.isLt; omega)
      have htop := top_eq n.normalized
      have hlt := n.value_lt
      rw [hlast]
      change (top n.prime).toNat ≤ 2 ^ 16 - 1
      omega
  have hle : (if value k % 2 = 0 then n.prime.get j else 0).toNat ≤ oddOffset j := by
    split
    · exact horder
    · exact Nat.zero_le _
  refine ⟨hle, ?_⟩
  have hoffset : (if j.val < 8 then 0x3FFFFFFF else 0xFFFF : BitVec 32).toNat = oddOffset j := by
    rw [oddOffset]
    split <;> rfl
  have hsmall : oddOffset j ≤ 2 ^ 30 - 1 := by
    rw [oddOffset]
    split <;> decide
  have hcolumn : (oddColumns k n.prime).get j =
      (if j.val < 8 then 0x3FFFFFFF else 0xFFFF) + k.get j -
        (if value k % 2 = 0 then n.prime.get j else 0) := by
    rw [value_mod_two, ← and_isEven]
    exact Vector.getElem_ofFn j.isLt
  rw [hcolumn, BitVec.toNat_sub, BitVec.toNat_add, hoffset]
  omega

/-- **The odd scalar** is `k + 2^256`, less the order if `k` is even. The bit above its digits
becomes the sign of the last one. -/
theorem value_oddScalar {k : Bignum256} {n : Modulus} (hk : Normalized k)
    (hlt : value k < value n.prime) :
    value (oddScalar k n.prime) =
        value k + 2 ^ 256 - (if value k % 2 = 0 then value n.prime else 0) ∧
      Normalized (oddScalar k n.prime) := by
  have hprime := n.value_lt
  -- the columns are offset by `2 ^ 256 - 1`, so none of them is negative
  have hcolumns := Limbs.sum_sub_columns Finset.univ (fun j : Fin 9 => oddOffset j)
    (fun j => (k.get j).toNat)
    (fun j => (if value k % 2 = 0 then n.prime.get j else 0).toNat)
    (fun j => (2 ^ 30) ^ j.val) fun j _ => (toNat_oddColumn (n := n) hk j).1.trans (Nat.le_add_right _ _)
  have hsubtrahend : ∑ j : Fin 9, (if value k % 2 = 0 then n.prime.get j else 0).toNat *
      (2 ^ 30) ^ j.val = if value k % 2 = 0 then value n.prime else 0 := by
    split
    · rfl
    · simp
  have hscalar : ∑ j : Fin 9, (k.get j).toNat * (2 ^ 30) ^ j.val = value k := rfl
  have hvalue : Limbs.value 30 (oddColumns k n.prime) =
      2 ^ 256 - 1 + value k - (if value k % 2 = 0 then value n.prime else 0) := by
    rw [sum_oddOffset, hsubtrahend, hscalar] at hcolumns
    rw [Limbs.value, ← hcolumns, Nat.add_sub_cancel]
    exact Finset.sum_congr rfl fun j _ => congrArg (· * _) (toNat_oddColumn hk j).2
  have hroom : ∀ j : Fin 9, Limbs.Room 30 ((oddColumns k n.prime).get j) := by
    intro j
    have hkj : (k.get j).toNat < 2 ^ 30 := hk j
    have hoffset : oddOffset j ≤ 2 ^ 30 - 1 := by
      rw [oddOffset]
      split <;> decide
    rw [Limbs.Room, (toNat_oddColumn hk j).2]
    omega
  -- the sum stays below nine limbs, so the last carry is kept whole
  have hfits : 1 + Limbs.value 30 (oddColumns k n.prime) < (2 ^ 30) ^ 9 := by
    rw [hvalue]
    omega
  have hlist : rippleOpen 1 (oddColumns k n.prime).toList =
      Limbs.rippleList 30 32 1 (oddColumns k n.prime).toList := by
    apply rippleOpen_eq (by decide)
    · intro c hc
      obtain ⟨i, hi, rfl⟩ := List.getElem_of_mem hc
      simpa [Vector.get] using hroom ⟨i, by simpa using hi⟩
    · rw [← Limbs.value_eq_ofDigits, Vector.length_toList]
      exact hfits
  -- without an overflow it is an ordinary ripple, which starts with one
  have hripple : oddScalar k n.prime = Limbs.ripple 30 32 1 (oddColumns k n.prime) :=
    Vector.toList_inj.mp hlist
  constructor
  · have hone : (1 : BitVec 32).toNat = 1 := rfl
    rw [hripple, value, Limbs.value_ripple (by decide) (by decide) (by decide) hroom, hone,
      Nat.mod_eq_of_lt hfits, hvalue]
    split <;> omega
  · rw [hripple]
    exact Limbs.normalized_ripple (by decide) (by decide) _ _

/-! ## Digits -/

/-- `lowbits`: the size of the digit that the low five bits are, in its upper three bits, and in
the lowest bit whether the sign is that of the digit below. -/
def lowbits (a0 : BitVec 32) : BitVec 32 :=
  let lowbits := a0 &&& (1#32 <<< 5 - 1#32)
  (lowbits ^^^ (lowbits >>> 4 - 1)) &&& 15

/-- The sign of the digit, which is the lowest bit of the next one. -/
def digitSign (v : Nat) : ℤ := if v / 16 % 2 = 1 then 1 else -1

/-- The sign changes where the next bit differs from the lowest one, which is the sign of the
digit below. -/
theorem digitSign_div (v : Nat) : digitSign (v / 16) =
    (if v / 16 / 16 % 2 ≠ v / 16 % 2 then -1 else 1) * digitSign v := by
  rw [digitSign, digitSign]
  split <;> split <;> split <;> omega

theorem digitSign_mul_self (v : Nat) : digitSign v * digitSign v = 1 := by
  rw [digitSign]
  split <;> rfl

theorem lowbits_eq (a0 : BitVec 32) : lowbits a0 = lowbits (BitVec.ofNat 32 (a0.toNat % 32)) := by
  have hmask : (1#32 <<< 5 - 1#32 : BitVec 32).toNat = 2 ^ 5 - 1 := rfl
  have hlow : a0 &&& (1#32 <<< 5 - 1#32) =
      BitVec.ofNat 32 (a0.toNat % 32) &&& (1#32 <<< 5 - 1#32) := by
    apply BitVec.eq_of_toNat_eq
    rw [BitVec.toNat_and, BitVec.toNat_and, hmask, Nat.and_two_pow_sub_one_eq_mod,
      Nat.and_two_pow_sub_one_eq_mod, BitVec.toNat_ofNat]
    omega
  rw [lowbits, lowbits, hlow]

/-- The bits of a digit, of all that the low five bits can be. -/
theorem lowbits_spec (a0 : BitVec 32) {v : Nat} (hv : v % 32 = a0.toNat % 32) :
    digitSign v * oddDigit 16 v = (2 : ℤ) * (lowbits a0 >>> 1).toNat + 1 ∧ (lowbits a0 >>> 1).toNat < 8 ∧
      (lowbits a0 &&& 1) - 1 = if v / 16 % 2 ≠ v % 2 then -1 else 0 := by
  -- everything here depends on the low five bits
  have hsign : digitSign v = digitSign (v % 32) := by
    rw [digitSign, digitSign]
    congr 2
    omega
  have hdigit : oddDigit 16 v = oddDigit 16 (v % 32) := by
    have hodd : makeOdd v % 16 = makeOdd (v % 32) % 16 := by
      rw [makeOdd, makeOdd]
      omega
    rw [oddDigit, oddDigit, hodd]
    congr 2
    omega
  have hbits : v / 16 % 2 = v % 32 / 16 % 2 ∧ v % 2 = v % 32 % 2 := by omega
  -- the thirty-two cases are computed
  have hall : ∀ w : Fin 32,
      digitSign w * oddDigit 16 w = (2 : ℤ) * (lowbits (BitVec.ofNat 32 w) >>> 1).toNat + 1 ∧
        (lowbits (BitVec.ofNat 32 w) >>> 1).toNat < 8 ∧
        (lowbits (BitVec.ofNat 32 w) &&& 1) - 1 =
          if w.val / 16 % 2 ≠ w.val % 2 then -1 else 0 := by decide +kernel
  have hw := hall ⟨v % 32, Nat.mod_lt _ (by decide)⟩
  rw [lowbits_eq, ← hv, hsign, hdigit, hbits.1, hbits.2]
  exact hw

/-- The mask of the last sign. -/
theorem signMask_eq (a0 : BitVec 32) {v : Nat} (hv : v % 32 = a0.toNat % 32) :
    (a0 >>> 4 &&& 1) - 1 = if v / 16 % 2 ≠ 1 then -1 else 0 := by
  have hbit : (a0 >>> 4 &&& 1).toNat = v / 16 % 2 := by
    rw [toNat_and_one, BitVec.toNat_ushiftRight, Nat.shiftRight_eq_div_pow]
    omega
  rcases Nat.mod_two_eq_zero_or_one (v / 16) with h | h
  · have hmask : a0 >>> 4 &&& 1 = 0 := BitVec.eq_of_toNat_eq (by rw [hbit, h]; rfl)
    rw [hmask, h]
    rfl
  · have hmask : a0 >>> 4 &&& 1 = 1 := BitVec.eq_of_toNat_eq (by rw [hbit, h]; rfl)
    rw [hmask, h]
    rfl

end RlyNetworkSdk.Crypto.Bignum
