import RlyNetworkSdk.Encoding.WordLists

/-!
# The Registers of `bn_inverse`

Each of the two registers `us` and `vr` has nine words for two numbers: the first `len1` words
are one of the numbers of the binary algorithm, with the least significant word first, and the
others are its cofactor, with the most significant word first. One number shrinks while the other
grows, and their product stays below `2 ^ 256`, so that both always have room.
-/

namespace RlyNetworkSdk.Crypto.Bignum

open Encoding Limbs

/-- `combo`: the words up to `len1`, and those behind. The array has nine words, and as the
number in front gets shorter the one behind may grow. -/
structure Combo where
  head : List (BitVec 32)
  tail : List (BitVec 32)

/-! ## The Operations -/

/-- `while (even->a[even->len1 - 1] == 0) even->len1--`, from the last word of the head down. With
no word left the access is outside the array, which is undefined. -/
def adjustLength : List (BitVec 32) → List (BitVec 32) → Option Combo
  | [], _ => none
  | last :: rest, tail =>
    if last = 0 then adjustLength rest (last :: tail) else some ⟨(last :: rest).reverse, tail⟩

/-- `while (even->a[0] == 0)`: all words move down by one, and a zero comes in at the end. This
takes 32 bits off at once. -/
def shiftWords : List (BitVec 32) → List (BitVec 32) → Nat → Combo × Nat
  | first :: rest, tail, k =>
    if first = 0 then shiftWords rest (tail ++ [0]) (k + 32) else (⟨first :: rest, tail⟩, k)
  | [], tail, k => (⟨[], tail⟩, k)

/-- The number of zero bits below the lowest bit that is set, in a word that is not zero. -/
def countZeros (a0 : BitVec 32) : Nat :=
  ((List.range 32).find? fun j => a0 &&& 1#32 <<< j != 0).getD 32

/-- The head is shifted right and the tail left. A last word of the head that becomes zero is the
first word of the tail. -/
def Combo.shiftBits (c : Combo) (j : Nat) : Combo :=
  if j = 0 then c
  else
    let head := shiftRight j c.head
    if head.getLast? = some 0 then ⟨head.dropLast, shiftLeft j (0 :: c.tail)⟩
    else ⟨head, shiftLeft j c.tail⟩

/-- What a turn of the loop does to `even` before it compares: the number is divided by two
until it is odd, and the cofactor multiplied. -/
def Combo.reduce (even : Combo) (k : Nat) : Option (Combo × Nat) := do
  let even ← adjustLength even.head.reverse even.tail
  let (even, k) := shiftWords even.head even.tail k
  let j := countZeros (even.head.getD 0 0)
  return (even.shiftBits j, k + j)

/-- The words are compared from the last one down, which is the most significant one. -/
def compareWords : List (BitVec 32) → List (BitVec 32) → Ordering
  | x :: xs, y :: ys => if x = y then compareWords xs ys else compare x.toNat y.toNat
  | _, _ => .eq

def compareHeads (us vr : Combo) : Ordering :=
  (compare us.head.length vr.head.length).then (compareWords us.head.reverse vr.head.reverse)

/-- Words with zeros up to a length. -/
def padded (xs : List (BitVec 32)) (n : Nat) : List (BitVec 32) :=
  xs ++ List.replicate (n - xs.length) 0

/-- `even->a -= odd->a` in the heads. -/
def subtractHeads (even odd : Combo) : List (BitVec 32) :=
  rippleList 32 32 (1 : BitVec 64) (subColumns even.head (padded odd.head even.head.length))

/-- `odd->a += even->a` in the tails. They are stored in the opposite order, so that the two
numbers of a register grow towards each other. -/
def addTails (even odd : Combo) : List (BitVec 32) :=
  (rippleList 32 32 (0 : BitVec 64)
    (addColumns odd.tail.reverse (padded even.tail.reverse odd.tail.length))).reverse

/-! ## What They Hold -/

/-- The two numbers of a register: one in the head, with the least significant word first, and
one in the tail, the other way round. -/
structure Combo.Holds (c : Combo) (u s : Nat) : Prop where
  length : c.head.length + c.tail.length = 9
  head : ofWords c.head = u
  tail : ofWordsBe c.tail = s

/-- The head ends with a word that is not zero. The lengths of the heads can then be compared in
place of the numbers. -/
def Combo.Trimmed (c : Combo) : Prop := (2 ^ 32) ^ c.head.length ≤ 2 ^ 32 * ofWords c.head

variable {c even odd : Combo} {u s v r k j : Nat}

/-- A cofactor fits if the head is trimmed. -/
theorem fits_of_product {l u s : Nat} (hl : l ≤ 9) (hu : (2 ^ 32) ^ l ≤ 2 ^ 32 * u)
    (hproduct : u * s < (2 ^ 32) ^ 8) : s < (2 ^ 32) ^ (9 - l) := by
  have hsplit : (2 ^ 32) ^ l * (2 ^ 32) ^ (9 - l) = (2 ^ 32) ^ 9 := by
    rw [← pow_add, Nat.add_sub_cancel' hl]
  by_contra hge
  have hle : (2 ^ 32) ^ l * (2 ^ 32) ^ (9 - l) ≤ 2 ^ 32 * u * s :=
    Nat.mul_le_mul hu (Nat.not_lt.mp hge)
  rw [hsplit, Nat.mul_assoc] at hle
  have hnine : (2 ^ 32) ^ 9 = 2 ^ 32 * (2 ^ 32) ^ 8 := by norm_num
  rw [hnine] at hle
  exact absurd (Nat.le_of_mul_le_mul_left hle (Nat.two_pow_pos 32)) (Nat.not_le.mpr hproduct)

theorem trimmed_append_singleton (xs : List (BitVec 32)) {x : BitVec 32} (hx : x ≠ 0) :
    (2 ^ 32) ^ (xs ++ [x]).length ≤ 2 ^ 32 * ofWords (xs ++ [x]) := by
  have hone : 1 ≤ x.toNat := by
    by_contra hzero
    exact hx (BitVec.eq_of_toNat_eq (by simpa using hzero))
  have hle : (2 ^ 32) ^ xs.length ≤ (2 ^ 32) ^ xs.length * x.toNat := Nat.le_mul_of_pos_right _ hone
  rw [ofWords_append, ofWords_cons, ofWords_nil, Nat.mul_zero, Nat.add_zero, List.length_append,
    List.length_singleton, pow_succ' (2 ^ 32)]
  apply Nat.mul_le_mul_left
  omega

theorem adjustLength_holds {last tail : List (BitVec 32)}
    (hlen : last.length + tail.length = 9) (hpos : 0 < ofWords last.reverse) :
    ∃ c, adjustLength last tail = some c ∧
      c.Holds (ofWords last.reverse) (ofWordsBe tail) ∧ c.Trimmed := by
  -- words of zeros at the end of the head become words of the tail, which do not count there
  induction last generalizing tail with
  | nil => simp at hpos
  | cons x rest ih =>
    rw [adjustLength]
    split
    case isTrue hx =>
      have hhead : ofWords (x :: rest).reverse = ofWords rest.reverse := by
        rw [List.reverse_cons, ofWords_append, ofWords_cons, hx]
        simp
      have htail : ofWordsBe (x :: tail) = ofWordsBe tail := by
        rw [ofWordsBe_cons, hx]
        simp
      rw [hhead] at hpos ⊢
      rw [← htail]
      apply ih
      · rw [List.length_cons] at hlen ⊢
        omega
      · exact hpos
    case isFalse hx =>
      -- the head ends with a word that is not zero
      refine ⟨_, rfl, ⟨by simpa using hlen, rfl, rfl⟩, ?_⟩
      rw [Combo.Trimmed, List.reverse_cons]
      exact trimmed_append_singleton _ hx

/-- Whole words of zeros go from the end of the head to the end of the tail. -/
theorem shiftWords_holds {head tail : List (BitVec 32)} {k : Nat}
    (hlen : head.length + tail.length = 9) (hpos : 0 < ofWords head)
    (htrim : (2 ^ 32) ^ head.length ≤ 2 ^ 32 * ofWords head) :
    ∃ c t m, shiftWords head tail k = (c, k + t) ∧ ofWords head = 2 ^ t * m ∧
      c.Holds m (ofWordsBe tail * 2 ^ t) ∧ c.Trimmed ∧ c.head.getD 0 0 ≠ 0 := by
  induction head generalizing tail k with
  | nil => simp at hpos
  | cons x rest ih =>
    rw [shiftWords]
    split
    case isTrue hx =>
      have hhead : ofWords (x :: rest) = 2 ^ 32 * ofWords rest := by
        rw [ofWords_cons, hx]
        simp
      -- a zero at the end of the tail multiplies it by a word
      have htail : ofWordsBe (tail ++ [0]) = ofWordsBe tail * 2 ^ 32 := by
        rw [ofWordsBe_append_singleton]
        simp [Nat.mul_comm]
      rw [hhead] at hpos htrim
      have hlen' : rest.length + (tail ++ [0]).length = 9 := by
        simp at hlen ⊢
        omega
      obtain ⟨c, t, m, hshift, hm, hholds, htrimmed, hfirst⟩ := ih (k := k + 32) hlen' (by omega)
        (by rw [List.length_cons, pow_succ' (2 ^ 32)] at htrim; omega)
      -- thirty-two bits for this word, and those of the others
      refine ⟨c, 32 + t, m, ?_, ?_, ?_, htrimmed, hfirst⟩
      · rw [hshift, Nat.add_assoc]
      · rw [hhead, hm, pow_add, Nat.mul_assoc]
      · rw [htail, Nat.mul_assoc, ← pow_add] at hholds
        exact hholds
    case isFalse hx =>
      refine ⟨_, 0, ofWords (x :: rest), rfl, by simp, ⟨hlen, rfl, by simp⟩, htrim, ?_⟩
      simpa using hx

/-! ## Bits -/

theorem and_one_shiftLeft_ne_zero (a0 : BitVec 32) {j : Nat} (hj : j < 32) :
    (a0 &&& 1#32 <<< j != 0) = a0.toNat.testBit j := by
  have hne : BitVec.twoPow 32 j ≠ 0#32 := by
    intro heq
    have hnat := congrArg BitVec.toNat heq
    rw [BitVec.toNat_twoPow, Nat.mod_eq_of_lt (Nat.pow_lt_pow_right (by decide) hj)] at hnat
    exact absurd hnat (Nat.two_pow_pos j).ne'
  have hand : a0 &&& 1#32 <<< j = if a0.getLsbD j then BitVec.twoPow 32 j else 0#32 :=
    BitVec.and_twoPow a0 j
  rw [hand, BitVec.getLsbD]
  cases a0.toNat.testBit j with
  | true => simpa using hne
  | false => rfl

/-- The lowest bit that is set. -/
theorem countZeros_spec {a0 : BitVec 32} (hne : a0 ≠ 0) :
    countZeros a0 < 32 ∧ a0.toNat % 2 ^ countZeros a0 = 0 ∧
      a0.toNat / 2 ^ countZeros a0 % 2 = 1 := by
  have hbit : ∀ j ∈ List.range 32, (a0 &&& 1#32 <<< j != 0) = a0.toNat.testBit j := fun j hj =>
    and_one_shiftLeft_ne_zero a0 (List.mem_range.mp hj)
  cases hfind : (List.range 32).find? fun j => a0 &&& 1#32 <<< j != 0 with
  | none =>
    -- without any bit the word is zero
    rw [List.find?_eq_none] at hfind
    exfalso
    apply hne
    apply BitVec.eq_of_toNat_eq
    apply Nat.eq_of_testBit_eq
    intro j
    by_cases hj : j < 32
    · have hj' := hfind j (List.mem_range.mpr hj)
      rw [hbit j (List.mem_range.mpr hj)] at hj'
      simpa using hj'
    · rw [Nat.testBit_lt_two_pow (Nat.lt_of_lt_of_le a0.isLt (Nat.pow_le_pow_right (by decide)
        (Nat.not_lt.mp hj)))]
      simp
  | some j =>
    have hcount : countZeros a0 = j := by rw [countZeros, hfind, Option.getD_some]
    rw [List.find?_range_eq_some] at hfind
    obtain ⟨hset, hmem, hbelow⟩ := hfind
    have hj := List.mem_range.mp hmem
    rw [hcount]
    refine ⟨hj, ?_, ?_⟩
    · apply Nat.eq_of_testBit_eq
      intro i
      rw [Nat.testBit_mod_two_pow, Nat.zero_testBit]
      by_cases hi : i < j
      · have hi' := hbelow i hi
        rw [hbit i (List.mem_range.mpr (hi.trans hj))] at hi'
        simpa [hi] using hi'
      · simp [hi]
    · rw [hbit j hmem, Nat.testBit_eq_decide_div_mod_eq] at hset
      simpa using hset

theorem Combo.Trimmed.head_ne_nil (h : c.Trimmed) : c.head ≠ [] := by
  intro hnil
  rw [Combo.Trimmed, hnil] at h
  simp at h

/-- The bits of the head go, and as many zeros come in at the end of the tail. -/
theorem Combo.Holds.shiftBits {m : Nat} (h : c.Holds u s) (htrim : c.Trimmed) (hj : j < 32)
    (hu : u = 2 ^ j * m) (hproduct : u * s < (2 ^ 32) ^ 8) :
    (c.shiftBits j).Holds m (s * 2 ^ j) ∧ (c.shiftBits j).Trimmed := by
  by_cases hzero : j = 0
  · subst hzero
    rw [pow_zero, Nat.one_mul] at hu
    rw [Combo.shiftBits, if_pos rfl, pow_zero, Nat.mul_one, ← hu]
    exact ⟨h, htrim⟩
  obtain ⟨xs, x, hsplit⟩ : ∃ xs x, shiftRight j c.head = xs ++ [x] := by
    have hne : shiftRight j c.head ≠ [] := by
      rw [ne_eq, ← List.length_eq_zero_iff, length_shiftRight, List.length_eq_zero_iff]
      exact htrim.head_ne_nil
    exact ⟨_, _, (List.dropLast_append_getLast hne).symm⟩
  have hxs : xs.length + 1 = c.head.length := by
    have hlen := congrArg List.length hsplit
    simpa using hlen.symm
  have hhead : ofWords (xs ++ [x]) = m := by
    rw [← hsplit, ofWords_shiftRight hj.le, h.head, hu,
      Nat.mul_div_cancel_left m (Nat.two_pow_pos j)]
  have hproduct' : m * (s * 2 ^ j) < (2 ^ 32) ^ 8 := by
    calc m * (s * 2 ^ j) = u * s := by rw [hu]; ring
      _ < (2 ^ 32) ^ 8 := hproduct
  have hlength := h.length
  rw [Combo.shiftBits, if_neg hzero]
  simp only [hsplit, List.getLast?_concat, List.dropLast_concat, Option.some.injEq]
  split
  case isTrue hx =>
    -- the word that became empty belongs to the tail from now on
    have hxs_eq : ofWords xs = m := by
      rw [hx, ofWords_append, ofWords_cons] at hhead
      simpa using hhead
    have hlarge : (2 ^ 32) ^ xs.length ≤ 2 ^ 32 * m := by
      have hle : 2 ^ j ≤ 2 ^ 32 := Nat.pow_le_pow_right (by decide) hj.le
      have hu_le : u ≤ 2 ^ 32 * m := by
        rw [hu]
        exact Nat.mul_le_mul_right m hle
      have htrim' : (2 ^ 32) ^ (xs.length + 1) ≤ 2 ^ 32 * u := by
        rw [hxs, ← h.head]
        exact htrim
      rw [pow_succ' (2 ^ 32)] at htrim'
      exact (Nat.le_of_mul_le_mul_left htrim' (by decide)).trans hu_le
    have htail : ofWordsBe (0 :: c.tail) = s := by
      rw [ofWordsBe_cons, h.tail]
      simp
    have hfits := fits_of_product (by omega) hlarge hproduct'
    have htail_length : (0 :: c.tail).length = 9 - xs.length := by
      rw [List.length_cons]
      omega
    refine ⟨⟨?_, hxs_eq, ?_⟩, ?_⟩
    · show xs.length + (shiftLeft j (0 :: c.tail)).length = 9
      rw [length_shiftLeft, htail_length]
      omega
    · rw [ofWordsBe_shiftLeft_of_lt hj.le, htail]
      rwa [htail, htail_length]
    · rw [Combo.Trimmed, hxs_eq]
      exact hlarge
  case isFalse hx =>
    have hlarge := trimmed_append_singleton xs hx
    have hxs' : (xs ++ [x]).length = c.head.length := by
      rw [List.length_append, List.length_singleton, hxs]
    have hfits := fits_of_product (by omega) (hhead ▸ hlarge) hproduct'
    have htail_length : c.tail.length = 9 - (xs ++ [x]).length := by omega
    refine ⟨⟨?_, hhead, ?_⟩, hlarge⟩
    · show (xs ++ [x]).length + (shiftLeft j c.tail).length = 9
      rw [length_shiftLeft, htail_length]
      omega
    · rw [ofWordsBe_shiftLeft_of_lt hj.le, h.tail]
      rwa [h.tail, htail_length]

/-- The zero bits of the first word are those of the number. -/
theorem countZeros_head {head : List (BitVec 32)} (hfirst : head.getD 0 0 ≠ 0) :
    countZeros (head.getD 0 0) < 32 ∧
      ∃ m, ofWords head = 2 ^ countZeros (head.getD 0 0) * m ∧ m % 2 = 1 := by
  cases head with
  | nil => simp at hfirst
  | cons x rest =>
    rw [List.getD_cons_zero] at hfirst ⊢
    obtain ⟨hlt, hmod, hodd⟩ := countZeros_spec hfirst
    generalize countZeros x = j at hlt hmod hodd ⊢
    refine ⟨hlt, x.toNat / 2 ^ j + 2 * (2 ^ (31 - j) * ofWords rest), ?_, ?_⟩
    · -- the words above are multiples of more than the zeros of the first one
      have hword : 2 ^ j * (2 * 2 ^ (31 - j)) = 2 ^ 32 := by
        rw [← pow_succ', ← pow_add]
        congr 1
        omega
      have hx : 2 ^ j * (x.toNat / 2 ^ j) = x.toNat :=
        Nat.mul_div_cancel' (Nat.dvd_of_mod_eq_zero hmod)
      calc ofWords (x :: rest) = x.toNat + 2 ^ 32 * ofWords rest := ofWords_cons x rest
        _ = 2 ^ j * (x.toNat / 2 ^ j) + 2 ^ j * (2 * 2 ^ (31 - j)) * ofWords rest := by
          rw [hx, hword]
        _ = _ := by ring
    · rw [Nat.add_mul_mod_self_left, hodd]

/-- **The reduction of the even register.** The number is divided by the power of two in it and the
cofactor multiplied by it. -/
theorem Combo.Holds.reduce (h : c.Holds u s) (hpos : 0 < u) (hproduct : u * s < (2 ^ 32) ^ 8)
    (k : Nat) :
    ∃ c' t m, c.reduce k = some (c', k + t) ∧ u = 2 ^ t * m ∧ m % 2 = 1 ∧
      c'.Holds m (s * 2 ^ t) ∧ c'.Trimmed := by
  have hhead : ofWords c.head.reverse.reverse = u := by rw [List.reverse_reverse, h.head]
  have hlen : c.head.reverse.length + c.tail.length = 9 := by simpa using h.length
  -- words at one end, words at the other, and then the bits
  obtain ⟨c₁, hadjust, h₁, htrim₁⟩ := adjustLength_holds hlen (by rwa [hhead])
  rw [hhead, h.tail] at h₁
  obtain ⟨c₂, t, m, hwords, hm, h₂, htrim₂, hfirst⟩ := shiftWords_holds (k := k) h₁.length
    (by rwa [h₁.head]) htrim₁
  rw [h₁.head] at hm
  rw [h₁.tail] at h₂
  obtain ⟨hlt, m', hm', hodd⟩ := countZeros_head hfirst
  rw [h₂.head] at hm'
  -- the product of the number and its cofactor does not change, which keeps both in place
  have hproduct' : m * (s * 2 ^ t) < (2 ^ 32) ^ 8 := by
    calc m * (s * 2 ^ t) = u * s := by rw [hm]; ring
      _ < (2 ^ 32) ^ 8 := hproduct
  obtain ⟨h₃, htrim₃⟩ := h₂.shiftBits htrim₂ hlt hm' hproduct'
  refine ⟨_, t + countZeros (c₂.head.getD 0 0), m', ?_, ?_, hodd, ?_, htrim₃⟩
  · simp only [Combo.reduce, hadjust, hwords, Option.bind_eq_bind, Option.bind_some, Option.pure_def,
      Nat.add_assoc]
  · rw [hm, hm', pow_add, Nat.mul_assoc]
  · rw [pow_add, ← Nat.mul_assoc]
    exact h₃

/-! ## Comparing -/

/-- The most significant word decides. -/
theorem compare_words (x y : BitVec 32) {X Y n : Nat} (hX : X < (2 ^ 32) ^ n) (hY : Y < (2 ^ 32) ^ n) :
    compare (x.toNat * (2 ^ 32) ^ n + X) (y.toNat * (2 ^ 32) ^ n + Y) =
      if x = y then compare X Y else compare x.toNat y.toNat := by
  generalize (2 ^ 32) ^ n = B at hX hY
  -- a larger digit outweighs whatever is behind the smaller one
  have hlt : ∀ {a b X Y : Nat}, a < b → X < B → a * B + X < b * B + Y := by
    intro a b X Y hab hX
    calc a * B + X < (a + 1) * B := by rw [Nat.add_mul]; omega
      _ ≤ b * B := Nat.mul_le_mul_right B hab
      _ ≤ b * B + Y := Nat.le_add_right _ _
  split
  case isTrue hxy =>
    subst hxy
    simp only [Nat.compare_eq_ite_lt, Nat.add_lt_add_iff_left]
  case isFalse hxy =>
    have hne : x.toNat ≠ y.toNat := fun heq => hxy (BitVec.eq_of_toNat_eq heq)
    rcases Nat.lt_or_gt_of_ne hne with hless | hmore
    · rw [Nat.compare_eq_lt.mpr hless, Nat.compare_eq_lt.mpr (hlt hless hX)]
    · rw [Nat.compare_eq_gt.mpr hmore, Nat.compare_eq_gt.mpr (hlt hmore hY)]

theorem compareWords_eq {xs ys : List (BitVec 32)} (hlen : xs.length = ys.length) :
    compareWords xs ys = compare (ofWordsBe xs) (ofWordsBe ys) := by
  induction xs generalizing ys with
  | nil => simp [compareWords, List.eq_nil_of_length_eq_zero hlen.symm]
  | cons x xs ih =>
    cases ys with
    | nil => simp at hlen
    | cons y ys =>
      have hlen' : xs.length = ys.length := by simpa using hlen
      have hxs := ofWordsBe_lt xs
      have hys := ofWordsBe_lt ys
      rw [← hlen'] at hys
      rw [compareWords, ofWordsBe_cons, ofWordsBe_cons, ← hlen', compare_words x y hxs hys, ih hlen']

/-- A shorter trimmed head is smaller. -/
theorem Combo.Trimmed.lt_of_length_lt (hlen : even.head.length < odd.head.length)
    (htrim : odd.Trimmed) : ofWords even.head < ofWords odd.head := by
  have hlt := ofWords_lt even.head
  have hpow : (2 ^ 32) ^ (even.head.length + 1) ≤ (2 ^ 32) ^ odd.head.length :=
    Nat.pow_le_pow_right (by decide) hlen
  rw [Combo.Trimmed] at htrim
  rw [pow_succ' (2 ^ 32)] at hpow
  exact Nat.lt_of_lt_of_le hlt (Nat.le_of_mul_le_mul_left (hpow.trans htrim) (by decide))

/-- Trimmed heads are compared as numbers. -/
theorem compareHeads_eq (hc : even.Holds u s) (hd : odd.Holds v r) (htrim : even.Trimmed)
    (htrim' : odd.Trimmed) : compareHeads even odd = compare u v := by
  rw [compareHeads, ← hc.head, ← hd.head]
  rcases Nat.lt_trichotomy even.head.length odd.head.length with hlt | heq | hgt
  · rw [Nat.compare_eq_lt.mpr hlt, Nat.compare_eq_lt.mpr (htrim'.lt_of_length_lt hlt)]
    rfl
  · have hlen : even.head.reverse.length = odd.head.reverse.length := by simpa using heq
    rw [Nat.compare_eq_eq.mpr heq, compareWords_eq hlen, ofWordsBe, ofWordsBe, List.reverse_reverse,
      List.reverse_reverse]
    rfl
  · rw [Nat.compare_eq_gt.mpr hgt, Nat.compare_eq_gt.mpr (htrim.lt_of_length_lt hgt)]
    rfl

/-! ## Subtracting -/

@[simp] theorem length_padded {xs : List (BitVec 32)} {n : Nat} (h : xs.length ≤ n) :
    (padded xs n).length = n := by
  rw [padded, List.length_append, List.length_replicate]
  omega

@[simp] theorem ofWords_padded (xs : List (BitVec 32)) (n : Nat) : ofWords (padded xs n) = ofWords xs := by
  rw [padded, ofWords_append, ofWords_replicate_zero, Nat.mul_zero, Nat.add_zero]

/-- **The difference of the numbers and the sum of the cofactors.** The bound on the product
keeps the longer tail inside the nine words. -/
theorem Combo.Holds.subtract (hc : even.Holds u s) (hd : odd.Holds v r) (htrim : odd.Trimmed)
    (hlt : v < u) (hproduct : v * (r + s) < (2 ^ 32) ^ 8) :
    Combo.Holds ⟨subtractHeads even odd, even.tail⟩ (u - v) s ∧
      Combo.Holds ⟨odd.head, addTails even odd⟩ v (r + s) := by
  have hclength := hc.length
  have hdlength := hd.length
  -- the smaller number has no more words, as its head is trimmed
  have hheads : odd.head.length ≤ even.head.length := by
    by_contra hgt
    have hless : ofWords even.head < ofWords odd.head :=
      htrim.lt_of_length_lt (Nat.not_le.mp hgt)
    rw [hc.head, hd.head] at hless
    omega
  have hpadded : even.head.length = (padded odd.head even.head.length).length :=
    (length_padded hheads).symm
  constructor
  · refine ⟨?_, ?_, hc.tail⟩
    · show (subtractHeads even odd).length + even.tail.length = 9
      rw [subtractHeads, length_rippleList, subColumns, List.length_zipWith, ← hpadded, Nat.min_self]
      exact hclength
    · rw [subtractHeads, ofWords_ripple_sub hpadded, ofWords_padded, hc.head, hd.head]
      rw [ofWords_padded, hc.head, hd.head]
      exact hlt.le
  · have htails : even.tail.reverse.length ≤ odd.tail.length := by
      rw [List.length_reverse]
      omega
    have hpadded' : odd.tail.reverse.length = (padded even.tail.reverse odd.tail.length).length := by
      rw [length_padded htails, List.length_reverse]
    have hr : ofWords odd.tail.reverse = r := hd.tail
    have hs : ofWords even.tail.reverse = s := hc.tail
    -- the sum of the cofactors fits beside the odd head, by the bound of the product
    have hfits : r + s < (2 ^ 32) ^ (9 - odd.head.length) := by
      have hlarge : (2 ^ 32) ^ odd.head.length ≤ 2 ^ 32 * v := by
        rw [← hd.head]
        exact htrim
      exact fits_of_product (by omega) hlarge hproduct
    refine ⟨?_, hd.head, ?_⟩
    · show odd.head.length + (addTails even odd).length = 9
      rw [addTails, List.length_reverse, length_rippleList, addColumns, List.length_zipWith,
        ← hpadded', Nat.min_self, List.length_reverse]
      exact hdlength
    · have hlength : odd.tail.reverse.length = 9 - odd.head.length := by
        rw [List.length_reverse]
        omega
      have hsum : ofWords odd.tail.reverse + ofWords (padded even.tail.reverse odd.tail.length) <
          (2 ^ 32) ^ odd.tail.reverse.length := by
        rw [ofWords_padded, hr, hs, hlength]
        exact hfits
      rw [addTails, ofWordsBe, List.reverse_reverse, ofWords_ripple_add hpadded' hsum,
        ofWords_padded, hr, hs]

end RlyNetworkSdk.Crypto.Bignum
