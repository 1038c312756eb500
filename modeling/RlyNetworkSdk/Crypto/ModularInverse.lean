import RlyNetworkSdk.Crypto.InverseLoop
import RlyNetworkSdk.Crypto.ModularArithmetic

/-!
# The Modular Inverse

The rest of `bn_inverse`: the division of the almost inverse by a power of two modulo the prime, a
word at a time, and the changes between limbs of thirty bits and words of thirty-two.
-/

namespace RlyNetworkSdk.Crypto.Bignum

open Encoding Limbs Arithmetic

/-! ## Division by a Power of Two -/

/-- The loop that computes the negated inverse of the modulus modulo `2 ^ 32`, with `amone` the
error that is left. The error is squared each turn, so it is zero modulo `2 ^ 32` after the
fifth. -/
def negInverseLoop (amone inverse : BitVec 32) : Nat → BitVec 32
  | 0 => inverse
  | turns + 1 =>
    if amone = 0 then inverse
    else negInverseLoop (amone * amone) (inverse * (amone * amone + 1)) turns

/-- The factor that makes a number divisible by a word: `inverse` of `bn_inverse`, from the
lowest word of the modulus. -/
def negInverse (pp0 : BitVec 32) : BitVec 32 := negInverseLoop (pp0 - 1) (pp0 - 2) 6

/-- `s + factor * prime`, one column of sixty-four bits for each word, before any carry. -/
def factorColumns (factor : BitVec 32) (s pp : List (BitVec 32)) : List (BitVec 64) :=
  List.zipWith (fun a p => a.setWidth 64 + p.setWidth 64 * factor.setWidth 64) s pp

/-- The carries of a division by `2 ^ m`: the bits of the first column that are zero go, and the
other columns move down by what is left of a word. -/
def divideColumns (m : Nat) : List (BitVec 64) → List (BitVec 32)
  | [] => []
  | temp :: rest => rippleList 32 32 (temp >>> m) (rest.map (fun c : BitVec 64 => c <<< (32 - m)) ++ [0#64])

/-- `s / 2^32` modulo the prime. The factor makes the lowest word of the sum zero, so that
dropping it is the division. -/
def divideWord (pp : List (BitVec 32)) (inverse : BitVec 32) (s : List (BitVec 32)) :
    List (BitVec 32) :=
  let factor := inverse * s.getD 0 0
  divideColumns 32 (factorColumns factor s pp)

/-- `s / 2^k` modulo the prime, for less than a word: the same factor, cut to the `k` bits that
have to become zero. -/
def divideBits (pp : List (BitVec 32)) (inverse : BitVec 32) (k : Nat) (s : List (BitVec 32)) :
    List (BitVec 32) :=
  let mask := 1#32 <<< k - 1
  let factor := inverse * s.getD 0 0 &&& mask
  divideColumns k (factorColumns factor s pp)

/-- `s / 2^k` modulo the prime: by whole words while `k` has one, and by the bits that are left. -/
def dividePower (pp : List (BitVec 32)) (inverse : BitVec 32) (k : Nat) (s : List (BitVec 32)) :
    List (BitVec 32) :=
  let s := (divideWord pp inverse)^[k / 32] s
  if k % 32 = 0 then s else divideBits pp inverse (k % 32) s

/-- The loop returns the negated inverse. The invariant is that `inverse` times the word is the
square of `amone` less one, and that `2 ^ (2 ^ i)` divides `amone` in turn `i`. -/
theorem negInverseLoop_mul {a amone inverse : BitVec 32} (h : inverse * a = amone * amone - 1)
    {turns i : Nat} (hturns : 6 ≤ i + turns) (hi : i ≤ 5) (hdvd : 2 ^ 2 ^ i ∣ amone.toNat) :
    negInverseLoop amone inverse turns * a = -1 := by
  -- the invariant: the power of two that divides `amone` squares each turn
  induction turns generalizing i amone inverse with
  | zero => omega
  | succ turns ih =>
    rw [negInverseLoop]
    split
    case isTrue hzero => rw [h, hzero]; rfl
    case isFalse hne =>
      -- after five turns `2 ^ 32` divides `amone`, which is then zero
      have hlt : i < 5 := by
        by_contra hge
        obtain rfl : i = 5 := by omega
        apply hne
        apply BitVec.eq_of_toNat_eq
        exact Nat.eq_zero_of_dvd_of_lt hdvd amone.isLt
      apply ih (i := i + 1) _ (by omega) (by omega)
      · have hsquare : 2 ^ 2 ^ (i + 1) = 2 ^ 2 ^ i * 2 ^ 2 ^ i := by rw [← pow_add, pow_succ, Nat.mul_two]
        have hword : 2 ^ 2 ^ (i + 1) ∣ 2 ^ 32 := by
          apply Nat.pow_dvd_pow
          calc 2 ^ (i + 1) ≤ 2 ^ 5 := Nat.pow_le_pow_right (by decide) hlt
            _ = 32 := rfl
        rw [BitVec.toNat_mul, Nat.dvd_mod_iff hword, hsquare]
        exact Nat.mul_dvd_mul hdvd hdvd
      · -- `(amone - 1) * (amone + 1)`, with the square in place of `amone`
        calc inverse * (amone * amone + 1) * a = inverse * a * (amone * amone + 1) := by ring
          _ = amone * amone * (amone * amone) - 1 := by rw [h]; ring

/-- `negInverse` is `-prime^-1` modulo `2 ^ 32`, for every odd word. -/
theorem negInverse_mul {a : BitVec 32} (ha : a.toNat % 2 = 1) : negInverse a * a = -1 := by
  rw [negInverse]
  apply negInverseLoop_mul (i := 0) _ (by decide) (by decide)
  · have hone : (1 : BitVec 32).toNat = 1 := rfl
    have hlt := a.isLt
    rw [BitVec.toNat_sub, hone]
    omega
  · ring

section Divide

variable {pp s : List (BitVec 32)} {m : Nat}

/-- A column stays below a word times `2 ^ m`, so that nothing of it is lost when it moves. -/
theorem factorColumn_le (a p factor : BitVec 32) (hfactor : factor.toNat < 2 ^ m) :
    a.toNat + p.toNat * factor.toNat ≤ (2 ^ 32 - 1) * 2 ^ m := by
  have ha : a.toNat ≤ 2 ^ 32 - 1 := Nat.le_sub_one_of_lt a.isLt
  have hp : p.toNat ≤ 2 ^ 32 - 1 := Nat.le_sub_one_of_lt p.isLt
  -- the factor is at most `2 ^ m - 1`, so the word itself completes the product
  calc a.toNat + p.toNat * factor.toNat ≤ (2 ^ 32 - 1) + (2 ^ 32 - 1) * factor.toNat :=
        Nat.add_le_add ha (Nat.mul_le_mul_right _ hp)
    _ = (2 ^ 32 - 1) * (factor.toNat + 1) := by ring
    _ ≤ (2 ^ 32 - 1) * 2 ^ m := Nat.mul_le_mul_left _ hfactor

/-- A column of sixty-four bits holds the whole product and the addend. -/
theorem toNat_factorColumn (a p factor : BitVec 32) :
    (a.setWidth 64 + p.setWidth 64 * factor.setWidth 64 : BitVec 64).toNat =
      a.toNat + p.toNat * factor.toNat := by
  have hle := factorColumn_le (m := 32) a p factor factor.isLt
  have hset : ∀ x : BitVec 32, (x.setWidth 64).toNat = x.toNat := by
    intro x
    rw [BitVec.toNat_setWidth, Nat.mod_eq_of_lt (x.isLt.trans (by decide))]
  have hmul : p.toNat * factor.toNat < 2 ^ 64 := by omega
  rw [BitVec.toNat_add, BitVec.toNat_mul, hset, hset, hset, Nat.mod_eq_of_lt hmul,
    Nat.mod_eq_of_lt (by omega)]

/-- The columns stand for the sum of the number and the multiple of the prime. -/
theorem ofDigits_factorColumns (factor : BitVec 32) (hlen : s.length = pp.length) :
    Nat.ofDigits (2 ^ 32) ((factorColumns factor s pp).map BitVec.toNat) =
      ofWords s + factor.toNat * ofWords pp := by
  -- column by column, over both numbers at once
  induction s generalizing pp with
  | nil => simp [factorColumns, List.eq_nil_of_length_eq_zero hlen.symm]
  | cons a s ih =>
    cases pp with
    | nil => simp at hlen
    | cons p pp =>
      have hlen' : s.length = pp.length := by simpa using hlen
      have hrest := ih hlen'
      rw [factorColumns] at hrest ⊢
      rw [List.zipWith_cons_cons, List.map_cons, Nat.ofDigits_cons, toNat_factorColumn, hrest,
        ofWords_cons, ofWords_cons]
      ring

/-- Columns that move together multiply the number that they stand for, as long as none of them
overflows. -/
theorem ofDigits_map_shiftLeft {cs : List (BitVec 64)} {n : Nat}
    (hcs : ∀ c ∈ cs, c.toNat * 2 ^ n < 2 ^ 64) :
    Nat.ofDigits (2 ^ 32) ((cs.map fun c : BitVec 64 => c <<< n).map BitVec.toNat) =
      2 ^ n * Nat.ofDigits (2 ^ 32) (cs.map BitVec.toNat) := by
  induction cs with
  | nil => simp
  | cons c cs ih =>
    have hc := hcs c List.mem_cons_self
    rw [List.map_cons, List.map_cons, Nat.ofDigits_cons, List.map_cons, Nat.ofDigits_cons,
      ih fun c' hc' => hcs c' (List.mem_cons_of_mem c hc'), BitVec.toNat_shiftLeft, Nat.shiftLeft_eq,
      Nat.mod_eq_of_lt hc]
    ring

/-- **The carries divide.** What they leave are the words of the quotient, when the quotient
fits in them. -/
theorem ofWords_divideColumns {factor : BitVec 32} (hm : m ≤ 32) (hlen : s.length = pp.length)
    (hfactor : factor.toNat < 2 ^ m)
    (hlt : (ofWords s + factor.toNat * ofWords pp) / 2 ^ m < (2 ^ 32) ^ s.length) :
    ofWords (divideColumns m (factorColumns factor s pp)) =
      (ofWords s + factor.toNat * ofWords pp) / 2 ^ m := by
  -- the columns stand for the sum, and their bound leaves room for the carries
  have hsum := ofDigits_factorColumns factor hlen
  have hcolumn : ∀ c ∈ factorColumns factor s pp, c.toNat ≤ (2 ^ 32 - 1) * 2 ^ m := by
    intro c hc
    obtain ⟨i, hi, rfl⟩ := List.getElem_of_mem hc
    simp only [factorColumns, List.getElem_zipWith, toNat_factorColumn]
    exact factorColumn_le _ _ _ hfactor
  have hlength : (factorColumns factor s pp).length = s.length := by simp [factorColumns, hlen]
  have hword : 2 ^ m * 2 ^ (32 - m) = 2 ^ 32 := by rw [← pow_add, Nat.add_sub_cancel' hm]
  rw [← hsum] at hlt ⊢
  rw [← hlength] at hlt
  generalize factorColumns factor s pp = cs at hcolumn hlt ⊢
  cases cs with
  | nil => simp [divideColumns]
  | cons temp rest =>
    -- a column that moves down keeps clear of the top word of its sixty-four bits
    have hshift : ∀ c ∈ rest, c.toNat * 2 ^ (32 - m) ≤ 2 ^ 64 - 2 ^ 32 := by
      intro c hc
      have hle := hcolumn c (List.mem_cons_of_mem temp hc)
      calc c.toNat * 2 ^ (32 - m) ≤ (2 ^ 32 - 1) * 2 ^ m * 2 ^ (32 - m) := Nat.mul_le_mul_right _ hle
        _ = (2 ^ 32 - 1) * 2 ^ 32 := by rw [Nat.mul_assoc, hword]
        _ = 2 ^ 64 - 2 ^ 32 := by norm_num
    have hfits : ∀ c ∈ rest, c.toNat * 2 ^ (32 - m) < 2 ^ 64 := fun c hc =>
      Nat.lt_of_le_of_lt (hshift c hc) (by decide)
    have hroom : ∀ c ∈ rest.map (fun c : BitVec 64 => c <<< (32 - m)) ++ [0#64], Room 32 c := by
      intro c hc
      apply room_of_lt
      rcases List.mem_append.mp hc with hmem | hmem
      · obtain ⟨c', hc', rfl⟩ := List.mem_map.mp hmem
        rw [BitVec.toNat_shiftLeft, Nat.shiftLeft_eq, Nat.mod_eq_of_lt (hfits c' hc')]
        exact hshift c' hc'
      · rw [List.mem_singleton.mp hmem]
        decide
    have htemp : (temp >>> m).toNat = temp.toNat / 2 ^ m := by
      rw [BitVec.toNat_ushiftRight, Nat.shiftRight_eq_div_pow]
    -- the first column only leaves what it has above its `m` zero bits
    have hcarry : (temp >>> m).toNat < 2 ^ (64 - 32) := by
      have hle := hcolumn temp List.mem_cons_self
      rw [htemp, Nat.div_lt_iff_lt_mul (Nat.two_pow_pos m)]
      exact Nat.lt_of_le_of_lt hle (Nat.mul_lt_mul_of_pos_right (by decide) (Nat.two_pow_pos m))
    have hdigits : Nat.ofDigits (2 ^ 32)
        ((rest.map (fun c : BitVec 64 => c <<< (32 - m)) ++ [0#64]).map BitVec.toNat) =
          2 ^ (32 - m) * Nat.ofDigits (2 ^ 32) (rest.map BitVec.toNat) := by
      rw [List.map_append, Nat.ofDigits_append, ofDigits_map_shiftLeft hfits]
      simp
    -- the other columns are multiples of the power, so the quotient splits
    have hdiv : (temp.toNat + 2 ^ 32 * Nat.ofDigits (2 ^ 32) (rest.map BitVec.toNat)) / 2 ^ m =
        temp.toNat / 2 ^ m + 2 ^ (32 - m) * Nat.ofDigits (2 ^ 32) (rest.map BitVec.toNat) := by
      rw [← hword, Nat.mul_assoc, Nat.add_mul_div_left _ _ (Nat.two_pow_pos m)]
    rw [List.map_cons, Nat.ofDigits_cons, hdiv] at hlt ⊢
    rw [divideColumns, ofWords, ofDigits_rippleList (by decide) (by decide) hcarry hroom, hdigits,
      htemp, Nat.mod_eq_of_lt]
    simpa using hlt

@[simp] theorem length_divideColumns (m : Nat) (cs : List (BitVec 64)) :
    (divideColumns m cs).length = cs.length := by
  cases cs with
  | nil => rfl
  | cons temp rest => simp [divideColumns]

@[simp] theorem length_factorColumns (factor : BitVec 32) (hlen : s.length = pp.length) :
    (factorColumns factor s pp).length = pp.length := by
  simp [factorColumns, hlen]

/-- The lowest word is the number modulo a word. -/
theorem ofWords_mod_word (xs : List (BitVec 32)) : ofWords xs % 2 ^ 32 = (xs.getD 0 0).toNat := by
  cases xs with
  | nil => rfl
  | cons x xs =>
    rw [ofWords_cons, Nat.add_mul_mod_self_left, Nat.mod_eq_of_lt x.isLt, List.getD_cons_zero]

/-- The factor makes the sum divisible by the power, as `inverse` is the negated inverse of the
lowest word of the prime. -/
theorem dvd_factor_sum {inverse factor : BitVec 32} (hm : m ≤ 32)
    (hinverse : inverse * pp.getD 0 0 = -1)
    (hfactor : factor.toNat = (inverse * s.getD 0 0).toNat % 2 ^ m) :
    2 ^ m ∣ ofWords s + factor.toNat * ofWords pp := by
  have hword : 2 ^ m ∣ 2 ^ 32 := Nat.pow_dvd_pow 2 hm
  -- in words: the factor times the prime cancels the number, as `inverse * prime` is `-1`
  have hzero : s.getD 0 0 + inverse * s.getD 0 0 * pp.getD 0 0 = 0 := by
    calc s.getD 0 0 + inverse * s.getD 0 0 * pp.getD 0 0
        = s.getD 0 0 + inverse * pp.getD 0 0 * s.getD 0 0 := by ring
      _ = 0 := by rw [hinverse]; ring
  have hnat : ((s.getD 0 0).toNat + (inverse * s.getD 0 0).toNat * (pp.getD 0 0).toNat) % 2 ^ 32 =
      0 := by
    have htoNat := congrArg BitVec.toNat hzero
    rw [BitVec.toNat_add, BitVec.toNat_mul, Nat.add_mod_mod] at htoNat
    exact htoNat
  -- a power of up to a word only sees the lowest word of each number
  have hs : ofWords s ≡ (s.getD 0 0).toNat [MOD 2 ^ m] := by
    rw [← ofWords_mod_word]
    exact ((Nat.mod_modEq _ _).of_dvd hword).symm
  have hpp : ofWords pp ≡ (pp.getD 0 0).toNat [MOD 2 ^ m] := by
    rw [← ofWords_mod_word]
    exact ((Nat.mod_modEq _ _).of_dvd hword).symm
  have hf : factor.toNat ≡ (inverse * s.getD 0 0).toNat [MOD 2 ^ m] := by
    rw [hfactor]
    exact Nat.mod_modEq _ _
  -- the sum is congruent to the one of the lowest words
  rw [← Nat.modEq_zero_iff_dvd]
  calc ofWords s + factor.toNat * ofWords pp
      ≡ (s.getD 0 0).toNat + (inverse * s.getD 0 0).toNat * (pp.getD 0 0).toNat [MOD 2 ^ m] :=
        hs.add (hf.mul hpp)
    _ ≡ 0 [MOD 2 ^ m] := (Nat.modEq_zero_iff_dvd.mpr (Nat.dvd_of_mod_eq_zero hnat)).of_dvd hword

/-- `r` is `s / 2^m` modulo the prime: as many words as the prime, below it, and congruent to
`s` when multiplied by the power. -/
structure Divided (pp s : List (BitVec 32)) (m : Nat) (r : List (BitVec 32)) : Prop where
  length : r.length = pp.length
  lt : ofWords r < ofWords pp
  modEq : 2 ^ m * ofWords r ≡ ofWords s [MOD ofWords pp]

/-- Divisions one after the other divide by the product of their powers. -/
theorem Divided.trans {n : Nat} {r t : List (BitVec 32)} (h : Divided pp s m r)
    (h' : Divided pp r n t) : Divided pp s (m + n) t where
  length := h'.length
  lt := h'.lt
  modEq := by
    calc 2 ^ (m + n) * ofWords t = 2 ^ m * (2 ^ n * ofWords t) := by rw [pow_add, Nat.mul_assoc]
      _ ≡ 2 ^ m * ofWords r [MOD ofWords pp] := h'.modEq.mul_left _
      _ ≡ ofWords s [MOD ofWords pp] := h.modEq

/-- One division by up to a word, whatever the factor was cut to. -/
theorem divided_columns {inverse factor : BitVec 32} (hm : m ≤ 32) (hlen : s.length = pp.length)
    (hlt : ofWords s < ofWords pp) (hinverse : inverse * pp.getD 0 0 = -1)
    (hfactor : factor.toNat = (inverse * s.getD 0 0).toNat % 2 ^ m) :
    Divided pp s m (divideColumns m (factorColumns factor s pp)) := by
  have hsmall : factor.toNat < 2 ^ m := by
    rw [hfactor]
    exact Nat.mod_lt _ (Nat.two_pow_pos m)
  obtain ⟨hless, hmod⟩ := halve_modEq hlt hsmall (dvd_factor_sum hm hinverse hfactor)
  -- the quotient is below the prime, which fits in as many words
  have hfits : (ofWords s + factor.toNat * ofWords pp) / 2 ^ m < (2 ^ 32) ^ s.length := by
    rw [hlen]
    exact hless.trans (ofWords_lt pp)
  have hvalue := ofWords_divideColumns hm hlen hsmall hfits
  refine ⟨?_, ?_, ?_⟩
  · rw [length_divideColumns, length_factorColumns factor hlen]
  · rwa [hvalue]
  · rwa [hvalue]

variable {inverse : BitVec 32}

theorem divided_divideWord (hlen : s.length = pp.length) (hlt : ofWords s < ofWords pp)
    (hinverse : inverse * pp.getD 0 0 = -1) : Divided pp s 32 (divideWord pp inverse s) := by
  apply divided_columns (Nat.le_refl 32) hlen hlt hinverse
  rw [Nat.mod_eq_of_lt (BitVec.isLt _)]

theorem divided_divideBits {k : Nat} (hk : k < 32) (hlen : s.length = pp.length)
    (hlt : ofWords s < ofWords pp) (hinverse : inverse * pp.getD 0 0 = -1) :
    Divided pp s k (divideBits pp inverse k s) := by
  apply divided_columns hk.le hlen hlt hinverse
  have hpow : 2 ^ k < 2 ^ 32 := Nat.pow_lt_pow_right (by decide) hk
  -- the mask has the low `k` bits, so it takes the remainder
  have hshift : (1#32 <<< k).toNat = 2 ^ k := by
    rw [BitVec.toNat_shiftLeft, Nat.shiftLeft_eq, BitVec.toNat_ofNat, Nat.one_mod, Nat.one_mul,
      Nat.mod_eq_of_lt hpow]
  have hmask : (1#32 <<< k - 1).toNat = 2 ^ k - 1 := by
    have hpos := Nat.two_pow_pos k
    have hone : (1 : BitVec 32).toNat = 1 := rfl
    rw [BitVec.toNat_sub, hshift, hone]
    omega
  rw [BitVec.toNat_and, hmask, Nat.and_two_pow_sub_one_eq_mod]

/-- **The division by a power of two.** For every `k`, the result is below the prime and is the
quotient modulo it. -/
theorem divided_dividePower (k : Nat) (hlen : s.length = pp.length) (hlt : ofWords s < ofWords pp)
    (hinverse : inverse * pp.getD 0 0 = -1) : Divided pp s k (dividePower pp inverse k s) := by
  -- whole words first, then what is left of `k`
  have hwords : ∀ n, Divided pp s (32 * n) ((divideWord pp inverse)^[n] s) := by
    intro n
    induction n with
    | zero => exact ⟨hlen, hlt, by rw [Nat.mul_zero, pow_zero, Nat.one_mul]; rfl⟩
    | succ n ih =>
      rw [Function.iterate_succ_apply', Nat.mul_succ]
      exact ih.trans (divided_divideWord ih.length ih.lt hinverse)
  have hsplit := Nat.div_add_mod k 32
  have h := hwords (k / 32)
  rw [dividePower]
  split
  case isTrue hzero =>
    rw [hzero, Nat.add_zero] at hsplit
    rwa [hsplit] at h
  case isFalse =>
    have hbits := h.trans (divided_divideBits (Nat.mod_lt k (by decide)) h.length h.lt hinverse)
    rwa [hsplit] at hbits

end Divide

/-! ## Limbs and Words -/

/-- The loop that changes limbs into words, from index `i` on. `temp32` holds the bits of the
limb before that have not found a word yet. -/
def packWords (i : Nat) (temp32 : BitVec 32) : List (BitVec 32) → List (BitVec 32)
  | [] => []
  | limb :: limbs =>
    (temp32 ||| limb <<< (30 - 2 * i)) :: packWords (i + 1) (limb >>> (2 + 2 * i)) limbs

/-- The number in eight words, from its nine limbs. -/
def pack (x : Bignum256) : List (BitVec 32) := packWords 0 (x.toList.getD 0 0) x.toList.tail

/-- The loop that changes words into limbs, from index `i` on, with the last limb from what is
left. -/
def unpackLimbs (i : Nat) (temp32 : BitVec 32) : List (BitVec 32) → List (BitVec 32)
  | [] => [temp32]
  | word :: words =>
    (word <<< (2 * i) &&& 0x3FFFFFFF ||| temp32) :: unpackLimbs (i + 1) (word >>> (30 - 2 * i)) words

/-- `x = 1/x` modulo the prime: the number is reduced, the almost inverse of it is found, and
the power of two is divided out. The loop of the almost inverse ends after at most 513 turns;
with the bound it is a total function, and `none` stands for a loop that would go on. -/
def bnInverse (x prime : Bignum256) : Option Bignum256 := do
  let x := bnMod (bnFastMod x prime) prime
  let pp := pack prime
  let (us, k) ← almostInverse 513 ⟨pack x, [0]⟩ ⟨pp, [1]⟩ false 0
  let s := dividePower pp (negInverse (pp.getD 0 0)) k ((us.head ++ us.tail).drop 1).reverse
  return Vector.ofFn fun i : Fin 9 => (unpackLimbs 0 0 s).getD i 0

@[simp] theorem length_packWords (i : Nat) (temp32 : BitVec 32) (limbs : List (BitVec 32)) :
    (packWords i temp32 limbs).length = limbs.length := by
  induction limbs generalizing i temp32 with
  | nil => rfl
  | cons limb limbs ih => rw [packWords, List.length_cons, ih, List.length_cons]

/-- What one limb adds to the words: the sum of the word and the carry stands for what was
carried and the limb. -/
theorem pack_step {i : Nat} (hi : i ≤ 14) {temp32 : BitVec 32}
    (htemp : temp32.toNat < 2 ^ (30 - 2 * i)) (limb : BitVec 32) :
    (temp32 ||| limb <<< (30 - 2 * i)).toNat + 2 ^ 32 * (limb >>> (2 + 2 * i)).toNat =
      temp32.toNat + 2 ^ (30 - 2 * i) * limb.toNat := by
  have hword : 2 ^ (30 - 2 * i) * 2 ^ (2 + 2 * i) = 2 ^ 32 := by rw [← pow_add]; congr 1; omega
  -- the limb divides at the top of the word: its low part fills the word, the rest is carried
  have hshift : (limb <<< (30 - 2 * i)).toNat = 2 ^ (30 - 2 * i) * (limb.toNat % 2 ^ (2 + 2 * i)) := by
    rw [BitVec.toNat_shiftLeft, Nat.shiftLeft_eq, Nat.mul_comm limb.toNat, ← hword,
      Nat.mul_mod_mul_left]
  have hlimb := Nat.mod_add_div limb.toNat (2 ^ (2 + 2 * i))
  rw [BitVec.toNat_or, hshift, Nat.or_comm, ← Nat.two_pow_add_eq_or_of_lt htemp,
    BitVec.toNat_ushiftRight, Nat.shiftRight_eq_div_pow]
  calc _ = temp32.toNat + 2 ^ (30 - 2 * i) * (limb.toNat % 2 ^ (2 + 2 * i) +
        2 ^ (2 + 2 * i) * (limb.toNat / 2 ^ (2 + 2 * i))) := by rw [← hword]; ring
    _ = _ := by rw [hlimb]

/-- The words stand for the limbs, modulo as many words as there are. The induction is on the
limbs, with the carry below `2 ^ (30 - 2 * i)`. -/
theorem ofWords_packWords {i : Nat} {temp32 : BitVec 32} {limbs : List (BitVec 32)}
    (hi : i + limbs.length ≤ 15) (htemp : temp32.toNat < 2 ^ (30 - 2 * i))
    (hlimbs : Digits 30 limbs) :
    ofWords (packWords i temp32 limbs) =
      (temp32.toNat + 2 ^ (30 - 2 * i) * Nat.ofDigits (2 ^ 30) (limbs.map BitVec.toNat)) %
        (2 ^ 32) ^ limbs.length := by
  induction limbs generalizing i temp32 with
  | nil => simp [packWords, Nat.mod_one]
  | cons limb limbs ih =>
    rw [List.length_cons] at hi
    have hstep := pack_step (by omega) htemp limb
    -- what is carried into the next word has two bits less room
    have hkept : (limb >>> (2 + 2 * i)).toNat < 2 ^ (30 - 2 * (i + 1)) := by
      have hlimb := hlimbs limb List.mem_cons_self
      have hpow : 2 ^ (30 - 2 * (i + 1)) * 2 ^ (2 + 2 * i) = 2 ^ 30 := by
        rw [← pow_add]; congr 1; omega
      rw [BitVec.toNat_ushiftRight, Nat.shiftRight_eq_div_pow,
        Nat.div_lt_iff_lt_mul (Nat.two_pow_pos _), hpow]
      exact hlimb
    have hpow : 2 ^ 32 * 2 ^ (30 - 2 * (i + 1)) = 2 ^ (30 - 2 * i) * 2 ^ 30 := by
      rw [← pow_add, ← pow_add]; congr 1; omega
    have hword := (temp32 ||| limb <<< (30 - 2 * i)).isLt
    -- one turn moves the value of a limb into the word and the carry
    have hsum : temp32.toNat + 2 ^ (30 - 2 * i) *
          Nat.ofDigits (2 ^ 30) ((limb :: limbs).map BitVec.toNat) =
        (temp32 ||| limb <<< (30 - 2 * i)).toNat + 2 ^ 32 * ((limb >>> (2 + 2 * i)).toNat +
          2 ^ (30 - 2 * (i + 1)) * Nat.ofDigits (2 ^ 30) (limbs.map BitVec.toNat)) := by
      rw [List.map_cons, Nat.ofDigits_cons]
      calc _ = (temp32.toNat + 2 ^ (30 - 2 * i) * limb.toNat) + 2 ^ (30 - 2 * i) * 2 ^ 30 *
            Nat.ofDigits (2 ^ 30) (limbs.map BitVec.toNat) := by ring
        _ = _ := by rw [← hstep, ← hpow]; ring
    -- the remainder modulo the words splits into the first word and the rest
    rw [packWords, ofWords_cons, ih (by omega) hkept fun x hx => hlimbs x (List.mem_cons_of_mem limb hx),
      hsum, List.length_cons, pow_succ' (2 ^ 32) limbs.length, Nat.mod_mul,
      Nat.add_mul_mod_self_left, Nat.mod_eq_of_lt hword,
      Nat.add_mul_div_left _ _ (Nat.two_pow_pos 32), Nat.div_eq_of_lt hword, Nat.zero_add]

/-- **A number that fits keeps its value in words.** The nine limbs of a number below `2 ^ 256`
become eight words of the same value. -/
theorem ofWords_pack {x : Bignum256} (hx : Normalized x) (hlt : value x < 2 ^ 256) :
    (pack x).length = 8 ∧ ofWords (pack x) = value x := by
  have hlength : x.toList.length = 9 := Vector.length_toList
  have hdigits : Digits 30 x.toList := by
    intro y hy
    obtain ⟨i, hi, rfl⟩ := List.getElem_of_mem hy
    exact hx ⟨i, hlength ▸ hi⟩
  rw [value, Limbs.value_eq_ofDigits] at hlt ⊢
  rw [pack]
  -- the ninth limb of a number below `2 ^ 256` leaves no carry
  generalize x.toList = limbs at hlength hdigits hlt
  cases limbs with
  | nil => simp at hlength
  | cons limb limbs =>
    have hlength' : limbs.length = 8 := by simpa using hlength
    have hlimb : limb.toNat < 2 ^ (30 - 2 * 0) := hdigits limb List.mem_cons_self
    have hrest : Digits 30 limbs := fun y hy => hdigits y (List.mem_cons_of_mem limb hy)
    have hpow : ((2 : Nat) ^ 32) ^ 8 = 2 ^ 256 := by rw [← pow_mul]
    rw [List.map_cons, Nat.ofDigits_cons] at hlt ⊢
    rw [List.getD_cons_zero, List.tail_cons, length_packWords,
      ofWords_packWords (by omega) hlimb hrest, hlength', hpow]
    exact ⟨rfl, Nat.mod_eq_of_lt hlt⟩

/-- The words are read into limbs in the same way as a raw number, with the mask in another
place. -/
theorem unpackLimbs_eq {i : Nat} {temp32 : BitVec 32} {words : List (BitVec 32)}
    (hi : i + words.length ≤ 15) (htemp : temp32.toNat < 2 ^ (2 * i)) :
    unpackLimbs i temp32 words = readLimbs i temp32 words := by
  induction words generalizing i temp32 with
  | nil => rfl
  | cons word words ih =>
    rw [List.length_cons] at hi
    -- `bn_inverse` masks the word, `bn_read_be` the whole limb: the carried bits are already short
    have hmask : temp32 &&& 0x3FFFFFFF = temp32 := by
      have hpow : 2 ^ (2 * i) ≤ 2 ^ 30 := Nat.pow_le_pow_right (by decide) (by omega)
      have hones : (0x3FFFFFFF : BitVec 32).toNat = 2 ^ 30 - 1 := rfl
      apply BitVec.eq_of_toNat_eq
      rw [BitVec.toNat_and, hones, Nat.and_two_pow_sub_one_eq_mod,
        Nat.mod_eq_of_lt (Nat.lt_of_lt_of_le htemp hpow)]
    have hlimb : word <<< (2 * i) &&& 0x3FFFFFFF ||| temp32 =
        (temp32 ||| word <<< (2 * i)) &&& 0x3FFFFFFF := by
      rw [BitVec.and_or_distrib_right, hmask, BitVec.or_comm]
    rw [unpackLimbs, readLimbs, hlimb, ih (by omega) (toNat_kept_lt (by omega) word)]

/-- Eight words become nine normalized limbs of the same value. -/
theorem unpackLimbs_spec {s : List (BitVec 32)} (hlen : s.length = 8) :
    Normalized (Vector.ofFn fun i : Fin 9 => (unpackLimbs 0 0 s).getD i 0) ∧
      value (Vector.ofFn fun i : Fin 9 => (unpackLimbs 0 0 s).getD i 0) = ofWords s := by
  -- from here on this is the reading of a raw number
  have hunpack : unpackLimbs 0 0 s = readLimbs 0 0 s := unpackLimbs_eq (by omega) (by simp)
  have hshort : 0 + s.length ≤ 15 := by omega
  obtain ⟨hvalue, hlt⟩ := ofDigits_readLimbs (t := 0) hshort (by simp)
  have hlength : (readLimbs 0 0 s).length = 9 := by rw [length_readLimbs, hlen]
  rw [hunpack]
  constructor
  · intro i
    rw [Fin.getElem_fin, Vector.getElem_ofFn]
    exact Digits.getD_lt hlt i
  · rw [value, Limbs.value_ofFn, ← Finset.sum_range fun i =>
      ((readLimbs 0 0 s).getD i 0).toNat * (2 ^ 30) ^ i,
      ← Limbs.ofDigits_eq_sum_range hlength.le, hvalue]
    simp [ofWords]

/-! ## The Inverse -/

section Inverse

variable {m : Modulus} {x y : Bignum256}

/-- What `bn_fast_mod` and `bn_mod` leave together: the remainder modulo the prime, whatever the
number was. -/
theorem reduced_spec (x : Bignum256) (m : Modulus) :
    Normalized (bnMod (bnFastMod x m.prime) m.prime) ∧
      value (bnMod (bnFastMod x m.prime) m.prime) < value m.prime ∧
      value (bnMod (bnFastMod x m.prime) m.prime) ≡ value x [MOD value m.prime] := by
  have hfast := partlyReduced_bnFastMod x m
  have hle := m.le_value
  refine ⟨normalized_bnMod hfast, ?_, ?_⟩
  · rw [value_bnMod hfast]
    exact Nat.mod_lt _ (by omega)
  · rw [value_bnMod hfast]
    exact (Nat.mod_modEq _ _).trans (bnFastMod_modEq x m)

/-- The registers before the loop are those of the almost inverse at its start: the number with
the coefficient zero, the prime with one. -/
theorem turn_start (hy : Normalized y) (hlt : value y < value m.prime)
    (hodd : value m.prime % 2 = 1) (hcoprime : Nat.Coprime (value y) (value m.prime)) :
    Turn (value m.prime) (value y) ⟨pack y, [0]⟩ ⟨pack m.prime, [1]⟩ false
      (value y) 0 (value m.prime) 1 0 := by
  have hle := m.le_value
  -- zero has no inverse modulo a number above one
  have hpos : 0 < value y := by
    apply Nat.pos_of_ne_zero
    intro hzero
    rw [hzero, Nat.coprime_zero_left] at hcoprime
    omega
  obtain ⟨hlength, hpack⟩ := ofWords_pack hy (hlt.trans m.value_lt)
  obtain ⟨hlength', hpack'⟩ := ofWords_pack m.normalized m.value_lt
  refine ⟨⟨?_, hpack, rfl⟩, ⟨?_, hpack', rfl⟩, ?_, almost_start hpos hodd hcoprime⟩
  · rw [hlength]
    rfl
  · rw [hlength']
    rfl
  · rw [Combo.Trimmed, hlength', hpack']
    omega

/-- A head that holds one has one word, as heads are trimmed to the value that they hold. -/
theorem Combo.Holds.length_head {us : Combo} {s : Nat} (h : us.Holds 1 s) (htrim : us.Trimmed) :
    us.head.length = 1 := by
  have hnonempty : us.head.length ≠ 0 := fun hzero =>
    htrim.head_ne_nil (List.length_eq_zero_iff.mp hzero)
  rw [Combo.Trimmed, h.head, Nat.mul_one] at htrim
  -- a second word would make the head more than its own trimmed value allows
  have hle : us.head.length ≤ 1 := by
    by_contra hgt
    have hpow : ((2 : Nat) ^ 32) ^ 2 ≤ (2 ^ 32) ^ us.head.length :=
      Nat.pow_le_pow_right (by decide) (by omega)
    omega
  omega

/-- **The inverse of a number that has one.** The function terminates, and its result is
normalized, below the prime and the inverse modulo it, for every odd modulus of the kind to
which the number is coprime. -/
theorem bnInverse_spec (hodd : value m.prime % 2 = 1)
    (hcoprime : Nat.Coprime (value x) (value m.prime)) :
    ∃ y, bnInverse x m.prime = some y ∧ Normalized y ∧ value y < value m.prime ∧
      value x * value y ≡ 1 [MOD value m.prime] := by
  obtain ⟨hreduced, hlt, hmod⟩ := reduced_spec x m
  -- the reduction before the loop does not change what divides
  have hcoprime' : Nat.Coprime (value (bnMod (bnFastMod x m.prime) m.prime)) (value m.prime) := by
    rw [Nat.Coprime, hmod.gcd_eq]
    exact hcoprime
  have hturn := turn_start hreduced hlt hodd hcoprime'
  have hprime : value m.prime < (2 ^ 32) ^ 8 := by
    rw [← pow_mul]
    exact m.value_lt
  have hone : 1 < value m.prime := by
    have hle := m.le_value
    omega
  -- the product bounds the number of turns, which is why 513 are enough
  have hproduct : value (bnMod (bnFastMod x m.prime) m.prime) * value m.prime < 2 ^ 512 :=
    calc _ < 2 ^ 256 * 2 ^ 256 := Nat.mul_lt_mul'' (hlt.trans m.value_lt) m.value_lt
      _ = 2 ^ 512 := by rw [← pow_add]
  obtain ⟨us, k, s, hfound, hus, htrimmed, hs, halmost⟩ := hturn.start hodd hone hprime hproduct
  obtain ⟨hlength, hpack⟩ := ofWords_pack m.normalized m.value_lt
  -- the division takes the eight words behind the one of the head
  have hdrop : (us.head ++ us.tail).drop 1 = us.tail := by
    rw [← hus.length_head htrimmed, List.drop_left]
  have htail : us.tail.reverse.length = (pack m.prime).length := by
    have hlen := hus.length
    rw [hus.length_head htrimmed] at hlen
    rw [List.length_reverse, hlength]
    omega
  have hsvalue : ofWords us.tail.reverse = s := hus.tail
  -- the lowest word of an odd modulus is odd, which is all that its negated inverse needs
  have hinverse : negInverse ((pack m.prime).getD 0 0) * (pack m.prime).getD 0 0 = -1 := by
    apply negInverse_mul
    rw [← ofWords_mod_word, hpack, Nat.mod_mod_of_dvd _ (by decide : 2 ∣ 2 ^ 32)]
    exact hodd
  have hdivided := divided_dividePower k htail (by rw [hsvalue, hpack]; exact hs) hinverse
  obtain ⟨hnormalized, hvalue⟩ := unpackLimbs_spec (hdivided.length.trans hlength)
  refine ⟨_, ?_, hnormalized, ?_, ?_⟩
  · simp only [bnInverse, hfound, Option.bind_eq_bind, Option.bind_some, Option.pure_def, hdrop]
  · rw [hvalue, ← hpack]
    exact hdivided.lt
  · have hquotient := hdivided.modEq
    rw [hpack, hsvalue] at hquotient
    rw [hvalue]
    exact (hmod.symm.mul_right _).trans (inverse_of_almost hodd halmost hquotient)

end Inverse

end RlyNetworkSdk.Crypto.Bignum
