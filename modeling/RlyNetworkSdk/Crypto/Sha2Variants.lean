import RlyNetworkSdk.Crypto.Sha2Transform
import Mathlib.Tactic.IntervalCases

/-!
# SHA-256 and SHA-512

What the two hash functions of `sha2.c` differ in: the word length with the macro that reverses
the bytes of a word, the way the message length is counted, and the constants. Every variant
carries the laws that the common code relies on.
-/

namespace RlyNetworkSdk.Crypto.Sha2

open Encoding

/-! ## Byte Order -/

/-- The macro `REVERSE32`. -/
def reverse32 (w : BitVec 32) : BitVec 32 :=
  let tmp := w >>> 16 ||| w <<< 16
  (tmp &&& 0xff00ff00) >>> 8 ||| (tmp &&& 0x00ff00ff) <<< 8

/-- The macro `REVERSE64`. -/
def reverse64 (w : BitVec 64) : BitVec 64 :=
  let tmp := w >>> 32 ||| w <<< 32
  let tmp := (tmp &&& 0xff00ff00ff00ff00) >>> 8 ||| (tmp &&& 0x00ff00ff00ff00ff) <<< 8
  (tmp &&& 0xffff0000ffff0000) >>> 16 ||| (tmp &&& 0x0000ffff0000ffff) <<< 16

/-- A word read in one byte order and reversed is the word read in the other. -/
theorem reverse32_loadLE (bs : List UInt8) (hbs : bs.length = 4) :
    reverse32 (loadLE 32 bs) = loadBE 32 bs := by
  have hload : loadBE 32 bs = loadLE 32 bs.reverse := by rw [loadLE, List.reverse_reverse]
  have hreverse : ∀ j < 4, bs.reverse.getD j 0 = bs.getD (3 - j) 0 := by
    intro j hj
    rw [List.getD_reverse j (by omega), hbs]
  rw [hload]
  apply BitVec.eq_of_getLsbD_eq
  intro i hi
  rw [getLsbD_loadLE _ hi, hreverse _ (by omega)]
  -- every bit of the result is one bit of the argument
  interval_cases i <;>
    simp [reverse32, getElem_loadLE]

theorem reverse64_loadLE (bs : List UInt8) (hbs : bs.length = 8) :
    reverse64 (loadLE 64 bs) = loadBE 64 bs := by
  have hload : loadBE 64 bs = loadLE 64 bs.reverse := by rw [loadLE, List.reverse_reverse]
  have hreverse : ∀ j < 8, bs.reverse.getD j 0 = bs.getD (7 - j) 0 := by
    intro j hj
    rw [List.getD_reverse j (by omega), hbs]
  rw [hload]
  apply BitVec.eq_of_getLsbD_eq
  intro i hi
  rw [getLsbD_loadLE _ hi, hreverse _ (by omega)]
  interval_cases i <;>
    simp [reverse64, getElem_loadLE]

/-! ## Bit Counts -/

/-- How a context counts the bits it has seen, as a number of `2 * w` bits. -/
structure BitCount (w : Nat) where
  Count : Type
  zero : Count
  add : Count → BitVec 64 → Count
  /-- The word that tells how much of the buffer is used. -/
  least : Count → BitVec 64
  /-- The two words at the end of the last block. -/
  high : Count → BitVec w
  low : Count → BitVec w
  val : Count → Nat
  val_zero : val zero = 0
  val_add : ∀ c n, val (add c n) = (val c + n.toNat) % 2 ^ (2 * w)
  toNat_least : ∀ c, (least c).toNat = val c % 2 ^ 64
  toNat_high : ∀ c, (high c).toNat = val c / 2 ^ w
  toNat_low : ∀ c, (low c).toNat = val c % 2 ^ w

/-- SHA-256 counts in one word of 64 bits, of which the two words of the length are the halves. -/
def bitCount256 : BitCount 32 where
  Count := BitVec 64
  zero := 0
  add c n := c + n
  least c := c
  high c := (c >>> 32).setWidth 32
  low c := (c &&& 0xffffffff).setWidth 32
  val := BitVec.toNat
  val_zero := rfl
  val_add c n := BitVec.toNat_add c n
  toNat_least c := (Nat.mod_eq_of_lt c.isLt).symm
  toNat_high c := by
    have hc := c.isLt
    have hlt : c.toNat / 2 ^ 32 < 2 ^ 32 := by omega
    rw [BitVec.toNat_setWidth, BitVec.toNat_ushiftRight, Nat.shiftRight_eq_div_pow,
      Nat.mod_eq_of_lt hlt]
  toNat_low c := by
    have hmask : (c &&& 0xffffffff).toNat = c.toNat % 2 ^ 32 := by
      rw [BitVec.toNat_and]
      exact Nat.and_two_pow_sub_one_eq_mod c.toNat 32
    rw [BitVec.toNat_setWidth, hmask, Nat.mod_mod]

/-- The macro `ADDINC128`: the carry of the first word is added to the second. A sum that is
smaller than what was added has overflowed. -/
def addinc128 (w : BitVec 64 × BitVec 64) (n : BitVec 64) : BitVec 64 × BitVec 64 :=
  let w₀ := w.1 + n
  if w₀ < n then (w₀, w.2 + 1) else (w₀, w.2)

theorem addinc128_val (w : BitVec 64 × BitVec 64) (n : BitVec 64) :
    (addinc128 w n).1.toNat + 2 ^ 64 * (addinc128 w n).2.toNat =
      (w.1.toNat + 2 ^ 64 * w.2.toNat + n.toNat) % 2 ^ 128 := by
  obtain ⟨x, y⟩ := w
  have hx := x.isLt
  have hy := y.isLt
  have hn := n.isLt
  have hsum : (x + n).toNat = (x.toNat + n.toNat) % 2 ^ 64 := BitVec.toNat_add x n
  -- the sum is smaller than a summand if and only if it has wrapped around
  rw [addinc128]
  simp only [BitVec.lt_def]
  split
  case isTrue h =>
    have hcarry : (y + 1).toNat = (y.toNat + 1) % 2 ^ 64 := BitVec.toNat_add y 1
    simp only [hcarry, hsum] at h ⊢
    omega
  case isFalse h =>
    simp only [hsum] at h ⊢
    omega

/-- SHA-512 counts in two words of 64 bits, the lower one first. -/
def bitCount512 : BitCount 64 where
  Count := BitVec 64 × BitVec 64
  zero := (0, 0)
  add := addinc128
  least c := c.1
  high c := c.2
  low c := c.1
  val c := c.1.toNat + 2 ^ 64 * c.2.toNat
  val_zero := rfl
  val_add := addinc128_val
  toNat_least c := by
    have h := c.1.isLt
    omega
  toNat_high c := by
    have h := c.1.isLt
    omega
  toNat_low c := by
    have h := c.1.isLt
    omega

/-! ## Variants -/

/-- What SHA-256 and SHA-512 differ in: the transform, its initial value, the bytes of a word,
and how the bits are counted. -/
structure Variant (w : Nat) where
  params : Params w
  le_rounds : 16 ≤ params.rounds
  initialHashValue : State w
  /-- The bytes of a word. -/
  wordLength : Nat
  width_eq : w = 8 * wordLength
  /-- A block has sixteen words, and its length divides every power the counters wrap at. -/
  blockLength_dvd : 16 * wordLength ∣ 2 ^ 60
  reverse : BitVec w → BitVec w
  reverse_loadLE : ∀ bs, bs.length = wordLength → reverse (loadLE w bs) = loadBE w bs
  count : BitCount w
  width_le : 64 ≤ 2 * w

def variant256 : Variant 32 where
  params := params256
  le_rounds := by decide
  initialHashValue := sha256InitialHashValue
  wordLength := 4
  width_eq := rfl
  blockLength_dvd := by decide
  reverse := reverse32
  reverse_loadLE := reverse32_loadLE
  count := bitCount256
  width_le := by decide

def variant512 : Variant 64 where
  params := params512
  le_rounds := by decide
  initialHashValue := sha512InitialHashValue
  wordLength := 8
  width_eq := rfl
  blockLength_dvd := by decide
  reverse := reverse64
  reverse_loadLE := reverse64_loadLE
  count := bitCount512
  width_le := by decide

end RlyNetworkSdk.Crypto.Sha2
