import Mathlib.Data.List.Induction
import Mathlib.Tactic.Ring

/-!
# Big-Endian Bytes

The number that a list of bytes stands for, most significant byte first, and the form of a
number in a fixed count of bytes. `value` and `ofNat` are inverse to each other on lists of
that length, which is what makes concatenated fixed-width fields readable and injective.
-/

namespace RlyNetworkSdk.Encoding.BigEndian

/-- The number that the bytes stand for. -/
def value (bs : List UInt8) : Nat := bs.foldl (fun n b => 256 * n + b.toNat) 0

/-- The last `len` bytes of a number. A longer one is cut off in front. -/
def ofNat : Nat → Nat → List UInt8
  | 0, _ => []
  | len + 1, n => ofNat len (n / 256) ++ [UInt8.ofNat n]

/-! ## Reading -/

@[simp] theorem value_nil : value [] = 0 := rfl

@[simp] theorem value_append_singleton (bs : List UInt8) (b : UInt8) :
    value (bs ++ [b]) = 256 * value bs + b.toNat := by
  simp [value]

theorem value_append (as bs : List UInt8) :
    value (as ++ bs) = 256 ^ bs.length * value as + value bs := by
  induction bs using List.reverseRecOn with
  | nil => simp
  | append_singleton bs b ih =>
    rw [← List.append_assoc, value_append_singleton, ih, value_append_singleton,
      List.length_append, List.length_singleton]
    ring

@[simp] theorem value_singleton (b : UInt8) : value [b] = b.toNat := by simp [value]

theorem value_cons (b : UInt8) (bs : List UInt8) :
    value (b :: bs) = 256 ^ bs.length * b.toNat + value bs := by
  simpa using value_append [b] bs

/-- Leading zero bytes do not count. -/
@[simp] theorem value_replicate_zero_append (n : Nat) (bs : List UInt8) :
    value (List.replicate n 0 ++ bs) = value bs := by
  induction n with
  | zero => rfl
  | succ n ih => simp [List.replicate_succ, value_cons, ih]

theorem value_lt (bs : List UInt8) : value bs < 256 ^ bs.length := by
  induction bs using List.reverseRecOn with
  | nil => simp
  | append_singleton bs b ih =>
    have hb := b.toNat_lt
    rw [value_append_singleton, List.length_append, List.length_singleton, pow_succ]
    omega

/-! ## Writing -/

@[simp] theorem length_ofNat (len n : Nat) : (ofNat len n).length = len := by
  induction len generalizing n with
  | zero => rfl
  | succ len ih => simp [ofNat, ih]

@[simp] theorem value_ofNat (len n : Nat) : value (ofNat len n) = n % 256 ^ len := by
  induction len generalizing n with
  | zero => simp [ofNat, Nat.mod_one]
  | succ len ih =>
    -- the last byte is `n % 256`, and the others stand for `n / 256`
    rw [ofNat, value_append_singleton, ih, pow_succ', Nat.mod_mul]
    simp [UInt8.toNat_ofNat']
    omega

theorem value_ofNat_of_lt {len n : Nat} (h : n < 256 ^ len) : value (ofNat len n) = n := by
  rw [value_ofNat, Nat.mod_eq_of_lt h]

/-- Writing is injective on the numbers that fit. -/
theorem ofNat_inj {len n m : Nat} (hn : n < 256 ^ len) (hm : m < 256 ^ len)
    (h : ofNat len n = ofNat len m) : n = m := by
  rw [← value_ofNat_of_lt hn, ← value_ofNat_of_lt hm, h]

/-- The last `len` bytes of a number, one by one. -/
theorem ofNat_eq_map_range (len n : Nat) :
    ofNat len n =
      (List.range len).reverse.map fun i => UInt8.ofNat (n / 256 ^ i) := by
  induction len generalizing n with
  | zero => rfl
  | succ len ih =>
    -- the last byte is the one with exponent zero
    rw [ofNat, ih, List.range_succ_eq_map, List.reverse_cons, List.map_append,
      ← List.map_reverse, List.map_map]
    congr 1
    · refine List.map_congr_left fun i _ => ?_
      simp [Nat.div_div_eq_div_mul, pow_succ, Nat.mul_comm]
    · simp

/-- Bytes are what is written for their value. -/
@[simp] theorem ofNat_value (bs : List UInt8) : ofNat bs.length (value bs) = bs := by
  induction bs using List.reverseRecOn with
  | nil => rfl
  | append_singleton bs b ih =>
    have hb := b.toNat_lt
    have hdiv : (256 * value bs + b.toNat) / 256 = value bs := by omega
    have hlast : UInt8.ofNat (256 * value bs + b.toNat) = b := by
      apply UInt8.toNat_inj.mp
      rw [UInt8.toNat_ofNat']
      omega
    rw [List.length_append, List.length_singleton, value_append_singleton, ofNat, hdiv, ih,
      hlast]

/-- Lists of the same length are told apart by their values. -/
theorem eq_of_value_eq {as bs : List UInt8} (hlen : as.length = bs.length)
    (h : value as = value bs) : as = bs := by
  rw [← ofNat_value as, ← ofNat_value bs, hlen, h]

/-- A number is written field by field, the higher one first. -/
theorem ofNat_add (a b n : Nat) : ofNat (a + b) n = ofNat a (n / 256 ^ b) ++ ofNat b n := by
  apply eq_of_value_eq
  · simp
  · rw [value_append, value_ofNat, value_ofNat, value_ofNat, length_ofNat, Nat.add_comm a b,
      pow_add, Nat.mod_mul, Nat.add_comm]

-- clients use the lemmas, and do not unroll the recursion on a literal length
attribute [irreducible] ofNat

end RlyNetworkSdk.Encoding.BigEndian
