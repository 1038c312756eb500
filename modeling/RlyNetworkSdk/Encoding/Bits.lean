import RlyNetworkSdk.Encoding.Words
import Mathlib.Data.List.GetD

/-!
# Bit Strings

Numbers and bytes as strings of bits, the most significant bit first. A program that packs
fields of an odd width into bytes, and one that reads them back bit by bit, both work on such a
string: a bit that is set in a byte is set in the string (`ofBytes_set`).
-/

namespace RlyNetworkSdk.Encoding.Bits

/-- The last `n` binary digits of a number, the highest one first. -/
def ofNat (n v : Nat) : List Bool := (List.range n).map fun i => v.testBit (n - 1 - i)

/-- The number that a string of bits stands for, the first bit being the highest. -/
def toNat (bits : List Bool) : Nat := bits.foldl (fun v b => 2 * v + b.toNat) 0

/-- The bits of a string of bytes. -/
def ofBytes (bs : List UInt8) : List Bool := bs.flatMap fun b => ofNat 8 b.toNat

/-! ## Numbers -/

@[simp] theorem length_ofNat (n v : Nat) : (ofNat n v).length = n := by simp [ofNat]

theorem getElem_ofNat {n v i : Nat} (hi : i < (ofNat n v).length) :
    (ofNat n v)[i] = v.testBit (n - 1 - i) := by simp [ofNat]

@[simp] theorem toNat_nil : toNat [] = 0 := rfl

theorem toNat_append_singleton (bits : List Bool) (b : Bool) :
    toNat (bits ++ [b]) = 2 * toNat bits + b.toNat := by simp [toNat]

theorem toNat_lt (bits : List Bool) : toNat bits < 2 ^ bits.length := by
  induction bits using List.reverseRecOn with
  | nil => simp
  | append_singleton bits b ih =>
    have hb := b.toNat_lt
    rw [toNat_append_singleton, List.length_append, List.length_singleton, pow_succ]
    omega

/-- The digits of the number are the bits, counted from the other end. -/
theorem testBit_toNat {bits : List Bool} {i : Nat} (hi : i < bits.length) :
    (toNat bits).testBit (bits.length - 1 - i) = bits[i] := by
  induction bits using List.reverseRecOn with
  | nil => simp at hi
  | append_singleton bits b ih =>
    rw [toNat_append_singleton]
    simp only [List.length_append, List.length_singleton] at hi ⊢
    rcases Nat.lt_or_ge i bits.length with hlt | hge
    · -- the bits before the last one are those of the half
      have hpos : bits.length + 1 - 1 - i = (bits.length - 1 - i) + 1 := by omega
      have hhalf : (2 * toNat bits + b.toNat) / 2 = toNat bits := by
        have hb := b.toNat_lt
        omega
      rw [hpos, Nat.testBit_add_one, hhalf, ih hlt, List.getElem_append_left hlt]
    · have hlast : i = bits.length := by omega
      subst hlast
      have hzero : bits.length + 1 - 1 - bits.length = 0 := by omega
      rw [hzero, Nat.testBit_zero]
      cases b <;> simp [Nat.add_mod]

theorem ofNat_toNat {n : Nat} {bits : List Bool} (h : bits.length = n) :
    ofNat n (toNat bits) = bits := by
  subst h
  apply List.ext_getElem
  · simp
  · intro i h₁ h₂
    rw [getElem_ofNat, testBit_toNat h₂]

theorem toNat_ofNat {n v : Nat} (hv : v < 2 ^ n) : toNat (ofNat n v) = v := by
  apply Nat.eq_of_testBit_eq
  intro i
  have hlt : toNat (ofNat n v) < 2 ^ n := by simpa using toNat_lt (ofNat n v)
  rcases Nat.lt_or_ge i n with hi | hi
  · have hback : n - 1 - (n - 1 - i) = i := by omega
    have hlen : n - 1 - i < (ofNat n v).length := by
      rw [length_ofNat]
      omega
    have hbit := testBit_toNat hlen
    rwa [getElem_ofNat, hback, length_ofNat, hback] at hbit
  · have hpow : 2 ^ n ≤ 2 ^ i := Nat.pow_le_pow_right (by decide) hi
    rw [Nat.testBit_lt_two_pow (by omega), Nat.testBit_lt_two_pow (by omega)]

/-- Fields of one width are told apart by their bits. -/
theorem flatMap_ofNat_inj {n : Nat} (hn : 0 < n) {as bs : List Nat} (has : ∀ a ∈ as, a < 2 ^ n)
    (hbs : ∀ b ∈ bs, b < 2 ^ n) (h : as.flatMap (ofNat n) = bs.flatMap (ofNat n)) : as = bs := by
  -- as many bits, so as many fields
  have hlen : as.length = bs.length := by
    have hbits := congrArg List.length h
    rw [length_flatMap_store (length_ofNat n), length_flatMap_store (length_ofNat n)] at hbits
    exact Nat.eq_of_mul_eq_mul_left hn hbits
  induction as generalizing bs with
  | nil => exact (List.eq_nil_of_length_eq_zero hlen.symm).symm
  | cons a as ih =>
    cases bs with
    | nil => simp at hlen
    | cons b bs =>
      rw [List.flatMap_cons, List.flatMap_cons] at h
      obtain ⟨hhead, htail⟩ := List.append_inj h (by simp)
      have hab : a = b := by
        rw [← toNat_ofNat (has a List.mem_cons_self), hhead, toNat_ofNat (hbs b List.mem_cons_self)]
      rw [hab, ih (fun c hc => has c (List.mem_cons_of_mem _ hc))
        (fun c hc => hbs c (List.mem_cons_of_mem _ hc)) htail (by simpa using hlen)]

/-! ## Bytes -/

@[simp] theorem ofBytes_nil : ofBytes [] = [] := rfl

@[simp] theorem ofBytes_cons (b : UInt8) (bs : List UInt8) :
    ofBytes (b :: bs) = ofNat 8 b.toNat ++ ofBytes bs := rfl

@[simp] theorem ofBytes_append (as bs : List UInt8) :
    ofBytes (as ++ bs) = ofBytes as ++ ofBytes bs := List.flatMap_append

@[simp] theorem length_ofBytes (bs : List UInt8) : (ofBytes bs).length = 8 * bs.length :=
  length_flatMap_store (fun _ => length_ofNat 8 _) bs

/-- Bit `i` of a string lies in byte `i / 8`. -/
theorem getD_ofBytes (bs : List UInt8) (i : Nat) :
    (ofBytes bs).getD i false = (bs.getD (i / 8) 0).toNat.testBit (7 - i % 8) := by
  induction bs generalizing i with
  | nil => simp
  | cons b bs ih =>
    rw [ofBytes_cons]
    -- in the first byte, or eight bits further back in the others
    rcases Nat.lt_or_ge i 8 with hlt | hge
    · have hi : i < (ofNat 8 b.toNat).length := by simpa using hlt
      rw [List.getD_append _ _ _ _ hi, List.getD_eq_getElem _ _ hi, getElem_ofNat,
        Nat.div_eq_of_lt hlt, Nat.mod_eq_of_lt hlt, List.getD_cons_zero]
    · have hi : (ofNat 8 b.toNat).length ≤ i := by simpa using hge
      have hdiv : i / 8 = (i - 8) / 8 + 1 := by omega
      have hmod : i % 8 = (i - 8) % 8 := by omega
      rw [List.getD_append_right _ _ _ _ hi, length_ofNat, ih, hdiv, hmod, List.getD_cons_succ]

theorem getElem_ofBytes {bs : List UInt8} {i : Nat} (hi : i < (ofBytes bs).length) :
    (ofBytes bs)[i] = (bs.getD (i / 8) 0).toNat.testBit (7 - i % 8) := by
  rw [← getD_ofBytes, List.getD_eq_getElem _ _ hi]

theorem ofNat_eight_inj {a b : UInt8} (h : ofNat 8 a.toNat = ofNat 8 b.toNat) : a = b := by
  apply UInt8.toNat_inj.mp
  rw [← toNat_ofNat (n := 8) a.toNat_lt, h, toNat_ofNat b.toNat_lt]

/-- Different bytes have different bits. -/
theorem ofBytes_inj {as bs : List UInt8} (h : ofBytes as = ofBytes bs) : as = bs := by
  induction as generalizing bs with
  | nil =>
    -- no bits, no bytes
    have hlen := congrArg List.length h
    simp only [ofBytes_nil, List.length_nil, length_ofBytes] at hlen
    exact (List.eq_nil_of_length_eq_zero (by omega)).symm
  | cons a as ih =>
    cases bs with
    | nil =>
      have hlen := congrArg List.length h
      simp only [ofBytes_nil, List.length_nil, length_ofBytes, List.length_cons] at hlen
      omega
    | cons b bs =>
      obtain ⟨hhead, htail⟩ := List.append_inj h (by simp)
      rw [ofNat_eight_inj hhead, ih htail]

theorem ofBytes_take (bs : List UInt8) (k : Nat) :
    ofBytes (bs.take k) = (ofBytes bs).take (8 * k) := by
  induction bs generalizing k with
  | nil => simp
  | cons b bs ih =>
    cases k with
    | zero => simp
    | succ k =>
      have hlen : 8 * (k + 1) = (ofNat 8 b.toNat).length + 8 * k := by
        rw [length_ofNat]
        omega
      rw [List.take_succ_cons, ofBytes_cons, ofBytes_cons, ih, hlen, List.take_length_add_append]

theorem ofBytes_replicate_zero (n : Nat) :
    ofBytes (List.replicate n 0) = List.replicate (8 * n) false := by
  induction n with
  | zero => rfl
  | succ n ih =>
    have hzero : ofNat 8 (0 : UInt8).toNat = List.replicate 8 false := rfl
    rw [List.replicate_succ, ofBytes_cons, ih, hzero, List.replicate_append_replicate, Nat.mul_succ,
      Nat.add_comm]

/-- A byte with one more bit set: `b |= 1 << k`. -/
def setBit (b : UInt8) (k : Nat) : UInt8 := UInt8.ofNat (b.toNat ||| 1 <<< k)

theorem toNat_setBit (b : UInt8) {k : Nat} (hk : k < 8) :
    (setBit b k).toNat = b.toNat ||| 2 ^ k := by
  have hb : b.toNat < 2 ^ 8 := b.toNat_lt
  have hpow : 2 ^ k < 2 ^ 8 := Nat.pow_lt_pow_right (by decide) hk
  have hlt := Nat.or_lt_two_pow hb hpow
  rw [setBit, Nat.one_shiftLeft, UInt8.toNat_ofNat', Nat.mod_eq_of_lt hlt]

/-- A bit that is set in a byte is set in the string. -/
theorem ofBytes_set {bs : List UInt8} {i : Nat} (hi : i / 8 < bs.length) :
    ofBytes (bs.set (i / 8) (setBit bs[i / 8] (7 - i % 8))) = (ofBytes bs).set i true := by
  apply List.ext_getElem
  · simp
  · intro j h₁ h₂
    have hj : j / 8 < bs.length := by
      simp only [length_ofBytes, List.length_set] at h₁
      omega
    rw [getElem_ofBytes, List.getElem_set, getElem_ofBytes,
      List.getD_eq_getElem _ _ (by simpa using hj), List.getD_eq_getElem _ _ hj,
      List.getElem_set]
    by_cases hbyte : i / 8 = j / 8
    case pos =>
      simp only [hbyte, if_true, toNat_setBit _ (show 7 - i % 8 < 8 by omega), Nat.testBit_or,
        Nat.testBit_two_pow]
      by_cases hbit : i = j
      case pos => simp [hbit]
      case neg =>
        -- another bit of the same byte
        have hne : 7 - i % 8 ≠ 7 - j % 8 := by omega
        simp [hbit, hne]
    case neg =>
      have hne : i ≠ j := fun h => hbyte (by rw [h])
      simp [hbyte, hne]

end RlyNetworkSdk.Encoding.Bits
