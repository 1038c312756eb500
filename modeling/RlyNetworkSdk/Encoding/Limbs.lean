import Mathlib.Algebra.BigOperators.Fin
import Mathlib.Algebra.BigOperators.Intervals
import Mathlib.Algebra.Order.BigOperators.Group.Finset
import Mathlib.Algebra.BigOperators.Ring.Finset
import Mathlib.Data.BitVec
import Mathlib.Data.List.GetD
import Mathlib.Data.Nat.Digits.Defs
import Mathlib.Tactic.Ring
import Mathlib.Tactic.Linarith

/-!
# Numbers in Limbs

A number as an array of machine words, each of which holds one digit in the base `2 ^ b`, and the
loop that almost every operation on such numbers runs: add a column to what was carried, keep
the low `b` bits as the next limb and carry the rest. `value_ripple` says once what that loop
computes, whatever the columns are: sums, differences and products are all sums of columns.
-/

namespace RlyNetworkSdk.Encoding.Limbs

variable {b v w n : Nat}

/-! ## The Number of an Array -/

/-- The number that an array of limbs stands for, the least significant limb first. -/
def value (b : Nat) (a : Vector (BitVec v) n) : Nat :=
  ∑ i : Fin n, a[i].toNat * (2 ^ b) ^ i.val

/-- Every limb is a digit. Two arrays with this property are equal if their numbers are. -/
def Normalized (b : Nat) (a : Vector (BitVec v) n) : Prop := ∀ i : Fin n, a[i].toNat < 2 ^ b

instance (a : Vector (BitVec v) n) : Decidable (Normalized b a) :=
  inferInstanceAs (Decidable (∀ i : Fin n, a[i].toNat < 2 ^ b))

theorem ofDigits_ofFn (B : Nat) (f : Fin n → Nat) :
    Nat.ofDigits B (List.ofFn f) = ∑ i, f i * B ^ i.val := by
  induction n with
  | zero => simp
  | succ n ih =>
    rw [List.ofFn_succ, Nat.ofDigits_cons, ih, Fin.sum_univ_succ, Finset.mul_sum]
    simp only [Fin.val_zero, pow_zero, mul_one, Fin.val_succ]
    congr 1
    apply Finset.sum_congr rfl
    intro i _
    ring

theorem value_eq_ofDigits (a : Vector (BitVec v) n) :
    value b a = Nat.ofDigits (2 ^ b) (a.toList.map BitVec.toNat) := by
  have hlist : a.toList.map BitVec.toNat = List.ofFn fun i : Fin n => a[i].toNat := by
    apply List.ext_getElem
    · simp
    · intro i h₁ h₂
      simp
  rw [hlist, ofDigits_ofFn, value]

theorem Normalized.digit_lt {a : Vector (BitVec v) n} (h : Normalized b a) :
    ∀ d ∈ a.toList.map BitVec.toNat, d < 2 ^ b := by
  intro d hd
  obtain ⟨x, hx, rfl⟩ := List.mem_map.mp hd
  obtain ⟨i, hi, rfl⟩ := List.getElem_of_mem hx
  have hin : i < n := by simpa using hi
  simpa using h ⟨i, hin⟩

theorem Normalized.value_lt {a : Vector (BitVec v) n} (h : Normalized b a) :
    value b a < (2 ^ b) ^ n := by
  rcases Nat.eq_zero_or_pos b with rfl | hb
  · -- in the base one every digit is zero
    have hzero : value 0 a = 0 := by
      apply Finset.sum_eq_zero
      intro i _
      have hi := h i
      have hlimb : a[i].toNat = 0 := by simpa using hi
      rw [hlimb, Nat.zero_mul]
    simp [hzero]
  · have hbase : 1 < 2 ^ b := Nat.one_lt_two_pow hb.ne'
    have hlt := Nat.ofDigits_lt_base_pow_length hbase h.digit_lt
    rw [value_eq_ofDigits]
    simpa using hlt

/-- Normalized numbers have one form. -/
theorem eq_of_value_eq {a a' : Vector (BitVec v) n} (hb : 0 < b) (h : Normalized b a)
    (h' : Normalized b a') (heq : value b a = value b a') : a = a' := by
  have hbase : 1 < 2 ^ b := Nat.one_lt_two_pow hb.ne'
  rw [value_eq_ofDigits, value_eq_ofDigits] at heq
  have hlist := Nat.ofDigits_inj_of_len_eq hbase (by simp) h.digit_lt h'.digit_lt heq
  have hmap : a.toList = a'.toList := by
    apply List.map_injective_iff.mpr _ hlist
    intro x y hxy
    exact BitVec.eq_of_toNat_eq hxy
  exact Vector.toList_inj.mp hmap

/-! ## Carrying -/

/-- The low `b` bits of a word. -/
def low (b v : Nat) (t : BitVec w) : BitVec v := (t &&& BitVec.ofNat w (2 ^ b - 1)).setWidth v

theorem toNat_low (hbw : b ≤ w) (hbv : b ≤ v) (t : BitVec w) :
    (low b v t).toNat = t.toNat % 2 ^ b := by
  have hmask : 2 ^ b - 1 < 2 ^ w :=
    Nat.lt_of_lt_of_le (Nat.sub_lt (Nat.two_pow_pos b) Nat.one_pos)
      (Nat.pow_le_pow_right Nat.two_pos hbw)
  have hlt : t.toNat % 2 ^ b < 2 ^ v :=
    Nat.lt_of_lt_of_le (Nat.mod_lt _ (Nat.two_pow_pos b)) (Nat.pow_le_pow_right Nat.two_pos hbv)
  rw [low, BitVec.toNat_setWidth, BitVec.toNat_and, BitVec.toNat_ofNat, Nat.mod_eq_of_lt hmask,
    Nat.and_two_pow_sub_one_eq_mod, Nat.mod_eq_of_lt hlt]

/-- The loop over the limbs: what was carried and the next column are added, the low bits are
the next limb, and the others are carried. -/
def rippleList (b v : Nat) : BitVec w → List (BitVec w) → List (BitVec v)
  | _, [] => []
  | t, c :: cs => low b v (t + c) :: rippleList b v ((t + c) >>> b) cs

@[simp] theorem length_rippleList (t : BitVec w) (cs : List (BitVec w)) :
    (rippleList b v t cs).length = cs.length := by
  induction cs generalizing t with
  | nil => rfl
  | cons c cs ih => rw [rippleList, List.length_cons, ih, List.length_cons]

theorem size_ripple (t : BitVec w) (cs : Vector (BitVec w) n) :
    (rippleList b v t cs.toList).toArray.size = n := by simp

/-- The limbs that the loop leaves: the low bits of each column, and what is above them is
carried into the next one. -/
def ripple (b v : Nat) (t : BitVec w) (cs : Vector (BitVec w) n) : Vector (BitVec v) n :=
  ⟨(rippleList b v t cs.toList).toArray, size_ripple t cs⟩

theorem toList_ripple (t : BitVec w) (cs : Vector (BitVec w) n) :
    (ripple b v t cs).toList = rippleList b v t cs.toList := rfl

theorem digit_lt_of_mem_rippleList (hbw : b ≤ w) (hbv : b ≤ v) {t : BitVec w}
    {cs : List (BitVec w)} {x : BitVec v} (hx : x ∈ rippleList b v t cs) : x.toNat < 2 ^ b := by
  induction cs generalizing t with
  | nil => simp [rippleList] at hx
  | cons c cs ih =>
    rw [rippleList] at hx
    rcases List.mem_cons.mp hx with rfl | hmem
    · rw [toNat_low hbw hbv]
      exact Nat.mod_lt _ (Nat.two_pow_pos b)
    · exact ih hmem

theorem normalized_ripple (hbw : b ≤ w) (hbv : b ≤ v) (t : BitVec w) (cs : Vector (BitVec w) n) :
    Normalized b (ripple b v t cs : Vector (BitVec v) n) := by
  intro i
  have hmem : (ripple b v t cs)[i] ∈ rippleList b v t cs.toList := by
    rw [← toList_ripple]
    simp
  exact digit_lt_of_mem_rippleList hbw hbv hmem

/-- No column overflows the word, whatever is carried into it. A carry has the bits of the word
that are not in a limb. -/
def Room (b : Nat) (c : BitVec w) : Prop := c.toNat + 2 ^ (w - b) ≤ 2 ^ w

/-- Nothing is lost but what is carried out of the last limb. -/
theorem ofDigits_rippleList (hbw : b ≤ w) (hbv : b ≤ v) {t : BitVec w} {cs : List (BitVec w)}
    (ht : t.toNat < 2 ^ (w - b)) (hroom : ∀ c ∈ cs, Room b c) :
    Nat.ofDigits (2 ^ b) ((rippleList b v t cs).map BitVec.toNat) =
      (t.toNat + Nat.ofDigits (2 ^ b) (cs.map BitVec.toNat)) % (2 ^ b) ^ cs.length := by
  induction cs generalizing t with
  | nil => simp [rippleList, Nat.mod_one]
  | cons c cs ih =>
    have hc : c.toNat + 2 ^ (w - b) ≤ 2 ^ w := hroom c List.mem_cons_self
    have hsum : (t + c).toNat = t.toNat + c.toNat := by
      rw [BitVec.toNat_add, Nat.mod_eq_of_lt (by omega)]
    have hcarry : ((t + c) >>> b).toNat = (t.toNat + c.toNat) / 2 ^ b := by
      rw [BitVec.toNat_ushiftRight, Nat.shiftRight_eq_div_pow, hsum]
    have hlt : ((t + c) >>> b).toNat < 2 ^ (w - b) := by
      rw [hcarry, Nat.div_lt_iff_lt_mul (Nat.two_pow_pos b), ← pow_add, Nat.sub_add_cancel hbw]
      omega
    have hrest := ih hlt fun c' hc' => hroom c' (List.mem_cons_of_mem c hc')
    rw [rippleList, List.map_cons, List.map_cons, Nat.ofDigits_cons, Nat.ofDigits_cons, hrest,
      toNat_low hbw hbv, hsum, hcarry, List.length_cons, pow_succ', Nat.mod_mul]
    -- the low bits of the first column are the first limb, and the rest is divided by the base
    have hmod : (t.toNat + (c.toNat + 2 ^ b * Nat.ofDigits (2 ^ b) (cs.map BitVec.toNat))) % 2 ^ b =
        (t.toNat + c.toNat) % 2 ^ b := by
      rw [← Nat.add_assoc, Nat.add_mul_mod_self_left]
    have hdiv : (t.toNat + (c.toNat + 2 ^ b * Nat.ofDigits (2 ^ b) (cs.map BitVec.toNat))) / 2 ^ b =
        (t.toNat + c.toNat) / 2 ^ b + Nat.ofDigits (2 ^ b) (cs.map BitVec.toNat) := by
      rw [← Nat.add_assoc, Nat.add_mul_div_left _ _ (Nat.two_pow_pos b)]
    rw [hmod, hdiv]

/-- **The loop computes the sum of its columns.** What is carried out of the last of them is
lost, which is why it is a remainder. -/
theorem value_ripple (hbw : b ≤ w) (hbv : b ≤ v) {t : BitVec w} {cs : Vector (BitVec w) n}
    (ht : t.toNat < 2 ^ (w - b)) (hroom : ∀ i : Fin n, Room b cs[i]) :
    value b (ripple b v t cs : Vector (BitVec v) n) = (t.toNat + value b cs) % (2 ^ b) ^ n := by
  have hall : ∀ c ∈ cs.toList, Room b c := by
    intro c hc
    obtain ⟨i, hi, rfl⟩ := List.getElem_of_mem hc
    have hin : i < n := by simpa using hi
    simpa using hroom ⟨i, hin⟩
  rw [value_eq_ofDigits, value_eq_ofDigits, toList_ripple, ofDigits_rippleList hbw hbv ht hall,
    Vector.length_toList]

/-! ## Columns -/

@[simp] theorem value_ofFn (f : Fin n → BitVec v) :
    value b (Vector.ofFn f) = ∑ i, (f i).toNat * (2 ^ b) ^ i.val := by
  simp [value]

/-- Columns that are differences, with something added to each so that none is negative. -/
theorem sum_sub_columns {ι : Type*} (s : Finset ι) (offset f g weight : ι → Nat)
    (hle : ∀ i ∈ s, g i ≤ offset i + f i) :
    ∑ i ∈ s, (offset i + f i - g i) * weight i + ∑ i ∈ s, g i * weight i =
      ∑ i ∈ s, offset i * weight i + ∑ i ∈ s, f i * weight i := by
  rw [← Finset.sum_add_distrib, ← Finset.sum_add_distrib]
  apply Finset.sum_congr rfl
  intro i hi
  rw [← Nat.add_mul, ← Nat.add_mul, Nat.sub_add_cancel (hle i hi)]

/-- A list of limbs, with zeros beyond its end. -/
theorem ofDigits_eq_sum_range {xs : List (BitVec v)} {B n : Nat} (hn : xs.length ≤ n) :
    Nat.ofDigits B (xs.map BitVec.toNat) = ∑ i ∈ Finset.range n, (xs.getD i 0).toNat * B ^ i := by
  induction xs generalizing n with
  | nil => simp
  | cons x xs ih =>
    obtain ⟨n, rfl⟩ : ∃ n', n = n' + 1 := ⟨n - 1, by rw [List.length_cons] at hn; omega⟩
    -- the first limb is the term at zero, and the others move up by one
    rw [List.map_cons, Nat.ofDigits_cons, ih (by simpa using hn), Finset.sum_range_succ',
      Finset.mul_sum]
    simp only [List.getD_cons_succ, List.getD_cons_zero, pow_zero, mul_one]
    rw [Nat.add_comm]
    congr 1
    apply Finset.sum_congr rfl
    intro i _
    ring

/-- One limb is a part of the number. -/
theorem getD_mul_le (xs : List (BitVec v)) (B i : Nat) :
    (xs.getD i 0).toNat * B ^ i ≤ Nat.ofDigits B (xs.map BitVec.toNat) := by
  rw [ofDigits_eq_sum_range (Nat.le_max_left xs.length (i + 1))]
  apply Finset.single_le_sum (f := fun i => (xs.getD i 0).toNat * B ^ i) fun _ _ => Nat.zero_le _
  exact Finset.mem_range.mpr (Nat.lt_of_lt_of_le (Nat.lt_succ_self i) (Nat.le_max_right _ _))

theorem ofDigits_map_range (f : Nat → BitVec v) (B n : Nat) :
    Nat.ofDigits B (((List.range n).map f).map BitVec.toNat) =
      ∑ i ∈ Finset.range n, (f i).toNat * B ^ i := by
  rw [ofDigits_eq_sum_range (n := n) (by simp)]
  apply Finset.sum_congr rfl
  intro i hi
  have hlt := Finset.mem_range.mp hi
  simp [List.getD_eq_getElem?_getD, hlt]

theorem value_eq_sum_range (a : Vector (BitVec v) n) :
    value b a = ∑ i ∈ Finset.range n, (a.toList.getD i 0).toNat * (2 ^ b) ^ i := by
  rw [value_eq_ofDigits, ofDigits_eq_sum_range (n := n) (by simp)]

/-- Limbs that are all digits. -/
def Digits (b : Nat) (xs : List (BitVec v)) : Prop := ∀ x ∈ xs, x.toNat < 2 ^ b

theorem Digits.lt {xs : List (BitVec v)} (h : Digits b xs) :
    Nat.ofDigits (2 ^ b) (xs.map BitVec.toNat) < (2 ^ b) ^ xs.length := by
  induction xs with
  | nil => simp
  | cons x xs ih =>
    have hx := h x List.mem_cons_self
    have hrest := ih fun y hy => h y (List.mem_cons_of_mem x hy)
    rw [List.map_cons, Nat.ofDigits_cons, List.length_cons, pow_succ']
    calc x.toNat + 2 ^ b * Nat.ofDigits (2 ^ b) (xs.map BitVec.toNat)
        < 2 ^ b * (Nat.ofDigits (2 ^ b) (xs.map BitVec.toNat) + 1) := by rw [Nat.mul_add]; omega
      _ ≤ 2 ^ b * (2 ^ b) ^ xs.length := Nat.mul_le_mul_left _ hrest

theorem Digits.getD_lt {xs : List (BitVec v)} (h : Digits b xs) (i : Nat) :
    (xs.getD i 0).toNat < 2 ^ b := by
  rcases Nat.lt_or_ge i xs.length with hi | hi
  · rw [List.getD_eq_getElem _ _ hi]
    exact h _ (List.getElem_mem hi)
  · rw [List.getD_eq_default _ _ hi]
    simp

/-! ## Products -/

/-- Products of limbs, sorted by the place where they count. -/
theorem sum_convolution {f g : Nat → Nat} (hf : ∀ i, n ≤ i → f i = 0) (hg : ∀ i, n ≤ i → g i = 0)
    (B : Nat) :
    ∑ i ∈ Finset.range (2 * n), (∑ j ∈ Finset.range (i + 1), f j * g (i - j)) * B ^ i =
      (∑ i ∈ Finset.range n, f i * B ^ i) * ∑ i ∈ Finset.range n, g i * B ^ i := by
  -- the power of a place divides between the two factors
  have hterm : ∀ i, (∑ j ∈ Finset.range (i + 1), f j * g (i - j)) * B ^ i =
      ∑ j ∈ Finset.range (i + 1), f j * B ^ j * (g (i - j) * B ^ (i - j)) := by
    intro i
    rw [Finset.sum_mul]
    apply Finset.sum_congr rfl
    intro j hj
    have hle : j ≤ i := Nat.lt_succ_iff.mp (Finset.mem_range.mp hj)
    rw [← Nat.add_sub_cancel' hle, pow_add, Nat.add_sub_cancel_left]
    ring
  -- beyond `n` the second factor is zero
  have hinner : ∀ j ∈ Finset.range n,
      ∑ k ∈ Finset.range (2 * n - j), f j * B ^ j * (g k * B ^ k) =
        f j * B ^ j * ∑ k ∈ Finset.range n, g k * B ^ k := by
    intro j hj
    have hsubset : Finset.range n ⊆ Finset.range (2 * n - j) := by
      apply Finset.range_subset_range.mpr
      have hlt := Finset.mem_range.mp hj
      omega
    rw [Finset.mul_sum, ← Finset.sum_subset hsubset]
    intro k _ hk
    rw [hg k (Nat.not_lt.mp fun h => hk (Finset.mem_range.mpr h)), Nat.zero_mul, Nat.mul_zero]
  -- and so is the first one
  have houter : ∑ j ∈ Finset.range (2 * n),
      ∑ k ∈ Finset.range (2 * n - j), f j * B ^ j * (g k * B ^ k) =
        ∑ j ∈ Finset.range n, ∑ k ∈ Finset.range (2 * n - j), f j * B ^ j * (g k * B ^ k) := by
    have hsubset : Finset.range n ⊆ Finset.range (2 * n) :=
      Finset.range_subset_range.mpr (by omega)
    apply (Finset.sum_subset hsubset _).symm
    intro j _ hj
    apply Finset.sum_eq_zero
    intro k _
    rw [hf j (Nat.not_lt.mp fun h => hj (Finset.mem_range.mpr h)), Nat.zero_mul, Nat.zero_mul]
  simp only [hterm]
  -- the sum over the diagonals is the sum over the square
  rw [Finset.sum_range_diag_flip (2 * n) fun j k => f j * B ^ j * (g k * B ^ k), houter,
    Finset.sum_congr rfl hinner, Finset.sum_mul]

/-- A sum of words, while it fits. -/
theorem toNat_sum {xs : List (BitVec w)} (h : (xs.map BitVec.toNat).sum < 2 ^ w) :
    xs.sum.toNat = (xs.map BitVec.toNat).sum := by
  induction xs with
  | nil => simp
  | cons x xs ih =>
    rw [List.map_cons, List.sum_cons] at h
    rw [List.sum_cons, BitVec.toNat_add, ih (by omega), List.map_cons, List.sum_cons,
      Nat.mod_eq_of_lt h]

end RlyNetworkSdk.Encoding.Limbs
