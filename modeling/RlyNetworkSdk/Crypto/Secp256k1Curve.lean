import RlyNetworkSdk.Arithmetic.ResiduePoints
import RlyNetworkSdk.Crypto.ScalarMultiplication
import RlyNetworkSdk.Crypto.Secp256k1Primes
import RlyNetworkSdk.Crypto.Secp256k1Table

/-!
# Scalar Multiplication on secp256k1

The table of `secp256k1.table` is checked entry by entry: every row goes on from the one above by
one sum, and every entry of a row from the one before it. The order of the curve is checked along
the table too. With that `scalar_multiply` needs no assumption about the curve.
-/

namespace RlyNetworkSdk.Crypto.Ecdsa

open Bignum Encoding Arithmetic

/-! ## The Curve -/

/-- Limbs as the source lists them; those that it leaves out are zero. -/
def ofLimbs (l : List Nat) : Bignum256 := Vector.ofFn fun i : Fin 9 => BitVec.ofNat 32 (l.getD i 0)

def curvePoint (l : List Nat × List Nat) : CurvePoint := ⟨ofLimbs l.1, ofLimbs l.2⟩

/-- `secp256k1`. -/
def secp256k1 : EcdsaCurve where
  prime := fieldPrime
  G := curvePoint
    ([0x16f81798, 0x27ca056c, 0x1ce28d95, 0x26ff36cb, 0x70b0702, 0x18a573a, 0xbbac55a, 0x199fbe77, 0x79be],
    [0x3b10d4b8, 0x311f423f, 0x28554199, 0x5ed1229, 0x1108a8fd, 0x13eff038, 0x3c4655da, 0x369dc9a8, 0x483a])
  order := groupOrder
  a := 0
  b := ofLimbs [7]
  cp := tableLimbs.map fun row => row.map curvePoint

/-! ## Limbs -/

def limbsValue : List Nat → Nat
  | [] => 0
  | x :: xs => x + 2 ^ 30 * limbsValue xs

theorem limbsValue_eq (l : List Nat) : limbsValue l = Nat.ofDigits (2 ^ 30) l := by
  induction l with
  | nil => rfl
  | cons x xs ih => rw [limbsValue, ih, Nat.ofDigits_cons]

/-- Nine limbs of a number below `p`. It is decided for every entry of the table. -/
def wellFormed (p : Nat) (l : List Nat) : Bool :=
  l.length == 9 && l.all (· < 2 ^ 30) && limbsValue l < p

theorem toList_ofLimbs {l : List Nat} (hlen : l.length = 9) :
    (ofLimbs l).toList = l.map (BitVec.ofNat 32) := by
  apply List.ext_getElem
  · simp [hlen]
  · intro i h _
    have hi : i < l.length := by simpa [hlen] using h
    simp [ofLimbs, List.getElem?_eq_getElem hi]

theorem toNat_limb {x : Nat} (hx : x < 2 ^ 30) : (BitVec.ofNat 32 x).toNat = x := by
  rw [BitVec.toNat_ofNat, Nat.mod_eq_of_lt (by omega)]

theorem value_ofLimbs {p : Nat} {l : List Nat} (h : wellFormed p l = true) :
    value (ofLimbs l) = limbsValue l ∧ Normalized (ofLimbs l) ∧ value (ofLimbs l) < p := by
  rw [wellFormed] at h
  simp only [Bool.and_eq_true, beq_iff_eq, List.all_eq_true, decide_eq_true_eq] at h
  obtain ⟨⟨hlen, hlimbs⟩, hlt⟩ := h
  have hvalue : value (ofLimbs l) = limbsValue l := by
    -- each limb is less than a word, so nothing of it is lost
    have hmap : (l.map (BitVec.ofNat 32)).map BitVec.toNat = l := by
      calc (l.map (BitVec.ofNat 32)).map BitVec.toNat = l.map id := by
            rw [List.map_map]
            exact List.map_congr_left fun x hx => toNat_limb (hlimbs x hx)
        _ = l := List.map_id l
    rw [value, Limbs.value_eq_ofDigits, toList_ofLimbs hlen, hmap, limbsValue_eq]
  refine ⟨hvalue, ?_, hvalue ▸ hlt⟩
  apply normalized_of_mem
  rw [toList_ofLimbs hlen]
  intro x hx
  obtain ⟨w, hw, rfl⟩ := List.mem_map.mp hx
  rw [toNat_limb (hlimbs w hw)]
  exact hlimbs w hw

/-! ## Entries -/

def entryLimbs (i j : Nat) : List Nat × List Nat := (tableLimbs.getD i []).getD j ([], [])

/-- The coordinates of an entry. -/
def entry (i j : Nat) : Nat × Nat := (limbsValue (entryLimbs i j).1, limbsValue (entryLimbs i j).2)

theorem curvePoint_nil : curvePoint ([], []) = ⟨bnZero, bnZero⟩ := by
  have hzero : ofLimbs [] = bnZero := by
    apply Vector.ext
    intro i hi
    simp [ofLimbs, bnZero]
  rw [curvePoint, hzero]

theorem multiple_eq (i j : Nat) : secp256k1.multiple i j = curvePoint (entryLimbs i j) := by
  have hrow : (tableLimbs.map fun row => row.map curvePoint).getD i [] =
      (tableLimbs.getD i []).map curvePoint :=
    List.getD_map tableLimbs [] (List.map curvePoint)
  rw [EcdsaCurve.multiple, secp256k1, hrow, ← curvePoint_nil, List.getD_map]
  rfl

/-! ## Checks -/

/-- The point that a digit adds: an entry of the table, or the opposite of one. -/
def digitEntry (p i v : Nat) : Nat × Nat :=
  let d := makeOdd v % 16
  if v / 16 % 2 = 1 then entry i (d / 2) else oppositeAt p (entry i ((16 - d) / 2))

/-- The sum of the digits of `n` below `16 ^ (k + 1)`, times `G`. It is computed with residues,
to be compared with a point. -/
def digitTriple (p n k : Nat) : Triple :=
  (List.range' 1 k).foldl (fun t i => t.add p (digitEntry p i (n / 16 ^ i)))
    (Triple.affine (digitEntry p 0 n))

/-- The base point is on the curve; the entries are numbers below `p`, each the sum of the one
before it in the row and twice the first; every row starts with the sum of the last and the first
entry above it; and the digits of `n` up to the last one add up to the opposite of the last
entry. -/
def tableChecks (p n : Nat) : Bool :=
  (entry 0 0).2 ^ 2 % p == ((entry 0 0).1 ^ 3 + 7) % p &&
    ((List.range 64).all fun i => (List.range 8).all fun j =>
      wellFormed p (entryLimbs i j).1 && wellFormed p (entryLimbs i j).2) &&
    ((List.range 64).all fun i => (List.range 7).all fun j =>
      ((Triple.twice p 0 (entry i 0)).add p (entry i j)).isAt p (entry i (j + 1))) &&
    ((List.range 63).all fun i =>
      ((Triple.affine (entry i 0)).add p (entry i 7)).isAt p (entry (i + 1) 0)) &&
    (digitTriple p n 62).isAt p (oppositeAt p (entry 63 7))

set_option maxRecDepth 10000 in
theorem tableChecks_secp256k1 : tableChecks (value fieldPrime) (value groupOrder) = true := by
  rw [value_fieldPrime, value_groupOrder]
  decide +kernel

/-- The field of the curve. -/
abbrev BaseField := ZMod (value field.prime)

instance : Fact (value field.prime).Prime := ⟨prime_value_fieldPrime⟩

theorem modulus_pos : 0 < value field.prime := prime_value_fieldPrime.pos

/-- The points of the curve `y² = x³ + 7`. -/
abbrev CurveGroup := (shortCurve (0 : BaseField) 7).Point

structure Checked : Prop where
  equation : (entry 0 0).2 ^ 2 % value field.prime = ((entry 0 0).1 ^ 3 + 7) % value field.prime
  wellFormed : ∀ i < 64, ∀ j < 8, wellFormed (value field.prime) (entryLimbs i j).1 = true ∧
    wellFormed (value field.prime) (entryLimbs i j).2 = true
  next_entry : ∀ i < 64, ∀ j < 7, ((Triple.twice (value field.prime) 0 (entry i 0)).add
    (value field.prime) (entry i j)).isAt (value field.prime) (entry i (j + 1)) = true
  next_row : ∀ i < 63, ((Triple.affine (entry i 0)).add (value field.prime) (entry i 7)).isAt
    (value field.prime) (entry (i + 1) 0) = true
  last : (digitTriple (value field.prime) (value order.prime) 62).isAt (value field.prime)
    (oppositeAt (value field.prime) (entry 63 7)) = true

theorem checked : Checked := by
  have h : tableChecks (value field.prime) (value order.prime) = true := tableChecks_secp256k1
  simp only [tableChecks, Bool.and_eq_true, beq_iff_eq, List.all_eq_true, List.mem_range] at h
  obtain ⟨⟨⟨⟨hequation, hwell⟩, hentry⟩, hrow⟩, hlast⟩ := h
  exact ⟨hequation, hwell, hentry, hrow, hlast⟩

theorem two_ne_zero_baseField : (2 : BaseField) ≠ 0 := by
  have hcast := cast_ne_zero_of_mod (F := BaseField) (p := value field.prime) (n := 2)
    (by change 2 % value fieldPrime ≠ 0; rw [value_fieldPrime]; decide)
  exact_mod_cast hcast

/-! ## The Base Point -/

/-- There is a point at the coordinates of the first entry. -/
theorem exists_base : ∃ G : CurveGroup, At G ((entry 0 0).1 : BaseField) (entry 0 0).2 := by
  apply exists_at _ two_ne_zero_baseField
  · have hequation := cast_eq_of_mod_eq (F := BaseField) checked.equation
    rw [Nat.cast_pow, Nat.cast_add, Nat.cast_pow] at hequation
    rw [hequation, zero_mul, add_zero]
    rfl
  · have hdiscriminant := cast_ne_zero_of_mod (F := BaseField) (p := value field.prime) (n := 1323)
      (by change 1323 % value fieldPrime ≠ 0; rw [value_fieldPrime]; decide)
    have hvalue : 4 * (0 : BaseField) ^ 3 + 27 * 7 ^ 2 = (1323 : Nat) := by norm_num
    rwa [hvalue]

variable {G : CurveGroup}

/-- An entry that is at the coordinates of a multiple. -/
def EntryAt (G : CurveGroup) (i j : Nat) : Prop :=
  At (((2 * j + 1) * 16 ^ i : ℤ) • G) ((entry i j).1 : BaseField) (entry i j).2

theorem entryAt_next {i j : Nat} (hi : i < 64) (hj : j < 7) (hfirst : EntryAt G i 0)
    (h : EntryAt G i j) : EntryAt G i (j + 1) := by
  have hzero : ((0 : Nat) : BaseField) = 0 := Nat.cast_zero
  have htwice := represents_twice modulus_pos hzero hfirst
  have hsum := (htwice.add modulus_pos two_ne_zero_baseField h).at (checked.next_entry i hi j hj)
  have hmultiple : ((2 * j + 1) * 16 ^ i +
      ((2 * (0 : Nat) + 1) * 16 ^ i + (2 * (0 : Nat) + 1) * 16 ^ i) : ℤ) =
        (2 * (j + 1 : Nat) + 1) * 16 ^ i := by
    push_cast
    ring
  rwa [← add_zsmul, ← add_zsmul, hmultiple] at hsum

theorem entryAt_row {i j : Nat} (hi : i < 64) (hj : j < 8) (hfirst : EntryAt G i 0) :
    EntryAt G i j := by
  induction j with
  | zero => exact hfirst
  | succ j ih => exact entryAt_next hi (by omega) hfirst (ih (by omega))

theorem entryAt_first (hG : EntryAt G 0 0) {i : Nat} (hi : i < 64) : EntryAt G i 0 := by
  induction i with
  | zero => exact hG
  | succ i ih =>
    have hfirst := ih (by omega)
    -- one and fifteen times the first entry make sixteen
    have hlast := entryAt_row (j := 7) (by omega) (by decide) hfirst
    have hsum := ((represents_affine hfirst).add modulus_pos two_ne_zero_baseField hlast).at
      (checked.next_row i (by omega))
    have hmultiple : ((2 * (7 : Nat) + 1) * 16 ^ i + (2 * (0 : Nat) + 1) * 16 ^ i : ℤ) =
        (2 * (0 : Nat) + 1) * 16 ^ (i + 1) := by
      push_cast
      ring
    rwa [← add_zsmul, hmultiple] at hsum

/-- **Every entry of the table is what it is meant to be.** From one entry to the next it is an
addition, and each of them has been checked as an equation of residues. -/
theorem entryAt (hG : EntryAt G 0 0) {i j : Nat} (hi : i < 64) (hj : j < 8) : EntryAt G i j :=
  entryAt_row hi hj (entryAt_first hG hi)

/-! ## The Order -/

theorem digitEntry_at (hG : EntryAt G 0 0) {i : Nat} (hi : i < 64) (v : Nat) :
    At ((oddDigit 16 v * 16 ^ i) • G) ((digitEntry (value field.prime) i v).1 : BaseField)
      (digitEntry (value field.prime) i v).2 := by
  have hodd := makeOdd_mod_two v
  have hlt := Nat.mod_lt (makeOdd v) (by decide : 0 < 16)
  rw [digitEntry, oddDigit]
  by_cases hsign : v / 16 % 2 = 1
  · rw [if_pos hsign, if_pos hsign]
    have hentry := entryAt hG hi (j := makeOdd v % 16 / 2) (by omega)
    have hdigit : (2 * (makeOdd v % 16 / 2 : Nat) + 1 : ℤ) = (makeOdd v % 16 : Nat) := by omega
    rwa [EntryAt, hdigit] at hentry
  · -- a negative digit takes the opposite of an entry
    rw [if_neg hsign, if_neg hsign]
    have hpositive := entryAt hG hi (j := (16 - makeOdd v % 16) / 2) (by omega)
    have hentry := at_opposite modulus_pos hpositive
    have hdigit : (2 * ((16 - makeOdd v % 16) / 2 : Nat) + 1 : ℤ) =
        16 - (makeOdd v % 16 : Nat) := by omega
    rw [← neg_zsmul, hdigit, ← neg_mul, neg_sub] at hentry
    exact hentry

theorem digitTriple_represents (hG : EntryAt G 0 0) (n : Nat) {k : Nat} (hk : k < 64) :
    (digitTriple (value field.prime) n k).Represents (digitSum 16 n (k + 1) • G) := by
  -- digit by digit, from the least significant one up
  induction k with
  | zero =>
    have hfirst := digitEntry_at hG hk n
    rw [digitSum_succ, digitSum_zero, zero_add, pow_zero, Nat.div_one]
    exact represents_affine hfirst
  | succ k ih =>
    have hentry := digitEntry_at hG hk (n / 16 ^ (k + 1))
    -- the entry of the table is added to what stands for the digits so far
    have hsum := (ih (by omega)).add modulus_pos two_ne_zero_baseField hentry
    have hdigits : oddDigit 16 (n / 16 ^ (k + 1)) * 16 ^ (k + 1) + digitSum 16 n (k + 1) =
        digitSum 16 n (k + 1 + 1) := by
      rw [digitSum_succ 16 n (k + 1), add_comm, Nat.cast_ofNat]
    rw [← add_zsmul, hdigits] at hsum
    rw [digitTriple, List.range'_concat, List.foldl_append, Nat.one_mul, Nat.add_comm 1 k]
    exact hsum

/-- The order times the base point is the point at infinity. -/
theorem order_zsmul (hG : EntryAt G 0 0) : (value order.prime : ℤ) • G = 0 := by
  have hrun := (digitTriple_represents hG (value order.prime) (by decide)).at checked.last
  have hlast := at_opposite modulus_pos (entryAt hG (i := 63) (j := 7) (by decide) (by decide))
  have hopposite := hrun.eq hlast
  have hodd : value order.prime % 2 = 1 := prime_odd prime_value_groupOrder
  have hdigits := digitSum_add (B := 16) rfl (by decide) hodd 63
  have htop : makeOdd (value order.prime / 16 ^ 63) = 15 := by
    change makeOdd (value groupOrder / 16 ^ 63) = 15
    rw [value_groupOrder]
    decide
  -- above the last digit is the digit of the last entry, which the sum is opposite to
  rw [htop] at hdigits
  have hzero : -((2 * (7 : Nat) + 1) * 16 ^ 63 : ℤ) + (16 : Nat) ^ 63 * (15 : Nat) = 0 := by
    norm_num
  rw [← hdigits, add_zsmul, hopposite, ← neg_zsmul, ← add_zsmul, hzero, zero_zsmul]

/-- **The base point has the order of the curve.** The digits of the order are summed up with
the table: those below the last one come to the opposite of what it adds. The order is a prime,
so no smaller multiple vanishes. -/
theorem hasOrder (hG : EntryAt G 0 0) : HasOrder order G := by
  have hprime : Fact (value order.prime).Prime := ⟨prime_value_groupOrder⟩
  have hzero : value order.prime • G = 0 := by
    rw [← natCast_zsmul]
    exact order_zsmul hG
  have hne : G ≠ 0 := by
    have hfirst := hG.ne_zero
    simpa using hfirst
  have horder := addOrderOf_eq_prime hzero hne
  intro s
  rw [← addOrderOf_dvd_iff_zsmul_eq_zero, horder]

/-! ## Scalar Multiplication -/

theorem multiple_affine {P : CurveGroup} {i j : Nat} (hi : i < 64) (hj : j < 8)
    (hP : At P ((entry i j).1 : BaseField) (entry i j).2) :
    (curvePoint (entryLimbs i j)).Affine field P := by
  obtain ⟨hx, hy⟩ := checked.wellFormed i hi j hj
  obtain ⟨hvalue_x, hnormalized_x, hlt_x⟩ := value_ofLimbs hx
  obtain ⟨hvalue_y, hnormalized_y, hlt_y⟩ := value_ofLimbs hy
  refine ⟨hnormalized_x, hnormalized_y, hlt_x, hlt_y, ?_⟩
  rw [curvePoint, hvalue_x, hvalue_y]
  exact hP

/-- The base point is the first entry. -/
theorem base_eq_entry : secp256k1.G = curvePoint (entryLimbs 0 0) := rfl

theorem entryAt_base (hG : secp256k1.G.Affine field G) : EntryAt G 0 0 := by
  obtain ⟨hx, hy⟩ := checked.wellFormed 0 (by decide) 0 (by decide)
  have hat := hG.at_values
  have hone : ((2 * (0 : Nat) + 1) * 16 ^ 0 : ℤ) = 1 := by norm_num
  rw [base_eq_entry, curvePoint, (value_ofLimbs hx).1, (value_ofLimbs hy).1] at hat
  rw [EntryAt, hone, one_zsmul]
  exact hat

theorem exists_base_affine : ∃ G : CurveGroup, secp256k1.G.Affine field G := by
  obtain ⟨G, hG⟩ := exists_base
  refine ⟨G, ?_⟩
  rw [base_eq_entry]
  exact multiple_affine (by decide) (by decide) hG

theorem value_b : value secp256k1.b = 7 := by
  simp [secp256k1, ofLimbs, value, Limbs.value, Fin.sum_univ_succ]

theorem usable (hG : secp256k1.G.Affine field G) : Usable secp256k1 field order G where
  params := {
    prime := rfl
    odd := prime_odd prime_value_fieldPrime
    le_a := by decide
    a_le := by decide
    cast_a := Int.cast_zero
    cast_b := by
      rw [value_b]
      rfl }
  prime := prime_value_fieldPrime
  table := by
    intro i hi j hj
    -- the entries are computed from the base point and compared with the table
    rw [multiple_eq]
    exact multiple_affine hi hj (entryAt (entryAt_base hG) hi hj)
  order := rfl
  order_odd := prime_odd prime_value_groupOrder
  hasOrder := hasOrder (entryAt_base hG)

/-- **`scalar_multiply` on secp256k1**: whatever the random words are, every scalar below the order
gives that multiple of the base point, and zero the point at infinity. All entries of the table are
the multiples that they are meant to be, and the base point has the order that is listed, a prime. -/
theorem multiplies_base_point (hG : secp256k1.G.Affine field G) :
    (∀ (random : Vector (BitVec 32) 9) (k : Bignum256), Normalized k →
      value k < value groupOrder →
        ∃ p, scalarMultiply random secp256k1 k = some p ∧ p.Denotes field (value k • G)) ∧
    secp256k1.Table field G ∧ (value groupOrder).Prime ∧ HasOrder order G :=
  ⟨fun random _ hk hlt => scalarMultiply_denotes (usable hG) hk hlt random, (usable hG).table,
    prime_value_groupOrder, hasOrder (entryAt_base hG)⟩

/-- Seven times the base point. -/
theorem multiplies_base_point_seven : ∃ G : CurveGroup, secp256k1.G.Affine field G ∧
    ∃ p, scalarMultiply (Vector.replicate 9 0) secp256k1 secp256k1.b = some p ∧
      p.Denotes field (value secp256k1.b • G) := by
  obtain ⟨G, hG⟩ := exists_base_affine
  have hnormalized : Normalized secp256k1.b := by decide
  have hlt : value secp256k1.b < value groupOrder := by
    rw [value_b, value_groupOrder]
    decide
  exact ⟨G, hG, (multiplies_base_point hG).1 (Vector.replicate 9 0) secp256k1.b hnormalized hlt⟩

end RlyNetworkSdk.Crypto.Ecdsa
