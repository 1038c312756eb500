import RlyNetworkSdk.Encoding.Limbs

/-!
# Numbers in Full Words

Numbers as lists of words that use all their bits. A list is read from its least significant word,
or from its most significant one; shifts by less than a word, sums and differences run along
the list, each word taking bits or a carry from its neighbour.
-/

namespace RlyNetworkSdk.Encoding.Limbs

variable {w j : Nat}

/-! ## Values -/

/-- The number of a list, the least significant word first. -/
def ofWords (xs : List (BitVec w)) : Nat := Nat.ofDigits (2 ^ w) (xs.map BitVec.toNat)

/-- The number of a list, the most significant word first. -/
def ofWordsBe (xs : List (BitVec w)) : Nat := ofWords xs.reverse

@[simp] theorem ofWords_nil : ofWords ([] : List (BitVec w)) = 0 := rfl

theorem ofWords_cons (x : BitVec w) (xs : List (BitVec w)) :
    ofWords (x :: xs) = x.toNat + 2 ^ w * ofWords xs := by
  rw [ofWords, List.map_cons, Nat.ofDigits_cons, ofWords]

theorem ofWords_append (xs ys : List (BitVec w)) :
    ofWords (xs ++ ys) = ofWords xs + (2 ^ w) ^ xs.length * ofWords ys := by
  rw [ofWords, List.map_append, Nat.ofDigits_append, List.length_map, ofWords, ofWords]

theorem ofWords_lt (xs : List (BitVec w)) : ofWords xs < (2 ^ w) ^ xs.length := by
  apply Digits.lt
  intro x _
  exact x.isLt

@[simp] theorem ofWords_replicate_zero (n : Nat) :
    ofWords (List.replicate n (0 : BitVec w)) = 0 := by
  induction n with
  | zero => rfl
  | succ n ih =>
    rw [List.replicate_succ, ofWords_cons, ih]
    simp

@[simp] theorem ofWordsBe_nil : ofWordsBe ([] : List (BitVec w)) = 0 := rfl

theorem ofWordsBe_cons (x : BitVec w) (xs : List (BitVec w)) :
    ofWordsBe (x :: xs) = x.toNat * (2 ^ w) ^ xs.length + ofWordsBe xs := by
  rw [ofWordsBe, List.reverse_cons, ofWords_append, List.length_reverse, ofWords_cons, ofWordsBe]
  simp
  ring

theorem ofWordsBe_append_singleton (xs : List (BitVec w)) (x : BitVec w) :
    ofWordsBe (xs ++ [x]) = x.toNat + 2 ^ w * ofWordsBe xs := by
  rw [ofWordsBe, List.reverse_append, List.reverse_singleton, List.singleton_append, ofWords_cons,
    ofWordsBe]

theorem ofWordsBe_lt (xs : List (BitVec w)) : ofWordsBe xs < (2 ^ w) ^ xs.length := by
  have hlt := ofWords_lt xs.reverse
  rwa [List.length_reverse] at hlt

/-! ## Shifts -/

/-- A list, the least significant word first, is shifted right by `j` bits. The bits of a word
that leave it at the lower end enter the word before. -/
def shiftRight (j : Nat) : List (BitVec w) → List (BitVec w)
  | [] => []
  | [x] => [x >>> j]
  | x :: y :: rest => (x >>> j ||| y <<< (w - j)) :: shiftRight j (y :: rest)

/-- A list, the most significant word first, is shifted left by `j` bits. -/
def shiftLeft (j : Nat) : List (BitVec w) → List (BitVec w)
  | [] => []
  | [x] => [x <<< j]
  | x :: y :: rest => (x <<< j ||| y >>> (w - j)) :: shiftLeft j (y :: rest)

@[simp] theorem length_shiftRight (xs : List (BitVec w)) : (shiftRight j xs).length = xs.length := by
  induction xs with
  | nil => rfl
  | cons x xs ih =>
    cases xs with
    | nil => rfl
    | cons y rest =>
      rw [shiftRight, List.length_cons, ih]
      rfl

@[simp] theorem length_shiftLeft (xs : List (BitVec w)) : (shiftLeft j xs).length = xs.length := by
  induction xs with
  | nil => rfl
  | cons x xs ih =>
    cases xs with
    | nil => rfl
    | cons y rest =>
      rw [shiftLeft, List.length_cons, ih]
      rfl

/-- The bits that leave a word on one side and those that enter on the other. -/
theorem toNat_shiftRight_or (hj : j ≤ w) (x y : BitVec w) :
    (x >>> j ||| y <<< (w - j)).toNat = x.toNat / 2 ^ j + 2 ^ (w - j) * (y.toNat % 2 ^ j) := by
  have hword : 2 ^ (w - j) * 2 ^ j = 2 ^ w := by rw [← pow_add, Nat.sub_add_cancel hj]
  have hlt : x.toNat / 2 ^ j < 2 ^ (w - j) := by
    rw [Nat.div_lt_iff_lt_mul (Nat.two_pow_pos j), hword]
    exact x.isLt
  have hshift : (y <<< (w - j)).toNat = 2 ^ (w - j) * (y.toNat % 2 ^ j) := by
    rw [BitVec.toNat_shiftLeft, Nat.shiftLeft_eq, Nat.mul_comm y.toNat, ← hword,
      Nat.mul_mod_mul_left]
  rw [BitVec.toNat_or, BitVec.toNat_ushiftRight, Nat.shiftRight_eq_div_pow, hshift, Nat.or_comm,
    ← Nat.two_pow_add_eq_or_of_lt hlt, Nat.add_comm]

theorem toNat_shiftLeft_or (hj : j ≤ w) (x y : BitVec w) :
    (x <<< j ||| y >>> (w - j)).toNat = x.toNat * 2 ^ j % 2 ^ w + y.toNat / 2 ^ (w - j) := by
  have hor := toNat_shiftRight_or (Nat.sub_le w j) y x
  rw [Nat.sub_sub_self hj] at hor
  have hword : 2 ^ j * 2 ^ (w - j) = 2 ^ w := by rw [← pow_add, Nat.add_sub_cancel' hj]
  rw [BitVec.or_comm, hor, Nat.mul_comm x.toNat, ← hword, Nat.mul_mod_mul_left, Nat.add_comm]

theorem ofWords_shiftRight (hj : j ≤ w) (xs : List (BitVec w)) :
    ofWords (shiftRight j xs) = ofWords xs / 2 ^ j := by
  have hword : 2 ^ j * 2 ^ (w - j) = 2 ^ w := by rw [← pow_add, Nat.add_sub_cancel' hj]
  induction xs with
  | nil => simp [shiftRight]
  | cons x xs ih =>
    cases xs with
    | nil => simp [shiftRight, ofWords_cons, Nat.shiftRight_eq_div_pow]
    | cons y rest =>
      -- the bits that move down come from the next word alone
      have hmod : ofWords (y :: rest) % 2 ^ j = y.toNat % 2 ^ j := by
        rw [ofWords_cons, ← hword, Nat.mul_assoc, Nat.add_mul_mod_self_left]
      have hsplit := Nat.div_add_mod (ofWords (y :: rest)) (2 ^ j)
      rw [hmod] at hsplit
      rw [shiftRight, ofWords_cons, toNat_shiftRight_or hj, ih, ofWords_cons x]
      conv_rhs => rw [← hword, Nat.mul_assoc, Nat.add_mul_div_left _ _ (Nat.two_pow_pos j), ← hsplit]
      rw [← hword]
      ring

/-- What leaves the most significant word is lost. -/
theorem ofWordsBe_shiftLeft (hj : j ≤ w) (x : BitVec w) (xs : List (BitVec w)) :
    ofWordsBe (shiftLeft j (x :: xs)) + (2 ^ w) ^ (xs.length + 1) * (x.toNat / 2 ^ (w - j)) =
      ofWordsBe (x :: xs) * 2 ^ j := by
  have hword : 2 ^ (w - j) * 2 ^ j = 2 ^ w := by rw [← pow_add, Nat.sub_add_cancel hj]
  -- a word divides into what stays in it and what leaves it
  have hhigh : ∀ x : BitVec w,
      x.toNat * 2 ^ j % 2 ^ w + 2 ^ w * (x.toNat / 2 ^ (w - j)) = x.toNat * 2 ^ j := by
    intro x
    have hdiv : x.toNat / 2 ^ (w - j) = x.toNat * 2 ^ j / 2 ^ w := by
      rw [← hword, Nat.mul_div_mul_right _ _ (Nat.two_pow_pos j)]
    rw [hdiv]
    exact Nat.mod_add_div _ _
  induction xs generalizing x with
  | nil =>
    have hx := hhigh x
    simp only [shiftLeft, ofWordsBe_cons, List.length_nil, pow_zero, Nat.mul_one, ofWordsBe_nil,
      Nat.add_zero, Nat.zero_add, pow_one, BitVec.toNat_shiftLeft, Nat.shiftLeft_eq]
    exact hx
  | cons y rest ih =>
    have hx := hhigh x
    have hrest := ih y
    rw [shiftLeft, ofWordsBe_cons, toNat_shiftLeft_or hj, length_shiftLeft, ofWordsBe_cons x,
      List.length_cons]
    -- what leaves the next word is what enters this one
    calc _ = (x.toNat * 2 ^ j % 2 ^ w + 2 ^ w * (x.toNat / 2 ^ (w - j))) *
            (2 ^ w) ^ (rest.length + 1) + (ofWordsBe (shiftLeft j (y :: rest)) +
              (2 ^ w) ^ (rest.length + 1) * (y.toNat / 2 ^ (w - j))) := by ring
      _ = _ := by rw [hx, hrest]; ring

/-- Nothing is lost of a number that is small enough. -/
theorem ofWordsBe_shiftLeft_of_lt (hj : j ≤ w) {xs : List (BitVec w)}
    (hlt : ofWordsBe xs * 2 ^ j < (2 ^ w) ^ xs.length) :
    ofWordsBe (shiftLeft j xs) = ofWordsBe xs * 2 ^ j := by
  cases xs with
  | nil => simp [shiftLeft]
  | cons x xs =>
    have hshift := ofWordsBe_shiftLeft hj x xs
    -- a bit that is lost would be worth more than the whole list
    have hzero : x.toNat / 2 ^ (w - j) = 0 := by
      by_contra hne
      have hle : (2 ^ w) ^ (xs.length + 1) ≤ (2 ^ w) ^ (xs.length + 1) * (x.toNat / 2 ^ (w - j)) :=
        Nat.le_mul_of_pos_right _ (Nat.pos_of_ne_zero hne)
      rw [List.length_cons] at hlt
      omega
    rwa [hzero, Nat.mul_zero, Nat.add_zero] at hshift

/-! ## Sums and Differences -/

/-- The columns of a difference of words of 32 bits. The constant keeps each of them from
getting negative, and a one is carried in at the start. -/
def subColumns (xs ys : List (BitVec 32)) : List (BitVec 64) :=
  List.zipWith (fun x y => 0xFFFFFFFF + x.setWidth 64 - y.setWidth 64) xs ys

def addColumns (xs ys : List (BitVec 32)) : List (BitVec 64) :=
  List.zipWith (fun x y => x.setWidth 64 + y.setWidth 64) xs ys

theorem toNat_subColumn (x y : BitVec 32) :
    (0xFFFFFFFF + x.setWidth 64 - y.setWidth 64 : BitVec 64).toNat =
      2 ^ 32 - 1 + x.toNat - y.toNat := by
  have hx := x.isLt
  have hy := y.isLt
  have hones : (0xFFFFFFFF : BitVec 64).toNat = 2 ^ 32 - 1 := rfl
  have hsum : (0xFFFFFFFF + x.setWidth 64 : BitVec 64).toNat = 2 ^ 32 - 1 + x.toNat := by
    rw [BitVec.toNat_add, hones, BitVec.toNat_setWidth]
    omega
  rw [BitVec.toNat_sub, hsum, BitVec.toNat_setWidth]
  omega

theorem toNat_addColumn (x y : BitVec 32) :
    (x.setWidth 64 + y.setWidth 64 : BitVec 64).toNat = x.toNat + y.toNat := by
  have hx := x.isLt
  have hy := y.isLt
  rw [BitVec.toNat_add, BitVec.toNat_setWidth, BitVec.toNat_setWidth]
  omega

theorem ofDigits_subColumns {xs ys : List (BitVec 32)} (hlen : xs.length = ys.length) :
    Nat.ofDigits (2 ^ 32) ((subColumns xs ys).map BitVec.toNat) + ofWords ys + 1 =
      (2 ^ 32) ^ xs.length + ofWords xs := by
  induction xs generalizing ys with
  | nil => simp [subColumns, List.eq_nil_of_length_eq_zero hlen.symm]
  | cons x xs ih =>
    cases ys with
    | nil => simp at hlen
    | cons y ys =>
      have hrest := ih (by simpa using hlen)
      have hy := y.isLt
      -- each column borrows a word less one in advance
      have hcolumn : (subColumns (x :: xs) (y :: ys)).map BitVec.toNat =
          (2 ^ 32 - 1 + x.toNat - y.toNat) :: (subColumns xs ys).map BitVec.toNat := by
        rw [subColumns, List.zipWith_cons_cons, List.map_cons, toNat_subColumn]
        rfl
      rw [hcolumn, Nat.ofDigits_cons, ofWords_cons, ofWords_cons, List.length_cons,
        pow_succ' (2 ^ 32) xs.length]
      omega

theorem ofDigits_addColumns {xs ys : List (BitVec 32)} (hlen : xs.length = ys.length) :
    Nat.ofDigits (2 ^ 32) ((addColumns xs ys).map BitVec.toNat) = ofWords xs + ofWords ys := by
  induction xs generalizing ys with
  | nil => simp [addColumns, List.eq_nil_of_length_eq_zero hlen.symm]
  | cons x xs ih =>
    cases ys with
    | nil => simp at hlen
    | cons y ys =>
      have hrest := ih (by simpa using hlen)
      have hcolumn : (addColumns (x :: xs) (y :: ys)).map BitVec.toNat =
          (x.toNat + y.toNat) :: (addColumns xs ys).map BitVec.toNat := by
        rw [addColumns, List.zipWith_cons_cons, List.map_cons, toNat_addColumn]
        rfl
      rw [hcolumn, Nat.ofDigits_cons, hrest, ofWords_cons, ofWords_cons]
      ring

theorem room_of_lt {c : BitVec 64} (hc : c.toNat ≤ 2 ^ 64 - 2 ^ 32) : Room 32 c := by
  rw [Room]
  omega

/-- The difference of two numbers of the same length. -/
theorem ofWords_ripple_sub {xs ys : List (BitVec 32)} (hlen : xs.length = ys.length)
    (hle : ofWords ys ≤ ofWords xs) :
    ofWords (rippleList 32 32 (1 : BitVec 64) (subColumns xs ys)) = ofWords xs - ofWords ys := by
  -- no column has more than sixty-four bits, so every carry is kept
  have hroom : ∀ c ∈ subColumns xs ys, Room 32 c := by
    intro c hc
    obtain ⟨i, hi, rfl⟩ := List.getElem_of_mem hc
    apply room_of_lt
    simp only [subColumns, List.getElem_zipWith, toNat_subColumn]
    omega
  have hcolumns := ofDigits_subColumns hlen
  have hlt := ofWords_lt xs
  have hlength : (subColumns xs ys).length = xs.length := by simp [subColumns, hlen]
  have hone : (1 : BitVec 64).toNat = 1 := rfl
  rw [ofWords, ofDigits_rippleList (by decide) (by decide) (by decide) hroom, hlength, hone]
  -- the borrowed columns and the first carry make one word too many, which is dropped
  have hsum : 1 + Nat.ofDigits (2 ^ 32) ((subColumns xs ys).map BitVec.toNat) =
      (2 ^ 32) ^ xs.length + (ofWords xs - ofWords ys) := by omega
  rw [hsum, Nat.add_mod_left, Nat.mod_eq_of_lt (by omega)]

/-- The sum of two numbers of the same length, while it fits. -/
theorem ofWords_ripple_add {xs ys : List (BitVec 32)} (hlen : xs.length = ys.length)
    (hlt : ofWords xs + ofWords ys < (2 ^ 32) ^ xs.length) :
    ofWords (rippleList 32 32 (0 : BitVec 64) (addColumns xs ys)) = ofWords xs + ofWords ys := by
  have hroom : ∀ c ∈ addColumns xs ys, Room 32 c := by
    intro c hc
    obtain ⟨i, hi, rfl⟩ := List.getElem_of_mem hc
    apply room_of_lt
    simp only [addColumns, List.getElem_zipWith, toNat_addColumn]
    omega
  have hlength : (addColumns xs ys).length = xs.length := by simp [addColumns, hlen]
  have hzero : (0 : BitVec 64).toNat = 0 := rfl
  rw [ofWords, ofDigits_rippleList (by decide) (by decide) (by decide) hroom, hlength, hzero,
    ofDigits_addColumns hlen, Nat.zero_add, Nat.mod_eq_of_lt hlt]

end RlyNetworkSdk.Encoding.Limbs
