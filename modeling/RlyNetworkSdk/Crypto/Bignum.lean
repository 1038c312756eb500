import RlyNetworkSdk.Encoding.Limbs
import RlyNetworkSdk.Encoding.Words

/-!
# Big Numbers

The numbers of `bignum.c`: nine words in the base `2 ^ 30`, which hold 270 bits. Raw numbers of
256 bits are read into them and written from them by shifting words into limbs and back; the
comparisons look at every limb, so that their running time tells nothing about the numbers.
-/

namespace RlyNetworkSdk.Crypto.Bignum

open Encoding

/-- `bignum256`: nine limbs, of thirty bits each in a number that is normalized. The words have
two bits more, which sums use before their carries are handed on. -/
abbrev Bignum256 := Vector (BitVec 32) 9

/-- The number that the limbs stand for. -/
abbrev value (a : Bignum256) : Nat := Limbs.value 30 a

abbrev Normalized (a : Bignum256) : Prop := Limbs.Normalized 30 a

/-- The most significant limb, of which a number below 2^256 uses sixteen bits. -/
abbrev top (a : Bignum256) : BitVec 32 := a[8]

/-! ## Reading -/

/-- The loop of `bn_read_be` and `bn_read_le` from index `i` on, over the words of the number,
the least significant one first. -/
def readLimbs (i : Nat) (temp : BitVec 32) : List (BitVec 32) → List (BitVec 32)
  | [] => [temp]
  | limb :: limbs =>
    ((temp ||| limb <<< (2 * i)) &&& 0x3FFFFFFF) :: readLimbs (i + 1) (limb >>> (30 - 2 * i)) limbs

theorem length_readLimbs (i : Nat) (temp : BitVec 32) (limbs : List (BitVec 32)) :
    (readLimbs i temp limbs).length = limbs.length + 1 := by
  induction limbs generalizing i temp with
  | nil => rfl
  | cons limb limbs ih => rw [readLimbs, List.length_cons, ih, List.length_cons]

theorem size_readLimbs (ws : Vector (BitVec 32) 8) :
    (readLimbs 0 0 ws.toList).toArray.size = 9 := by
  simp [length_readLimbs]

theorem size_readLimbs_reverse (ws : Vector (BitVec 32) 8) :
    (readLimbs 0 0 ws.toList.reverse).toArray.size = 9 := by
  simp [length_readLimbs]

def bnReadBe (inNumber : List UInt8) : Bignum256 :=
  ⟨(readLimbs 0 0 (words (loadBE 32) 4 8 inNumber).toList.reverse).toArray,
    size_readLimbs_reverse _⟩

def bnReadLe (inNumber : List UInt8) : Bignum256 :=
  ⟨(readLimbs 0 0 (words (loadLE 32) 4 8 inNumber).toList).toArray, size_readLimbs _⟩

/-- What one word adds to the limbs: the low bits complete a limb, and the others are kept. -/
theorem read_step {i : Nat} (hi : i ≤ 15) {temp : BitVec 32} (htemp : temp.toNat < 2 ^ (2 * i))
    (limb : BitVec 32) :
    ((temp ||| limb <<< (2 * i)) &&& 0x3FFFFFFF).toNat + 2 ^ 30 * (limb >>> (30 - 2 * i)).toNat =
      temp.toNat + 2 ^ (2 * i) * limb.toNat := by
  have hsplit : 2 ^ (2 * i) * 2 ^ (30 - 2 * i) = 2 ^ 30 := by rw [← pow_add]; congr 1; omega
  have hword : 2 ^ (2 * i) * 2 ^ (32 - 2 * i) = 2 ^ 32 := by rw [← pow_add]; congr 1; omega
  have hmask : (0x3FFFFFFF : BitVec 32).toNat = 2 ^ 30 - 1 := rfl
  have hshift : (limb <<< (2 * i)).toNat = 2 ^ (2 * i) * (limb.toNat % 2 ^ (32 - 2 * i)) := by
    rw [BitVec.toNat_shiftLeft, Nat.shiftLeft_eq, Nat.mul_comm limb.toNat, ← hword,
      Nat.mul_mod_mul_left]
  -- the shifted word leaves the low bits to what was kept
  have hor : temp.toNat ||| 2 ^ (2 * i) * (limb.toNat % 2 ^ (32 - 2 * i)) =
      temp.toNat + 2 ^ (2 * i) * (limb.toNat % 2 ^ (32 - 2 * i)) := by
    rw [Nat.or_comm, ← Nat.two_pow_add_eq_or_of_lt htemp, Nat.add_comm]
  have hlow : (temp.toNat + 2 ^ (2 * i) * (limb.toNat % 2 ^ (32 - 2 * i))) % 2 ^ 30 =
      (temp.toNat + 2 ^ (2 * i) * limb.toNat) % 2 ^ 30 := by
    have h32 : 2 ^ (2 * i) * (limb.toNat % 2 ^ (32 - 2 * i)) =
        (2 ^ (2 * i) * limb.toNat) % 2 ^ 32 := by
      rw [← hword, Nat.mul_mod_mul_left]
    rw [h32]
    omega
  have hhigh : limb.toNat / 2 ^ (30 - 2 * i) =
      (temp.toNat + 2 ^ (2 * i) * limb.toNat) / 2 ^ 30 := by
    rw [← hsplit, ← Nat.div_div_eq_div_mul, Nat.add_mul_div_left _ _ (Nat.two_pow_pos _),
      Nat.div_eq_of_lt htemp, Nat.zero_add]
  rw [BitVec.toNat_and, BitVec.toNat_or, hshift, hor, hmask, Nat.and_two_pow_sub_one_eq_mod, hlow,
    BitVec.toNat_ushiftRight, Nat.shiftRight_eq_div_pow, hhigh]
  exact Nat.mod_add_div _ _

theorem toNat_read_limb_lt (x : BitVec 32) : (x &&& 0x3FFFFFFF).toNat < 2 ^ 30 := by
  have hmask : (0x3FFFFFFF : BitVec 32).toNat = 2 ^ 30 - 1 := rfl
  rw [BitVec.toNat_and, hmask, Nat.and_two_pow_sub_one_eq_mod]
  exact Nat.mod_lt _ (by decide)

/-- What is kept of a word for the next limb. -/
theorem toNat_kept_lt {i : Nat} (hi : i ≤ 15) (limb : BitVec 32) :
    (limb >>> (30 - 2 * i)).toNat < 2 ^ (2 * (i + 1)) := by
  have hpow : 2 ^ (2 * (i + 1)) * 2 ^ (30 - 2 * i) = 2 ^ 32 := by rw [← pow_add]; congr 1; omega
  rw [BitVec.toNat_ushiftRight, Nat.shiftRight_eq_div_pow,
    Nat.div_lt_iff_lt_mul (Nat.two_pow_pos _), hpow]
  exact limb.isLt

/-- The limbs stand for the words. -/
theorem ofDigits_readLimbs {i : Nat} {t : BitVec 32} {limbs : List (BitVec 32)}
    (hi : i + limbs.length ≤ 15) (ht : t.toNat < 2 ^ (2 * i)) :
    Nat.ofDigits (2 ^ 30) ((readLimbs i t limbs).map BitVec.toNat) =
        t.toNat + 2 ^ (2 * i) * Nat.ofDigits (2 ^ 32) (limbs.map BitVec.toNat) ∧
      ∀ x ∈ readLimbs i t limbs, x.toNat < 2 ^ 30 := by
  -- the bits that are kept for the next limb are less than `2 ^ (2 * i)`
  induction limbs generalizing i t with
  | nil =>
    -- what is left after the last word is a limb by itself
    have hpow : 2 ^ (2 * i) ≤ 2 ^ 30 := by
      apply Nat.pow_le_pow_right Nat.two_pos
      rw [List.length_nil] at hi
      omega
    have hlt : t.toNat < 2 ^ 30 := Nat.lt_of_lt_of_le ht hpow
    simpa [readLimbs] using hlt
  | cons limb limbs ih =>
    rw [List.length_cons] at hi
    have hi' : i ≤ 15 := by omega
    obtain ⟨hvalue, hlt⟩ := ih (i := i + 1) (by omega) (toNat_kept_lt hi' limb)
    constructor
    · -- one word gives one limb and two more bits to keep
      have hstep := read_step hi' ht limb
      have hpow : 2 ^ (2 * (i + 1)) * 2 ^ 30 = 2 ^ (2 * i) * 2 ^ 32 := by
        rw [← pow_add, ← pow_add]
        congr 1
      rw [readLimbs, List.map_cons, Nat.ofDigits_cons, hvalue, List.map_cons, Nat.ofDigits_cons]
      calc _ = (t.toNat + 2 ^ (2 * i) * limb.toNat) + (2 ^ (2 * (i + 1)) * 2 ^ 30) *
            Nat.ofDigits (2 ^ 32) (limbs.map BitVec.toNat) := by rw [← hstep]; ring
        _ = _ := by rw [hpow]; ring
    · intro x hx
      rw [readLimbs] at hx
      rcases List.mem_cons.mp hx with rfl | hmem
      · exact toNat_read_limb_lt _
      · exact hlt x hmem

/-- The number of words that are stored with the most significant byte first. -/
theorem value_flatMap_storeBE (ws : List (BitVec 32)) :
    BigEndian.value (ws.flatMap (storeBE 4)) =
      Nat.ofDigits (2 ^ 32) (ws.reverse.map BitVec.toNat) := by
  induction ws with
  | nil => simp
  | cons x ws ih =>
    have hx : BigEndian.value (storeBE 4 x) = x.toNat := BigEndian.value_ofNat_of_lt x.isLt
    have hpow : 256 ^ (4 * ws.length) = (2 ^ 32) ^ ws.length := by rw [pow_mul]; rfl
    rw [List.reverse_cons, List.map_append, Nat.ofDigits_append, ← ih, List.flatMap_cons,
      BigEndian.value_append, hx, length_flatMap_store (fun _ => length_storeBE _) ws, hpow]
    simp
    ring

theorem ofDigits_words_reverse {bs : List UInt8} (hbs : bs.length = 32) :
    Nat.ofDigits (2 ^ 32) ((words (loadBE 32) 4 8 bs).toList.reverse.map BitVec.toNat) =
      BigEndian.value bs := by
  have hbytes : bytes (storeBE 4) (words (loadBE 32) 4 8 bs) = bs :=
    bytes_words (fun _ => storeBE_loadBE rfl) hbs
  rw [← value_flatMap_storeBE]
  exact congrArg BigEndian.value hbytes

theorem normalized_of_mem {a : Bignum256} (h : ∀ x ∈ a.toList, x.toNat < 2 ^ 30) :
    Normalized a := by
  intro i
  apply h
  simp

theorem normalized_bnReadBe (bs : List UInt8) : Normalized (bnReadBe bs) := by
  apply normalized_of_mem
  exact (ofDigits_readLimbs (by simp) (by simp)).2

/-- **A raw number is read as the number that its bytes stand for.** The bytes come as eight
words of 32 bits, which are cut again into limbs of thirty. -/
theorem value_bnReadBe {bs : List UInt8} (hbs : bs.length = 32) :
    value (bnReadBe bs) = BigEndian.value bs := by
  rw [value, Limbs.value_eq_ofDigits]
  calc _ = _ := (ofDigits_readLimbs (i := 0) (t := 0) (by simp) (by simp)).1
    _ = BigEndian.value bs := by rw [ofDigits_words_reverse hbs]; simp

/-! ## Writing -/

/-- The loop of `bn_write_be` and `bn_write_le` from index `i` on, over the limbs from the most
significant one down. -/
def writeWords (i : Nat) (temp : BitVec 32) : List (BitVec 32) → List (BitVec 32)
  | [] => []
  | limb :: limbs =>
    (temp ||| limb >>> (14 - 2 * i)) :: writeWords (i + 1) (limb <<< (18 + 2 * i)) limbs

def bnWriteBe (inNumber : Bignum256) : List UInt8 :=
  (writeWords 0 (top inNumber <<< 16) (inNumber.toList.take 8).reverse).flatMap (storeBE 4)

def bnWriteLe (inNumber : Bignum256) : List UInt8 :=
  (writeWords 0 (top inNumber <<< 16) (inNumber.toList.take 8).reverse).reverse.flatMap (storeLE 4)

theorem length_writeWords (i : Nat) (temp : BitVec 32) (limbs : List (BitVec 32)) :
    (writeWords i temp limbs).length = limbs.length := by
  induction limbs generalizing i temp with
  | nil => rfl
  | cons limb limbs ih => rw [writeWords, List.length_cons, ih, List.length_cons]

/-- What one limb adds to the words: its high bits complete a word, and the others are kept. -/
theorem write_step {i : Nat} (hi : i ≤ 7) {temp limb : BitVec 32}
    (htemp : 2 ^ (16 + 2 * i) ∣ temp.toNat) (hlimb : limb.toNat < 2 ^ 30) :
    2 ^ 32 * (temp ||| limb >>> (14 - 2 * i)).toNat + (limb <<< (18 + 2 * i)).toNat =
      2 ^ 32 * temp.toNat + 2 ^ (18 + 2 * i) * limb.toNat := by
  have hword : 2 ^ (18 + 2 * i) * 2 ^ (14 - 2 * i) = 2 ^ 32 := by rw [← pow_add]; congr 1; omega
  have hlimb' : limb.toNat / 2 ^ (14 - 2 * i) < 2 ^ (16 + 2 * i) := by
    have hpow : 2 ^ (16 + 2 * i) * 2 ^ (14 - 2 * i) = 2 ^ 30 := by rw [← pow_add]; congr 1; omega
    rw [Nat.div_lt_iff_lt_mul (Nat.two_pow_pos _), hpow]
    exact hlimb
  obtain ⟨m, hm⟩ := htemp
  -- the kept bits lie above those of the limb
  have hor : (temp ||| limb >>> (14 - 2 * i)).toNat =
      temp.toNat + limb.toNat / 2 ^ (14 - 2 * i) := by
    rw [BitVec.toNat_or, BitVec.toNat_ushiftRight, Nat.shiftRight_eq_div_pow, hm,
      ← Nat.two_pow_add_eq_or_of_lt hlimb']
  have hshift : (limb <<< (18 + 2 * i)).toNat =
      2 ^ (18 + 2 * i) * (limb.toNat % 2 ^ (14 - 2 * i)) := by
    rw [BitVec.toNat_shiftLeft, Nat.shiftLeft_eq, Nat.mul_comm limb.toNat, ← hword,
      Nat.mul_mod_mul_left]
  rw [hor, hshift, Nat.mul_add, Nat.add_assoc, ← hword, Nat.mul_assoc, Nat.mul_assoc,
    ← Nat.mul_add]
  congr 2
  exact Nat.div_add_mod _ _

/-- The words stand for the limbs, up to what is kept in the end. -/
theorem ofDigits_writeWords {i : Nat} {t : BitVec 32} {limbs : List (BitVec 32)}
    (hi : i + limbs.length ≤ 8) (ht : 2 ^ (16 + 2 * i) ∣ t.toNat)
    (hlimbs : ∀ x ∈ limbs, x.toNat < 2 ^ 30) :
    ∃ kept < 2 ^ 32,
      2 ^ 32 * Nat.ofDigits (2 ^ 32) ((writeWords i t limbs).reverse.map BitVec.toNat) + kept =
        (2 ^ 32) ^ limbs.length * t.toNat + 2 ^ (16 + 2 * (i + limbs.length)) *
          Nat.ofDigits (2 ^ 30) (limbs.reverse.map BitVec.toNat) := by
  -- from the top down: the word in hand has its bits at the upper end
  induction limbs generalizing i t with
  | nil => exact ⟨t.toNat, t.isLt, by simp [writeWords]⟩
  | cons limb limbs ih =>
    rw [List.length_cons] at hi
    have hi' : i ≤ 7 := by omega
    have hlimb : limb.toNat < 2 ^ 30 := hlimbs limb List.mem_cons_self
    -- two more bits are in hand after each limb
    have ht' : 2 ^ (16 + 2 * (i + 1)) ∣ (limb <<< (18 + 2 * i)).toNat := by
      have hle : 18 + 2 * i ≤ 32 := by omega
      have hexp : 16 + 2 * (i + 1) = 18 + 2 * i := by omega
      rw [hexp, BitVec.toNat_shiftLeft, Nat.shiftLeft_eq]
      apply (Nat.dvd_mod_iff (Nat.pow_dvd_pow 2 hle)).mpr
      exact Nat.dvd_mul_left _ _
    obtain ⟨kept, hkept, heq⟩ := ih (i := i + 1) (by omega) ht'
      fun x hx => hlimbs x (List.mem_cons_of_mem limb hx)
    refine ⟨kept, hkept, ?_⟩
    have hstep := write_step hi' ht hlimb
    have hexp : i + 1 + limbs.length = i + (limbs.length + 1) := by omega
    -- the powers on both sides, brought to those of the shorter list
    have hpow : 2 ^ (16 + 2 * (i + (limbs.length + 1))) * (2 ^ 30) ^ limbs.length =
        (2 ^ 32) ^ limbs.length * 2 ^ (18 + 2 * i) := by
      rw [← pow_mul, ← pow_mul, ← pow_add, ← pow_add]
      congr 1
      omega
    rw [writeWords, List.reverse_cons, List.map_append, Nat.ofDigits_append, List.reverse_cons,
      List.map_append, Nat.ofDigits_append, List.length_cons]
    simp only [List.map_cons, List.map_nil, Nat.ofDigits_singleton, List.length_map,
      List.length_reverse, length_writeWords]
    rw [hexp] at heq
    -- the first word is split off, the induction hypothesis applied, and the limb moved to the
    -- others
    calc _ = (2 ^ 32) ^ limbs.length * (2 ^ 32 * (t ||| limb >>> (14 - 2 * i)).toNat) +
          (2 ^ 32 * Nat.ofDigits (2 ^ 32)
            ((writeWords (i + 1) (limb <<< (18 + 2 * i)) limbs).reverse.map BitVec.toNat) +
              kept) := by ring
      _ = (2 ^ 32) ^ limbs.length * (2 ^ 32 * t.toNat + 2 ^ (18 + 2 * i) * limb.toNat) +
          2 ^ (16 + 2 * (i + (limbs.length + 1))) *
            Nat.ofDigits (2 ^ 30) (limbs.reverse.map BitVec.toNat) := by
        rw [heq, ← hstep]
        ring
      _ = (2 ^ 32) ^ (limbs.length + 1) * t.toNat +
          ((2 ^ 32) ^ limbs.length * 2 ^ (18 + 2 * i)) * limb.toNat +
          2 ^ (16 + 2 * (i + (limbs.length + 1))) *
            Nat.ofDigits (2 ^ 30) (limbs.reverse.map BitVec.toNat) := by ring
      _ = _ := by
        rw [← hpow]
        ring

/-- The last limb is what stands above the others. -/
theorem value_eq_take (a : Bignum256) :
    value a = Nat.ofDigits (2 ^ 30) ((a.toList.take 8).map BitVec.toNat) +
      2 ^ 240 * (top a).toNat := by
  -- eight limbs and the top one
  have hsplit : a.toList = a.toList.take 8 ++ [top a] := by
    apply List.ext_getElem
    · simp
    · intro i h₁ h₂
      rw [List.getElem_append]
      split
      case isTrue => simp
      case isFalse hge =>
        have hi : i = 8 := by
          rw [List.length_take, Vector.length_toList] at hge
          rw [Vector.length_toList] at h₁
          omega
        subst hi
        simp
  rw [value, Limbs.value_eq_ofDigits]
  conv_lhs => rw [hsplit, List.map_append, Nat.ofDigits_append]
  simp

theorem ofDigits_written {a : Bignum256} (h : Normalized a) (hlt : value a < 2 ^ 256) :
    Nat.ofDigits (2 ^ 32)
      ((writeWords 0 (top a <<< 16) (a.toList.take 8).reverse).reverse.map BitVec.toNat) =
        value a := by
  have hvalue := value_eq_take a
  -- below `2 ^ 256` the top limb has sixteen bits, which are the upper half of the first word
  -- nothing is kept in the end, since both sides are multiples of a word
  have h8 : (top a).toNat < 2 ^ 16 := by omega
  have hshift : (top a <<< 16).toNat = (top a).toNat * 2 ^ 16 := by
    rw [BitVec.toNat_shiftLeft, Nat.shiftLeft_eq, Nat.mod_eq_of_lt (by omega)]
  have hlimbs : ∀ x ∈ (a.toList.take 8).reverse, x.toNat < 2 ^ 30 := by
    intro x hx
    apply h.digit_lt
    exact List.mem_map_of_mem (List.mem_of_mem_take (List.mem_reverse.mp hx))
  obtain ⟨kept, hkept, heq⟩ := ofDigits_writeWords (i := 0) (t := top a <<< 16) (by simp)
    (by rw [hshift]; exact Nat.dvd_mul_left _ _) hlimbs
  have hlength : (a.toList.take 8).reverse.length = 8 := by simp
  rw [hlength, hshift, List.reverse_reverse] at heq
  omega

/-- **A reduced number is written in 32 bytes.** There are as many bits in the bytes as in a
number below 2^256, so none is lost at the upper end. -/
theorem bnWriteBe_eq {a : Bignum256} (h : Normalized a) (hlt : value a < 2 ^ 256) :
    bnWriteBe a = BigEndian.ofNat 32 (value a) := by
  have hlt' : value a < 256 ^ 32 := Nat.lt_of_lt_of_eq hlt (by norm_num)
  apply BigEndian.eq_of_value_eq
  · rw [bnWriteBe, length_flatMap_store fun _ => length_storeBE _, length_writeWords]
    simp
  · rw [bnWriteBe, value_flatMap_storeBE, ofDigits_written h hlt,
      BigEndian.value_ofNat_of_lt hlt']

/-! ## The Other Byte Order -/

theorem words_loadLE_eq {bs : List UInt8} (hbs : bs.length = 32) :
    (words (loadLE 32) 4 8 bs).toList = (words (loadBE 32) 4 8 bs.reverse).toList.reverse := by
  apply List.ext_getElem
  · simp
  · intro i h₁ h₂
    have hi : i < 8 := by simpa using h₁
    have htake : ((bs.drop (4 * i)).take 4).reverse =
        (bs.reverse.drop (4 * (8 - 1 - i))).take 4 := by
      have hfrom : 32 - 4 * i - 4 = 4 * (8 - 1 - i) := by omega
      have hcount : 32 - 4 * i - 4 * (8 - 1 - i) = 4 := by omega
      rw [List.reverse_take, List.reverse_drop, List.length_drop, hbs, List.drop_take, hfrom, hcount]
    simp [loadLE, htake]

theorem bnReadLe_eq {bs : List UInt8} (hbs : bs.length = 32) :
    bnReadLe bs = bnReadBe bs.reverse := by
  simp only [bnReadLe, bnReadBe, words_loadLE_eq hbs]

theorem bnWriteLe_eq (a : Bignum256) : bnWriteLe a = (bnWriteBe a).reverse := by
  rw [bnWriteLe, bnWriteBe, List.reverse_flatMap]
  rfl

/-- **Raw numbers and reduced numbers are the same data**, in both byte orders: either way back
and forth changes nothing. -/
theorem raw_round_trip :
    (∀ bs : List UInt8, bs.length = 32 →
      bnWriteBe (bnReadBe bs) = bs ∧ bnWriteLe (bnReadLe bs) = bs) ∧
    (∀ a : Bignum256, Normalized a → value a < 2 ^ 256 →
      bnReadBe (bnWriteBe a) = a ∧ bnReadLe (bnWriteLe a) = a) := by
  -- big endian first, in both directions
  have hread : ∀ bs : List UInt8, bs.length = 32 → bnWriteBe (bnReadBe bs) = bs := by
    intro bs hbs
    have hlt : BigEndian.value bs < 2 ^ 256 := by
      have hlt' := BigEndian.value_lt bs
      rw [hbs] at hlt'
      exact Nat.lt_of_lt_of_eq hlt' (by norm_num)
    rw [bnWriteBe_eq (normalized_bnReadBe bs) (by rwa [value_bnReadBe hbs]), value_bnReadBe hbs,
      ← hbs, BigEndian.ofNat_value]
  -- normalized limbs are determined by their value
  have hwrite : ∀ a : Bignum256, Normalized a → value a < 2 ^ 256 →
      bnReadBe (bnWriteBe a) = a := by
    intro a ha hlt
    have hlt' : value a < 256 ^ 32 := Nat.lt_of_lt_of_eq hlt (by norm_num)
    apply Limbs.eq_of_value_eq (by decide) (normalized_bnReadBe _) ha
    rw [bnWriteBe_eq ha hlt]
    exact (value_bnReadBe (BigEndian.length_ofNat 32 _)).trans (BigEndian.value_ofNat_of_lt hlt')
  constructor
  · intro bs hbs
    -- little endian is the reverse of it
    refine ⟨hread bs hbs, ?_⟩
    rw [bnWriteLe_eq, bnReadLe_eq hbs, hread _ (by simpa using hbs), List.reverse_reverse]
  · intro a ha hlt
    refine ⟨hwrite a ha hlt, ?_⟩
    have hlength : (bnWriteLe a).length = 32 := by
      rw [bnWriteLe_eq, bnWriteBe_eq ha hlt]
      simp
    rw [bnReadLe_eq hlength, bnWriteLe_eq, List.reverse_reverse, hwrite a ha hlt]

/-- The bytes 1, 2, ..., 32. -/
def countingBytes : List UInt8 := (List.range' 1 32).map UInt8.ofNat

/-- Numbers of these bytes, in both orders. -/
theorem raw_round_trip_counting :
    (bnWriteBe (bnReadBe countingBytes) = countingBytes ∧
      bnWriteLe (bnReadLe countingBytes) = countingBytes) ∧
    bnReadBe (bnWriteBe (bnReadLe countingBytes)) = bnReadLe countingBytes ∧
      bnReadLe (bnWriteLe (bnReadLe countingBytes)) = bnReadLe countingBytes := by
  have hnormalized : Normalized (bnReadLe countingBytes) := by decide +kernel
  have hlt : value (bnReadLe countingBytes) < 2 ^ 256 := by decide +kernel
  exact ⟨raw_round_trip.1 countingBytes (by decide), raw_round_trip.2 _ hnormalized hlt⟩

/-! ## Comparing -/

/-- The value of a comparison in C, which is one or zero. -/
def flag (p : Bool) : BitVec 32 := if p then 1 else 0

def bnIsZero (a : Bignum256) : Bool := a.toList.foldl (· ||| ·) 0 == 0

def bnIsEqual (a b : Bignum256) : Bool :=
  (a.toList.zip b.toList).foldl (fun result p => result ||| (p.1 ^^^ p.2)) 0 == 0

/-- One step of the loop of `bn_is_less`, which goes down from the last limb. Both results are
shifted, so that the first difference from above decides. -/
def compareLimb (r : BitVec 32 × BitVec 32) (p : BitVec 32 × BitVec 32) : BitVec 32 × BitVec 32 :=
  (r.1 <<< 1 ||| flag (p.1 < p.2), r.2 <<< 1 ||| flag (p.2 < p.1))

def bnIsLess (a b : Bignum256) : Bool :=
  let res := (a.toList.zip b.toList).reverse.foldl compareLimb (0, 0)
  res.2 < res.1

def bnCmov (cond : Bool) (truecase falsecase : Bignum256) : Bignum256 :=
  let tmask := -flag cond
  let fmask := ~~~tmask
  Vector.zipWith (fun t f => t &&& tmask ||| f &&& fmask) truecase falsecase

theorem bnCmov_eq (cond : Bool) (truecase falsecase : Bignum256) :
    bnCmov cond truecase falsecase = if cond then truecase else falsecase := by
  apply Vector.ext
  intro i hi
  have hand (x : BitVec 32) : x &&& 4294967295#32 = x := BitVec.and_allOnes
  cases cond <;> simp [bnCmov, flag, hand]

theorem toNat_shift_flag {r : BitVec 32} {k : Nat} (hk : k < 32) (hr : r.toNat < 2 ^ k) (p : Bool) :
    (r <<< 1 ||| flag p).toNat = 2 * r.toNat + p.toNat := by
  have hpow : 2 ^ k ≤ 2 ^ 31 := Nat.pow_le_pow_right Nat.two_pos (by omega)
  have hshift : (r <<< 1).toNat = 2 * r.toNat := by
    rw [BitVec.toNat_shiftLeft, Nat.shiftLeft_eq, Nat.mod_eq_of_lt (by omega)]
    ring
  have hflag : (flag p).toNat = p.toNat := by cases p <;> rfl
  have hlt : p.toNat < 2 ^ 1 := by cases p <;> decide
  rw [BitVec.toNat_or, hshift, hflag]
  exact (Nat.two_pow_add_eq_or_of_lt hlt r.toNat).symm

/-- The flags compare the limbs that have been passed. -/
theorem foldl_compareLimb {ps : List (BitVec 32 × BitVec 32)} (hlen : ps.length ≤ 31)
    (hps : ∀ p ∈ ps, p.1.toNat < 2 ^ 30 ∧ p.2.toNat < 2 ^ 30) :
    let res := ps.foldl compareLimb (0, 0)
    let a := Nat.ofDigits (2 ^ 30) (ps.reverse.map fun p => p.1.toNat)
    let b := Nat.ofDigits (2 ^ 30) (ps.reverse.map fun p => p.2.toNat)
    res.1.toNat < 2 ^ ps.length ∧ res.2.toNat < 2 ^ ps.length ∧
      (res.2.toNat < res.1.toNat ↔ a < b) ∧ (res.1.toNat < res.2.toNat ↔ b < a) := by
  -- from the most significant pair down, with one bit of each flag for a pair
  induction ps using List.reverseRecOn with
  | nil => simp
  | append_singleton ps p ih =>
    rw [List.length_append, List.length_singleton] at hlen
    obtain ⟨h₁, h₂, hless, hgreater⟩ := ih (by omega)
      fun q hq => hps q (List.mem_append_left _ hq)
    obtain ⟨hp₁, hp₂⟩ := hps p (by simp)
    have hstep₁ := toNat_shift_flag (k := ps.length) (by omega) h₁ (p.1 < p.2)
    have hstep₂ := toNat_shift_flag (k := ps.length) (by omega) h₂ (p.2 < p.1)
    have hpow : 2 ^ (ps.length + 1) = 2 * 2 ^ ps.length := by ring
    simp only [List.foldl_append, List.foldl_cons, List.foldl_nil, List.reverse_append,
      List.reverse_singleton, List.singleton_append, List.map_cons, Nat.ofDigits_cons,
      List.length_append, List.length_singleton, compareLimb, hstep₁, hstep₂, hpow]
    simp only [BitVec.lt_def] at *
    -- only one of the two flags gets a bit, or none when the limbs agree
    rcases Nat.lt_trichotomy p.1.toNat p.2.toNat with hlt | heq | hgt
    · have hnot : ¬ p.2.toNat < p.1.toNat := by omega
      simp only [hlt, hnot, decide_true, decide_false, Bool.toNat_true, Bool.toNat_false]
      omega
    · have hnot : ¬ p.1.toNat < p.2.toNat := by omega
      have hnot' : ¬ p.2.toNat < p.1.toNat := by omega
      simp only [hnot, hnot', decide_false, Bool.toNat_false]
      omega
    · have hnot : ¬ p.1.toNat < p.2.toNat := by omega
      simp only [hgt, hnot, decide_true, decide_false, Bool.toNat_true, Bool.toNat_false]
      omega

theorem map_zip_fst (a b : Bignum256) :
    (a.toList.zip b.toList).map (fun p => p.1.toNat) = a.toList.map BitVec.toNat := by
  have hle : a.toList.length ≤ b.toList.length := by simp
  have hmap : (a.toList.zip b.toList).map (fun p => p.1.toNat) =
      ((a.toList.zip b.toList).map Prod.fst).map BitVec.toNat := by rw [List.map_map]; rfl
  rw [hmap, List.map_fst_zip hle]

theorem map_zip_snd (a b : Bignum256) :
    (a.toList.zip b.toList).map (fun p => p.2.toNat) = b.toList.map BitVec.toNat := by
  have hle : b.toList.length ≤ a.toList.length := by simp
  have hmap : (a.toList.zip b.toList).map (fun p => p.2.toNat) =
      ((a.toList.zip b.toList).map Prod.snd).map BitVec.toNat := by rw [List.map_map]; rfl
  rw [hmap, List.map_snd_zip hle]

/-- **The comparison of the limbs is that of the numbers.** The source goes through all limbs in
any case, and the highest difference outweighs those below. -/
theorem bnIsLess_eq {a b : Bignum256} (ha : Normalized a) (hb : Normalized b) :
    bnIsLess a b = decide (value a < value b) := by
  have hps : ∀ p ∈ (a.toList.zip b.toList).reverse, p.1.toNat < 2 ^ 30 ∧ p.2.toNat < 2 ^ 30 := by
    intro p hp
    obtain ⟨hp₁, hp₂⟩ := List.of_mem_zip (List.mem_reverse.mp hp)
    exact ⟨ha.digit_lt _ (List.mem_map_of_mem hp₁), hb.digit_lt _ (List.mem_map_of_mem hp₂)⟩
  obtain ⟨-, -, hless, -⟩ := foldl_compareLimb (by simp) hps
  rw [List.reverse_reverse, map_zip_fst, map_zip_snd] at hless
  rw [bnIsLess, value, value, Limbs.value_eq_ofDigits, Limbs.value_eq_ofDigits, decide_eq_decide,
    BitVec.lt_def]
  exact hless

theorem foldl_or_eq_zero {r : BitVec 32} {xs : List (BitVec 32)} :
    xs.foldl (· ||| ·) r = 0 ↔ r = 0 ∧ ∀ x ∈ xs, x = 0 := by
  induction xs generalizing r with
  | nil => simp
  | cons x xs ih =>
    have hor : r ||| x = 0 ↔ r = 0 ∧ x = 0 := BitVec.or_eq_zero_iff
    rw [List.foldl_cons, ih, hor, List.forall_mem_cons, and_assoc]

theorem bnIsZero_eq (a : Bignum256) : bnIsZero a = decide (value a = 0) := by
  rw [bnIsZero, Bool.eq_iff_iff, beq_iff_eq, decide_eq_true_eq, foldl_or_eq_zero]
  constructor
  · -- the limbs are all zero, or one of them contributes to the sum
    rintro ⟨-, hzero⟩
    apply Finset.sum_eq_zero
    intro i _
    have hi : a[i] = 0 := hzero _ (by simp)
    simp [hi]
  · intro hvalue
    refine ⟨rfl, ?_⟩
    intro x hx
    obtain ⟨i, hi, rfl⟩ := List.getElem_of_mem hx
    have hin : i < 9 := by simpa using hi
    have hterm := (Finset.sum_eq_zero_iff.mp hvalue) ⟨i, hin⟩ (Finset.mem_univ _)
    have hpow : (2 ^ 30) ^ i ≠ 0 := by positivity
    apply BitVec.eq_of_toNat_eq
    simpa [hpow] using hterm

theorem bnIsEqual_eq (a b : Bignum256) : bnIsEqual a b = decide (a = b) := by
  -- the bits in which two limbs differ are collected, so the fold is zero when none do
  have hfold : (a.toList.zip b.toList).foldl (fun result p => result ||| (p.1 ^^^ p.2)) 0 =
      ((a.toList.zip b.toList).map fun p => p.1 ^^^ p.2).foldl (· ||| ·) 0 := by
    rw [List.foldl_map]
  rw [bnIsEqual, hfold, Bool.eq_iff_iff, beq_iff_eq, decide_eq_true_eq, foldl_or_eq_zero]
  constructor
  · rintro ⟨-, hzero⟩
    apply Vector.ext
    intro i hi
    apply BitVec.xor_eq_zero_iff.mp
    apply hzero
    apply List.mem_map.mpr
    refine ⟨(a[i], b[i]), ?_, rfl⟩
    apply List.mem_iff_getElem.mpr
    exact ⟨i, by simpa using hi, by simp⟩
  · rintro rfl
    refine ⟨rfl, ?_⟩
    intro x hx
    obtain ⟨p, hp, rfl⟩ := List.mem_map.mp hx
    obtain ⟨i, hi, rfl⟩ := List.getElem_of_mem hp
    simp

end RlyNetworkSdk.Crypto.Bignum
