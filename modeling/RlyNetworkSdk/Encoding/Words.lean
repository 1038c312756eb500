import RlyNetworkSdk.Encoding.BigEndian
import Mathlib.Data.Nat.Bitwise

/-!
# Words in Memory

Machine words as the bytes that store them, in both byte orders, and an array of words as one
stretch of memory, whose places are bytes or single bits. A program that fills an array place
by place and reads it word by word uses both views, and they carry the same data
(`words_bytes`, `bytes_words`).
-/

namespace RlyNetworkSdk.Encoding

variable {w n k : Nat}

/-! ## One Word -/

/-- The word that bytes stand for, the most significant byte first. A word on the wire is read
so, whatever the order of bytes of the machine is. -/
def loadBE (w : Nat) (bs : List UInt8) : BitVec w := BitVec.ofNat w (BigEndian.value bs)

/-- The bytes of a word, the most significant byte first. -/
def storeBE (n : Nat) (x : BitVec w) : List UInt8 := BigEndian.ofNat n x.toNat

/-- The word that bytes stand for, the least significant byte first. -/
def loadLE (w : Nat) (bs : List UInt8) : BitVec w := loadBE w bs.reverse

/-- The bytes of a word, the least significant byte first. -/
def storeLE (n : Nat) (x : BitVec w) : List UInt8 := (storeBE n x).reverse

@[simp] theorem length_storeBE (x : BitVec w) : (storeBE n x).length = n := by simp [storeBE]

@[simp] theorem length_storeLE (x : BitVec w) : (storeLE n x).length = n := by simp [storeLE]

theorem pow_256_eq (hw : w = 8 * n) : 256 ^ n = 2 ^ w := by
  rw [hw, pow_mul]
  rfl

theorem loadBE_storeBE (hw : w = 8 * n) (x : BitVec w) : loadBE w (storeBE n x) = x := by
  have hx : x.toNat < 256 ^ n := by rw [pow_256_eq hw]; exact x.isLt
  rw [loadBE, storeBE, BigEndian.value_ofNat_of_lt hx, BitVec.ofNat_toNat, BitVec.setWidth_eq]

theorem storeBE_loadBE (hw : w = 8 * n) {bs : List UInt8} (hbs : bs.length = n) :
    storeBE n (loadBE w bs) = bs := by
  have hlt : BigEndian.value bs < 2 ^ w := by
    rw [← pow_256_eq hw, ← hbs]
    exact BigEndian.value_lt bs
  rw [storeBE, loadBE, BitVec.toNat_ofNat, Nat.mod_eq_of_lt hlt, ← hbs, BigEndian.ofNat_value]

theorem loadLE_storeLE (hw : w = 8 * n) (x : BitVec w) : loadLE w (storeLE n x) = x := by
  rw [loadLE, storeLE, List.reverse_reverse, loadBE_storeBE hw]

theorem storeLE_loadLE (hw : w = 8 * n) {bs : List UInt8} (hbs : bs.length = n) :
    storeLE n (loadLE w bs) = bs := by
  rw [storeLE, loadLE, storeBE_loadBE hw (by simpa using hbs), List.reverse_reverse]

/-- The bits of a word, from those of the byte that holds each. -/
theorem getLsbD_loadLE (bs : List UInt8) {i : Nat} (hi : i < w) :
    (loadLE w bs).getLsbD i = (bs.getD (i / 8) 0).toNat.testBit (i % 8) := by
  rw [loadLE, loadBE, BitVec.getLsbD_ofNat, decide_eq_true hi, Bool.true_and]
  clear hi
  induction bs generalizing i with
  | nil => simp
  | cons b bs ih =>
    have hb : b.toNat < 2 ^ 8 := b.toNat_lt
    rw [List.reverse_cons, BigEndian.value_append_singleton,
      Nat.testBit_two_pow_mul_add (i := 8) _ hb]
    split
    case isTrue hlt => simp [Nat.div_eq_of_lt hlt, Nat.mod_eq_of_lt hlt]
    case isFalse hge =>
      -- the later bits are those of the other bytes
      have hdiv : i / 8 = (i - 8) / 8 + 1 := by omega
      have hmod : i % 8 = (i - 8) % 8 := by omega
      rw [ih, hdiv, hmod, List.getD_cons_succ]

theorem getElem_loadLE (bs : List UInt8) {i : Nat} (hi : i < w) :
    (loadLE w bs)[i] = (bs.getD (i / 8) 0).toNat.testBit (i % 8) := by
  rw [← BitVec.getLsbD_eq_getElem, getLsbD_loadLE bs hi]

/-- Words are combined byte by byte. -/
theorem loadLE_zipWith_xor {as bs : List UInt8} (h : as.length = bs.length) :
    loadLE w (List.zipWith (· ^^^ ·) as bs) = loadLE w as ^^^ loadLE w bs := by
  apply BitVec.eq_of_getLsbD_eq
  intro i hi
  rw [BitVec.getLsbD_xor, getLsbD_loadLE _ hi, getLsbD_loadLE _ hi, getLsbD_loadLE _ hi]
  rcases Nat.lt_or_ge (i / 8) as.length with hlt | hge
  · have hlt' : i / 8 < bs.length := by omega
    simp [List.getD_eq_getElem?_getD, hlt, hlt']
  · have hge' : bs.length ≤ i / 8 := by omega
    simp [List.getD_eq_getElem?_getD, hge, hge']

theorem loadBE_zipWith_xor {as bs : List UInt8} (h : as.length = bs.length) :
    loadBE w (List.zipWith (· ^^^ ·) as bs) = loadBE w as ^^^ loadBE w bs := by
  have hLE : loadLE w (List.zipWith (· ^^^ ·) as.reverse bs.reverse) =
      loadLE w as.reverse ^^^ loadLE w bs.reverse := loadLE_zipWith_xor (by simpa using h)
  rw [← List.reverse_zipWith h] at hLE
  simpa only [loadLE, List.reverse_reverse] using hLE

theorem storeBE_xor (hw : w = 8 * n) (x y : BitVec w) :
    storeBE n (x ^^^ y) = List.zipWith (· ^^^ ·) (storeBE n x) (storeBE n y) := by
  have hload : loadBE w (List.zipWith (· ^^^ ·) (storeBE n x) (storeBE n y)) = x ^^^ y := by
    rw [loadBE_zipWith_xor (by simp), loadBE_storeBE hw, loadBE_storeBE hw]
  rw [← hload, storeBE_loadBE hw (by simp)]

/-! ## Arrays of Words -/

variable {α β : Type*}

/-- The words of a stretch of memory, of `n` places each. The places behind the last word are
not looked at. -/
def words (load : List α → β) (n k : Nat) (mem : List α) : Vector β k :=
  Vector.ofFn fun i => load ((mem.drop (n * i)).take n)

/-- The memory of an array of words. -/
def bytes (store : β → List α) (ws : Vector β k) : List α := ws.toList.flatMap store

@[simp] theorem getElem_words (load : List α → β) (mem : List α) {i : Nat} (hi : i < k) :
    (words load n k mem)[i] = load ((mem.drop (n * i)).take n) := by
  simp [words]

variable {load : List α → β} {store : β → List α}

theorem length_flatMap_store (hlen : ∀ x, (store x).length = n) (ws : List β) :
    (ws.flatMap store).length = n * ws.length := by
  induction ws with
  | nil => rfl
  | cons x ws ih => rw [List.flatMap_cons, List.length_append, hlen, ih, List.length_cons]; ring

theorem length_bytes (hlen : ∀ x, (store x).length = n) (ws : Vector β k) :
    (bytes store ws).length = n * k := by
  rw [bytes, length_flatMap_store hlen, Vector.length_toList]

/-- The bytes of one word lie where its index says. -/
theorem take_drop_flatMap (hlen : ∀ x, (store x).length = n) (ws : List β) {i : Nat}
    (hi : i < ws.length) : ((ws.flatMap store).drop (n * i)).take n = store ws[i] := by
  induction ws generalizing i with
  | nil => simp at hi
  | cons x ws ih =>
    rw [List.flatMap_cons]
    cases i with
    | zero => simp [← hlen x]
    | succ i =>
      have hdrop : (store x ++ ws.flatMap store).drop (n * (i + 1)) =
          (ws.flatMap store).drop (n * i) := by
        rw [Nat.mul_succ, Nat.add_comm, ← hlen x, List.drop_length_add_append]
      rw [hdrop, ih (by simpa using hi), List.getElem_cons_succ]

/-- A word of a first part is not touched by what follows it. -/
theorem take_drop_append_left {as : List α} (has : as.length = n * k) (bs : List α) {i : Nat}
    (hi : i < k) : ((as ++ bs).drop (n * i)).take n = (as.drop (n * i)).take n := by
  have hle : n * i + n ≤ n * k := by
    rw [← Nat.mul_succ]
    exact Nat.mul_le_mul_left n hi
  rw [List.drop_append_of_le_length (by omega),
    List.take_append_of_le_length (by rw [List.length_drop]; omega)]

/-- The words of a second part are counted from where it begins. -/
theorem take_drop_append_right {as : List α} (has : as.length = n * k) (bs : List α)
    (i : Nat) : ((as ++ bs).drop (n * (k + i))).take n = (bs.drop (n * i)).take n := by
  rw [Nat.mul_add, ← has, List.drop_length_add_append]

/-- Words survive in memory. -/
theorem words_bytes (hlen : ∀ x, (store x).length = n) (hload : ∀ x, load (store x) = x)
    (ws : Vector β k) : words load n k (bytes store ws) = ws := by
  ext i hi
  rw [getElem_words, bytes, take_drop_flatMap hlen _ (by simpa using hi), hload,
    Vector.getElem_toList]

/-- Memory survives as words. -/
theorem bytes_words (hstore : ∀ bs, bs.length = n → store (load bs) = bs) {mem : List α}
    (hmem : mem.length = n * k) : bytes store (words load n k mem) = mem := by
  rw [bytes, words, Vector.toList_ofFn]
  induction k generalizing mem with
  | zero => simpa using (List.eq_nil_of_length_eq_zero hmem).symm
  | succ k ih =>
    -- the first word is taken off, and the others are those of the memory behind it
    have hfirst : (mem.take n).length = n := by simp [hmem, Nat.mul_succ]
    have hrest : (mem.drop n).length = n * k := by simp [hmem, Nat.mul_succ]
    rw [List.ofFn_succ, List.flatMap_cons]
    have hshift : (fun i : Fin k => load ((mem.drop (n * i.succ)).take n)) =
        fun i : Fin k => load (((mem.drop n).drop (n * i)).take n) := by
      funext i
      rw [List.drop_drop, Fin.val_succ, Nat.mul_succ, Nat.add_comm]
    rw [hshift, ih hrest]
    simp only [Fin.val_zero, Nat.mul_zero, List.drop_zero]
    rw [hstore _ hfirst, List.take_append_drop]

/-- A conversion of every word is another way to read the memory. -/
theorem map_words {load' : List α → β} {f : β → β}
    (hf : ∀ bs, bs.length = n → f (load bs) = load' bs) {mem : List α}
    (hmem : mem.length = n * k) : (words load n k mem).map f = words load' n k mem := by
  ext i hi
  have hle : n * i + n ≤ n * k := by
    rw [← Nat.mul_succ]
    exact Nat.mul_le_mul_left n hi
  rw [Vector.getElem_map, getElem_words, getElem_words]
  apply hf
  rw [List.length_take, List.length_drop, hmem]
  omega

/-- A conversion of every word is another way to store the array. -/
theorem bytes_map {store' : β → List α} {f : β → β} (hf : ∀ x, store (f x) = store' x)
    (ws : Vector β k) : bytes store (ws.map f) = bytes store' ws := by
  rw [bytes, bytes, Vector.toList_map, List.flatMap_map]
  exact congrArg (ws.toList.flatMap ·) (funext hf)

/-- Arrays that are combined word by word are combined byte by byte. -/
theorem bytes_zipWith {op : β → β → β} {op' : α → α → α}
    (hlen : ∀ x, (store x).length = n)
    (hop : ∀ x y, store (op x y) = List.zipWith op' (store x) (store y)) (xs ys : Vector β k) :
    bytes store (Vector.zipWith op xs ys) = List.zipWith op' (bytes store xs) (bytes store ys) := by
  have hlists : ∀ as bs : List β, as.length = bs.length →
      (List.zipWith op as bs).flatMap store =
        List.zipWith op' (as.flatMap store) (bs.flatMap store) := by
    intro as
    induction as with
    | nil => simp
    | cons x as ih =>
      intro bs hbs
      cases bs with
      | nil => simp at hbs
      | cons y bs =>
        rw [List.zipWith_cons_cons, List.flatMap_cons, List.flatMap_cons, List.flatMap_cons, hop,
          ih bs (by simpa using hbs), List.zipWith_append (by rw [hlen, hlen])]
  rw [bytes, Vector.toList_zipWith, hlists _ _ (by simp)]
  rfl

end RlyNetworkSdk.Encoding
