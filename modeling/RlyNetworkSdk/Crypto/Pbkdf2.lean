import RlyNetworkSdk.Crypto.Hmac

/-!
# Key Derivation

`pbkdf2.c` derives one block of key material. It never hashes through a context again once the
salt is absorbed: the padded keys are two fixed states, the padding of the digests is written
once, and every further iteration costs two transforms in place. The iterations may be asked
for in portions.
-/

namespace RlyNetworkSdk.Crypto.Pbkdf2

open Encoding Digest Sha2 Hmac

variable {w : Nat} {v : Variant w}

/-! ## The Code -/

/-- The constants of a variant, with what they stand for. The source writes them out in the code
of each of the two hashes. -/
structure Consts (v : Variant w) where
  opad : BitVec w
  ipad : BitVec w
  opad_eq : opad = loadBE w (.replicate v.wordLength 0x5c)
  ipad_eq : ipad = loadBE w (.replicate v.wordLength 0x36)
  /-- The word that begins the padding. -/
  mark : BitVec w
  mark_eq : mark = loadBE w (0x80 :: .replicate (v.wordLength - 1) 0)
  /-- The word that ends it. -/
  bitLength : BitVec w
  bitLength_eq : bitLength = BitVec.ofNat w ((v.blockLength + v.wordLength * 8) * 8)
  /-- The count of a context behind one block. -/
  count : v.count.Count
  val_count : v.count.val count = 8 * v.blockLength

def consts256 : Consts variant256 where
  opad := 0x5c5c5c5c
  ipad := 0x36363636
  opad_eq := by decide
  ipad_eq := by decide
  mark := 0x80000000
  mark_eq := by decide
  bitLength := (64 + 32) * 8
  bitLength_eq := by decide
  count := (64 * 8 : BitVec 64)
  val_count := by decide

def consts512 : Consts variant512 where
  opad := 0x5c5c5c5c5c5c5c5c
  ipad := 0x3636363636363636
  opad_eq := by decide
  ipad_eq := by decide
  mark := 0x8000000000000000
  mark_eq := by decide
  bitLength := (128 + 64) * 8
  bitLength_eq := by decide
  count := ((128 * 8 : BitVec 64), (0 : BitVec 64))
  val_count := by decide

/-- `PBKDF2_HMAC_SHA256_CTX` and `PBKDF2_HMAC_SHA512_CTX` -/
structure PbkdfCtx (v : Variant w) where
  odig : State w
  idig : State w
  f : State w
  g : Vector (BitVec w) 16
  first : Nat

/-- A transform or a digest writes the first eight words of `g`; the padding behind them is
written once and stays. -/
def write (g : Vector (BitVec w) 16) (s : State w) : Vector (BitVec w) 16 :=
  Vector.ofFn fun i => if h : i.val < 8 then s[i.val] else g[i.val]

theorem eight_le_sixteen : 8 ≤ 16 := by decide

theorem eight_lt_sixteen : 8 < 16 := by decide

theorem fifteen_lt_sixteen : 15 < 16 := by decide

/-- `pbkdf2_hmac_sha256_Init` and `pbkdf2_hmac_sha512_Init`. The buffer of the local hash context
is not initialised, and holds what was on the stack. -/
def pbkdfInit (c : Consts v) (stack : Vector (BitVec w) 16) (pass salt : List UInt8) :
    PbkdfCtx v :=
  let blocknr := storeLE 4 (reverse32 1)
  let prepared := hmacPrepare v c.opad c.ipad pass
  let g := ((Vector.replicate 16 0).set 8 c.mark eight_lt_sixteen).set 15 c.bitLength
    fifteen_lt_sixteen
  let ctx : Ctx v := { state := prepared.ipadDigest, bitcount := c.count, buffer := stack }
  let digest := final (update (update ctx salt) blocknr)
  let g := write g ((v.ofBytes 8 digest).map v.reverse)
  let g := write g (transform v.params prepared.opadDigest g)
  { odig := prepared.opadDigest
    idig := prepared.ipadDigest
    f := Vector.ofFn fun i => g.get (Fin.castLE eight_le_sixteen i)
    g := g
    first := 1 }

/-- One iteration: two blocks are hashed, both of which are a digest with the same padding. -/
def pbkdfRound (pctx : PbkdfCtx v) : PbkdfCtx v :=
  let g := write pctx.g (transform v.params pctx.idig pctx.g)
  let g := write g (transform v.params pctx.odig g)
  { pctx with g := g, f := Vector.ofFn fun j => pctx.f[j] ^^^ g.get (Fin.castLE eight_le_sixteen j) }

def pbkdfUpdate (pctx : PbkdfCtx v) (iterations : Nat) : PbkdfCtx v :=
  { pbkdfRound^[iterations - pctx.first] pctx with first := 0 }

def pbkdfFinal (pctx : PbkdfCtx v) : List UInt8 := v.toBytes (pctx.f.map v.reverse)

def pbkdf (c : Consts v) (stack : Vector (BitVec w) 16) (pass salt : List UInt8)
    (iterations : Nat) : List UInt8 :=
  pbkdfFinal (pbkdfUpdate (pbkdfInit c stack pass salt) iterations)

def pbkdf2HmacSha256Init := pbkdfInit consts256
def pbkdf2HmacSha256Update : PbkdfCtx variant256 → Nat → PbkdfCtx variant256 := pbkdfUpdate
def pbkdf2HmacSha256Final : PbkdfCtx variant256 → List UInt8 := pbkdfFinal
def pbkdf2HmacSha256 := pbkdf consts256

def pbkdf2HmacSha512Init := pbkdfInit consts512
def pbkdf2HmacSha512Update : PbkdfCtx variant512 → Nat → PbkdfCtx variant512 := pbkdfUpdate
def pbkdf2HmacSha512Final : PbkdfCtx variant512 → List UInt8 := pbkdfFinal
def pbkdf2HmacSha512 := pbkdf consts512

/-! ## The Padding of a Digest -/

/-- The padding behind a block and a digest. -/
def digestPadding (v : Variant w) : List UInt8 := v.padding (v.blockLength + v.wordLength * 8)

/-- The eight words of that padding. -/
def paddingWords (c : Consts v) : Vector (BitVec w) 8 := #v[c.mark, 0, 0, 0, 0, 0, 0, c.bitLength]

theorem storeBE_zero (n : Nat) : storeBE n (0 : BitVec w) = .replicate n 0 := by
  apply BigEndian.eq_of_value_eq
  · simp
  · have hzeros := BigEndian.value_replicate_zero_append n []
    rw [List.append_nil] at hzeros
    rw [hzeros, storeBE, BigEndian.value_ofNat]
    simp

/-- The length of a block and a digest fits in one word. -/
theorem bitLength_lt (v : Variant w) : (v.blockLength + v.wordLength * 8) * 8 < 2 ^ w := by
  have hw := v.width_eq
  have hle := v.width_le
  obtain ⟨k, rfl⟩ : ∃ k, w = 32 + k := ⟨w - 32, by omega⟩
  have hk : k < 2 ^ k := Nat.lt_two_pow_self
  have hblock := v.two_mul_wordLength_add.2
  rw [pow_add]
  omega

/-- The digest takes eight words, the mark and the zeros six, and the length two. -/
theorem zeros_digest (v : Variant w) :
    v.zeros (v.blockLength + v.wordLength * 8) = (v.wordLength - 1) + v.wordLength * 5 := by
  have hpos := v.wordLength_pos
  obtain ⟨-, hblock⟩ := v.two_mul_wordLength_add
  refine v.zeros_eq (by omega) ⟨1, ?_⟩
  rw [Nat.add_mod_left, Nat.mod_eq_of_lt (by omega)]
  omega

/-- The words are stored as the padding. -/
theorem bytes_paddingWords (c : Consts v) :
    bytes (storeBE v.wordLength) (paddingWords c) = digestPadding v := by
  have hpos := v.wordLength_pos
  -- the first constant is the mark, the last one the length in bits
  have hmark : storeBE v.wordLength c.mark = 0x80 :: .replicate (v.wordLength - 1) 0 := by
    rw [c.mark_eq, storeBE_loadBE v.width_eq]
    simp only [List.length_cons, List.length_replicate]
    omega
  -- the length of a block and a digest has no bits in the high word
  have hlength : BigEndian.ofNat (2 * v.wordLength) (8 * (v.blockLength + v.wordLength * 8)) =
      .replicate v.wordLength 0 ++ storeBE v.wordLength c.bitLength := by
    have hlt := bitLength_lt v
    rw [Nat.two_mul, BigEndian.ofNat_add, Nat.mul_comm, pow_256_eq v.width_eq,
      Nat.div_eq_of_lt hlt, c.bitLength_eq, storeBE, BitVec.toNat_ofNat, Nat.mod_eq_of_lt hlt,
      ← storeBE_zero (w := w)]
    rfl
  have hwords : (paddingWords c).toList = [c.mark, 0, 0, 0, 0, 0, 0, c.bitLength] := rfl
  have hfive : v.wordLength * 5 =
      v.wordLength + (v.wordLength + (v.wordLength + (v.wordLength + v.wordLength))) := by omega
  rw [digestPadding, Variant.padding, zeros_digest, hlength, bytes, hwords, hfive]
  simp only [List.flatMap_cons, List.flatMap_nil, hmark, storeBE_zero, List.replicate_add,
    List.append_assoc, List.cons_append, List.append_nil]

/-! ## Digests in Place -/

/-- A digest and the padding behind it, as the words of one block. -/
def digestBlock (v : Variant w) (digest : List UInt8) : Vector (BitVec w) 16 :=
  words (loadBE w) v.wordLength 16 (digest ++ digestPadding v)

variable {digest : List UInt8}

/-- Behind the digest stand the words of the padding. -/
theorem getElem_digestBlock (hdigest : digest.length = v.wordLength * 8) (c : Consts v) {i : Nat}
    (hi : i < 8) :
    (digestBlock v digest)[8 + i] = (paddingWords c)[i] := by
  have hwords := words_bytes (length_storeBE (n := v.wordLength)) (loadBE_storeBE v.width_eq)
    (paddingWords c)
  rw [digestBlock, getElem_words, take_drop_append_right hdigest, ← bytes_paddingWords c,
    ← getElem_words (loadBE w) _ hi, hwords]

/-- What is written before the words of the padding is a padded digest. -/
theorem write_eq (c : Consts v) {g : Vector (BitVec w) 16}
    (hg : ∀ i (hi : i < 8), g[8 + i] = (paddingWords c)[i]) (s : State w) :
    write g s = digestBlock v (bytes (storeBE v.wordLength) s) := by
  have hs : (bytes (storeBE v.wordLength) s).length = v.wordLength * 8 :=
    length_bytes length_storeBE s
  apply Vector.ext
  intro i hi
  rw [write, Vector.getElem_ofFn]
  dsimp only
  split
  case isTrue hlt =>
    -- the first eight words are those of the digest
    have hword := getElem_words (loadBE w) (n := v.wordLength) (bytes (storeBE v.wordLength) s) hlt
    rw [words_bytes length_storeBE (loadBE_storeBE v.width_eq)] at hword
    rw [digestBlock, getElem_words, take_drop_append_left hs _ hlt, ← hword]
  case isFalse hge =>
    -- the other eight have been the padding before, and are not written
    obtain ⟨k, rfl⟩ : ∃ k, i = 8 + k := ⟨i - 8, by omega⟩
    rw [hg k (by omega), getElem_digestBlock hs c (by omega)]

theorem write_digestBlock (hdigest : digest.length = v.wordLength * 8) (c : Consts v)
    (s : State w) :
    write (digestBlock v digest) s = digestBlock v (bytes (storeBE v.wordLength) s) :=
  write_eq c (fun _ hi => getElem_digestBlock hdigest c hi) s

/-- A transform of the block compresses the digest with its padding. -/
theorem transform_digestBlock (s : State w) :
    transform v.params s (digestBlock v digest) =
      v.compressBlock s (digest ++ digestPadding v) := transform_eq_compress v.le_rounds _ _

/-! ## Iterations -/

section Iterations

variable {pass salt : List UInt8}

theorem length_digest_append (hdigest : digest.length = v.wordLength * 8) :
    (digest ++ digestPadding v).length = v.blockLength := by
  have hpos := v.wordLength_pos
  rw [List.length_append, hdigest, digestPadding, v.length_padding, zeros_digest,
    v.two_mul_wordLength_add.2]
  omega

/-- The code of a digest costs one compression from each prepared state. -/
theorem hmac_digest (hdigest : digest.length = v.wordLength * 8) :
    v.hashFunction.hmac pass digest =
      bytes (storeBE v.wordLength) (v.compressBlock (v.hashFunction.outerState pass)
        (bytes (storeBE v.wordLength) (v.compressBlock (v.hashFunction.innerState pass)
          (digest ++ digestPadding v)) ++ digestPadding v)) := by
  -- a digest behind a whole block always has the same padding
  have hpadding : ∀ u : List UInt8, u.length = v.wordLength * 8 →
      v.hashFunction.padding (v.hashFunction.blockLength + u.length) = digestPadding v := by
    intro u hu
    rw [hu]
    rfl
  -- and makes one more block with it
  have hblock : ∀ u : List UInt8, u.length = v.wordLength * 8 →
      (u ++ v.hashFunction.padding (v.hashFunction.blockLength + u.length)).length =
        v.hashFunction.blockLength := by
    intro u hu
    rw [hpadding u hu]
    exact length_digest_append hu
  rw [v.hashFunction.hmac_eq_compress (length_output_le v) (hblock _ hdigest)
    (fun s => hblock _ (length_output v s)), hpadding _ hdigest, hpadding _ (length_output v _)]
  rfl

theorem length_pbkdf2U (n : Nat) :
    (pbkdf2U (v.hashFunction.hmac pass) salt n).length = v.wordLength * 8 := by
  cases n <;> exact length_output v _

/-- What two transforms in place make of the block. -/
theorem write_transforms (c : Consts v) (hdigest : digest.length = v.wordLength * 8) :
    write (write (digestBlock v digest) (transform v.params (v.hashFunction.innerState pass)
        (digestBlock v digest)))
      (transform v.params (v.hashFunction.outerState pass)
        (write (digestBlock v digest) (transform v.params (v.hashFunction.innerState pass)
          (digestBlock v digest)))) =
    digestBlock v (v.hashFunction.hmac pass digest) := by
  rw [transform_digestBlock, write_digestBlock hdigest c, transform_digestBlock,
    write_digestBlock (length_bytes length_storeBE _) c, ← hmac_digest hdigest]

/-- The accumulated words are combined with those of the digest. -/
theorem bytes_xor_digestBlock (f : State w) (hdigest : digest.length = v.wordLength * 8) :
    bytes (storeBE v.wordLength) (Vector.ofFn fun j : Fin 8 => f[j] ^^^ (digestBlock v digest)[j.val]) =
      xorBytes (bytes (storeBE v.wordLength) f) digest := by
  have hwords : bytes (storeBE v.wordLength) (words (loadBE w) v.wordLength 8 digest) = digest :=
    bytes_words (fun _ h => storeBE_loadBE v.width_eq h) hdigest
  -- word by word, where the code has a loop
  have hzip : (Vector.ofFn fun j : Fin 8 => f[j] ^^^ (digestBlock v digest)[j.val]) =
      Vector.zipWith (· ^^^ ·) f (words (loadBE w) v.wordLength 8 digest) := by
    apply Vector.ext
    intro j hj
    rw [Vector.getElem_ofFn, Vector.getElem_zipWith, getElem_words, digestBlock, getElem_words,
      take_drop_append_left hdigest _ hj]
    rfl
  rw [hzip, bytes_zipWith length_storeBE (storeBE_xor v.width_eq), hwords]
  rfl

/-- The context has derived `n + 1` iterations: `g` holds the last of them with its padding, and
`f` the combination of all. -/
structure Derived (pass salt : List UInt8) (n : Nat) (pctx : PbkdfCtx v) : Prop where
  odig : pctx.odig = v.hashFunction.outerState pass
  idig : pctx.idig = v.hashFunction.innerState pass
  g : pctx.g = digestBlock v (pbkdf2U (v.hashFunction.hmac pass) salt n)
  f : bytes (storeBE v.wordLength) pctx.f = pbkdf2F (v.hashFunction.hmac pass) salt n

variable {pctx : PbkdfCtx v} {n : Nat}

/-- **One more iteration.** The words that are hashed are those of the last result, so no bytes
are stored in between. -/
theorem Derived.round (c : Consts v) (h : Derived pass salt n pctx) :
    Derived pass salt (n + 1) (pbkdfRound pctx) := by
  have hg : (pbkdfRound pctx).g =
      digestBlock v (pbkdf2U (v.hashFunction.hmac pass) salt (n + 1)) := by
    rw [pbkdfRound]
    simp only [h.g, h.idig, h.odig, write_transforms c (length_pbkdf2U n)]
    rfl
  refine ⟨h.odig, h.idig, hg, ?_⟩
  have hf : (pbkdfRound pctx).f =
      Vector.ofFn fun j : Fin 8 => pctx.f[j] ^^^ (pbkdfRound pctx).g[j.val] := rfl
  rw [hf, hg, bytes_xor_digestBlock pctx.f (length_pbkdf2U (n + 1)), h.f]
  rfl

theorem Derived.rounds (c : Consts v) (h : Derived pass salt n pctx) (k : Nat) :
    Derived pass salt (n + k) (pbkdfRound^[k] pctx) := by
  induction k with
  | zero => exact h
  | succ k ih =>
    rw [Function.iterate_succ_apply']
    exact ih.round c

theorem Derived.update (c : Consts v) (h : Derived pass salt n pctx) (iterations : Nat) :
    Derived pass salt (n + (iterations - pctx.first)) (pbkdfUpdate pctx iterations) := by
  obtain ⟨ho, hi, hg, hf⟩ := h.rounds c (iterations - pctx.first)
  exact ⟨ho, hi, hg, hf⟩

/-- Portions after the first one are counted in full. -/
theorem Derived.updates (c : Consts v) (h : Derived pass salt n pctx) (hfirst : pctx.first = 0)
    (portions : List Nat) :
    Derived pass salt (n + portions.sum) (portions.foldl pbkdfUpdate pctx) := by
  induction portions generalizing pctx n with
  | nil => exact h
  | cons k portions ih =>
    have hk := h.update c k
    rw [hfirst, Nat.sub_zero] at hk
    rw [List.foldl_cons, List.sum_cons, ← Nat.add_assoc]
    exact ih hk rfl

/-- A digest is written into the block that has only the padding. -/
theorem write_initial (c : Consts v) {d : List UInt8} (hd : d.length = v.wordLength * 8) :
    write (((Vector.replicate 16 0).set 8 c.mark).set 15 c.bitLength)
      ((v.ofBytes 8 d).map v.reverse) = digestBlock v d := by
  have htail : ∀ i (hi : i < 8),
      (((Vector.replicate 16 0).set 8 c.mark).set 15 c.bitLength)[8 + i] =
        (paddingWords c)[i] := by
    intro i hi
    interval_cases i <;> rfl
  rw [write_eq c htail, Variant.ofBytes, map_words v.reverse_loadLE hd,
    bytes_words (fun _ h => storeBE_loadBE v.width_eq h) hd]

/-- The first eight words of the block are the digest. -/
theorem bytes_digestBlock {d : List UInt8} (hd : d.length = v.wordLength * 8) :
    bytes (storeBE v.wordLength) (Vector.ofFn fun i : Fin 8 => (digestBlock v d)[i.val]) = d := by
  have hwords : (Vector.ofFn fun i : Fin 8 => (digestBlock v d)[i.val]) =
      words (loadBE w) v.wordLength 8 d := by
    apply Vector.ext
    intro i hi
    rw [Vector.getElem_ofFn, getElem_words, digestBlock, getElem_words,
      take_drop_append_left hd _ hi]
  rw [hwords, bytes_words (fun _ h => storeBE_loadBE v.width_eq h) hd]

/-- The local context begins behind the inner padded key, whatever its buffer holds. -/
theorem holds_innerState (c : Consts v) (stack : Vector (BitVec w) 16) (pass : List UInt8) :
    Ctx.Holds (v := v) ⟨v.hashFunction.innerState pass, c.count, stack⟩
      (xorPad 0x36 (v.hashFunction.keyBlock pass)) := by
  have hkey : (xorPad 0x36 (v.hashFunction.keyBlock pass)).length = v.blockLength :=
    v.hashFunction.length_pad (length_output_le v) pass 0x36
  constructor
  · rw [hkey, Nat.mod_self, List.take_zero]
    exact v.hashFunction.absorbed_innerState (length_output_le v) pass
  · have hpow : 2 ^ 64 ≤ 2 ^ (2 * w) := Nat.pow_le_pow_right (by decide) v.width_le
    have hblock := v.blockLength_lt
    rw [hkey, Nat.mod_eq_of_lt (by omega)]
    exact c.val_count

/-- The outer hash of a digest goes on from the prepared state. -/
theorem hash_outer {d : List UInt8} (hd : d.length = v.wordLength * 8) (pass : List UInt8) :
    v.hashFunction.hash (xorPad 0x5c (v.hashFunction.keyBlock pass) ++ d) =
      bytes (storeBE v.wordLength)
        (v.compressBlock (v.hashFunction.outerState pass) (d ++ digestPadding v)) := by
  have hpadding : v.hashFunction.padding (v.hashFunction.blockLength + d.length) =
      digestPadding v := by
    rw [hd]
    rfl
  rw [v.hashFunction.hash_block_append
    (v.hashFunction.length_pad (length_output_le v) pass 0x5c)
    (by rw [hpadding]; exact length_digest_append hd), hpadding]
  rfl

/-- **The first block of key material is derived from the salt.** It is the only step that
hashes through a context; what is on the stack before is overwritten. -/
theorem derived_pbkdfInit (c : Consts v) (stack : Vector (BitVec w) 16) (pass salt : List UInt8) :
    Derived pass salt 0 (pbkdfInit c stack pass salt) := by
  have hprepared : hmacPrepare v c.opad c.ipad pass =
      ⟨v.hashFunction.outerState pass, v.hashFunction.innerState pass⟩ := by
    rw [c.opad_eq, c.ipad_eq, hmacPrepare_eq]
  have hblocknr : storeLE 4 (reverse32 1) = BigEndian.ofNat 4 1 := variant256.storeLE_reverse 1
  -- the inner hash goes over the salt and the number of the block, in two pieces
  have hdigest := (((holds_innerState c stack pass).update salt).update
    (BigEndian.ofNat 4 1)).final_eq
  rw [List.append_assoc] at hdigest
  -- the outer hash of it is the first round, kept as a padded block
  have hg : (pbkdfInit c stack pass salt).g =
      digestBlock v (pbkdf2U (v.hashFunction.hmac pass) salt 0) := by
    rw [pbkdfInit]
    simp only [hprepared, hblocknr, hdigest]
    rw [write_initial c (length_hash v _), transform_digestBlock,
      write_digestBlock (length_hash v _) c, ← hash_outer (length_hash v _)]
    rfl
  refine ⟨congrArg Prepared.opadDigest hprepared, congrArg Prepared.ipadDigest hprepared, hg, ?_⟩
  -- the accumulated words start with the same digest
  have hf : (pbkdfInit c stack pass salt).f =
      Vector.ofFn fun i : Fin 8 => (pbkdfInit c stack pass salt).g[i.val] := rfl
  rw [hf, hg, bytes_digestBlock (length_pbkdf2U 0)]
  rfl

theorem Derived.final_eq (h : Derived pass salt n pctx) :
    pbkdfFinal pctx = pbkdf2F (v.hashFunction.hmac pass) salt n := by
  rw [← h.f]
  exact bytes_map v.storeLE_reverse pctx.f

end Iterations

/-! ## Derived Keys -/

/-- The key material of any number of portions. A first portion below one counts as one, since
the first iteration is part of the initialisation. -/
theorem pbkdfFinal_updates (c : Consts v) (stack : Vector (BitVec w) 16) (pass salt : List UInt8)
    (k : Nat) (portions : List Nat) :
    pbkdfFinal ((k :: portions).foldl pbkdfUpdate (pbkdfInit c stack pass salt)) =
      pbkdf2 (v.hashFunction.hmac pass) salt (max k 1 + portions.sum) := by
  have hone := (derived_pbkdfInit c stack pass salt).update c k
  have hcount : 0 + (k - 1) + portions.sum = max k 1 + portions.sum - 1 := by omega
  rw [List.foldl_cons, (hone.updates c rfl portions).final_eq, pbkdf2, ← hcount]
  rfl

/-- **Derived keys follow the standard, however the iterations are portioned.** The first
portion counts the iteration that has been made while the context was set up. -/
theorem derived_keys (pass salt : List UInt8) (k : Nat) (portions : List Nat) :
    (∀ stack, pbkdf2HmacSha256Final ((k :: portions).foldl pbkdf2HmacSha256Update
        (pbkdf2HmacSha256Init stack pass salt)) =
      pbkdf2 (variant256.hashFunction.hmac pass) salt (max k 1 + portions.sum)) ∧
    (∀ stack, pbkdf2HmacSha512Final ((k :: portions).foldl pbkdf2HmacSha512Update
        (pbkdf2HmacSha512Init stack pass salt)) =
      pbkdf2 (variant512.hashFunction.hmac pass) salt (max k 1 + portions.sum)) :=
  ⟨fun stack => pbkdfFinal_updates consts256 stack pass salt k portions,
    fun stack => pbkdfFinal_updates consts512 stack pass salt k portions⟩

end RlyNetworkSdk.Crypto.Pbkdf2
