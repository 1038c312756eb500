import RlyNetworkSdk.Crypto.Sha2Variants
import RlyNetworkSdk.Digest.MerkleDamgard

/-!
# The Hash Functions

The streaming interface of `sha2.c`: a context is filled by any number of updates, of any
lengths, and its final digest is the hash of their concatenation. The code runs on a
little-endian machine, where the buffer is filled as bytes and every word of it is reversed
before a transform reads it.
-/

namespace RlyNetworkSdk.Crypto.Sha2

open Encoding Digest

/-! ## The Code -/

/-- `memcpy` to an offset of a stretch of memory. What is in front of the copy and behind it
stays. -/
def memcpy (dst : List UInt8) (offset : Nat) (src : List UInt8) : List UInt8 :=
  dst.take offset ++ src ++ dst.drop (offset + src.length)

variable {w : Nat} (v : Variant w)

namespace Variant

/-- `SHA256_BLOCK_LENGTH` and `SHA512_BLOCK_LENGTH`. -/
def blockLength : Nat := 16 * v.wordLength

/-- `SHA256_SHORT_BLOCK_LENGTH` and `SHA512_SHORT_BLOCK_LENGTH`. -/
def shortBlockLength : Nat := v.blockLength - 2 * v.wordLength

/-- The buffer as `(uint8_t*)` sees it. -/
def toBytes {k : Nat} (ws : Vector (BitVec w) k) : List UInt8 := bytes (storeLE v.wordLength) ws

/-- The words of the memory behind the buffer. -/
def ofBytes (k : Nat) (mem : List UInt8) : Vector (BitVec w) k :=
  words (loadLE w) v.wordLength k mem

/-- `MEMCPY_BCOPY(((uint8_t*)buffer) + offset, src, length)` -/
def copy (buffer : Vector (BitVec w) 16) (offset : Nat) (src : List UInt8) :
    Vector (BitVec w) 16 :=
  v.ofBytes 16 (memcpy (v.toBytes buffer) offset src)

end Variant

/-- `SHA256_CTX` and `SHA512_CTX`: the state, the number of bits that were taken, and the buffer
with the unfinished block. -/
structure Ctx where
  state : State w
  bitcount : v.count.Count
  buffer : Vector (BitVec w) 16

variable {v}

def init : Ctx v := ⟨v.initialHashValue, v.count.zero, .replicate 16 0⟩

/-- How much of the buffer is used. -/
def Ctx.usedspace (ctx : Ctx v) : Nat :=
  (v.count.least ctx.bitcount >>> 3).toNat % v.blockLength

/-- The bytes counted as bits: `len << 3`. -/
def bits (len : Nat) : BitVec 64 := BitVec.ofNat 64 len <<< 3

/-- The loop over the complete blocks, which leaves the rest in the buffer. The data gets shorter
in every turn, so that its length bounds their number. -/
def updateBlocks : Nat → Ctx v → List UInt8 → Ctx v
  | 0, ctx, _ => ctx
  | turns + 1, ctx, data =>
    if v.blockLength ≤ data.length then
      let buffer := (v.copy ctx.buffer 0 (data.take v.blockLength)).map v.reverse
      updateBlocks turns
        { state := transform v.params ctx.state buffer
          bitcount := v.count.add ctx.bitcount (bits v.blockLength)
          buffer := buffer }
        (data.drop v.blockLength)
    else if 0 < data.length then
      { ctx with
        buffer := v.copy ctx.buffer 0 data
        bitcount := v.count.add ctx.bitcount (bits data.length) }
    else ctx

def update (ctx : Ctx v) (data : List UInt8) : Ctx v :=
  if data.length = 0 then ctx
  else if 0 < ctx.usedspace then
    let freespace := v.blockLength - ctx.usedspace
    if freespace ≤ data.length then
      let buffer := (v.copy ctx.buffer ctx.usedspace (data.take freespace)).map v.reverse
      let rest := data.drop freespace
      updateBlocks (rest.length + 1)
        { state := transform v.params ctx.state buffer
          bitcount := v.count.add ctx.bitcount (bits freespace)
          buffer := buffer }
        rest
    else
      { ctx with
        buffer := v.copy ctx.buffer ctx.usedspace data
        bitcount := v.count.add ctx.bitcount (bits data.length) }
  else updateBlocks (data.length + 1) ctx data

/-- The last one or two transforms. The mark follows the data, and where there is no room for
the length behind it, a block is filled with zeros first. -/
def last (ctx : Ctx v) : State w :=
  let buffer := v.copy ctx.buffer ctx.usedspace [0x80]
  let usedspace := ctx.usedspace + 1
  let s :=
    if v.shortBlockLength < usedspace then
      let buffer := (v.copy buffer usedspace (.replicate (v.blockLength - usedspace) 0)).map v.reverse
      (transform v.params ctx.state buffer, buffer, 0)
    else (ctx.state, buffer, usedspace)
  let buffer := v.copy s.2.1 s.2.2 (.replicate (v.shortBlockLength - s.2.2) 0)
  let buffer := buffer.mapFinIdx fun i x _ => if i < 14 then v.reverse x else x
  let buffer := (buffer.set 14 (v.count.high ctx.bitcount)).set 15 (v.count.low ctx.bitcount)
  transform v.params s.1 buffer

def final (ctx : Ctx v) : List UInt8 := v.toBytes ((last ctx).map v.reverse)

def raw (v : Variant w) (data : List UInt8) : List UInt8 := final (update (init (v := v)) data)

def sha256Init : Ctx variant256 := init
def sha256Update : Ctx variant256 → List UInt8 → Ctx variant256 := update
def sha256Final : Ctx variant256 → List UInt8 := final
def sha256Raw : List UInt8 → List UInt8 := raw variant256

def sha512Init : Ctx variant512 := init
def sha512Update : Ctx variant512 → List UInt8 → Ctx variant512 := update
def sha512Last : Ctx variant512 → State 64 := last
def sha512Final : Ctx variant512 → List UInt8 := final
def sha512Raw : List UInt8 → List UInt8 := raw variant512

/-! ## Memory -/

theorem length_memcpy {dst src : List UInt8} {offset : Nat} (h : offset + src.length ≤ dst.length) :
    (memcpy dst offset src).length = dst.length := by
  simp only [memcpy, List.length_append, List.length_take, List.length_drop]
  omega

theorem take_memcpy {dst : List UInt8} {offset : Nat} (h : offset ≤ dst.length) (src : List UInt8) :
    (memcpy dst offset src).take (offset + src.length) = dst.take offset ++ src := by
  have hlen : (dst.take offset ++ src).length = offset + src.length := by simp [h]
  rw [memcpy, ← hlen, List.take_left]

namespace Variant

variable (v)

theorem wordLength_pos : 0 < v.wordLength := by
  have hw := v.width_eq
  have hle := v.width_le
  omega

theorem blockLength_pos : 0 < v.blockLength := Nat.mul_pos (by decide) v.wordLength_pos

theorem length_toBytes {k : Nat} (ws : Vector (BitVec w) k) :
    (v.toBytes ws).length = v.wordLength * k := length_bytes length_storeLE ws

theorem length_toBytes_buffer (buffer : Vector (BitVec w) 16) :
    (v.toBytes buffer).length = v.blockLength := by
  rw [length_toBytes, blockLength, Nat.mul_comm]

theorem toBytes_ofBytes {k : Nat} {mem : List UInt8} (h : mem.length = v.wordLength * k) :
    v.toBytes (v.ofBytes k mem) = mem :=
  bytes_words (fun _ hbs => storeLE_loadLE v.width_eq hbs) h

/-- What a copy does to the bytes of the buffer. -/
theorem toBytes_copy (buffer : Vector (BitVec w) 16) {offset : Nat} {src : List UInt8}
    (h : offset + src.length ≤ v.blockLength) :
    v.toBytes (v.copy buffer offset src) = memcpy (v.toBytes buffer) offset src := by
  apply v.toBytes_ofBytes
  rw [length_memcpy (by rwa [v.length_toBytes_buffer]), v.length_toBytes]

/-- A copy that fills the buffer leaves only what was in front of it. -/
theorem copy_full (buffer : Vector (BitVec w) 16) {offset : Nat} {src : List UInt8}
    (h : offset + src.length = v.blockLength) :
    v.copy buffer offset src = v.ofBytes 16 ((v.toBytes buffer).take offset ++ src) := by
  have hdrop : (v.toBytes buffer).drop (offset + src.length) = [] := by
    rw [List.drop_eq_nil_iff, v.length_toBytes_buffer, h]
  rw [copy, memcpy, hdrop, List.append_nil]

/-- The compression of a block of bytes. -/
def compressBlock (s : State w) (block : List UInt8) : State w :=
  compress v.params s (words (loadBE w) v.wordLength 16 block)

/-- The transform reads the block in the order of its bytes. The words are reversed first, as
the source does on a little-endian machine. -/
theorem transform_reverse (s : State w) {mem : List UInt8} (h : mem.length = v.blockLength) :
    transform v.params s ((v.ofBytes 16 mem).map v.reverse) = v.compressBlock s mem := by
  have hlen : mem.length = v.wordLength * 16 := by rw [h, blockLength, Nat.mul_comm]
  rw [ofBytes, map_words v.reverse_loadLE hlen, transform_eq_compress v.le_rounds, compressBlock]

/-- The digest has its words in the order of their bytes. -/
theorem storeLE_reverse (x : BitVec w) :
    storeLE v.wordLength (v.reverse x) = storeBE v.wordLength x := by
  have hx : v.reverse x = loadBE w (storeLE v.wordLength x) := by
    rw [← v.reverse_loadLE _ (length_storeLE x), loadLE_storeLE v.width_eq]
  rw [hx, storeLE, storeBE_loadBE v.width_eq (length_storeLE x), storeLE, List.reverse_reverse]

/-! ## Padding -/

/-- The number of zero bytes between the mark and the message length. -/
def zeros (n : Nat) : Nat :=
  (v.blockLength - (n + 1 + 2 * v.wordLength) % v.blockLength) % v.blockLength

/-- One mark, zeros up to the end of a block, and there the message length in bits. -/
def padding (n : Nat) : List UInt8 :=
  0x80 :: (List.replicate (v.zeros n) 0 ++ BigEndian.ofNat (2 * v.wordLength) (8 * n))

theorem length_padding (n : Nat) :
    (v.padding n).length = v.zeros n + 1 + 2 * v.wordLength := by
  simp only [padding, List.length_cons, List.length_append, List.length_replicate,
    BigEndian.length_ofNat]
  omega

/-- The zeros are what is missing to the end of a block. -/
theorem zeros_eq {n k : Nat} (hk : k < v.blockLength)
    (hdvd : v.blockLength ∣ n % v.blockLength + 1 + 2 * v.wordLength + k) : v.zeros n = k := by
  have hpos := v.blockLength_pos
  have hmod : (n + 1 + 2 * v.wordLength) % v.blockLength =
      (n % v.blockLength + 1 + 2 * v.wordLength) % v.blockLength := by
    rw [Nat.add_assoc, Nat.add_assoc, Nat.mod_add_mod]
  obtain ⟨q, hq⟩ := hdvd
  have hy := Nat.mod_lt (n % v.blockLength + 1 + 2 * v.wordLength) hpos
  have hsplit := Nat.div_add_mod (n % v.blockLength + 1 + 2 * v.wordLength) v.blockLength
  -- the remainder and the zeros add up to a multiple of a block, which is none or one
  have hsum : v.blockLength ∣
      (n % v.blockLength + 1 + 2 * v.wordLength) % v.blockLength + k := by
    refine (Nat.dvd_add_right (Nat.dvd_mul_right v.blockLength
      ((n % v.blockLength + 1 + 2 * v.wordLength) / v.blockLength))).mp ⟨q, ?_⟩
    omega
  rw [zeros, hmod]
  rcases Nat.eq_zero_or_pos ((n % v.blockLength + 1 + 2 * v.wordLength) % v.blockLength + k) with
    hzero | hpos'
  · have hk0 : k = 0 := by omega
    have hy0 : (n % v.blockLength + 1 + 2 * v.wordLength) % v.blockLength = 0 := by omega
    rw [hy0, hk0, Nat.sub_zero, Nat.mod_self]
  · have hle := Nat.le_of_dvd hpos' hsum
    have hone : (n % v.blockLength + 1 + 2 * v.wordLength) % v.blockLength + k = v.blockLength := by
      obtain ⟨m, hm⟩ := hsum
      have hm1 : m = 1 := by
        have hlt : v.blockLength * m < v.blockLength * 2 := by omega
        have := Nat.lt_of_mul_lt_mul_left hlt
        have : m ≠ 0 := by rintro rfl; omega
        omega
      rw [hm, hm1, Nat.mul_one]
    have hsub : v.blockLength - (n % v.blockLength + 1 + 2 * v.wordLength) % v.blockLength = k := by
      omega
    rw [hsub, Nat.mod_eq_of_lt hk]

theorem dvd_length_padding (n : Nat) : v.blockLength ∣ n + (v.padding n).length := by
  have hpos := v.blockLength_pos
  have hsplit := Nat.div_add_mod (n + 1 + 2 * v.wordLength) v.blockLength
  have hy := Nat.mod_lt (n + 1 + 2 * v.wordLength) hpos
  rw [length_padding, zeros]
  rcases Nat.eq_zero_or_pos ((n + 1 + 2 * v.wordLength) % v.blockLength) with hzero | hmod
  · rw [hzero, Nat.sub_zero, Nat.mod_self]
    exact ⟨(n + 1 + 2 * v.wordLength) / v.blockLength, by omega⟩
  · have hlt : v.blockLength - (n + 1 + 2 * v.wordLength) % v.blockLength < v.blockLength := by omega
    rw [Nat.mod_eq_of_lt hlt]
    refine ⟨(n + 1 + 2 * v.wordLength) / v.blockLength + 1, ?_⟩
    rw [Nat.mul_succ]
    omega

/-- The standard's hash function, with the padding of the standard and the compression of whole
blocks. -/
def hashFunction : MerkleDamgard (State w) UInt8 where
  blockLength := v.blockLength
  blockLength_pos := v.blockLength_pos
  compress := v.compressBlock
  initial := v.initialHashValue
  padding := v.padding
  dvd_length_padding := v.dvd_length_padding
  output := bytes (storeBE v.wordLength)

end Variant

/-! ## Contexts -/

/-- The context has been updated with the message `m`: the buffer begins with its unfinished
block, and the count is the message's, up to wrapping. -/
structure Ctx.Holds (ctx : Ctx v) (m : List UInt8) : Prop where
  absorbed : v.hashFunction.Absorbed m ctx.state
    ((v.toBytes ctx.buffer).take (m.length % v.blockLength))
  bitcount : v.count.val ctx.bitcount = 8 * m.length % 2 ^ (2 * w)

theorem holds_init : (init : Ctx v).Holds [] := by
  constructor
  · rw [List.length_nil, Nat.zero_mod, List.take_zero]
    exact v.hashFunction.absorbed_nil
  · simp [init, v.count.val_zero]

theorem toNat_bits {len : Nat} (h : len < 2 ^ 61) : (bits len).toNat = 8 * len := by
  rw [bits, BitVec.toNat_shiftLeft, BitVec.toNat_ofNat, Nat.shiftLeft_eq,
    Nat.mod_eq_of_lt (by omega), Nat.mod_eq_of_lt (by omega), Nat.mul_comm]

theorem Variant.blockLength_lt (v : Variant w) : v.blockLength < 2 ^ 61 :=
  Nat.lt_of_le_of_lt (Nat.le_of_dvd (by decide) v.blockLength_dvd) (by decide)

variable {ctx : Ctx v} {m : List UInt8}

/-- The count goes on with every piece. -/
theorem Ctx.Holds.val_add (h : ctx.Holds m) {data : List UInt8} (hdata : data.length < 2 ^ 61) :
    v.count.val (v.count.add ctx.bitcount (bits data.length)) =
      8 * (m ++ data).length % 2 ^ (2 * w) := by
  rw [v.count.val_add, h.bitcount, toNat_bits hdata, Nat.mod_add_mod, List.length_append,
    Nat.mul_add]

/-- The used space is the length of the unfinished block. -/
theorem Ctx.Holds.usedspace_eq (h : ctx.Holds m) : ctx.usedspace = m.length % v.blockLength := by
  have hdvd : 2 ^ 64 ∣ 2 ^ (2 * w) := Nat.pow_dvd_pow 2 v.width_le
  have hscale : 2 ^ 64 = 8 * 2 ^ 61 := rfl
  rw [Ctx.usedspace, BitVec.toNat_ushiftRight, v.count.toNat_least, h.bitcount,
    Nat.mod_mod_of_dvd _ hdvd, hscale, Nat.mul_mod_mul_left, Nat.shiftRight_eq_div_pow,
    Nat.mul_div_cancel_left _ (by decide)]
  exact Nat.mod_mod_of_dvd _ (Nat.dvd_trans v.blockLength_dvd (by decide))

theorem Ctx.Holds.length_pending (h : ctx.Holds m) :
    ((v.toBytes ctx.buffer).take (m.length % v.blockLength)).length = m.length % v.blockLength :=
  h.absorbed.length_pending

/-- Data that does not fill the buffer is kept in it. -/
theorem Ctx.Holds.keep (h : ctx.Holds m) {offset : Nat}
    (hoffset : m.length % v.blockLength = offset) {data : List UInt8}
    (hdata : offset + data.length < v.blockLength) :
    Ctx.Holds
      { ctx with
        buffer := v.copy ctx.buffer offset data
        bitcount := v.count.add ctx.bitcount (bits data.length) }
      (m ++ data) := by
  subst hoffset
  have hblock := v.blockLength_lt
  -- the block is not completed, so the position only moves
  have hmod : (m ++ data).length % v.blockLength = m.length % v.blockLength + data.length := by
    rw [List.length_append, ← Nat.mod_add_mod, Nat.mod_eq_of_lt hdata]
  have hlt := Nat.mod_lt m.length v.blockLength_pos
  constructor
  · -- the buffer holds the pending bytes, with the data behind them
    rw [hmod, v.toBytes_copy _ (Nat.le_of_lt hdata),
      take_memcpy (by rw [v.length_toBytes_buffer]; omega)]
    exact h.absorbed.append (by rw [h.length_pending]; exact hdata)
  · exact h.val_add (by omega)

/-- Data that fills the buffer goes through a transform. -/
theorem Ctx.Holds.complete (h : ctx.Holds m) {offset : Nat}
    (hoffset : m.length % v.blockLength = offset) {data : List UInt8} {n : Nat}
    (hn : data.length = n) (hdata : offset + n = v.blockLength) {buffer : Vector (BitVec w) 16}
    (hbuffer : buffer = (v.copy ctx.buffer offset data).map v.reverse) :
    Ctx.Holds
      { state := transform v.params ctx.state buffer
        bitcount := v.count.add ctx.bitcount (bits n)
        buffer := buffer }
      (m ++ data) := by
  subst hoffset hn
  have hpos := v.blockLength_pos
  have hblock := v.blockLength_lt
  have hmod : (m ++ data).length % v.blockLength = 0 := by
    rw [List.length_append, ← Nat.mod_add_mod, hdata, Nat.mod_self]
  -- the pending bytes and the data are one block
  have hlen : ((v.toBytes ctx.buffer).take (m.length % v.blockLength) ++ data).length =
      v.blockLength := by
    rw [List.length_append, h.length_pending, hdata]
  -- the words are reversed in the buffer, and the transform takes them as read
  have hstate : transform v.params ctx.state buffer = v.compressBlock ctx.state
      ((v.toBytes ctx.buffer).take (m.length % v.blockLength) ++ data) := by
    rw [hbuffer, v.copy_full _ hdata, v.transform_reverse _ hlen]
  constructor
  · rw [hmod, List.take_zero, hstate]
    exact h.absorbed.complete (by rw [h.length_pending]; exact hdata)
  · exact h.val_add (by omega)

/-- The loop over the complete blocks takes all of the data. -/
theorem Ctx.Holds.updateBlocks (h : ctx.Holds m) (hm : m.length % v.blockLength = 0)
    {data : List UInt8} {turns : Nat} (hturns : data.length < turns) :
    (updateBlocks turns ctx data).Holds (m ++ data) := by
  -- a turn takes a block of the data, and there are more turns than bytes
  induction turns generalizing ctx m data with
  | zero => exact absurd hturns (Nat.not_lt_zero _)
  | succ turns ih =>
    have hpos := v.blockLength_pos
    rw [Sha2.updateBlocks]
    split
    case isTrue hle =>
      have htake : (data.take v.blockLength).length = v.blockLength := by simp [hle]
      have hnext := h.complete hm htake (Nat.zero_add _) rfl
      have hmod : (m ++ data.take v.blockLength).length % v.blockLength = 0 := by
        rw [List.length_append, htake, Nat.add_mod_right, hm]
      have hrest : (data.drop v.blockLength).length < turns := by
        rw [List.length_drop]
        omega
      have hloop := ih hnext hmod hrest
      rwa [List.append_assoc, List.take_append_drop] at hloop
    case isFalse hlt =>
      split
      case isTrue => exact h.keep hm (by omega)
      case isFalse hempty =>
        -- nothing is left
        have hnil : data = [] := List.eq_nil_of_length_eq_zero (by omega)
        rwa [hnil, List.append_nil]

/-- **An update appends its data to the message.** A block that was begun is finished first,
whole blocks are taken from the data, and the rest is kept. -/
theorem Ctx.Holds.update (h : ctx.Holds m) (data : List UInt8) :
    (update ctx data).Holds (m ++ data) := by
  have hlt := Nat.mod_lt m.length v.blockLength_pos
  have hused := h.usedspace_eq
  rw [Sha2.update]
  split
  case isTrue hempty => rwa [List.eq_nil_of_length_eq_zero hempty, List.append_nil]
  split
  case isTrue hpart =>
    simp only
    split
    case isTrue hfill =>
      -- the data fills what is left of the block; the rest starts at a block
      have htake : (data.take (v.blockLength - ctx.usedspace)).length =
          v.blockLength - ctx.usedspace := by simp [hfill]
      have hsum : ctx.usedspace + (v.blockLength - ctx.usedspace) = v.blockLength := by omega
      have hnext := h.complete hused.symm htake hsum rfl
      have hmod : (m ++ data.take (v.blockLength - ctx.usedspace)).length % v.blockLength = 0 := by
        rw [List.length_append, htake, ← Nat.mod_add_mod, ← hused, hsum, Nat.mod_self]
      have hloop := hnext.updateBlocks hmod (Nat.lt_succ_self
        (data.drop (v.blockLength - ctx.usedspace)).length)
      rwa [List.append_assoc, List.take_append_drop] at hloop
    case isFalse hshort => exact h.keep hused.symm (by omega)
  case isFalse hstart => exact h.updateBlocks (by omega) (Nat.lt_succ_self _)

/-! ## The Last Blocks -/

theorem Variant.two_mul_wordLength_add (v : Variant w) :
    v.shortBlockLength = v.wordLength * 14 ∧ v.blockLength = v.wordLength * 16 := by
  simp only [Variant.shortBlockLength, Variant.blockLength]
  omega

/-- The two last words are the message length. -/
theorem Ctx.Holds.length_field (h : ctx.Holds m) :
    storeBE v.wordLength (v.count.high ctx.bitcount) ++
      storeBE v.wordLength (v.count.low ctx.bitcount) =
    BigEndian.ofNat (2 * v.wordLength) (8 * m.length) := by
  have hpow : 256 ^ v.wordLength = 2 ^ w := pow_256_eq v.width_eq
  -- the count has two words, and each of them is half of the field
  have hsq : 2 ^ (2 * w) = 2 ^ w * 2 ^ w := by rw [Nat.two_mul, pow_add]
  rw [Nat.two_mul, BigEndian.ofNat_add]
  congr 1
  · apply BigEndian.eq_of_value_eq
    · simp
    · rw [storeBE, BigEndian.value_ofNat, BigEndian.value_ofNat, v.count.toNat_high, h.bitcount,
        hpow, hsq, Nat.mod_mul_right_div_self, Nat.mod_mod]
  · apply BigEndian.eq_of_value_eq
    · simp
    · rw [storeBE, BigEndian.value_ofNat, BigEndian.value_ofNat, v.count.toNat_low, h.bitcount,
        hpow, hsq, Nat.mod_mul_right_mod, Nat.mod_mod]

/-- The last transform reads fourteen words of the buffer and the two words of the length. -/
theorem Variant.transform_last (v : Variant w) (s : State w) {buffer : Vector (BitVec w) 16}
    {front : List UInt8} (hfront : (v.toBytes buffer).take v.shortBlockLength = front)
    (hi lo : BitVec w) :
    transform v.params s
      (((buffer.mapFinIdx fun i x _ => if i < 14 then v.reverse x else x).set 14 hi).set 15 lo) =
    v.compressBlock s (front ++ (storeBE v.wordLength hi ++ storeBE v.wordLength lo)) := by
  obtain ⟨hshort, hblock⟩ := v.two_mul_wordLength_add
  have hlen : front.length = v.wordLength * 14 := by
    rw [← hfront, List.length_take, v.length_toBytes_buffer, hblock, hshort]
    omega
  rw [transform_eq_compress v.le_rounds, Variant.compressBlock]
  congr 1
  apply Vector.ext
  intro i hi16
  have hword : buffer[i] = loadLE w (((v.toBytes buffer).drop (v.wordLength * i)).take
      v.wordLength) := by
    have h := words_bytes (k := 16) (length_storeLE (n := v.wordLength))
      (loadLE_storeLE v.width_eq) buffer
    conv_lhs => rw [← h, getElem_words]
    rfl
  rw [getElem_words]
  rcases Nat.lt_or_ge i 14 with hlt | hge
  case inl =>
    -- a word of the front, read from the buffer in the other byte order
    have hle : v.wordLength * i + v.wordLength ≤ v.wordLength * 14 := by
      rw [← Nat.mul_succ]
      exact Nat.mul_le_mul_left _ hlt
    have hslice : ((v.toBytes buffer).drop (v.wordLength * i)).take v.wordLength =
        (front.drop (v.wordLength * i)).take v.wordLength := by
      rw [← hfront, hshort, List.drop_take, List.take_take, Nat.min_eq_left (by omega)]
    have hleft := take_drop_append_left hlen
      (storeBE v.wordLength hi ++ storeBE v.wordLength lo) hlt
    have hreverse : v.reverse buffer[i] = loadBE w
        ((front.drop (v.wordLength * i)).take v.wordLength) := by
      rw [hword, hslice, v.reverse_loadLE _ (by rw [List.length_take, List.length_drop]; omega)]
    rw [Vector.getElem_set_ne (by omega) (by omega) (by omega),
      Vector.getElem_set_ne (by omega) (by omega) (by omega), Vector.getElem_mapFinIdx, if_pos hlt,
      hreverse, hleft]
  case inr =>
    obtain rfl | rfl : i = 14 ∨ i = 15 := by omega
    · rw [Vector.getElem_set_ne (by omega) (by omega) (by omega), Vector.getElem_set_self,
        ← hlen, List.drop_left, List.take_left' (length_storeBE hi), loadBE_storeBE v.width_eq]
    · have hdrop : (front ++ (storeBE v.wordLength hi ++ storeBE v.wordLength lo)).drop
          (v.wordLength * 15) = storeBE v.wordLength lo := by
        have hskip : v.wordLength * 15 = (front ++ storeBE v.wordLength hi).length := by
          rw [List.length_append, hlen, length_storeBE]
          omega
        rw [← List.append_assoc, hskip, List.drop_left]
      rw [Vector.getElem_set_self, hdrop, List.take_of_length_le (by rw [length_storeBE]),
        loadBE_storeBE v.width_eq]

/-- The bytes up to the end of what a copy writes. -/
theorem Variant.take_copy (v : Variant w) (buffer : Vector (BitVec w) 16) {offset : Nat}
    {src : List UInt8} (h : offset + src.length ≤ v.blockLength) :
    (v.toBytes (v.copy buffer offset src)).take (offset + src.length) =
      (v.toBytes buffer).take offset ++ src := by
  rw [v.toBytes_copy buffer h, take_memcpy (by rw [v.length_toBytes_buffer]; omega)]

/-- The mark of the padding. -/
abbrev mark : List UInt8 := [0x80]

/-- The context's unfinished block, with the mark behind it. -/
theorem Ctx.Holds.take_mark (_ : ctx.Holds m) :
    (v.toBytes (v.copy ctx.buffer (m.length % v.blockLength) mark)).take
        (m.length % v.blockLength + 1) =
      (v.toBytes ctx.buffer).take (m.length % v.blockLength) ++ mark := by
  have hone : mark.length = 1 := rfl
  have hlt : m.length % v.blockLength + mark.length ≤ v.blockLength := by
    rw [hone]
    exact Nat.mod_lt m.length v.blockLength_pos
  have htake := v.take_copy ctx.buffer hlt
  rwa [hone] at htake

/-- The context's unfinished block, the mark behind it, and zeros up to `n`. -/
theorem Ctx.Holds.take_zeros (h : ctx.Holds m) {n : Nat} (hle : m.length % v.blockLength + 1 ≤ n)
    (hn : n ≤ v.blockLength) :
    (v.toBytes (v.copy (v.copy ctx.buffer (m.length % v.blockLength) mark)
        (m.length % v.blockLength + 1)
        (.replicate (n - (m.length % v.blockLength + 1)) 0))).take n =
      (v.toBytes ctx.buffer).take (m.length % v.blockLength) ++ mark ++
        .replicate (n - (m.length % v.blockLength + 1)) 0 := by
  have hlen : m.length % v.blockLength + 1 +
      (List.replicate (n - (m.length % v.blockLength + 1)) (0 : UInt8)).length = n := by
    rw [List.length_replicate, Nat.add_sub_cancel' hle]
  have htake := v.take_copy (v.copy ctx.buffer (m.length % v.blockLength) mark)
    (Nat.le_trans (Nat.le_of_eq hlen) hn)
  rwa [hlen, h.take_mark] at htake

/-- The message length fits in the block: one transform is left. -/
theorem Ctx.Holds.last_of_le (h : ctx.Holds m)
    (hle : m.length % v.blockLength + 1 ≤ v.shortBlockLength) :
    v.hashFunction.hash m = v.hashFunction.output (last ctx) := by
  obtain ⟨hshort, hblock⟩ := v.two_mul_wordLength_add
  have hzeros : v.zeros m.length = v.shortBlockLength - (m.length % v.blockLength + 1) :=
    v.zeros_eq (by omega) ⟨1, by omega⟩
  -- the mark and the zeros stand behind the pending bytes
  have hfront := h.take_zeros hle (by omega)
  have hpending := h.length_pending
  rw [last, h.usedspace_eq]
  simp only [if_neg (Nat.not_lt.mpr hle)]
  rw [v.transform_last ctx.state hfront, h.length_field]
  -- with the length they make the last block
  refine h.absorbed.hash_eq_of_block ?_ ?_
  · simp only [List.length_append, List.length_replicate, BigEndian.length_ofNat, hpending,
      List.length_singleton]
    change _ = v.blockLength
    omega
  · change _ ++ v.padding m.length = _
    rw [Variant.padding, hzeros]
    simp

/-- The message length does not fit: the mark and the length are in different blocks. -/
theorem Ctx.Holds.last_of_lt (h : ctx.Holds m)
    (hlt : v.shortBlockLength < m.length % v.blockLength + 1) :
    v.hashFunction.hash m = v.hashFunction.output (last ctx) := by
  obtain ⟨hshort, hblock⟩ := v.two_mul_wordLength_add
  have hmod := Nat.mod_lt m.length v.blockLength_pos
  have hpos := v.wordLength_pos
  have hzeros : v.zeros m.length =
      v.blockLength - (m.length % v.blockLength + 1) + v.shortBlockLength :=
    v.zeros_eq (by omega) ⟨2, by omega⟩
  have hpending := h.length_pending
  -- the first block ends with zeros, and the second one begins with them
  have hfirst : v.copy (v.copy ctx.buffer (m.length % v.blockLength) mark)
      (m.length % v.blockLength + 1)
      (.replicate (v.blockLength - (m.length % v.blockLength + 1)) 0) =
      v.ofBytes 16 ((v.toBytes ctx.buffer).take (m.length % v.blockLength) ++ mark ++
        .replicate (v.blockLength - (m.length % v.blockLength + 1)) 0) := by
    rw [v.copy_full _ (by rw [List.length_replicate]; omega), h.take_mark]
  have hlen : ((v.toBytes ctx.buffer).take (m.length % v.blockLength) ++ mark ++
      List.replicate (v.blockLength - (m.length % v.blockLength + 1)) 0).length =
      v.blockLength := by
    simp only [List.length_append, List.length_replicate, hpending, List.length_singleton]
    omega
  have hsecond : ∀ buffer : Vector (BitVec w) 16,
      (v.toBytes (v.copy buffer 0 (.replicate (v.shortBlockLength - 0) 0))).take
        v.shortBlockLength = .replicate v.shortBlockLength 0 := by
    intro buffer
    have hle : 0 + (List.replicate v.shortBlockLength (0 : UInt8)).length ≤ v.blockLength := by
      rw [List.length_replicate]
      omega
    have htake := v.take_copy buffer hle
    rwa [List.length_replicate, Nat.zero_add, List.take_zero, List.nil_append] at htake
  rw [last, h.usedspace_eq]
  simp only [if_pos hlt]
  rw [v.transform_last _ (hsecond _), h.length_field, hfirst, v.transform_reverse _ hlen]
  refine h.absorbed.hash_eq_of_blocks hlen ?_ ?_
  · simp only [List.length_append, List.length_replicate, BigEndian.length_ofNat]
    change _ = v.blockLength
    omega
  · change _ ++ v.padding m.length = _
    rw [Variant.padding, hzeros, List.replicate_add]
    simp only [List.append_assoc, List.cons_append, List.nil_append]

/-- **The digest of a context is the hash of all it was updated with.** The two cases of the
source are the padding that ends in the same block, and the one that takes another. -/
theorem Ctx.Holds.final_eq (h : ctx.Holds m) : final ctx = v.hashFunction.hash m := by
  have hlast : v.hashFunction.hash m = v.hashFunction.output (last ctx) := by
    rcases Nat.lt_or_ge v.shortBlockLength (m.length % v.blockLength + 1) with hlt | hle
    · exact h.last_of_lt hlt
    · exact h.last_of_le hle
  rw [hlast, final]
  exact bytes_map v.storeLE_reverse (last ctx)

/-- The context after any number of updates. -/
theorem Ctx.Holds.updates (h : ctx.Holds m) (pieces : List (List UInt8)) :
    (pieces.foldl Sha2.update ctx).Holds (m ++ pieces.flatten) := by
  induction pieces generalizing ctx m with
  | nil => simpa using h
  | cons data pieces ih =>
    rw [List.foldl_cons, List.flatten_cons, ← List.append_assoc]
    exact ih (h.update data)

theorem raw_eq (v : Variant w) (data : List UInt8) : raw v data = v.hashFunction.hash data :=
  (holds_init.update data).final_eq

/-- **However a message is cut into pieces, its digest is the same.** Empty pieces are among
them, for which the source returns early. -/
theorem final_updates (pieces : List (List UInt8)) :
    final (pieces.foldl update (init (v := v))) = v.hashFunction.hash pieces.flatten :=
  (holds_init.updates pieces).final_eq

/-- A digest has eight words. -/
theorem length_output (v : Variant w) (s : State w) :
    (v.hashFunction.output s).length = v.wordLength * 8 := length_bytes length_storeBE s

theorem length_hash (v : Variant w) (m : List UInt8) :
    (v.hashFunction.hash m).length = v.wordLength * 8 := length_output v _

/-! ## SHA-256 and SHA-512 -/

/-- FIPS 180-4. -/
def sha256 (data : List UInt8) : List UInt8 := variant256.hashFunction.hash data

def sha512 (data : List UInt8) : List UInt8 := variant512.hashFunction.hash data

/-- **The streaming hash functions compute the standard's digests.** The context may be updated
any number of times, with pieces of any length: the digest is that of the whole message. -/
theorem streaming_digests (pieces : List (List UInt8)) :
    sha256Final (pieces.foldl sha256Update sha256Init) = sha256 pieces.flatten ∧
      sha512Final (pieces.foldl sha512Update sha512Init) = sha512 pieces.flatten :=
  ⟨final_updates pieces, final_updates pieces⟩

theorem sha256Raw_eq (data : List UInt8) : sha256Raw data = sha256 data := raw_eq variant256 data

theorem sha512Raw_eq (data : List UInt8) : sha512Raw data = sha512 data := raw_eq variant512 data

end RlyNetworkSdk.Crypto.Sha2
