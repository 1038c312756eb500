import RlyNetworkSdk.Crypto.Sha2
import RlyNetworkSdk.Digest.Hmac

/-!
# Keyed Hashes

`hmac.c` computes HMAC twice: over a context that is filled by updates, and as the two states
behind the padded keys, which key derivation starts from. Both follow the standard over the
hash functions of `sha2.c`.
-/

namespace RlyNetworkSdk.Crypto.Hmac

open Encoding Digest Sha2

variable {w : Nat} {v : Variant w}

/-! ## The Code -/

/-- `HMAC_SHA256_CTX` and `HMAC_SHA512_CTX` -/
structure HmacCtx (v : Variant w) where
  oKeyPad : List UInt8
  ctx : Ctx v

/-- The zeroed buffer of one block that the key, or its digest, is copied to. A key as long as a
block is not hashed. -/
def keyBuffer (v : Variant w) (key : List UInt8) : List UInt8 :=
  memcpy (.replicate v.blockLength 0) 0 (if v.blockLength < key.length then raw v key else key)

def hmacInit (v : Variant w) (key : List UInt8) : HmacCtx v :=
  let iKeyPad := keyBuffer v key
  { oKeyPad := iKeyPad.map (· ^^^ 0x5c)
    ctx := update init (iKeyPad.map (· ^^^ 0x36)) }

def hmacUpdate (hctx : HmacCtx v) (msg : List UInt8) : HmacCtx v :=
  { hctx with ctx := update hctx.ctx msg }

def hmacFinal (hctx : HmacCtx v) : List UInt8 :=
  let hash := final hctx.ctx
  final (update (update (init : Ctx v) hctx.oKeyPad) hash)

def hmac (v : Variant w) (key msg : List UInt8) : List UInt8 :=
  hmacFinal (hmacUpdate (hmacInit v key) msg)

/-- The two digests of a prepared key, `opad_digest` and `ipad_digest`. -/
structure Prepared (w : Nat) where
  opadDigest : State w
  ipadDigest : State w
  deriving DecidableEq

/-- The states behind the padded keys. The pads are the words that repeat the two bytes. A
message can then start from the states, without the key. -/
def hmacPrepare (v : Variant w) (opad ipad : BitVec w) (key : List UInt8) : Prepared w :=
  let buf := v.ofBytes 16 (keyBuffer v key)
  let oKeyPad := buf.map fun x => v.reverse x ^^^ opad
  let iKeyPad := buf.map fun x => v.reverse x ^^^ ipad
  { opadDigest := transform v.params v.initialHashValue oKeyPad
    ipadDigest := transform v.params v.initialHashValue iKeyPad }

def hmacSha256Init : List UInt8 → HmacCtx variant256 := hmacInit variant256
def hmacSha256Update : HmacCtx variant256 → List UInt8 → HmacCtx variant256 := hmacUpdate
def hmacSha256Final : HmacCtx variant256 → List UInt8 := hmacFinal
def hmacSha256 : List UInt8 → List UInt8 → List UInt8 := hmac variant256
def hmacSha256Prepare : List UInt8 → Prepared 32 := hmacPrepare variant256 0x5c5c5c5c 0x36363636

def hmacSha512Init : List UInt8 → HmacCtx variant512 := hmacInit variant512
def hmacSha512Update : HmacCtx variant512 → List UInt8 → HmacCtx variant512 := hmacUpdate
def hmacSha512Final : HmacCtx variant512 → List UInt8 := hmacFinal
def hmacSha512 : List UInt8 → List UInt8 → List UInt8 := hmac variant512
def hmacSha512Prepare : List UInt8 → Prepared 64 :=
  hmacPrepare variant512 0x5c5c5c5c5c5c5c5c 0x3636363636363636

/-! ## The Padded Keys -/

theorem length_output_le (v : Variant w) (s : State w) :
    (v.hashFunction.output s).length ≤ v.hashFunction.blockLength := by
  rw [length_output]
  change _ ≤ v.blockLength
  rw [Variant.blockLength, Nat.mul_comm]
  exact Nat.mul_le_mul_right _ (by decide)

theorem keyBuffer_eq (v : Variant w) (key : List UInt8) :
    keyBuffer v key = v.hashFunction.keyBlock key := by
  rw [keyBuffer, raw_eq, memcpy, List.take_zero, List.nil_append, Nat.zero_add,
    List.drop_replicate]
  rfl

/-- The initial context holds the padded key. -/
theorem holds_hmacInit (v : Variant w) (key : List UInt8) :
    (hmacInit v key).ctx.Holds (xorPad 0x36 (v.hashFunction.keyBlock key)) := by
  rw [hmacInit, keyBuffer_eq]
  exact holds_init.update _

/-- The digest of a keyed context. -/
theorem hmacFinal_eq {hctx : HmacCtx v} {key msg : List UInt8}
    (ho : hctx.oKeyPad = xorPad 0x5c (v.hashFunction.keyBlock key))
    (h : hctx.ctx.Holds (xorPad 0x36 (v.hashFunction.keyBlock key) ++ msg)) :
    hmacFinal hctx = v.hashFunction.hmac key msg := by
  rw [hmacFinal, h.final_eq, ho]
  exact ((holds_init.update _).update _).final_eq

/-- **A keyed context computes the standard's code of all it was updated with.** This is one
statement about both hashes: their code differs in the size of the words and in the tables. -/
theorem hmacFinal_updates (v : Variant w) (key : List UInt8) (pieces : List (List UInt8)) :
    hmacFinal (pieces.foldl hmacUpdate (hmacInit v key)) =
      v.hashFunction.hmac key pieces.flatten := by
  have hfold : ∀ hctx : HmacCtx v, (pieces.foldl hmacUpdate hctx).oKeyPad = hctx.oKeyPad ∧
      (pieces.foldl hmacUpdate hctx).ctx = pieces.foldl update hctx.ctx := by
    induction pieces with
    | nil => exact fun _ => ⟨rfl, rfl⟩
    | cons data pieces ih => exact fun hctx => ih (hmacUpdate hctx data)
  apply hmacFinal_eq
  · rw [(hfold _).1, hmacInit, keyBuffer_eq]
    rfl
  · rw [(hfold _).2]
    exact (holds_hmacInit v key).updates pieces

/-- **Keyed digests follow the standard, however the message is cut into pieces**, for keys of
any length. -/
theorem keyed_digests (key : List UInt8) (pieces : List (List UInt8)) :
    hmacSha256Final (pieces.foldl hmacSha256Update (hmacSha256Init key)) =
        variant256.hashFunction.hmac key pieces.flatten ∧
      hmacSha512Final (pieces.foldl hmacSha512Update (hmacSha512Init key)) =
        variant512.hashFunction.hmac key pieces.flatten :=
  ⟨hmacFinal_updates variant256 key pieces, hmacFinal_updates variant512 key pieces⟩

theorem hmac_eq (v : Variant w) (key msg : List UInt8) :
    hmac v key msg = v.hashFunction.hmac key msg := by
  rw [hmac]
  simpa using hmacFinal_updates v key [msg]

/-! ## Prepared Keys -/

/-- A pad that is combined with every byte is combined with every word. -/
theorem loadBE_xorPad (c : UInt8) (bs : List UInt8) :
    loadBE w (xorPad c bs) = loadBE w bs ^^^ loadBE w (.replicate bs.length c) := by
  have hzip : xorPad c bs = List.zipWith (· ^^^ ·) bs (.replicate bs.length c) := by
    apply List.ext_getElem
    · simp
    · simp [xorPad]
  rw [hzip, loadBE_zipWith_xor (by simp)]

/-- The padded key as words. -/
theorem map_reverse_xor (v : Variant w) (c : UInt8) {key : List UInt8}
    (hkey : key.length = v.blockLength) :
    (v.ofBytes 16 key).map (fun x => v.reverse x ^^^ loadBE w (.replicate v.wordLength c)) =
      words (loadBE w) v.wordLength 16 (xorPad c key) := by
  have hlen : key.length = v.wordLength * 16 := by rw [hkey, v.two_mul_wordLength_add.2]
  have hword : ∀ bs : List UInt8, bs.length = v.wordLength →
      v.reverse (loadLE w bs) ^^^ loadBE w (.replicate v.wordLength c) =
        loadBE w (xorPad c bs) := by
    intro bs hbs
    rw [v.reverse_loadLE bs hbs, loadBE_xorPad, hbs]
  have hmap : (words (loadLE w) v.wordLength 16 key).map
      (fun x => v.reverse x ^^^ loadBE w (.replicate v.wordLength c)) =
      words (fun bs => loadBE w (xorPad c bs)) v.wordLength 16 key := map_words hword hlen
  rw [Variant.ofBytes, hmap]
  apply Vector.ext
  intro i hi
  rw [getElem_words, getElem_words, xorPad, xorPad, List.map_take, List.map_drop]

/-- The pads of a prepared key, as words that repeat one byte. -/
theorem hmacPrepare_eq (v : Variant w) (key : List UInt8) :
    hmacPrepare v (loadBE w (.replicate v.wordLength 0x5c)) (loadBE w (.replicate v.wordLength 0x36))
      key = ⟨v.hashFunction.outerState key, v.hashFunction.innerState key⟩ := by
  have hkey : (v.hashFunction.keyBlock key).length = v.blockLength :=
    v.hashFunction.length_keyBlock (length_output_le v) key
  rw [hmacPrepare, keyBuffer_eq]
  simp only [map_reverse_xor v _ hkey, transform_eq_compress v.le_rounds]
  rfl

/-- **Prepared keys are the states behind the padded keys.** They are what a context has after
one block of padding, before any of the message. -/
theorem prepared_keys (key : List UInt8) :
    hmacSha256Prepare key =
        ⟨variant256.hashFunction.outerState key, variant256.hashFunction.innerState key⟩ ∧
      hmacSha512Prepare key =
        ⟨variant512.hashFunction.outerState key, variant512.hashFunction.innerState key⟩ :=
  ⟨hmacPrepare_eq variant256 key, hmacPrepare_eq variant512 key⟩

end RlyNetworkSdk.Crypto.Hmac
