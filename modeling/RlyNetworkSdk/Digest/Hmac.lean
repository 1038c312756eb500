import RlyNetworkSdk.Digest.MerkleDamgard
import RlyNetworkSdk.Encoding.BigEndian

/-!
# Keyed Hashing and Key Derivation

HMAC and PBKDF2 over any iterated hash function. Both padded keys fill exactly one block, so
that the states behind them can be computed once and used for every message under the key
(`absorbed_innerState`). A message that leaves room for its padding then
costs one compression for each of the two hashes.
-/

namespace RlyNetworkSdk.Digest

open Encoding

/-- Every byte is combined with the same one. -/
def xorPad (c : UInt8) (bs : List UInt8) : List UInt8 := bs.map (· ^^^ c)

/-- Two strings of bytes are combined place by place. -/
def xorBytes (as bs : List UInt8) : List UInt8 := List.zipWith (· ^^^ ·) as bs

@[simp] theorem length_xorPad (c : UInt8) (bs : List UInt8) :
    (xorPad c bs).length = bs.length := List.length_map _

namespace MerkleDamgard

variable {σ : Type*} (H : MerkleDamgard σ UInt8)

/-! ## HMAC -/

/-- The key as one block: a longer key is hashed, and a shorter one is filled up with zeros. A
key as long as a block is taken as it is. -/
def keyBlock (key : List UInt8) : List UInt8 :=
  let k := if H.blockLength < key.length then H.hash key else key
  k ++ List.replicate (H.blockLength - k.length) 0

/-- The construction of RFC 2104: the message is hashed behind the inner padded key, and the
digest behind the outer one. -/
def hmac (key msg : List UInt8) : List UInt8 :=
  H.hash (xorPad 0x5c (H.keyBlock key) ++ H.hash (xorPad 0x36 (H.keyBlock key) ++ msg))

/-- The state behind the inner padded key, which is one block. -/
def innerState (key : List UInt8) : σ := H.compress H.initial (xorPad 0x36 (H.keyBlock key))

/-- The state behind the outer padded key, which is one block. -/
def outerState (key : List UInt8) : σ := H.compress H.initial (xorPad 0x5c (H.keyBlock key))

section Keys

variable (hout : ∀ s, (H.output s).length ≤ H.blockLength) (key : List UInt8)
include hout

theorem length_keyBlock : (H.keyBlock key).length = H.blockLength := by
  have hk : (if H.blockLength < key.length then H.hash key else key).length ≤ H.blockLength := by
    split
    case isTrue => exact hout _
    case isFalse h => exact Nat.not_lt.mp h
  rw [keyBlock, List.length_append, List.length_replicate, Nat.add_sub_cancel' hk]

theorem length_pad (c : UInt8) : (xorPad c (H.keyBlock key)).length = H.blockLength := by
  rw [length_xorPad, H.length_keyBlock hout]

theorem absorbed_innerState :
    H.Absorbed (xorPad 0x36 (H.keyBlock key)) (H.innerState key) [] := by
  have hblock := H.absorbed_nil.block (H.length_pad hout key 0x36)
  rwa [List.nil_append] at hblock

end Keys

/-- The hash of a block and a message that shares the next block with its padding. -/
theorem hash_block_append {b m : List UInt8} (hb : b.length = H.blockLength)
    (hm : (m ++ H.padding (H.blockLength + m.length)).length = H.blockLength) :
    H.hash (b ++ m) =
      H.output (H.compress (H.compress H.initial b) (m ++ H.padding (H.blockLength + m.length))) := by
  rw [hash, List.length_append, hb, List.append_assoc, H.absorb_block_append hb, H.absorb_block hm]

/-- **For short messages both hashes go on from the states behind the padded keys.** Where the
message and the digest fit one block with their padding, two compressions are left to do. -/
theorem hmac_eq_compress (hout : ∀ s, (H.output s).length ≤ H.blockLength) {key msg : List UInt8}
    (hmsg : (msg ++ H.padding (H.blockLength + msg.length)).length = H.blockLength)
    (hdigest : ∀ s, (H.output s ++ H.padding (H.blockLength + (H.output s).length)).length =
      H.blockLength) :
    H.hmac key msg = H.output (H.compress (H.outerState key)
      (H.output (H.compress (H.innerState key) (msg ++ H.padding (H.blockLength + msg.length))) ++
        H.padding (H.blockLength + (H.output (H.compress (H.innerState key)
          (msg ++ H.padding (H.blockLength + msg.length)))).length))) := by
  rw [hmac, H.hash_block_append (H.length_pad hout key 0x36) hmsg,
    H.hash_block_append (H.length_pad hout key 0x5c) (hdigest _)]
  rfl

end MerkleDamgard

/-! ## PBKDF2 -/

section Pbkdf2

variable (prf : List UInt8 → List UInt8) (salt : List UInt8)

/-- `U` with index `n + 1`, of the block with index one: the function applied to the one before,
and to the salt with the index of the block at first. -/
def pbkdf2U : Nat → List UInt8
  | 0 => prf (salt ++ BigEndian.ofNat 4 1)
  | n + 1 => prf (pbkdf2U n)

/-- The combination of the first `n + 1` of them, place by place. -/
def pbkdf2F : Nat → List UInt8
  | 0 => pbkdf2U prf salt 0
  | n + 1 => xorBytes (pbkdf2F n) (pbkdf2U prf salt (n + 1))

/-- RFC 8018, for a key of one block. -/
def pbkdf2 (iterations : Nat) : List UInt8 := pbkdf2F prf salt (iterations - 1)

end Pbkdf2

end RlyNetworkSdk.Digest
