import RlyNetworkSdk.Crypto.PublicKeys
import RlyNetworkSdk.Ios.KeyDerivation

/-!
# Account Keys

The keys that the iOS plugin gives out, down to the points of the curve: the handler over the C code
with `ecdsa_get_public_key33` in the place of its last parameter.
-/

namespace RlyNetworkSdk.Ios

open Encoding Crypto Bip39 Bip32 Ecdsa KeyStorage Channel Bignum

/-- The key of BIP-32 at the account path below the seed of a phrase. -/
def IsPointAccountKey (G : CurveGroup) (mnemonic : List UInt8) (y : ExtendedKey n) : Prop :=
  ∃ x, IsMaster (Bip39.seed mnemonic []) x ∧ IsDescendant (serPoint G) x accountPath y

variable {G : CurveGroup}

theorem isAccountKey_publicKey33 (hG : Ecdsa.secp256k1.G.Affine field G)
    (random : List UInt8 → Vector (BitVec 32) 9) {mnemonic : List UInt8} {y : ExtendedKey n} :
    IsAccountKey (publicKey33 random) mnemonic y ↔ IsPointAccountKey G mnemonic y := by
  have hser : ∀ k, 0 < k → k < n → publicKeyOf (publicKey33 random) k = serPoint G k :=
    fun k hpos hlt => publicKeyOf_publicKey33 hG random hpos hlt
  rw [IsAccountKey, IsPointAccountKey]
  simp only [isDescendant_congr hser]

namespace Native

/-- **The keys that come back are those of BIP-32**, whatever words blind the coordinates: after any
history a call for the key of a valid phrase comes to a value, with turns enough, if and only if
the value has the bytes of the key at the account path. -/
theorem native_point_keys (hG : Ecdsa.secp256k1.G.Affine field G)
    (random : List UInt8 → Vector (BitVec 32) 9) (calls : List Call) (st : Store)
    (stack : Vector (BitVec 64) 16) (mnemonic : String) (value : Value) :
    (∃ fuel, (getPrivateKeyFromMnemonic (publicKey33 random) ⟨stack, fuel⟩ mnemonic
        (after (publicKey33 random) calls st).2).1 = some value) ↔
      if Bip39.mnemonicCheck (cArgument mnemonic) then
        ∃ y, IsPointAccountKey G (cArgument mnemonic) y ∧
          value = .ints ((BigEndian.ofNat 32 y.key).map fun b => (b.toNat : Int))
      else value = .string "failure" := by
  have hkeys := getPrivateKeyFromMnemonic_iff (publicKey33 random)
    (related_after (publicKey33 random) calls st).2 stack mnemonic value
  simp only [isAccountKey_publicKey33 hG random] at hkeys
  exact hkeys

namespace Sample

/-- The phrase of 24 zero bytes. -/
def mnemonic : String := generated (Vector.replicate 24 0)

/-- All system calls succeed. -/
def outcomes : Outcomes where
  secRandomCopyBytes := some (Vector.replicate 24 0)
  secItemAdd := true
  secItemUpdate := true
  secItemCopyMatching _ := true
  secItemDelete _ := true

/-- The phrase is generated and saved, and its key is asked for once. -/
def calls : List Call :=
  [.generateNewMnemonic, .saveMnemonic mnemonic true true, .getPrivateKeyFromMnemonic mnemonic].map
    fun call => ⟨call, outcomes, Vector.replicate 16 0, 1⟩

end Sample

/-- Asked for again, the key of the phrase is the one of BIP-32. -/
theorem native_point_keys_generated : ∃ G : CurveGroup, Ecdsa.secp256k1.G.Affine field G ∧
    ∀ value, (∃ fuel, (getPrivateKeyFromMnemonic (publicKey33 fun _ => Vector.replicate 9 0)
        ⟨Vector.replicate 16 0, fuel⟩ Sample.mnemonic
        (after (publicKey33 fun _ => Vector.replicate 9 0) Sample.calls .empty).2).1 = some value) ↔
      ∃ y, IsPointAccountKey G (cArgument Sample.mnemonic) y ∧
        value = .ints ((BigEndian.ofNat 32 y.key).map fun b => (b.toNat : Int)) := by
  obtain ⟨G, hG⟩ := exists_base_affine
  refine ⟨G, hG, fun value => ?_⟩
  have hcheck : Bip39.mnemonicCheck (cArgument Sample.mnemonic) = true := mnemonicCheck_generated _
  have hkeys := native_point_keys hG (fun _ => Vector.replicate 9 0) Sample.calls .empty
    (Vector.replicate 16 0) Sample.mnemonic value
  rw [if_pos hcheck] at hkeys
  exact hkeys

end Native

end RlyNetworkSdk.Ios
