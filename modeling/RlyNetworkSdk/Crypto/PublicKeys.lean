import RlyNetworkSdk.Crypto.Bip32Keys
import RlyNetworkSdk.Crypto.Secp256k1Curve

/-!
# Public Keys

`ecdsa_get_public_key33` writes the multiple of the base point in compressed form. With it the
derivation of keys has no parameter left, and its keys are those of BIP-32 over the points of
secp256k1.
-/

namespace RlyNetworkSdk.Crypto.Ecdsa

open Bignum Encoding Arithmetic WeierstrassCurve.Affine

/-! ## Compressed Points -/

/-- `ecdsa_get_public_key33`. -/
def ecdsaGetPublicKey33 (random : Vector (BitVec 32) 9) (curve : EcdsaCurve) (privKey : List UInt8) :
    Option (List UInt8) :=
  (scalarMultiply random curve (bnReadBe privKey)).map fun R =>
    UInt8.ofNat (0x02 ||| (lowLimb R.y &&& 0x01)).toNat :: bnWriteBe R.x

/-- The compressed form of a point: whether `y` is odd, and `x`. The point at infinity has a
form of its own, which no key is written with. -/
def compressed : CurveGroup → List UInt8
  | .zero => [0]
  | .some x y _ => UInt8.ofNat (2 + ZMod.val y % 2) :: BigEndian.ofNat 32 (ZMod.val x)

theorem toNat_parity (a : BitVec 32) : (0x02 ||| (a &&& 0x01)).toNat = 2 + a.toNat % 2 := by
  have htwo : (2 : BitVec 32).toNat = 2 ^ 1 * 1 := rfl
  have hlt : a.toNat % 2 < 2 ^ 1 := Nat.mod_lt _ (by decide)
  rw [BitVec.toNat_or, toNat_and_one, htwo, ← Nat.two_pow_add_eq_or_of_lt hlt, pow_one, Nat.mul_one]

theorem CurvePoint.Affine.compressed {p : CurvePoint} {P : CurveGroup} (h : p.Affine field P) :
    UInt8.ofNat (0x02 ||| (lowLimb p.y &&& 0x01)).toNat :: bnWriteBe p.x = compressed P := by
  obtain ⟨hxy, hP⟩ := h.at_values
  have hparity : value p.y % 2 = (lowLimb p.y).toNat % 2 := value_mod_two p.y
  rw [hP, Ecdsa.compressed, ZMod.val_natCast_of_lt h.lt_x, ZMod.val_natCast_of_lt h.lt_y,
    toNat_parity, hparity, bnWriteBe_eq h.normalized_x (h.lt_x.trans field.value_lt)]

variable {G : CurveGroup}

theorem nsmul_ne_zero (hG : secp256k1.G.Affine field G) {k : Nat} (hpos : 0 < k)
    (hlt : k < value groupOrder) : k • G ≠ 0 := by
  rw [← natCast_zsmul, ne_eq, hasOrder (entryAt_base hG), Int.natCast_dvd_natCast]
  exact Nat.not_dvd_of_pos_of_lt hpos hlt

/-- **The public key of a private key** is the compressed form of its multiple of the base
point, whatever words the coordinates are blinded with. -/
theorem ecdsaGetPublicKey33_eq (hG : secp256k1.G.Affine field G) (random : Vector (BitVec 32) 9)
    {k : Nat} (hpos : 0 < k) (hlt : k < value groupOrder) :
    ecdsaGetPublicKey33 random secp256k1 (BigEndian.ofNat 32 k) = some (compressed (k • G)) := by
  have horder := order.value_lt
  have hvalue : value (bnReadBe (BigEndian.ofNat 32 k)) = k := by
    rw [value_bnReadBe (BigEndian.length_ofNat 32 k), BigEndian.value_ofNat_of_lt]
    exact (hlt.trans horder).trans_eq (by norm_num)
  obtain ⟨p, hp, hdenotes⟩ := scalarMultiply_denotes (usable hG)
    (normalized_bnReadBe (BigEndian.ofNat 32 k)) (hvalue.trans_lt hlt) random
  rw [hvalue] at hdenotes
  rw [ecdsaGetPublicKey33, hp, Option.map_some]
  -- a multiple below the order is never infinite
  rcases hdenotes with ⟨hzero, -⟩ | haffine
  · exact absurd hzero (nsmul_ne_zero hG hpos hlt)
  · rw [haffine.compressed]

end RlyNetworkSdk.Crypto.Ecdsa

namespace RlyNetworkSdk.Crypto.Bip32

open Encoding Bignum Bip39 Ecdsa

/-! ## Derivation -/

/-- The public keys that `hdnode_fill_public_key` gets. The only curve that a node can have is
secp256k1. -/
def publicKey33 (random : List UInt8 → Vector (BitVec 32) 9) (_ : EcdsaCurve)
    (privKey : List UInt8) : List UInt8 :=
  (ecdsaGetPublicKey33 (random privKey) Ecdsa.secp256k1 privKey).getD noPublicKey

/-- The serialised point of a private key. -/
def serPoint (G : CurveGroup) (k : Nat) : List UInt8 := compressed (k • G)

theorem publicKeyOf_publicKey33 {G : CurveGroup} (hG : Ecdsa.secp256k1.G.Affine field G)
    (random : List UInt8 → Vector (BitVec 32) 9) {k : Nat} (hpos : 0 < k) (hlt : k < n) :
    publicKeyOf (publicKey33 random) k = serPoint G k := by
  rw [publicKeyOf, publicKey33, ecdsaGetPublicKey33_eq hG _ hpos hlt]
  rfl

/-- **The nodes of paths are the keys of BIP-32.** No step of the derivation is a parameter: the
hashes, the arithmetic and the curve are those of the C code. -/
theorem nodes_of_path {G : CurveGroup} (hG : Ecdsa.secp256k1.G.Affine field G)
    (random : List UInt8 → Vector (BitVec 32) 9) (seed : List UInt8) (path : List (BitVec 32))
    (r : Option HDNode) :
    (∃ fuel master, hdnodeFromSeed fuel seed (cString "secp256k1") = some (some master) ∧
        privateCkdPath (publicKey33 random) fuel master path = some r) ↔
      ∃ x y, IsMaster seed x ∧ IsDescendant (serPoint G) x path y ∧
        r = some (nodeOf y (BitVec.ofNat 32 path.length) (path.getLastD 0)) := by
  have hser : ∀ k, 0 < k → k < n → publicKeyOf (publicKey33 random) k = serPoint G k :=
    fun k hpos hlt => publicKeyOf_publicKey33 hG random hpos hlt
  exact path_iff (publicKey33 random) hser seed path r

/-- The seed 00, 01, ..., 0f and the purpose that an account path begins with. -/
theorem nodes_of_path_seed : ∃ G : CurveGroup, Ecdsa.secp256k1.G.Affine field G ∧
    ∃ x y : ExtendedKey n, IsMaster ((List.range 16).map UInt8.ofNat) x ∧
      IsDescendant (serPoint G) x [0x8000002C] y := by
  obtain ⟨G, hG⟩ := exists_base_affine
  let random : List UInt8 → Vector (BitVec 32) 9 := fun _ => Vector.replicate 9 0
  -- the code is run once, with one round for each derivation
  have hmaster : ((hdnodeFromSeed 1 ((List.range 16).map UInt8.ofNat) (cString "secp256k1")).bind
      fun master => master.bind fun master =>
        privateCkdPath (publicKey33 random) 1 master [0x8000002C]).isSome = true := by
    decide +kernel
  obtain ⟨r, hr⟩ := Option.isSome_iff_exists.mp hmaster
  obtain ⟨_, hseed, hr⟩ := Option.bind_eq_some_iff.mp hr
  obtain ⟨master, rfl, hpath⟩ := Option.bind_eq_some_iff.mp hr
  obtain ⟨x, y, hx, hy, -⟩ := (nodes_of_path hG random _ _ r).mp ⟨1, master, hseed, hpath⟩
  exact ⟨G, hG, x, y, hx, hy⟩

end RlyNetworkSdk.Crypto.Bip32
