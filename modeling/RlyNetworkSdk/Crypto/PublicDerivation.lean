import RlyNetworkSdk.Crypto.CompressedPoints

/-!
# Public Derivation

`hdnode_public_ckd` derives children from a public key alone, by adding points where
`hdnode_private_ckd` adds numbers. The two go through the same candidates and stop at the same one,
so that the public child is the public key of the private child.
-/

namespace RlyNetworkSdk.Crypto.Bip32

open Encoding Bignum Bip39 Hmac Transition Ecdsa

/-! ## The Code -/

section Code

variable (random : List UInt8 → Vector (BitVec 32) 9)

/-- `b = a + c * G` for the candidate `c`. No result means that an inverse is looked for
forever; for points of the curve this does not happen. -/
def publicPoint (a : CurvePoint) (I : List UInt8) : Option CurvePoint := do
  let b ← scalarMultiply (random I) Ecdsa.secp256k1 (bnReadBe (I.take 32))
  pointAdd Ecdsa.secp256k1 a b

/-- Whether the loop ends with the candidate: it is below the order, and the point is not at
infinity. -/
def isPublicChild (params : EcdsaCurve) (a : CurvePoint) (I : List UInt8) : Bool :=
  bnIsLess (bnReadBe (I.take 32)) params.order &&
    (publicPoint random a I).all fun b => !pointIsInfinity b

def publicChildNode (inout : HDNode) (i : BitVec 32) (I : List UInt8) (b : CurvePoint) : HDNode :=
  { inout with
    privateKey := List.replicate 32 0
    publicKey := UInt8.ofNat (0x02 ||| (lowLimb b.y &&& 0x01)).toNat :: bnWriteBe b.x
    chainCode := I.drop 32
    depth := inout.depth + 1
    childNum := i }

/-- The outer option is the loops, the inner one the success of the function. The only curve that a
node can have is secp256k1. -/
def hdnodePublicCkd (fuel : Nat) (inout : HDNode) (i : BitVec 32) : Option (Option HDNode) :=
  if isHardened i then some none
  else
    match inout.curve.params with
    | none => some none
    | some params =>
      match ecdsaReadPubkey Ecdsa.secp256k1 inout.publicKey with
      | none => some none
      | some a =>
        (retry (isPublicChild random params a) (nextCandidate inout.chainCode i) fuel
          (hmacSha512 inout.chainCode (inout.publicKey ++ storeBE 4 i))).bind fun I =>
            (publicPoint random a I).map fun b => some (publicChildNode inout i I b)

end Code

/-! ## Candidates -/

variable {G : CurveGroup}

/-- The node of a key without its private part, which is what public derivation works with. -/
def publicNodeOf (G : CurveGroup) (x : ExtendedKey n) (depth childNum : BitVec 32) : HDNode :=
  { nodeOf x depth childNum with
    privateKey := List.replicate 32 0
    publicKey := serPoint G x.key }

theorem nsmul_eq_zero_iff (hG : Ecdsa.secp256k1.G.Affine field G) (k : Nat) :
    k • G = 0 ↔ k % n = 0 := by
  rw [← natCast_zsmul, hasOrder (entryAt_base hG), Int.natCast_dvd_natCast, Nat.dvd_iff_mod_eq_zero]
  rfl

theorem mod_nsmul_base (hG : Ecdsa.secp256k1.G.Affine field G) (k : Nat) : (k % n) • G = k • G := by
  have hzero : n • G = 0 := (nsmul_eq_zero_iff hG n).mpr (Nat.mod_self n)
  conv_rhs => rw [← Nat.mod_add_div k n, add_nsmul, mul_comm, mul_nsmul', hzero, nsmul_zero, add_zero]

/-- A candidate below the order has a point. -/
theorem publicPoint_denotes (hG : Ecdsa.secp256k1.G.Affine field G)
    (random : List UInt8 → Vector (BitVec 32) 9) {a : CurvePoint} {k : Nat}
    (ha : a.Affine field (k • G)) {I : List UInt8} (hI : I.length = 64) (hlt : leftHalf I < n) :
    ∃ b, publicPoint random a I = some b ∧ b.Denotes field ((leftHalf I + k) • G) := by
  have hvalue : value (bnReadBe (I.take 32)) = leftHalf I :=
    value_bnReadBe (length_take_of_length hI)
  -- the candidate is a scalar below the order, so its multiple of the base point is found
  obtain ⟨c, hc, hdenotes⟩ := scalarMultiply_denotes (usable hG)
    (normalized_bnReadBe (I.take 32)) (hvalue.trans_lt hlt) (random I)
  rw [hvalue] at hdenotes
  -- the point of the parent is added to it
  obtain ⟨b, hb, hsum⟩ := pointAdd_denotes affineUsable_secp256k1 (Or.inr ha) hdenotes
  refine ⟨b, ?_, ?_⟩
  · rw [publicPoint, hc]
    exact hb
  · rwa [add_comm (leftHalf I), add_nsmul]

/-- **The same candidates are good** for the public and the private child: the point is at
infinity exactly when the sum of the keys is zero. -/
theorem isPublicChild_eq (hG : Ecdsa.secp256k1.G.Affine field G)
    (random : List UInt8 → Vector (BitVec 32) 9) {a : CurvePoint} {k : Nat}
    (ha : a.Affine field (k • G)) {I : List UInt8} (hI : I.length = 64) :
    isPublicChild random secp256k1 a I =
      decide (leftHalf I < n ∧ (leftHalf I + k) % n ≠ 0) := by
  rw [isPublicChild, bnIsLess_order hI, Bool.decide_and]
  by_cases hlt : leftHalf I < n
  · obtain ⟨b, hb, hdenotes⟩ := publicPoint_denotes hG random ha hI hlt
    rw [hb, Option.all_some]
    congr 1
    -- the point is at infinity exactly where the sum of the numbers is zero
    rcases hdenotes with ⟨hzero, rfl⟩ | haffine
    · have hinfinity : pointIsInfinity ⟨bnZero, bnZero⟩ = true := pointIsInfinity_infinity
      rw [hinfinity]
      simp [(nsmul_eq_zero_iff hG _).mp hzero]
    · rw [haffine.not_infinity affineUsable_secp256k1.b_ne_zero]
      have hne : (leftHalf I + k) % n ≠ 0 := by
        rw [ne_eq, ← nsmul_eq_zero_iff hG]
        exact haffine.at_values.ne_zero
      simp [hne]
  · simp [hlt]

theorem settles_isPublicChild_iff (hG : Ecdsa.secp256k1.G.Affine field G)
    (random : List UInt8 → Vector (BitVec 32) 9) {a : CurvePoint} {x : ExtendedKey n}
    (ha : a.Affine field (x.key • G)) {i : BitVec 32} {I J : List UInt8} (hI : I.length = 64) :
    Settles (isPublicChild random secp256k1 a)
        (fun I => hmac512 x.chainCode (1 :: rightHalf I ++ storeBE 4 i)) I J ↔
      Settles (fun I => decide (leftHalf I < n ∧ (leftHalf I + x.key) % n ≠ 0))
        (fun I => hmac512 x.chainCode (1 :: rightHalf I ++ storeBE 4 i)) I J := by
  constructor
  · intro h
    -- the candidates are the same, and so is the judgement of each of them
    exact h.congr (fun _ => isPublicChild_eq hG random ha) (fun _ _ => rfl)
      (fun _ _ => length_hmac512 _ _) hI
  · intro h
    exact h.congr (fun _ hI => (isPublicChild_eq hG random ha hI).symm) (fun _ _ => rfl)
      (fun _ _ => length_hmac512 _ _) hI

/-! ## Children -/

/-- The loop of the code on the node of a public key. -/
theorem hdnodePublicCkd_eq (hG : Ecdsa.secp256k1.G.Affine field G)
    (random : List UInt8 → Vector (BitVec 32) 9) (x : ExtendedKey n) (depth childNum : BitVec 32)
    {i : BitVec 32} (hi : isHardened i = false) :
    ∃ a : CurvePoint, a.Affine field (x.key • G) ∧ ∀ fuel,
      hdnodePublicCkd random fuel (publicNodeOf G x depth childNum) i =
        (retry (isPublicChild random secp256k1 a)
          (fun I => hmac512 x.chainCode (1 :: rightHalf I ++ storeBE 4 i)) fuel
          (hmac512 x.chainCode (childData (serPoint G) x i))).bind fun I =>
            (publicPoint random a I).map fun b =>
              some (publicChildNode (publicNodeOf G x depth childNum) i I b) := by
  -- the public key of the node is a compressed point that can be read
  obtain ⟨a, hread, ha⟩ := ecdsaReadPubkey_compressed (nsmul_ne_zero hG x.pos x.lt)
  refine ⟨a, ha, fun fuel => ?_⟩
  have hnext : nextCandidate x.chainCode i =
      fun I => hmac512 x.chainCode (1 :: rightHalf I ++ storeBE 4 i) :=
    funext fun I => hmacSha512_eq _ _
  have hread' : ecdsaReadPubkey Ecdsa.secp256k1 (publicNodeOf G x depth childNum).publicKey =
      some a := hread
  rw [hdnodePublicCkd, hi, hread', childData, hi, ← hnext, ← hmacSha512_eq]
  rfl

/-- The child's node is that of the sum. -/
theorem publicChildNode_eq (hG : Ecdsa.secp256k1.G.Affine field G) {x y : ExtendedKey n}
    {i : BitVec 32} {I : List UInt8} {b : CurvePoint}
    (hb : b.Affine field ((leftHalf I + x.key) • G)) (hkey : y.key = (leftHalf I + x.key) % n)
    (hchain : y.chainCode = rightHalf I) (depth childNum : BitVec 32) :
    publicChildNode (publicNodeOf G x depth childNum) i I b = publicNodeOf G y (depth + 1) i := by
  -- the point of the child is written as the compressed key of the sum of the keys
  have hpublic : serPoint G y.key =
      UInt8.ofNat (0x02 ||| (lowLimb b.y &&& 0x01)).toNat :: bnWriteBe b.x := by
    rw [hb.compressed, serPoint, hkey, mod_nsmul_base hG]
  have hnode : publicNodeOf G y (depth + 1) i =
      { nodeOf y (depth + 1) i with
        privateKey := List.replicate 32 0
        publicKey := serPoint G y.key } := rfl
  rw [hnode, hpublic, nodeOf, hchain]
  rfl

section Children

variable (hG : Ecdsa.secp256k1.G.Affine field G) (random : List UInt8 → Vector (BitVec 32) 9)
include hG

/-- The point of a good candidate. -/
theorem publicPoint_affine {a : CurvePoint} {k : Nat} (ha : a.Affine field (k • G))
    {I : List UInt8} (hI : I.length = 64) (hlt : leftHalf I < n)
    (hne : (leftHalf I + k) % n ≠ 0) :
    ∃ b, publicPoint random a I = some b ∧ b.Affine field ((leftHalf I + k) • G) := by
  obtain ⟨b, hb, hdenotes⟩ := publicPoint_denotes hG random ha hI hlt
  rcases hdenotes with ⟨hzero, -⟩ | haffine
  · exact absurd ((nsmul_eq_zero_iff hG _).mp hzero) hne
  · exact ⟨b, hb, haffine⟩

theorem hdnodePublicCkd_result {fuel : Nat} {x : ExtendedKey n} {depth childNum i : BitVec 32}
    (hi : isHardened i = false) {r : Option HDNode}
    (h : hdnodePublicCkd random fuel (publicNodeOf G x depth childNum) i = some r) :
    ∃ y, IsChild (serPoint G) x i y ∧ r = some (publicNodeOf G y (depth + 1) i) := by
  obtain ⟨a, ha, hcode⟩ := hdnodePublicCkd_eq hG random x depth childNum hi
  have hfirst : (hmac512 x.chainCode (childData (serPoint G) x i)).length = 64 :=
    length_hmac512 _ _
  rw [hcode, Option.bind_eq_some_iff] at h
  obtain ⟨I, hretry, hmap⟩ := h
  have hsettles := settles_of_retry hretry
  have hI : I.length = 64 := hsettles.invariant (I := fun I => I.length = 64)
    (fun _ _ => length_hmac512 _ _) hfirst
  -- the private child's loop stops at the same candidate
  rw [settles_isPublicChild_iff hG random ha hfirst] at hsettles
  have hgood := hsettles.good_of
  simp only [decide_eq_true_eq] at hgood
  obtain ⟨b, hb, haffine⟩ := publicPoint_affine hG random ha hI hgood.1 hgood.2
  let y : ExtendedKey n := ⟨(leftHalf I + x.key) % n, rightHalf I, Nat.pos_of_ne_zero hgood.2,
    Nat.mod_lt _ (x.pos.trans x.lt), length_rightHalf hI⟩
  refine ⟨y, ⟨I, hsettles, rfl, rfl⟩, ?_⟩
  rw [hb, Option.map_some, publicChildNode_eq hG (y := y) haffine rfl rfl] at hmap
  exact (Option.some.inj hmap).symm

theorem IsChild.hdnodePublicCkd {x y : ExtendedKey n} {i : BitVec 32} (hi : isHardened i = false)
    (h : IsChild (serPoint G) x i y) (depth childNum : BitVec 32) :
    ∃ rounds, ∀ fuel ≥ rounds,
      hdnodePublicCkd random fuel (publicNodeOf G x depth childNum) i =
        some (some (publicNodeOf G y (depth + 1) i)) := by
  obtain ⟨a, ha, hcode⟩ := hdnodePublicCkd_eq hG random x depth childNum hi
  have hfirst : (hmac512 x.chainCode (childData (serPoint G) x i)).length = 64 :=
    length_hmac512 _ _
  obtain ⟨I, hsettles, hkey, hchain⟩ := h
  -- every candidate is a whole digest
  have hI : I.length = 64 := hsettles.invariant (I := fun I => I.length = 64)
    (fun _ _ => length_hmac512 _ _) hfirst
  have hgood := hsettles.good_of
  simp only [decide_eq_true_eq] at hgood
  -- the candidate on which the standard settles is good, so its point is not infinite
  obtain ⟨b, hb, haffine⟩ := publicPoint_affine hG random ha hI hgood.1 hgood.2
  rw [← settles_isPublicChild_iff hG random ha hfirst] at hsettles
  -- the loop of the code stops at the same candidate
  obtain ⟨rounds, hrounds⟩ := hsettles.retry
  refine ⟨rounds, fun fuel hfuel => ?_⟩
  rw [hcode, hrounds fuel hfuel, Option.bind_some, hb, Option.map_some,
    publicChildNode_eq hG haffine hkey hchain]

end Children

/-! ## Paths -/

/-- Public derivation along a path. -/
def publicCkdPath (random : List UInt8 → Vector (BitVec 32) 9) (fuel : Nat) :
    HDNode → List (BitVec 32) → Option (Option HDNode)
  | node, [] => some (some node)
  | node, i :: path =>
    match hdnodePublicCkd random fuel node i with
    | none => none
    | some none => some none
    | some (some child) => publicCkdPath random fuel child path

/-- A node with its public key and without its private one. Public derivation starts from such a
node. -/
def neutered (random : List UInt8 → Vector (BitVec 32) 9) (node : HDNode) : HDNode :=
  { hdnodeFillPublicKey (publicKey33 random) node with privateKey := List.replicate 32 0 }

section Paths

variable (hG : Ecdsa.secp256k1.G.Affine field G) (random : List UInt8 → Vector (BitVec 32) 9)
include hG

theorem neutered_nodeOf (x : ExtendedKey n) (depth childNum : BitVec 32) :
    neutered random (nodeOf x depth childNum) = publicNodeOf G x depth childNum := by
  have hpublic := publicKeyOf_publicKey33 hG random x.pos x.lt
  have hfill : hdnodeFillPublicKey (publicKey33 random) (nodeOf x depth childNum) =
      { nodeOf x depth childNum with publicKey := publicKeyOf (publicKey33 random) x.key } := by
    simp [hdnodeFillPublicKey, nodeOf, noPublicKey, publicKeyOf, secp256k1Info]
  rw [neutered, hfill, hpublic]
  rfl

theorem publicCkdPath_result {fuel : Nat} {path : List (BitVec 32)}
    (hpath : ∀ i ∈ path, isHardened i = false) {x : ExtendedKey n} {depth childNum : BitVec 32}
    {r : Option HDNode}
    (h : publicCkdPath random fuel (publicNodeOf G x depth childNum) path = some r) :
    ∃ y, IsDescendant (serPoint G) x path y ∧
      r = some (publicNodeOf G y (depth + BitVec.ofNat 32 path.length)
        (path.getLastD childNum)) := by
  -- the path is followed from the root, with the node of the child for the rest of it
  induction path generalizing x depth childNum with
  | nil =>
    simp only [publicCkdPath, Option.some.injEq] at h
    exact ⟨x, rfl, by simp [← h]⟩
  | cons i path ih =>
    rw [publicCkdPath] at h
    cases hckd : hdnodePublicCkd random fuel (publicNodeOf G x depth childNum) i with
    | none => simp [hckd] at h
    | some child =>
      obtain ⟨y, hchild, rfl⟩ :=
        hdnodePublicCkd_result hG random (hpath i List.mem_cons_self) hckd
      rw [hckd] at h
      obtain ⟨z, hdescendant, rfl⟩ := ih (fun j hj => hpath j (List.mem_cons_of_mem i hj)) h
      refine ⟨z, ⟨y, hchild, hdescendant⟩, ?_⟩
      rw [add_length_cons, List.getLastD_cons]

theorem IsDescendant.publicCkdPath {path : List (BitVec 32)}
    (hpath : ∀ i ∈ path, isHardened i = false) {x y : ExtendedKey n}
    (h : IsDescendant (serPoint G) x path y) (depth childNum : BitVec 32) :
    ∃ rounds, ∀ fuel ≥ rounds,
      publicCkdPath random fuel (publicNodeOf G x depth childNum) path =
        some (some (publicNodeOf G y (depth + BitVec.ofNat 32 path.length)
          (path.getLastD childNum))) := by
  -- each index needs its own number of rounds, and the larger one is enough for both parts
  induction path generalizing x depth childNum with
  | nil =>
    obtain rfl : x = y := h
    exact ⟨0, fun fuel _ => by simp [Bip32.publicCkdPath]⟩
  | cons i path ih =>
    obtain ⟨child, hchild, hdescendant⟩ := h
    obtain ⟨first, hfirst⟩ :=
      hchild.hdnodePublicCkd hG random (hpath i List.mem_cons_self) depth childNum
    obtain ⟨rest, hrest⟩ :=
      ih (fun j hj => hpath j (List.mem_cons_of_mem i hj)) hdescendant (depth + 1) i
    refine ⟨max first rest, fun fuel hfuel => ?_⟩
    rw [Bip32.publicCkdPath, hfirst fuel (le_of_max_le_left hfuel)]
    simp only [hrest fuel (le_of_max_le_right hfuel)]
    rw [add_length_cons, List.getLastD_cons]

end Paths

/-- **Public derivation is private derivation without the private keys**, along every path without
hardened indices: what is derived from the public part of a node is the public part of what is
derived from the node. -/
theorem public_derivation (random : List UInt8 → Vector (BitVec 32) 9) (x : ExtendedKey n)
    (depth childNum : BitVec 32) {path : List (BitVec 32)}
    (hpath : ∀ i ∈ path, isHardened i = false) (r : Option HDNode) :
    (∃ fuel, publicCkdPath random fuel (neutered random (nodeOf x depth childNum)) path = some r) ↔
      ∃ node, (∃ fuel, privateCkdPath (publicKey33 random) fuel (nodeOf x depth childNum) path =
        some (some node)) ∧ r = some (neutered random node) := by
  obtain ⟨G, hG⟩ := exists_base_affine
  -- private derivation hashes the same public keys, as both ways write them alike
  have hser : ∀ k, 0 < k → k < n → publicKeyOf (publicKey33 random) k = serPoint G k :=
    fun k hpos hlt => publicKeyOf_publicKey33 hG random hpos hlt
  rw [neutered_nodeOf hG]
  constructor
  · rintro ⟨fuel, h⟩
    -- from the public side: the result is a descendant of the standard, which private derivation
    -- reaches
    obtain ⟨y, hdescendant, rfl⟩ := publicCkdPath_result hG random hpath h
    obtain ⟨rounds, hrounds⟩ := ((isDescendant_congr hser).mpr hdescendant).privateCkdPath
      (publicKey33 random) depth childNum
    exact ⟨_, ⟨rounds, hrounds rounds (Nat.le_refl _)⟩, by rw [neutered_nodeOf hG]⟩
  · rintro ⟨node, ⟨fuel, h⟩, rfl⟩
    -- from the private side, by the same descendant
    obtain ⟨y, hdescendant, hnode⟩ := privateCkdPath_result (publicKey33 random) h
    obtain rfl := Option.some.inj hnode
    obtain ⟨rounds, hrounds⟩ := IsDescendant.publicCkdPath hG random hpath
      ((isDescendant_congr hser).mp hdescendant) depth childNum
    exact ⟨rounds, by rw [hrounds rounds (Nat.le_refl _), neutered_nodeOf hG]⟩

/-- A key whose number is one. -/
def keyOne : ExtendedKey n where
  key := 1
  chainCode := List.replicate 32 0
  pos := by decide
  lt := by
    change 1 < value groupOrder
    rw [value_groupOrder]
    decide
  length_chainCode := rfl

/-- There is a child whenever the first candidate is good. -/
theorem exists_isChild {serP : Nat → List UInt8} {x : ExtendedKey n} {i : BitVec 32}
    {data : List UInt8} (hdata : childData serP x i = data)
    (hgood : leftHalf (hmac512 x.chainCode data) < n ∧
      (leftHalf (hmac512 x.chainCode data) + x.key) % n ≠ 0) : ∃ y, IsChild serP x i y := by
  subst hdata
  have hlength := length_hmac512 x.chainCode (childData serP x i)
  exact ⟨⟨_, _, Nat.pos_of_ne_zero hgood.2, Nat.mod_lt _ (x.pos.trans x.lt),
      length_rightHalf hlength⟩, _, .stop (decide_eq_true hgood), rfl, rfl⟩

/-- The base point in its compressed form, and the index 0. -/
def baseData : List UInt8 :=
  UInt8.ofNat (0x02 ||| (lowLimb Ecdsa.secp256k1.G.y &&& 0x01)).toNat ::
    bnWriteBe Ecdsa.secp256k1.G.x ++ storeBE 4 (0 : BitVec 32)

theorem good_baseData : leftHalf (hmac512 keyOne.chainCode baseData) < n ∧
      (leftHalf (hmac512 keyOne.chainCode baseData) + keyOne.key) % n ≠ 0 := by
  rw [← hmacSha512_eq]
  decide +kernel

/-- The first child of the key one. Its point is the base point itself. -/
theorem exists_isChild_keyOne {G : CurveGroup} (hG : Ecdsa.secp256k1.G.Affine field G) :
    ∃ y, IsChild (serPoint G) keyOne 0 y := by
  have hdata : childData (serPoint G) keyOne 0 = baseData := by
    show compressed (1 • G) ++ storeBE 4 (0 : BitVec 32) = _
    rw [one_nsmul, ← hG.compressed]
    rfl
  exact exists_isChild hdata good_baseData

/-- The first child of the key one can be derived from its public part. -/
theorem public_derivation_keyOne : ∃ node,
    (∃ fuel, publicCkdPath (fun _ => Vector.replicate 9 0) fuel
        (neutered (fun _ => Vector.replicate 9 0) (nodeOf keyOne 0 0)) [0] =
      some (some (neutered (fun _ => Vector.replicate 9 0) node))) ∧
    ∃ fuel, privateCkdPath (publicKey33 fun _ => Vector.replicate 9 0) fuel (nodeOf keyOne 0 0) [0] =
      some (some node) := by
  obtain ⟨G, hG⟩ := exists_base_affine
  -- a child of the key one exists, so the derivation really ends with a node
  obtain ⟨y, hy⟩ := exists_isChild_keyOne hG
  have hser : ∀ k, 0 < k → k < n →
      publicKeyOf (publicKey33 fun _ => Vector.replicate 9 0) k = serPoint G k :=
    fun k hpos hlt => publicKeyOf_publicKey33 hG _ hpos hlt
  have hpath : IsDescendant (serPoint G) keyOne [0] y := ⟨y, hy, rfl⟩
  obtain ⟨rounds, hrounds⟩ := ((isDescendant_congr hser).mpr hpath).privateCkdPath
    (publicKey33 fun _ => Vector.replicate 9 0) 0 0
  have hprivate := hrounds rounds (Nat.le_refl _)
  exact ⟨_, (public_derivation _ keyOne 0 0 (by simp [isHardened]) _).mpr
    ⟨_, ⟨rounds, hprivate⟩, rfl⟩, rounds, hprivate⟩

end RlyNetworkSdk.Crypto.Bip32
