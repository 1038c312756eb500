import RlyNetworkSdk.Crypto.Bip32

/-!
# Extended Keys

Master keys and private children in terms of numbers: candidates are hashed until one of them is
a key of the curve, so that every seed and every index that lead to a result lead to a key between
one and the group order. The nodes of `bip32.c` are these keys, for every path.
-/

namespace RlyNetworkSdk.Crypto.Bip32

open Encoding Bignum Bip39 Hmac Sha2 Transition

/-! ## Keys -/

/-- A private key of a group of order `n`, and a chain code. This is the data of BIP-32, as a
number and without depth or fingerprint. -/
structure ExtendedKey (n : Nat) where
  key : Nat
  chainCode : List UInt8
  pos : 0 < key
  lt : key < n
  length_chainCode : chainCode.length = 32

/-- The left half of a candidate as a number, which is what is added to the parent's key. -/
def leftHalf (I : List UInt8) : Nat := BigEndian.value (I.take 32)

/-- The right half of a candidate, which becomes the chain code. -/
def rightHalf (I : List UInt8) : List UInt8 := I.drop 32

/-- HMAC-SHA512. -/
def hmac512 (key msg : List UInt8) : List UInt8 := variant512.hashFunction.hmac key msg

section Spec

variable {n : Nat} (serP : Nat → List UInt8)

/-- The master key of a seed: the first candidate that is a key, each one hashed from the one
before. -/
def IsMaster (seed : List UInt8) (x : ExtendedKey n) : Prop :=
  ∃ I, Settles (fun I => decide (0 < leftHalf I ∧ leftHalf I < n)) (hmac512 (cString "Bitcoin seed"))
      (hmac512 (cString "Bitcoin seed") seed) I ∧
    x.key = leftHalf I ∧ x.chainCode = rightHalf I

/-- What is hashed for a child: the private key for a hardened index, and else the public key.
The index follows in four bytes. -/
def childData (x : ExtendedKey n) (i : BitVec 32) : List UInt8 :=
  if isHardened i then 0 :: BigEndian.ofNat 32 x.key ++ storeBE 4 i else serP x.key ++ storeBE 4 i

/-- The private child of an index. It is stated as a relation, since nothing bounds the number
of candidates that may fail. -/
def IsChild (x : ExtendedKey n) (i : BitVec 32) (y : ExtendedKey n) : Prop :=
  ∃ I, Settles (fun I => decide (leftHalf I < n ∧ (leftHalf I + x.key) % n ≠ 0))
      (fun I => hmac512 x.chainCode (1 :: rightHalf I ++ storeBE 4 i))
      (hmac512 x.chainCode (childData serP x i)) I ∧
    y.key = (leftHalf I + x.key) % n ∧ y.chainCode = rightHalf I

/-- The key at the end of a path, one child after the other. -/
def IsDescendant (x : ExtendedKey n) : List (BitVec 32) → ExtendedKey n → Prop
  | [], y => x = y
  | i :: path, y => ∃ child, IsChild serP x i child ∧ IsDescendant child path y

theorem ExtendedKey.eq_of {x y : ExtendedKey n} (hkey : x.key = y.key)
    (hchain : x.chainCode = y.chainCode) : x = y := by
  cases x
  cases y
  simp_all

theorem IsMaster.unique {seed : List UInt8} {x y : ExtendedKey n} (hx : IsMaster seed x)
    (hy : IsMaster seed y) : x = y := by
  obtain ⟨I, hI, hkey, hchain⟩ := hx
  obtain ⟨J, hJ, hkey', hchain'⟩ := hy
  have hIJ := hI.unique hJ
  apply ExtendedKey.eq_of
  · rw [hkey, hkey', hIJ]
  · rw [hchain, hchain', hIJ]

theorem IsChild.unique {serP : Nat → List UInt8} {x y z : ExtendedKey n} {i : BitVec 32}
    (hy : IsChild serP x i y) (hz : IsChild serP x i z) : y = z := by
  obtain ⟨I, hI, hkey, hchain⟩ := hy
  obtain ⟨J, hJ, hkey', hchain'⟩ := hz
  have hIJ := hI.unique hJ
  apply ExtendedKey.eq_of
  · rw [hkey, hkey', hIJ]
  · rw [hchain, hchain', hIJ]

/-- Children depend on the public key of their parent alone. -/
theorem isChild_congr {serP serP' : Nat → List UInt8} {x y : ExtendedKey n} {i : BitVec 32}
    (h : serP x.key = serP' x.key) :
    IsChild serP x i y ↔ IsChild serP' x i y := by
  rw [IsChild, IsChild, childData, childData, h]

theorem isDescendant_congr {serP serP' : Nat → List UInt8}
    (h : ∀ k, 0 < k → k < n → serP k = serP' k)
    {x y : ExtendedKey n} {path : List (BitVec 32)} :
    IsDescendant serP x path y ↔ IsDescendant serP' x path y := by
  induction path generalizing x with
  | nil => rfl
  | cons i path ih =>
    have hchild : ∀ child, IsChild serP x i child ↔ IsChild serP' x i child :=
      fun _ => isChild_congr (h x.key x.pos x.lt)
    rw [IsDescendant, IsDescendant]
    simp only [hchild, ih]

end Spec

/-! ## Candidates -/

theorem hmacSha512_eq (key msg : List UInt8) : hmacSha512 key msg = hmac512 key msg :=
  hmac_eq variant512 key msg

theorem length_hmac512 (key msg : List UInt8) : (hmac512 key msg).length = 64 :=
  length_hash variant512 _

theorem length_take_of_length {I : List UInt8} (hI : I.length = 64) : (I.take 32).length = 32 := by
  rw [List.length_take, hI]
  rfl

/-- The order of the group. -/
abbrev n : Nat := value groupOrder

theorem bnIsLess_order {I : List UInt8} (hI : I.length = 64) :
    bnIsLess (bnReadBe (I.take 32)) secp256k1.order = decide (leftHalf I < n) := by
  have hless := bnIsLess_eq (normalized_bnReadBe (I.take 32)) order.normalized
  rw [value_bnReadBe (length_take_of_length hI)] at hless
  exact hless

theorem isKey_eq {I : List UInt8} (hI : I.length = 64) :
    isKey secp256k1 I = decide (0 < leftHalf I ∧ leftHalf I < n) := by
  have hzero : bnIsZero (bnReadBe (I.take 32)) = decide (leftHalf I = 0) := by
    rw [bnIsZero_eq, value_bnReadBe (length_take_of_length hI)]
    rfl
  simp only [isKey]
  rw [bnIsLess_order hI, hzero, Bool.decide_and, ← decide_not]
  simp only [Nat.pos_iff_ne_zero]

/-- The sum of a candidate and a key, modulo the order. -/
theorem value_childKey {I privateKey : List UInt8} (hI : I.length = 64)
    (hkey : privateKey.length = 32) :
    Normalized (childKey secp256k1 privateKey I) ∧
      value (childKey secp256k1 privateKey I) = (leftHalf I + BigEndian.value privateKey) % n := by
  have hchild : childKey secp256k1 privateKey I =
      bnMod (bnAddmod (bnReadBe (I.take 32)) (bnReadBe privateKey) order.prime) order.prime := rfl
  have hsum := partlyReduced_bnAddmod (bnReadBe (I.take 32)) (bnReadBe privateKey) order
  have hmod := bnAddmod_modEq (normalized_bnReadBe (I.take 32)) (normalized_bnReadBe privateKey)
    order
  rw [value_bnReadBe (length_take_of_length hI), value_bnReadBe hkey] at hmod
  rw [hchild, value_bnMod hsum]
  exact ⟨normalized_bnMod hsum, hmod⟩

theorem isChild_eq {I privateKey : List UInt8} (hI : I.length = 64)
    (hkey : privateKey.length = 32) :
    isChild secp256k1 privateKey I =
      decide (leftHalf I < n ∧ (leftHalf I + BigEndian.value privateKey) % n ≠ 0) := by
  simp only [isChild]
  rw [bnIsLess_order hI, bnIsZero_eq, (value_childKey hI hkey).2, Bool.decide_and, decide_not]

/-! ## Nodes -/

section Nodes

variable (ecdsaGetPublicKey33 : EcdsaCurve → List UInt8 → List UInt8)

/-- The public key of a private key, compressed to 33 bytes as the C code computes it. -/
def publicKeyOf (k : Nat) : List UInt8 := ecdsaGetPublicKey33 secp256k1 (BigEndian.ofNat 32 k)

/-- The node of a key, with its numbers as bytes and the public key not yet computed. -/
def nodeOf (x : ExtendedKey n) (depth childNum : BitVec 32) : HDNode where
  depth := depth
  childNum := childNum
  chainCode := x.chainCode
  privateKey := BigEndian.ofNat 32 x.key
  publicKey := noPublicKey
  curve := secp256k1Info

theorem n_lt : n < 256 ^ 32 := by
  show value groupOrder < 256 ^ 32
  rw [value_groupOrder]
  omega

@[simp] theorem value_ofNat_key (x : ExtendedKey n) :
    BigEndian.value (BigEndian.ofNat 32 x.key) = x.key :=
  BigEndian.value_ofNat_of_lt (x.lt.trans n_lt)

theorem take_eq_ofNat {I : List UInt8} (hI : I.length = 64) :
    I.take 32 = BigEndian.ofNat 32 (leftHalf I) := by
  have htake := BigEndian.ofNat_value (I.take 32)
  rw [length_take_of_length hI] at htake
  exact htake.symm

theorem length_rightHalf {I : List UInt8} (hI : I.length = 64) : (rightHalf I).length = 32 := by
  simp [rightHalf, hI]

/-! ### Master Keys -/

theorem masterNode_eq {I : List UInt8} {x : ExtendedKey n} (hI : I.length = 64)
    (hkey : x.key = leftHalf I) (hchain : x.chainCode = rightHalf I) :
    masterNode secp256k1Info I = nodeOf x 0 0 := by
  rw [masterNode, nodeOf, hkey, hchain, ← take_eq_ofNat hI]
  rfl

theorem hdnodeFromSeed_eq (fuel : Nat) (seed : List UInt8) :
    hdnodeFromSeed fuel seed (cString "secp256k1") =
      (retry (isKey secp256k1) (hmac512 (cString "Bitcoin seed")) fuel
        (hmac512 (cString "Bitcoin seed") seed)).map fun I => some (masterNode secp256k1Info I) := by
  have hnext : hmacSha512 (cString "Bitcoin seed") = hmac512 (cString "Bitcoin seed") :=
    funext (hmacSha512_eq _)
  rw [← hnext]
  simp [hdnodeFromSeed, getCurveByName, secp256k1Info]

/-- The loop settles on the first candidate between zero and the order. -/
theorem settles_isKey_iff {key I J : List UInt8} (hI : I.length = 64) :
    Settles (isKey secp256k1) (hmac512 key) I J ↔
      Settles (fun I => decide (0 < leftHalf I ∧ leftHalf I < n)) (hmac512 key) I J := by
  have hlength : ∀ I, I.length = 64 → (hmac512 key I).length = 64 := fun I _ =>
    length_hmac512 key I
  constructor
  · intro h
    exact h.congr (fun I hI => isKey_eq hI) (fun _ _ => rfl) hlength hI
  · intro h
    exact h.congr (fun I hI => (isKey_eq hI).symm) (fun _ _ => rfl) hlength hI

theorem hdnodeFromSeed_result {fuel : Nat} {seed : List UInt8} {r : Option HDNode}
    (h : hdnodeFromSeed fuel seed (cString "secp256k1") = some r) :
    ∃ x, IsMaster seed x ∧ r = some (nodeOf x 0 0) := by
  rw [hdnodeFromSeed_eq, Option.map_eq_some_iff] at h
  obtain ⟨I, hretry, rfl⟩ := h
  -- the loop ended at the candidate on which the standard settles
  have hsettles := settles_of_retry hretry
  have hI : I.length = 64 := hsettles.invariant (I := fun I => I.length = 64)
    (fun _ _ => length_hmac512 _ _) (length_hmac512 _ _)
  rw [settles_isKey_iff (length_hmac512 _ _)] at hsettles
  -- the candidate is a key, and its two halves make the master key
  have hgood := hsettles.good_of
  simp only [decide_eq_true_eq] at hgood
  let x : ExtendedKey n := ⟨leftHalf I, rightHalf I, hgood.1, hgood.2, length_rightHalf hI⟩
  refine ⟨x, ⟨I, hsettles, rfl, rfl⟩, ?_⟩
  rw [masterNode_eq hI (x := x) rfl rfl]

theorem IsMaster.hdnodeFromSeed {seed : List UInt8} {x : ExtendedKey n} (h : IsMaster seed x) :
    ∃ rounds, ∀ fuel ≥ rounds,
      hdnodeFromSeed fuel seed (cString "secp256k1") = some (some (nodeOf x 0 0)) := by
  obtain ⟨I, hsettles, hkey, hchain⟩ := h
  have hI : I.length = 64 := hsettles.invariant (I := fun I => I.length = 64)
    (fun _ _ => length_hmac512 _ _) (length_hmac512 _ _)
  rw [← settles_isKey_iff (length_hmac512 _ _)] at hsettles
  obtain ⟨rounds, hrounds⟩ := hsettles.retry
  refine ⟨rounds, fun fuel hfuel => ?_⟩
  rw [hdnodeFromSeed_eq, hrounds fuel hfuel, Option.map_some, masterNode_eq hI hkey hchain]

/-! ### Children -/

/-- What the derivation hashes, in terms of keys. -/
theorem firstData_nodeOf (x : ExtendedKey n) (depth childNum i : BitVec 32) :
    ∃ publicKey, firstData ecdsaGetPublicKey33 (nodeOf x depth childNum) i =
      some (childData (publicKeyOf ecdsaGetPublicKey33) x i,
        { nodeOf x depth childNum with publicKey := publicKey }) := by
  by_cases hi : isHardened i
  · refine ⟨noPublicKey, ?_⟩
    simp [firstData, childData, hi, nodeOf]
  · refine ⟨publicKeyOf ecdsaGetPublicKey33 x.key, ?_⟩
    simp [firstData, childData, hi, nodeOf, hdnodeFillPublicKey, noPublicKey, publicKeyOf,
      secp256k1Info]

theorem childNode_eq {I : List UInt8} {x y : ExtendedKey n} {i : BitVec 32} (hI : I.length = 64)
    (hkey : y.key = (leftHalf I + x.key) % n) (hchain : y.chainCode = rightHalf I)
    (depth childNum : BitVec 32) (publicKey : List UInt8) :
    childNode { nodeOf x depth childNum with publicKey := publicKey } i
      (bnWriteBe (childKey secp256k1 (BigEndian.ofNat 32 x.key) I)) I = nodeOf y (depth + 1) i := by
  obtain ⟨hnormalized, hvalue⟩ := value_childKey hI (BigEndian.length_ofNat 32 x.key)
  rw [value_ofNat_key] at hvalue
  have hlt : value (childKey secp256k1 (BigEndian.ofNat 32 x.key) I) < 2 ^ 256 := by
    rw [hvalue, ← hkey]
    exact y.lt.trans n_lt
  rw [childNode, bnWriteBe_eq hnormalized hlt, hvalue, ← hkey]
  simp only [nodeOf, hchain]
  rfl

theorem hdnodePrivateCkd_eq (fuel : Nat) (x : ExtendedKey n) (depth childNum i : BitVec 32) :
    ∃ publicKey, hdnodePrivateCkd ecdsaGetPublicKey33 fuel (nodeOf x depth childNum) i =
      (retry (isChild secp256k1 (BigEndian.ofNat 32 x.key))
        (fun I => hmac512 x.chainCode (1 :: rightHalf I ++ storeBE 4 i)) fuel
        (hmac512 x.chainCode (childData (publicKeyOf ecdsaGetPublicKey33) x i))).map fun I =>
          some (childNode { nodeOf x depth childNum with publicKey := publicKey } i
            (bnWriteBe (childKey secp256k1 (BigEndian.ofNat 32 x.key) I)) I) := by
  obtain ⟨publicKey, hdata⟩ := firstData_nodeOf ecdsaGetPublicKey33 x depth childNum i
  refine ⟨publicKey, ?_⟩
  -- each further candidate is hashed from the right half of the one before
  have hnext : nextCandidate x.chainCode i =
      fun I => hmac512 x.chainCode (1 :: rightHalf I ++ storeBE 4 i) :=
    funext fun I => hmacSha512_eq _ _
  rw [hdnodePrivateCkd, hdata]
  simp only [nodeOf, secp256k1Info, hmacSha512_eq, hnext]

theorem settles_isChild_iff {x : ExtendedKey n} {i : BitVec 32} {I J : List UInt8}
    (hI : I.length = 64) :
    Settles (isChild secp256k1 (BigEndian.ofNat 32 x.key))
        (fun I => hmac512 x.chainCode (1 :: rightHalf I ++ storeBE 4 i)) I J ↔
      Settles (fun I => decide (leftHalf I < n ∧ (leftHalf I + x.key) % n ≠ 0))
        (fun I => hmac512 x.chainCode (1 :: rightHalf I ++ storeBE 4 i)) I J := by
  -- the code looks at limbs, the standard at numbers
  have hgood : ∀ I : List UInt8, I.length = 64 →
      isChild secp256k1 (BigEndian.ofNat 32 x.key) I =
        decide (leftHalf I < n ∧ (leftHalf I + x.key) % n ≠ 0) := by
    intro I hI
    rw [isChild_eq hI (BigEndian.length_ofNat 32 x.key), value_ofNat_key]
  constructor
  · intro h
    exact h.congr hgood (fun _ _ => rfl) (fun _ _ => length_hmac512 _ _) hI
  · intro h
    exact h.congr (fun I hI => (hgood I hI).symm) (fun _ _ => rfl) (fun _ _ => length_hmac512 _ _) hI

theorem hdnodePrivateCkd_result {fuel : Nat} {x : ExtendedKey n} {depth childNum i : BitVec 32}
    {r : Option HDNode}
    (h : hdnodePrivateCkd ecdsaGetPublicKey33 fuel (nodeOf x depth childNum) i = some r) :
    ∃ y, IsChild (publicKeyOf ecdsaGetPublicKey33) x i y ∧ r = some (nodeOf y (depth + 1) i) := by
  obtain ⟨publicKey, hckd⟩ := hdnodePrivateCkd_eq ecdsaGetPublicKey33 fuel x depth childNum i
  rw [hckd, Option.map_eq_some_iff] at h
  obtain ⟨I, hretry, rfl⟩ := h
  have hsettles := settles_of_retry hretry
  -- every candidate is a whole digest
  have hI : I.length = 64 := hsettles.invariant (I := fun I => I.length = 64)
    (fun _ _ => length_hmac512 _ _) (length_hmac512 _ _)
  rw [settles_isChild_iff (length_hmac512 _ _)] at hsettles
  have hgood := hsettles.good_of
  simp only [decide_eq_true_eq] at hgood
  -- the key of the child is the sum, which is not zero
  let y : ExtendedKey n := ⟨(leftHalf I + x.key) % n, rightHalf I, Nat.pos_of_ne_zero hgood.2,
    Nat.mod_lt _ (x.pos.trans x.lt), length_rightHalf hI⟩
  refine ⟨y, ⟨I, hsettles, rfl, rfl⟩, ?_⟩
  rw [childNode_eq hI (y := y) rfl rfl]

theorem IsChild.hdnodePrivateCkd {x y : ExtendedKey n} {i : BitVec 32}
    (h : IsChild (publicKeyOf ecdsaGetPublicKey33) x i y) (depth childNum : BitVec 32) :
    ∃ rounds, ∀ fuel ≥ rounds,
      hdnodePrivateCkd ecdsaGetPublicKey33 fuel (nodeOf x depth childNum) i =
        some (some (nodeOf y (depth + 1) i)) := by
  obtain ⟨I, hsettles, hkey, hchain⟩ := h
  have hI : I.length = 64 := hsettles.invariant (I := fun I => I.length = 64)
    (fun _ _ => length_hmac512 _ _) (length_hmac512 _ _)
  rw [← settles_isChild_iff (length_hmac512 _ _)] at hsettles
  obtain ⟨rounds, hrounds⟩ := hsettles.retry
  refine ⟨rounds, fun fuel hfuel => ?_⟩
  obtain ⟨publicKey, hckd⟩ := hdnodePrivateCkd_eq ecdsaGetPublicKey33 fuel x depth childNum i
  rw [hckd, hrounds fuel hfuel, Option.map_some, childNode_eq hI hkey hchain]

/-! ### Paths -/

/-- The depth after one more step. -/
theorem add_length_cons (depth i : BitVec 32) (path : List (BitVec 32)) :
    depth + BitVec.ofNat 32 (i :: path).length = depth + 1 + BitVec.ofNat 32 path.length := by
  rw [List.length_cons, BitVec.ofNat_add, BitVec.add_assoc, BitVec.add_comm 1]
  rfl

theorem privateCkdPath_result {fuel : Nat} {path : List (BitVec 32)} {x : ExtendedKey n}
    {depth childNum : BitVec 32} {r : Option HDNode}
    (h : privateCkdPath ecdsaGetPublicKey33 fuel (nodeOf x depth childNum) path = some r) :
    ∃ y, IsDescendant (publicKeyOf ecdsaGetPublicKey33) x path y ∧
      r = some (nodeOf y (depth + BitVec.ofNat 32 path.length) (path.getLastD childNum)) := by
  -- along the path, with the child as the root of the rest
  induction path generalizing x depth childNum with
  | nil =>
    simp only [privateCkdPath, Option.some.injEq] at h
    exact ⟨x, rfl, by simp [← h]⟩
  | cons i path ih =>
    rw [privateCkdPath] at h
    cases hckd : hdnodePrivateCkd ecdsaGetPublicKey33 fuel (nodeOf x depth childNum) i with
    | none => simp [hckd] at h
    | some child =>
      obtain ⟨y, hchild, rfl⟩ := hdnodePrivateCkd_result ecdsaGetPublicKey33 hckd
      rw [hckd] at h
      obtain ⟨z, hdescendant, rfl⟩ := ih h
      refine ⟨z, ⟨y, hchild, hdescendant⟩, ?_⟩
      rw [add_length_cons, List.getLastD_cons]

theorem IsDescendant.privateCkdPath {path : List (BitVec 32)} {x y : ExtendedKey n}
    (h : IsDescendant (publicKeyOf ecdsaGetPublicKey33) x path y) (depth childNum : BitVec 32) :
    ∃ rounds, ∀ fuel ≥ rounds,
      privateCkdPath ecdsaGetPublicKey33 fuel (nodeOf x depth childNum) path =
        some (some (nodeOf y (depth + BitVec.ofNat 32 path.length) (path.getLastD childNum))) := by
  induction path generalizing x depth childNum with
  | nil =>
    obtain rfl : x = y := h
    exact ⟨0, fun fuel _ => by simp [Bip32.privateCkdPath]⟩
  | cons i path ih =>
    obtain ⟨child, hchild, hdescendant⟩ := h
    obtain ⟨first, hfirst⟩ := hchild.hdnodePrivateCkd ecdsaGetPublicKey33 depth childNum
    obtain ⟨rest, hrest⟩ := ih hdescendant (depth + 1) i
    -- enough rounds for the first index and for the others
    refine ⟨max first rest, fun fuel hfuel => ?_⟩
    rw [Bip32.privateCkdPath, hfirst fuel (le_of_max_le_left hfuel)]
    simp only [hrest fuel (le_of_max_le_right hfuel)]
    rw [add_length_cons, List.getLastD_cons]

/-- From a seed and a path the code comes to a node if and only if there is a key there, where the
public keys of keys have another description. -/
theorem path_iff {serP : Nat → List UInt8}
    (hser : ∀ k, 0 < k → k < n → publicKeyOf ecdsaGetPublicKey33 k = serP k)
    (seed : List UInt8) (path : List (BitVec 32)) (r : Option HDNode) :
    (∃ fuel master, hdnodeFromSeed fuel seed (cString "secp256k1") = some (some master) ∧
        privateCkdPath ecdsaGetPublicKey33 fuel master path = some r) ↔
      ∃ x y, IsMaster seed x ∧ IsDescendant serP x path y ∧
        r = some (nodeOf y (BitVec.ofNat 32 path.length) (path.getLastD 0)) := by
  constructor
  · rintro ⟨fuel, master, hseed, hpath⟩
    -- what the code finds is there
    obtain ⟨x, hmaster, hnode⟩ := hdnodeFromSeed_result hseed
    obtain rfl := Option.some.inj hnode
    obtain ⟨y, hdescendant, rfl⟩ := privateCkdPath_result ecdsaGetPublicKey33 hpath
    exact ⟨x, y, hmaster, (isDescendant_congr hser).mp hdescendant, by simp⟩
  · rintro ⟨x, y, hmaster, hdescendant, rfl⟩
    -- what is there is found, with enough rounds
    obtain ⟨first, hfirst⟩ := hmaster.hdnodeFromSeed
    obtain ⟨rest, hrest⟩ :=
      ((isDescendant_congr hser).mpr hdescendant).privateCkdPath ecdsaGetPublicKey33 0 0
    refine ⟨max first rest, nodeOf x 0 0, hfirst _ (le_max_left _ _), ?_⟩
    rw [hrest _ (le_max_right _ _)]
    simp

/-- **The nodes of paths are the keys of paths.** From a seed and a path the code comes to a node if
and only if there is a key there, and the node is that of the key: its private key is a number
between one and the order of the group, on 32 bytes. -/
theorem keys_of_path (seed : List UInt8) (path : List (BitVec 32)) (r : Option HDNode) :
    (∃ fuel master, hdnodeFromSeed fuel seed (cString "secp256k1") = some (some master) ∧
        privateCkdPath ecdsaGetPublicKey33 fuel master path = some r) ↔
      ∃ x y, IsMaster seed x ∧ IsDescendant (publicKeyOf ecdsaGetPublicKey33) x path y ∧
        r = some (nodeOf y (BitVec.ofNat 32 path.length) (path.getLastD 0)) :=
  path_iff ecdsaGetPublicKey33 (fun _ _ _ => rfl) seed path r

end Nodes

end RlyNetworkSdk.Crypto.Bip32
