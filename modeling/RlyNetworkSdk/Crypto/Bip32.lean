import RlyNetworkSdk.Crypto.Hmac
import RlyNetworkSdk.Crypto.Secp256k1
import RlyNetworkSdk.Crypto.Bip39English
import RlyNetworkSdk.Transition.Retry

/-!
# `bip32.c`

Nodes of the tree of keys: the node of a seed, and private child derivation. Both hash until a
candidate is a key of the curve, with a loop that has no bound; its rounds are the argument `fuel`
here, and no result means that the loop goes on. The compressed public key of a private key
(`ecdsa_get_public_key33`) is an argument.
-/

namespace RlyNetworkSdk.Crypto.Bip32

open Encoding Bignum Bip39 Hmac Transition

/-! ## Curves and Nodes -/

/-- `ecdsa_curve`, as far as the derivation of private keys looks at it. -/
structure EcdsaCurve where
  prime : Bignum256
  order : Bignum256
deriving DecidableEq

/-- `curve_info`: the key of the first HMAC, and the parameters. There are no parameters for a
curve without ECDSA. -/
structure CurveInfo where
  bip32Name : List UInt8
  params : Option EcdsaCurve
deriving DecidableEq

def secp256k1 : EcdsaCurve where
  prime := fieldPrime
  order := groupOrder

def secp256k1Info : CurveInfo where
  bip32Name := cString "Bitcoin seed"
  params := some secp256k1

def getCurveByName (curveName : List UInt8) : Option CurveInfo :=
  if curveName = cString "secp256k1" then some secp256k1Info else none

structure HDNode where
  depth : BitVec 32
  childNum : BitVec 32
  chainCode : List UInt8
  privateKey : List UInt8
  publicKey : List UInt8
  curve : CurveInfo
deriving DecidableEq

/-- A public key that has not been computed. The source tells it by its first byte, which is two
or three in any other. -/
def noPublicKey : List UInt8 := List.replicate 33 0

/-! ## The Node of a Seed -/

/-- A candidate is a key: it is not zero, and below the order. The source hashes on until one
is. -/
def isKey (params : EcdsaCurve) (I : List UInt8) : Bool :=
  let a := bnReadBe (I.take 32)
  !bnIsZero a && bnIsLess a params.order

/-- The node that `I` becomes: its left half is the private key, its right half the chain code. -/
def masterNode (curve : CurveInfo) (I : List UInt8) : HDNode where
  depth := 0
  childNum := 0
  chainCode := I.drop 32
  privateKey := I.take 32
  publicKey := noPublicKey
  curve := curve

/-- `hdnode_from_seed`, whose loop takes a turn for each candidate. The outer option is the
loop, the inner one the success of the function. -/
def hdnodeFromSeed (fuel : Nat) (seed curve : List UInt8) : Option (Option HDNode) :=
  match getCurveByName curve with
  | none => some none
  | some curve =>
    let I := hmacSha512 curve.bip32Name seed
    match curve.params with
    | none => some (some (masterNode curve I))
    | some params =>
      (retry (isKey params) (hmacSha512 curve.bip32Name) fuel I).map fun I =>
        some (masterNode curve I)

/-! ## Private Child Derivation -/

section Derivation

variable (ecdsaGetPublicKey33 : EcdsaCurve → List UInt8 → List UInt8)

def hdnodeFillPublicKey (node : HDNode) : HDNode :=
  if node.publicKey.getD 0 0 ≠ 0 then node
  else
    match node.curve.params with
    | some params => { node with publicKey := ecdsaGetPublicKey33 params node.privateKey }
    | none => node

/-- The bit of an index that asks for private derivation, which is the highest one. -/
def isHardened (i : BitVec 32) : Bool := i &&& 0x80000000 != 0

/-- What is hashed first, and the node afterwards. Without a public key there is no public
derivation. -/
def firstData (inout : HDNode) (i : BitVec 32) : Option (List UInt8 × HDNode) :=
  if isHardened i then some (0 :: inout.privateKey ++ storeBE 4 i, inout)
  else if inout.curve.params.isNone then none
  else
    let inout := hdnodeFillPublicKey ecdsaGetPublicKey33 inout
    some (inout.publicKey ++ storeBE 4 i, inout)

/-- The sum of the candidate and the parent's key, fully reduced by the order. -/
def childKey (params : EcdsaCurve) (privateKey I : List UInt8) : Bignum256 :=
  bnMod (bnAddmod (bnReadBe (I.take 32)) (bnReadBe privateKey) params.order) params.order

/-- A candidate is below the order, and the sum is not zero. Otherwise there is a next
candidate, as for the master key. -/
def isChild (params : EcdsaCurve) (privateKey I : List UInt8) : Bool :=
  bnIsLess (bnReadBe (I.take 32)) params.order && !bnIsZero (childKey params privateKey I)

/-- What is hashed after a candidate that failed: its own right half, behind a one and before
the index. -/
def nextCandidate (chainCode : List UInt8) (i : BitVec 32) (I : List UInt8) : List UInt8 :=
  hmacSha512 chainCode (1 :: I.drop 32 ++ storeBE 4 i)

def childNode (inout : HDNode) (i : BitVec 32) (privateKey I : List UInt8) : HDNode :=
  { inout with
    privateKey := privateKey
    chainCode := I.drop 32
    depth := inout.depth + 1
    childNum := i
    publicKey := noPublicKey }

/-- `hdnode_private_ckd`. The outer option is the loop, the inner one the success of the
function, which the caller sees. -/
def hdnodePrivateCkd (fuel : Nat) (inout : HDNode) (i : BitVec 32) : Option (Option HDNode) :=
  match firstData ecdsaGetPublicKey33 inout i with
  | none => some none
  | some (data, inout) =>
    let I := hmacSha512 inout.chainCode data
    match inout.curve.params with
    | none => some (some (childNode inout i (I.take 32) I))
    | some params =>
      (retry (isChild params inout.privateKey) (nextCandidate inout.chainCode i) fuel I).map
        fun I => some (childNode inout i (bnWriteBe (childKey params inout.privateKey I)) I)

/-- The derivations along a path, as `hdnode_private_ckd_cached` makes them. -/
def privateCkdPath (fuel : Nat) (inout : HDNode) : List (BitVec 32) → Option (Option HDNode)
  | [] => some (some inout)
  | i :: path =>
    match hdnodePrivateCkd ecdsaGetPublicKey33 fuel inout i with
    | none => none
    | some none => some none
    | some (some child) => privateCkdPath fuel child path

end Derivation

end RlyNetworkSdk.Crypto.Bip32
