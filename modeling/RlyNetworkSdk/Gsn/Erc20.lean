import RlyNetworkSdk.Gsn.RelayRequest

/-!
# Calls of the Token Contract

The functions of the ERC-20 contract that a transfer calls, the three parts of a signature
that they are handed, and how these come back out of the calldata.
-/

namespace RlyNetworkSdk.Gsn

open Encoding Evm Dart

/-! ## `erc20Data.dart` -/

namespace Erc20

def transfer : ContractFunction where
  name := "transfer"
  inputs := [.leaf "recipient" "address", .leaf "amount" "uint256"]

def transferFrom : ContractFunction where
  name := "transferFrom"
  inputs := [.leaf "sender" "address", .leaf "recipient" "address", .leaf "amount" "uint256"]

def permit : ContractFunction where
  name := "permit"
  inputs :=
    [.leaf "owner" "address", .leaf "spender" "address", .leaf "value" "uint256",
      .leaf "deadline" "uint256", .leaf "v" "uint8", .leaf "r" "bytes32", .leaf "s" "bytes32"]

def executeMetaTransaction : ContractFunction where
  name := "executeMetaTransaction"
  inputs :=
    [.leaf "userAddress" "address", .leaf "functionSignature" "bytes", .leaf "sigR" "bytes32",
      .leaf "sigS" "bytes32", .leaf "sigV" "uint8"]

end Erc20

/-! ## The parts of a signature -/

/-- The map with the keys `r`, `s` and `v`. -/
structure Rsv where
  r : List UInt8
  s : List UInt8
  v : UInt8

/-- `signature.startsWith('0x') ? signature.substring(2) : signature` -/
def cleanSignature (signature : String) : String :=
  if hexPrefixed signature then String.ofList (signature.toList.drop 2) else signature

/-- Cut the bytes of a signature; no value where they are too few. What is behind the first 65
bytes is not looked at. -/
def rsvOf (w3 : Web3dart) (signature : String) : Option Rsv := do
  let signatureBytes ← w3.hexToBytes (cleanSignature signature)
  let v ← signatureBytes[64]?
  return ⟨signatureBytes.take 32, (signatureBytes.drop 32).take 32, v⟩

theorem cleanSignature_prefixedHex (bs : List UInt8) :
    cleanSignature (prefixedHex bs) = String.ofList (Hex.encode bs) := by
  have hprefix : hexPrefixed (prefixedHex bs) = true := by
    rw [hexPrefixed, prefixedHex, String.toList_ofList]
    rfl
  rw [cleanSignature, if_pos hprefix, prefixedHex, String.toList_ofList]
  rfl

/-- **The parts make up the signature**, in the order in which they are cut. -/
theorem rsvOf_prefixedHex (w3 : Web3dart) {bs : List UInt8} (hlen : bs.length = 65) :
    ∃ rsv, rsvOf w3 (prefixedHex bs) = some rsv ∧ rsv.r.length = 32 ∧ rsv.s.length = 32 ∧
      rsv.r ++ rsv.s ++ [rsv.v] = bs := by
  have htext : HexText (String.ofList (Hex.encode bs)) bs :=
    ⟨Hex.encode bs, Hex.decode_encode bs, .inr String.toList_ofList⟩
  have hbytes := (w3.hexToBytes_eq_some_iff _ _).mpr htext
  have hv : bs[64]? = some bs[64] := List.getElem?_eq_getElem (by omega)
  refine ⟨⟨bs.take 32, (bs.drop 32).take 32, bs[64]⟩, ?_, ?_, ?_, ?_⟩
  · rw [rsvOf, cleanSignature_prefixedHex, hbytes]
    simp [hv]
  · simp [hlen]
  · simp [hlen]
  · -- the last part is what is left after 64 bytes
    have hlast : [bs[64]] = bs.drop 64 := by
      rw [List.drop_eq_getElem_cons (by omega), List.drop_of_length_le (by omega)]
    rw [hlast, ← List.take_add, List.take_append_drop]

/-! ## Arguments of a call -/

section Arguments

variable {w3 : Web3dart}

/-- The word of an address. -/
def addressWord (a : EthereumAddress) : Abi.Word := BitVec.ofNat 256 a.toNat

/-- The word of a number. -/
def uintWord (n : Nat) : Abi.Word := BitVec.ofNat 256 n

/-- The word of 32 bytes. -/
def bytesWord (bs : List UInt8) : Abi.Word := BitVec.ofNat 256 (BigEndian.value bs)

theorem leafValue_address (a : EthereumAddress) :
    leafValue w3 "address" (.address a) = some (.word (addressWord a)) := rfl

theorem leafValue_uint256 {n : Nat} (hn : n < 2 ^ 256) :
    leafValue w3 "uint256" (.bigInt n) = some (.word (uintWord n)) := by
  have hargument := leafValue_argument w3 (.uint (uintWord n))
  rw [Content.argument, uintWord, BitVec.toNat_ofNat, Nat.mod_eq_of_lt hn] at hargument
  exact hargument

theorem leafValue_uint8 (b : UInt8) :
    leafValue w3 "uint8" (.bigInt b.toNat) = some (.word (uintWord b.toNat)) := by
  have hb : (b.toNat : Int) < 2 ^ 8 := by exact_mod_cast b.toNat_lt
  have hencode := w3.encodeUint_of_fits 8 b.toNat (by decide) (Int.natCast_nonneg _) hb
  rw [BitVec.ofInt_natCast] at hencode
  simp [leafValue, hencode, uintWord]

theorem leafValue_bytes (bs : List UInt8) : leafValue w3 "bytes" (.bytes bs) = some (.bytes bs) :=
  rfl

theorem leafValue_bytes32 {bs : List UInt8} (hlen : bs.length = 32) :
    leafValue w3 "bytes32" (.bytes bs) = some (.word (bytesWord bs)) := by
  simp [leafValue, hlen, bytesWord]

/-- A word gives back the bytes that it was made of. -/
theorem bytes_bytesWord {bs : List UInt8} (hlen : bs.length = 32) :
    (bytesWord bs).bytes = bs := by
  have hlt := BigEndian.value_lt bs
  rw [hlen] at hlt
  have hmod : BigEndian.value bs % 2 ^ 256 = BigEndian.value bs :=
    Nat.mod_eq_of_lt (lt_of_lt_of_le hlt (by decide))
  rw [bytesWord, Abi.Word.bytes, BitVec.toNat_ofNat, hmod, ← hlen, BigEndian.ofNat_value]

namespace Erc20

/-- The words of a transfer, whatever word there is for the amount. -/
theorem argumentValues_transfer_word (recipient : EthereumAddress) {amount : Int}
    {word : Abi.Word} (hword : w3.encodeUint 256 amount = some word) :
    argumentValues w3 transfer.inputs [.address recipient, .bigInt amount] =
      some [.word (addressWord recipient), .word word] := by
  have hleaf : leafValue w3 "uint256" (.bigInt amount) = some (.word word) := by
    simp [leafValue, hword]
  simp [transfer, argumentValues, Parameter.leaf, Parameter.value, leafValue_address, hleaf]

theorem argumentValues_transfer (recipient : EthereumAddress) {amount : Nat}
    (hamount : amount < 2 ^ 256) :
    argumentValues w3 transfer.inputs [.address recipient, .bigInt amount] =
      some [.word (addressWord recipient), .word (uintWord amount)] := by
  have hfits := w3.encodeUint_of_fits 256 amount (Nat.le_refl 256) (Int.natCast_nonneg _)
    (by exact_mod_cast hamount)
  rw [BitVec.ofInt_natCast] at hfits
  exact argumentValues_transfer_word recipient hfits

theorem argumentValues_transferFrom (sender recipient : EthereumAddress) {amount : Nat}
    (hamount : amount < 2 ^ 256) :
    argumentValues w3 transferFrom.inputs [.address sender, .address recipient, .bigInt amount] =
      some [.word (addressWord sender), .word (addressWord recipient),
        .word (uintWord amount)] := by
  simp [transferFrom, argumentValues, Parameter.leaf, Parameter.value, leafValue_address,
    leafValue_uint256 hamount]

theorem argumentValues_permit (owner spender : EthereumAddress) {value deadline : Nat} {rsv : Rsv}
    (hvalue : value < 2 ^ 256) (hdeadline : deadline < 2 ^ 256) (hr : rsv.r.length = 32)
    (hs : rsv.s.length = 32) :
    argumentValues w3 permit.inputs [.address owner, .address spender, .bigInt value,
      .bigInt deadline, .bigInt rsv.v.toNat, .bytes rsv.r, .bytes rsv.s] =
      some [.word (addressWord owner), .word (addressWord spender), .word (uintWord value),
        .word (uintWord deadline), .word (uintWord rsv.v.toNat), .word (bytesWord rsv.r),
        .word (bytesWord rsv.s)] := by
  simp [permit, argumentValues, Parameter.leaf, Parameter.value, leafValue_address,
    leafValue_uint256 hvalue, leafValue_uint256 hdeadline, leafValue_uint8, leafValue_bytes32 hr,
    leafValue_bytes32 hs]

theorem argumentValues_executeMetaTransaction (userAddress : EthereumAddress)
    (functionSignature : List UInt8) {rsv : Rsv} (hr : rsv.r.length = 32)
    (hs : rsv.s.length = 32) :
    argumentValues w3 executeMetaTransaction.inputs [.address userAddress,
      .bytes functionSignature, .bytes rsv.r, .bytes rsv.s, .bigInt rsv.v.toNat] =
      some [.word (addressWord userAddress), .bytes functionSignature, .word (bytesWord rsv.r),
        .word (bytesWord rsv.s), .word (uintWord rsv.v.toNat)] := by
  simp [executeMetaTransaction, argumentValues, Parameter.leaf, Parameter.value,
    leafValue_address, leafValue_bytes, leafValue_uint8, leafValue_bytes32 hr,
    leafValue_bytes32 hs]

/-- What is encoded for known values of short arguments is read back as these. The bound keeps
offsets and lengths within a word. -/
theorem decodeCall_of_argumentValues {f : ContractFunction} {args : List Arg}
    {vs : List Abi.Value} {data : List UInt8} (hvs : argumentValues w3 f.inputs args = some vs)
    (h : f.encodeCall w3 args = some data) (hweight : weights args < 2 ^ 255) :
    f.decodeCall w3 data = some vs := by
  have hlen := ContractFunction.length_encodeCall_le_weights h
  exact ContractFunction.decodeCall_of_encodeCall h (by omega) hvs

end Erc20

end Arguments

end RlyNetworkSdk.Gsn
