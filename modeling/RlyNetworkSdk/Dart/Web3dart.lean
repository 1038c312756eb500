import RlyNetworkSdk.Dart.Numbers
import RlyNetworkSdk.Evm.Abi
import Mathlib.Algebra.Order.Ring.Int

/-!
# The Packages `web3dart` and `eth_sig_util`

Addresses, hexadecimal texts, hashes and signatures come from packages outside the
repository. What the code relies on is a structure with the documented behaviour as fields:
a hexadecimal text is read with or without `0x` in front of it, an address is twenty bytes.
Only where the documentation fixes the result for every input is it a definition instead:
`bytesToHex`, the lower-case digits that an address prints, and `encodeCall`, which is
assumed to encode by the contract ABI.
-/

namespace RlyNetworkSdk.Dart

open Encoding Evm

/-! ## Hexadecimal texts -/

/-- The text stands for the bytes: two digits for each, optionally behind `0x`. -/
def HexText (s : String) (bs : List UInt8) : Prop :=
  ∃ cs, Hex.decode cs = some bs ∧ (s.toList = '0' :: 'x' :: cs ∨ s.toList = cs)

theorem hexText_prefixedHex (bs : List UInt8) : HexText (prefixedHex bs) bs :=
  ⟨Hex.encode bs, Hex.decode_encode bs, .inl String.toList_ofList⟩

/-- No byte begins with the digits `0x`. -/
theorem decode_prefixed (cs : List Char) : Hex.decode ('0' :: 'x' :: cs) = none := by
  have hx : readDigit 16 'x' = none := by decide
  simp [Hex.decode, hx]

/-! ## Addresses -/

/-- `EthereumAddress` -/
structure EthereumAddress where
  addressBytes : List UInt8
  length_addressBytes : addressBytes.length = 20
  deriving DecidableEq

namespace EthereumAddress

/-- `hex`, documented as the forty digits in lower case behind `0x`. -/
def hex (a : EthereumAddress) : String := prefixedHex a.addressBytes

/-- The address as a number. -/
def toNat (a : EthereumAddress) : Nat := BigEndian.value a.addressBytes

theorem addressBytes_ne_nil (a : EthereumAddress) : a.addressBytes ≠ [] := by
  intro h
  have hlen := a.length_addressBytes
  rw [h] at hlen
  cases hlen

theorem toNat_lt (a : EthereumAddress) : a.toNat < 2 ^ 160 := by
  have h := BigEndian.value_lt a.addressBytes
  rw [a.length_addressBytes] at h
  exact h

theorem toNat_injective : Function.Injective toNat := by
  rintro ⟨as, has⟩ ⟨bs, hbs⟩ h
  obtain rfl := BigEndian.eq_of_value_eq (has.trans hbs.symm) h
  rfl

end EthereumAddress

/-! ## The packages -/

/-- What the code uses of `web3dart`. -/
structure Web3dart where
  /-- `hexToBytes`; no value where it throws. -/
  hexToBytes : String → Option (List UInt8)
  /-- `EthereumAddress.fromHex`; no value where it throws. -/
  fromHex : String → Option EthereumAddress
  /-- The address of a private key. -/
  addressOfKey : List UInt8 → EthereumAddress
  keccak256 : List UInt8 → List UInt8
  /-- The word of a `BigInt` as an argument of type `uint<bits>`. That it is in the range is
  an `assert`: without assertions there are words for other numbers too. -/
  encodeUint : Nat → Int → Option Abi.Word
  /-- Digits with or without `0x`, and nothing else. -/
  hexToBytes_eq_some_iff : ∀ s bs, hexToBytes s = some bs ↔ HexText s bs
  /-- An accepted text is one of the twenty bytes. Mixed-case texts must also carry the right
  checksum. -/
  hexText_of_fromHex : ∀ s a, fromHex s = some a → HexText s a.addressBytes
  /-- The text of an address is accepted. -/
  fromHex_hex : ∀ a : EthereumAddress, fromHex a.hex = some a
  length_keccak256 : ∀ bs, (keccak256 bs).length = 32
  encodeUint_of_fits : ∀ bits n, bits ≤ 256 → 0 ≤ n → n < 2 ^ bits →
    encodeUint bits n = some (BitVec.ofInt 256 n)

@[simp] theorem Web3dart.hexToBytes_prefixedHex (w3 : Web3dart) (bs : List UInt8) :
    w3.hexToBytes (prefixedHex bs) = some bs :=
  (w3.hexToBytes_eq_some_iff _ _).mpr (hexText_prefixedHex bs)

/-! ## An instance -/

namespace Sample

/-- The digits behind an optional `0x`. -/
def strip0x : List Char → List Char
  | '0' :: 'x' :: cs => cs
  | cs => cs

def hexToBytes (s : String) : Option (List UInt8) := Hex.decode (strip0x s.toList)

def fromHex (s : String) : Option EthereumAddress :=
  (hexToBytes s).bind fun bs => if h : bs.length = 20 then some ⟨bs, h⟩ else none

theorem hexToBytes_eq_some_iff (s : String) (bs : List UInt8) :
    hexToBytes s = some bs ↔ HexText s bs := by
  unfold hexToBytes HexText
  generalize s.toList = cs
  constructor
  · intro h
    refine ⟨strip0x cs, h, ?_⟩
    unfold strip0x
    split
    · exact .inl rfl
    · exact .inr rfl
  · rintro ⟨ds, hds, rfl | rfl⟩
    · exact hds
    · unfold strip0x
      split
      · next ds => rw [decode_prefixed] at hds; cases hds
      · exact hds

/-- `bitLength` of a negative number -/
def bitLength (n : Int) : Nat := if n = -1 then 0 else (-n - 1).toNat.log2 + 1

/-- A negative number in two's complement, in as few bytes as will do. -/
def encodeBigIntAsUnsigned (n : Int) : Int := n % 256 ^ ((bitLength n + 8) / 8)

/-- The word of a negative number without assertions. -/
def unsignedWord (n : Int) : Option Abi.Word := some (BitVec.ofInt 256 (encodeBigIntAsUnsigned n))

/-- `UintType.encode`, with these words for negative numbers. -/
def encodeUint (place : Int → Option Abi.Word) (n : Int) : Option Abi.Word :=
  if n < 0 then place n else if n < 2 ^ 256 then some (BitVec.ofInt 256 n) else none

/-- The packages with these keys and hashes, and these words for negative numbers. -/
def web3dart (addressOfKey : List UInt8 → EthereumAddress)
    (keccak256 : List UInt8 → Vector UInt8 32) (place : Int → Option Abi.Word) : Web3dart where
  hexToBytes := hexToBytes
  fromHex := fromHex
  addressOfKey := addressOfKey
  keccak256 bs := (keccak256 bs).toList
  encodeUint _ := encodeUint place
  hexToBytes_eq_some_iff := hexToBytes_eq_some_iff
  hexText_of_fromHex s a h := by
    obtain ⟨bs, hbs, h⟩ := Option.bind_eq_some_iff.mp h
    split at h
    · obtain rfl := Option.some.inj h
      exact (hexToBytes_eq_some_iff s bs).mp hbs
    · cases h
  fromHex_hex a := by
    have hbytes := (hexToBytes_eq_some_iff a.hex a.addressBytes).mpr (hexText_prefixedHex _)
    rw [fromHex, hbytes, Option.bind_some, dif_pos a.length_addressBytes]
  length_keccak256 bs := by simp
  encodeUint_of_fits bits n hbits hlo hhi := by
    have hpow : (2 : Int) ^ bits ≤ 2 ^ 256 := pow_le_pow_right₀ (by decide) hbits
    have hword : n < 2 ^ 256 := lt_of_lt_of_le hhi hpow
    rw [encodeUint, if_neg (by omega), if_pos hword]

end Sample

end RlyNetworkSdk.Dart
