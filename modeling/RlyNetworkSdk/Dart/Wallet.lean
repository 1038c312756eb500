import RlyNetworkSdk.Dart.WalletManager
import RlyNetworkSdk.Dart.Web3dart

/-!
# `wallet.dart`

A `Wallet` is an `EthPrivateKey` made of a hexadecimal text. Its key is used as bytes, as a
number, and, for signing typed data, as a hexadecimal text again.
-/

namespace RlyNetworkSdk.Dart

open Encoding

namespace Wallet

variable (w3 : Web3dart) (wallet : Wallet)

/-- `privateKey`: the bytes of the text that `fromHex` was given, if it is hexadecimal. -/
def privateKey : Option (List UInt8) := w3.hexToBytes wallet.hex

/-- `privateKeyInt` -/
def privateKeyInt : Option Nat := (privateKey w3 wallet).map BigEndian.value

/-- `address` -/
def address : Option EthereumAddress := (privateKey w3 wallet).map w3.addressOfKey

/-- The `privateKey` argument that `signTypedData` hands to `EthSigUtil`: the same bytes, as a
text again. -/
def signingKey : Option String := (privateKey w3 wallet).map prefixedHex

end Wallet

/-! ## Byte lists as texts -/

/-- The wallet of a byte list, as a text behind `0x`. -/
theorem hex_walletOfPrivateKey (bs : List UInt8) :
    (walletOfPrivateKey bs).hex = prefixedHex bs := by
  apply String.toList_inj.mp
  rw [walletOfPrivateKey, bytesToHex, Wallet.fromHex, prefixedHex, String.toList_append]
  simp only [String.toList_ofList]
  rfl

/-- **The key survives the text.** The number that the wallet signs with is the one of the bytes
that it was made of, for any bytes, leading zeros included. -/
theorem privateKeyInt_walletOfPrivateKey (w3 : Web3dart) (bs : List UInt8) :
    (walletOfPrivateKey bs).privateKeyInt w3 = some (BigEndian.value bs) := by
  rw [Wallet.privateKeyInt, Wallet.privateKey, hex_walletOfPrivateKey,
    w3.hexToBytes_prefixedHex]
  rfl

theorem signingKey_walletOfPrivateKey (w3 : Web3dart) (bs : List UInt8) :
    (walletOfPrivateKey bs).signingKey w3 = some (prefixedHex bs) := by
  rw [Wallet.signingKey, Wallet.privateKey, hex_walletOfPrivateKey, w3.hexToBytes_prefixedHex]
  rfl

end RlyNetworkSdk.Dart
