import RlyNetworkSdk.Dart.Wallet
import RlyNetworkSdk.Platform.Backend
import Mathlib.Data.Nat.Size

/-!
# The Private Key on Its Way from the Plugin to the Wallet

Android sends the shortest two's complement form of the key, each byte masked with `0xFF`;
iOS sends the 32 bytes of the HD node key. The Dart side parses the integers, keeps the low
eight bits of each, and makes a hexadecimal text of them, which `Wallet.fromHex` reads.
Android's list can be one byte longer than 32 (a sign byte) or shorter.
-/

namespace RlyNetworkSdk.Platform

open Encoding Channel Dart

/-! ## Byte lists -/

/-- The bytes that `toByteArray` gives are as many as the number needs, with its sign bit. -/
def byteCount (n : Nat) : Nat := n.size / 8 + 1

theorem byteCount_pos (n : Nat) : 0 < byteCount n := Nat.succ_pos _

theorem lt_pow_byteCount (n : Nat) : n < 256 ^ byteCount n := by
  have hbits : n.size ≤ 8 * byteCount n := by
    unfold byteCount
    omega
  have hpow : (2 : Nat) ^ (8 * byteCount n) = 256 ^ byteCount n := by
    rw [pow_mul]
    norm_num
  exact lt_of_lt_of_eq (Nat.size_le.mp hbits) hpow

/-- The sign of a byte does not survive the mask. -/
theorem masked_byte (n : Nat) :
    UInt8.ofNat (((n : Int).bmod 256 % 256) % 256).toNat = UInt8.ofNat n := by
  have hmask : (n : Int).bmod 256 % 256 = (n : Int) % 256 := Int.bmod_emod
  apply UInt8.toNat.inj
  rw [hmask, UInt8.toNat_ofNat', UInt8.toNat_ofNat']
  omega

/-- **Masked and cut to eight bits, the two's complement bytes are the unsigned ones.** There
may be a leading zero, which is the byte of the sign, and leading zeros may be missing. -/
theorem uint8List_android (n : Nat) :
    KeyManager.uint8List ((Android.toByteArray n).map (· % 256)) =
      BigEndian.ofNat (byteCount n) n := by
  rw [BigEndian.ofNat_eq_map_range, KeyManager.uint8List, Android.toByteArray, List.map_map,
    List.map_map]
  refine List.map_congr_left fun i _ => ?_
  simp only [Function.comp_apply]
  exact masked_byte (n / 256 ^ i)

theorem uint8List_ios (bytes : Vector UInt8 32) :
    KeyManager.uint8List (bytes.toList.map fun b => (b.toNat : Int)) = bytes.toList := by
  rw [KeyManager.uint8List, List.map_map]
  refine List.map_id'' (fun b => ?_) _
  have hb := b.toNat_lt
  change UInt8.ofNat ((b.toNat : Int) % 256).toNat = b
  apply UInt8.toNat.inj
  rw [UInt8.toNat_ofNat']
  omega

/-! ## The wallets -/

/-- The wallet has private key `key`: its integer is `key`, and so is the number that the
text handed to `EthSigUtil` denotes. -/
def HasKey (w3 : Web3dart) (wallet : Wallet) (key : Nat) : Prop :=
  wallet.privateKeyInt w3 = some key ∧
    ∃ text, wallet.signingKey w3 = some text ∧ bigIntParse text = some (key : Int)

/-- A byte list that stands for the key makes a wallet that has it. -/
theorem hasKey_walletOfPrivateKey (w3 : Web3dart) {len key : Nat} (hlen : 0 < len)
    (hkey : key < 256 ^ len) :
    HasKey w3 (walletOfPrivateKey (BigEndian.ofNat len key)) key := by
  have hvalue := BigEndian.value_ofNat_of_lt hkey
  have hne : BigEndian.ofNat len key ≠ [] := by
    apply List.ne_nil_of_length_pos
    rw [BigEndian.length_ofNat]
    exact hlen
  refine ⟨?_, prefixedHex (BigEndian.ofNat len key), signingKey_walletOfPrivateKey w3 _, ?_⟩
  · rw [privateKeyInt_walletOfPrivateKey, hvalue]
  · rw [bigIntParse_prefixedHex hne, hvalue]

/-- The plugin derives the scalar `key` from the phrase: on Android as a number, on iOS as
thirty-two bytes. -/
def Backend.Derives : Backend → String → Nat → Prop
  | .android k => fun m key => k.privateKey m = key
  | .ios c => fun m key => (c.privateKey m).toList = BigEndian.ofNat 32 key

/-- **One key, one wallet.** Whatever scalar below `2 ^ 256` a plugin derives from a phrase,
the wallet that the Dart side makes of its reply has exactly this private key, on Android and
on iOS; and the texts that the list elements are parsed from lose nothing. -/
theorem same_key_same_wallet (w3 : Web3dart) (d : Backend) (m : String) (key : Nat)
    (hpos : 0 < key) (hkey : key < 2 ^ 256) (hderives : d.Derives m key) :
    HasKey w3 (d.walletOf m) key ∧
      ∀ i ∈ d.privateKeyInts m, KeyManager.parsedElement i = some i := by
  refine ⟨?_, fun i hi => ?_⟩
  · cases d with
    | android k =>
      -- on Android the integers are signed bytes of a number, possibly with one byte too many
      obtain rfl : k.privateKey m = key := hderives
      have hwallet := congrArg walletOfPrivateKey (uint8List_android (k.privateKey m))
      have hhas := hasKey_walletOfPrivateKey w3 (byteCount_pos _)
        (lt_pow_byteCount (k.privateKey m))
      rw [← hwallet] at hhas
      exact hhas
    | ios c =>
      have hwallet := congrArg walletOfPrivateKey (uint8List_ios (c.privateKey m))
      -- on iOS they are always thirty-two bytes
      have hfixed : (c.privateKey m).toList = BigEndian.ofNat 32 key := hderives
      have hhas := hasKey_walletOfPrivateKey w3 (by decide : 0 < 32) (by simpa using hkey)
      rw [← hfixed, ← hwallet] at hhas
      exact hhas
  · -- the texts are decimal numbers of the size of a byte
    obtain ⟨hlo, hhi⟩ := d.privateKeyInts_bounds m i hi
    exact KeyManager.parsedElement_of_byte hlo hhi

/-- The key of the phrase of 24 zero bytes, on both platforms. Neither addresses nor hashes
play a role. -/
theorem same_key_same_wallet_zeroPhrase :
    let w3 := Dart.Sample.web3dart (fun _ => ⟨List.replicate 20 0, rfl⟩)
      (fun _ => Vector.replicate 32 0) Dart.Sample.unsignedWord
    HasKey w3 (Sample.android.walletOf Sample.zeroPhrase) (Sample.privateKey Sample.zeroPhrase) ∧
      HasKey w3 (Sample.ios.walletOf Sample.zeroPhrase)
        (Sample.privateKey Sample.zeroPhrase) := by
  have hpos : 0 < Sample.privateKey Sample.zeroPhrase := by decide
  have hkey : Sample.privateKey Sample.zeroPhrase < 2 ^ 256 := by decide
  have hios : Sample.ios.Derives Sample.zeroPhrase (Sample.privateKey Sample.zeroPhrase) := by
    change (Sample.bip39C.privateKey Sample.zeroPhrase).toList = _
    rw [BigEndian.ofNat_eq_map_range]
    decide +kernel
  have handroid : Sample.android.Derives Sample.zeroPhrase (Sample.privateKey Sample.zeroPhrase) :=
    rfl
  exact ⟨(same_key_same_wallet _ Sample.android _ _ hpos hkey handroid).1,
    (same_key_same_wallet _ Sample.ios _ _ hpos hkey hios).1⟩

end RlyNetworkSdk.Platform
