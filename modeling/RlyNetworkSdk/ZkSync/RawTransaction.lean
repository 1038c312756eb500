import RlyNetworkSdk.Gsn.GsnTxHelpers
import RlyNetworkSdk.ZkSync.Eip712Transaction

/-!
# The Raw Transaction

`sendTransaction` puts the type byte before the serialised list by way of texts: both are
written in hexadecimal, `concatHex` strips and joins them, and the joint text is read back. No
digit is lost or made up on the way.

## Main result

- `concatHex_bytes`: the joint text stands for the bytes of all texts, in order.
-/

namespace RlyNetworkSdk.ZkSync

open Encoding Dart Gsn

/-- `concatHex` of `utils.dart`. Every `0x` is taken out of every text, not only the one in
front, and one is put in front of them all. -/
def concatHex (values : List String) : String :=
  let concatenatedHex :=
    values.foldl (fun acc x => acc ++ String.ofList (removeHexPrefixes x.toList)) ""
  "0x" ++ concatenatedHex

/-- The bytes that `sendTransaction` hands to `sendRawTransaction`. `rlpEncode` is `rlp.encode`,
which has no value where it throws. -/
def rawTransaction {w3 : Web3dart} (rlpEncode : List RlpItem → Option (List UInt8))
    (lib : EthSigUtil w3) (chain : ZKSyncChain) (transaction : ZKSyncEip712Transaction)
    (wallet : Wallet) : Option (List UInt8) := do
  let serializedTx ← sendTransaction lib chain transaction wallet
  w3.hexToBytes (concatHex ["0x71", bytesToHex (← rlpEncode serializedTx)])

/-! ## One text -/

theorem removeHexPrefixes_of_decode {cs : List Char} {bs : List UInt8}
    (h : Hex.decode cs = some bs) : removeHexPrefixes cs = cs := by
  apply removeHexPrefixes_of_ne_x
  -- an `x` is no digit, so there is no prefix between digits either
  rintro c hc rfl
  exact Hex.readDigit_of_decode h hc (by decide)

/-- What is left of a text are the digits of its bytes. -/
theorem decode_removeHexPrefixes {s : String} {bs : List UInt8} (h : HexText s bs) :
    Hex.decode (removeHexPrefixes s.toList) = some bs := by
  obtain ⟨cs, hcs, hs | hs⟩ := h
  · rw [hs, removeHexPrefixes, removeHexPrefixes_of_decode hcs]
    exact hcs
  · rw [hs, removeHexPrefixes_of_decode hcs]
    exact hcs

/-! ## All texts -/

/-- The fold, from any text: what stands there already is not looked at again. -/
theorem toList_fold (values : List String) (acc : String) :
    (values.foldl (fun acc x => acc ++ String.ofList (removeHexPrefixes x.toList)) acc).toList =
      acc.toList ++ values.flatMap fun x => removeHexPrefixes x.toList := by
  induction values generalizing acc with
  | nil => simp
  | cons x values ih =>
    rw [List.foldl_cons, ih, String.toList_append, String.toList_ofList, List.flatMap_cons,
      List.append_assoc]

theorem decode_flatMap {values : List String} {bytes : List (List UInt8)}
    (h : List.Forall₂ HexText values bytes) :
    Hex.decode (values.flatMap fun x => removeHexPrefixes x.toList) = some bytes.flatten := by
  induction h with
  | nil => rfl
  | cons hx hrest ih =>
    rw [List.flatMap_cons, List.flatten_cons]
    exact Hex.decode_append (decode_removeHexPrefixes hx) ih

theorem hexText_concatHex {values : List String} {bytes : List (List UInt8)}
    (h : List.Forall₂ HexText values bytes) : HexText (concatHex values) bytes.flatten := by
  refine ⟨_, decode_flatMap h, .inl ?_⟩
  show ("0x" ++ values.foldl _ "").toList = _
  rw [String.toList_append, toList_fold]
  rfl

/-- The two texts of the raw transaction. -/
theorem hexText_rawTransaction (payload : List UInt8) :
    List.Forall₂ HexText ["0x71", bytesToHex payload] [[0x71], payload] := by
  have htype : HexText "0x71" [0x71] := ⟨['7', '1'], by decide, .inl rfl⟩
  have hpayload : HexText (bytesToHex payload) payload :=
    ⟨Hex.encode payload, Hex.decode_encode payload, .inr String.toList_ofList⟩
  exact .cons htype (.cons hpayload .nil)

/-- **`concatHex` joins bytes.** For every list of texts in hexadecimal, of either case and with or
without a prefix: the joint text is read as the bytes of all of them. So a raw transaction is the
byte `0x71` and what `rlp.encode` makes of the list. -/
theorem concatHex_bytes (w3 : Web3dart) :
    (∀ (values : List String) (bytes : List (List UInt8)), List.Forall₂ HexText values bytes →
      w3.hexToBytes (concatHex values) = some bytes.flatten) ∧
    ∀ (rlpEncode : List RlpItem → Option (List UInt8)) (lib : EthSigUtil w3) (chain : ZKSyncChain)
      (transaction : ZKSyncEip712Transaction) (wallet : Wallet),
      rawTransaction rlpEncode lib chain transaction wallet =
        ((sendTransaction lib chain transaction wallet).bind rlpEncode).map (0x71 :: ·) := by
  have hconcat : ∀ (values : List String) (bytes : List (List UInt8)),
      List.Forall₂ HexText values bytes →
        w3.hexToBytes (concatHex values) = some bytes.flatten := fun values bytes h =>
    (w3.hexToBytes_eq_some_iff _ _).mpr (hexText_concatHex h)
  refine ⟨hconcat, ?_⟩
  intro rlpEncode lib chain transaction wallet
  rw [rawTransaction]
  cases sendTransaction lib chain transaction wallet with
  | none => rfl
  | some serializedTx =>
    cases hpayload : rlpEncode serializedTx with
    | none => simp [hpayload]
    | some payload =>
      have hraw := hconcat _ _ (hexText_rawTransaction payload)
      simp only [Option.bind_eq_bind, Option.bind_some, hpayload, hraw]
      simp

/-- Texts of both cases, with and without a prefix, one of them empty, and digits that end in a
zero before a prefix. -/
theorem concatHex_bytes_mixed :
    let w3 := Dart.Sample.web3dart (fun _ => ⟨List.replicate 20 0, rfl⟩)
      (fun _ => Vector.replicate 32 0) Dart.Sample.unsignedWord
    w3.hexToBytes (concatHex ["aF00", "", "0x10", "0x"]) = some [0xaf, 0x00, 0x10] :=
  (concatHex_bytes _).1 ["aF00", "", "0x10", "0x"] [[0xaf, 0x00], [], [0x10], []]
    (.cons ⟨['a', 'F', '0', '0'], by decide, .inr rfl⟩ (.cons ⟨[], rfl, .inr rfl⟩
      (.cons ⟨['1', '0'], by decide, .inl rfl⟩ (.cons ⟨[], rfl, .inl rfl⟩ .nil))))

end RlyNetworkSdk.ZkSync
