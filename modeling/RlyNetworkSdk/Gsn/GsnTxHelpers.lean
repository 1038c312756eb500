import RlyNetworkSdk.Dart.Doubles
import RlyNetworkSdk.Gsn.RelayRequest

/-!
# `gsn_tx_helpers.dart`

What calldata costs, what is estimated in advance for the call that the relayer will make,
the identifier of a relay request, and amounts in units of a token.
-/

namespace RlyNetworkSdk.Gsn

open Encoding Evm Dart

/-! ## Calldata -/

/-- `replaceAll('0x', '')`: every `0x` of the text goes, from left to right and not overlapping. -/
def removeHexPrefixes : List Char → List Char
  | '0' :: 'x' :: cs => removeHexPrefixes cs
  | c :: cs => c :: removeHexPrefixes cs
  | [] => []

/-- Without an `x` nothing is removed. -/
theorem removeHexPrefixes_of_ne_x {cs : List Char} (h : ∀ c ∈ cs, c ≠ 'x') :
    removeHexPrefixes cs = cs := by
  induction cs using removeHexPrefixes.induct with
  | case1 cs ih => exact absurd rfl (h 'x' (by simp))
  | case2 c cs hne ih =>
    have hrest := ih fun d hd => h d (List.mem_cons_of_mem _ hd)
    rw [removeHexPrefixes, hrest]
    exact hne
  | case3 => rfl

/-- `codeUnits`, in UTF-16: one for a character of the basic plane, and a pair of surrogates for
any other. -/
def codeUnits (cs : List Char) : List Nat :=
  cs.flatMap fun c =>
    if c.toNat < 0x10000 then [c.toNat]
    else [0xD800 + (c.toNat - 0x10000) / 0x400, 0xDC00 + (c.toNat - 0x10000) % 0x400]

def uint8ListToHex (list : List UInt8) : String := prefixedHex list

structure CalldataBytes where
  calldataZeroBytes : Nat
  calldataNonzeroBytes : Nat

/-- `calculateCalldataBytesZeroNonzero`. It goes through the characters of the text, not
through the bytes that the text stands for. -/
def calculateCalldataBytesZeroNonzero (calldata : PrefixedHexString) : CalldataBytes :=
  let calldataBuf := (codeUnits (removeHexPrefixes calldata.toList)).map (· % 256)
  ⟨calldataBuf.countP (· == 0), calldataBuf.countP (· != 0)⟩

/-- `calculateCalldataCost`. The products and the sum are `int`s, which wrap around. -/
def calculateCalldataCost (msgData : String) (gtxDataNonZero gtxDataZero : Nat) : Int :=
  let calldataBytesZeroNonzero := calculateCalldataBytesZeroNonzero msgData
  wrapInt (wrapInt (calldataBytesZeroNonzero.calldataZeroBytes * gtxDataZero) +
    wrapInt (calldataBytesZeroNonzero.calldataNonzeroBytes * gtxDataNonZero))

/-- `substring(start)`; no value where it throws. -/
def substring (start : Nat) (s : String) : Option String :=
  if start ≤ s.toList.length then some (String.ofList (s.toList.drop start)) else none

def estimateGasWithoutCallData (transaction : GsnTransactionDetails)
    (gtxDataNonZero gtxDataZero : Nat) : Option String := do
  -- `originalGas!`
  let originalGas ← transaction.gas
  let callDataCost := calculateCalldataCost transaction.data gtxDataNonZero gtxDataZero
  let gas ← bigIntParseRadix 16 (← substring 2 originalGas)
  let adjustedGas := gas - callDataCost
  return "0x" ++ toRadixString 16 adjustedGas

/-! ## The cost of the relay call -/

/-- `'0x${List.filled(length, 'ff').join()}'` -/
def filledHex (length : Nat) : String := prefixedHex (List.replicate length 0xff)

/-- The copy of the request that the estimate is made for, with the longest paymaster data that
the configuration allows. -/
def placeholderRequest (relayRequestOriginal : RelayRequest) (config : GSNConfig) :
    RelayRequest where
  request := relayRequestOriginal.request
  relayData := { relayRequestOriginal.relayData with
    transactionCalldataGasUsed := "0xffffffffff"
    paymasterData := filledHex config.maxPaymasterDataLength }

/-- The parameters of the call that the estimate is made for; no value where a field of the
request cannot be parsed. The signature and the approval data are filled with `ff`. -/
def estimatedParameters (w3 : Web3dart) (relayRequestOriginal : RelayRequest)
    (config : GSNConfig) : Option (List Arg) := do
  -- `relayHubContract` parses the address
  let _ ← w3.fromHex config.relayHubAddress
  let relayRequestJson ← (placeholderRequest relayRequestOriginal config).toJson w3
  return [.string config.domainSeparatorName, .bigInt (← bigIntParseRadix 16 "ffffffffff"),
    relayRequestJson, .bytes (← w3.hexToBytes (filledHex 65)),
    .bytes (← w3.hexToBytes (filledHex config.maxApprovalDataLength))]

def estimateCalldataCostForRequest (w3 : Web3dart) (relayRequestOriginal : RelayRequest)
    (config : GSNConfig) : Option String := do
  let parameters ← estimatedParameters w3 relayRequestOriginal config
  let data ← IRelayHub.relayCall.encodeCall w3 parameters
  return toRadixString 16
    (calculateCalldataCost (prefixedHex data) config.gtxDataNonZero config.gtxDataZero)

/-! ## The identifier of a request -/

/-- A text of a map. -/
def textOf : Json → Option String
  | .string s => some s
  | _ => none

/-- `getRelayRequestID` of the posted map and the signature: a hash of the sender, the nonce and
the signature, of which the first eight digits are set to zero. -/
def getRelayRequestID {w3 : Web3dart} (lib : EthSigUtil w3) (relayRequest : Json)
    (signature : String) : Option String := do
  let request ← relayRequest.get? "request"
  let «from» ← (request.get? "from").bind textOf
  let nonce ← (request.get? "nonce").bind textOf
  let encoded ← lib.rawEncode ["address", "uint256", "bytes"] [«from», nonce, signature]
  let rawRelayRequestId := padLeft 64 (String.ofList (Hex.encode (w3.keccak256 encoded)))
  let prefixSize := 8
  return "0x" ++ String.ofList
    (List.replicate prefixSize '0' ++ rawRelayRequestId.toList.drop prefixSize)

/-! ## Amounts -/

/-- `parseUnits`. The digits behind the point are parsed apart from the sign, and they are
padded to the decimals but not cut off. -/
def parseUnits (value : String) (decimals : Nat) : Option Int := do
  let base := 10 ^ decimals
  let parts := split '.' value
  let wholePart ← bigIntParse (← parts[0]?)
  let fractionalPart ← match parts[1]? with
    | some fraction => bigIntParse (padRight decimals fraction)
    | none => some 0
  return wholePart * base + fractionalPart

theorem parseUnits_whole {value whole : String} (hparts : split '.' value = [whole])
    (decimals : Nat) :
    parseUnits value decimals = (bigIntParse whole).map fun n => n * 10 ^ decimals := by
  cases hwhole : bigIntParse whole <;> simp [parseUnits, hparts, hwhole]

theorem parseUnits_fraction {value whole fraction : String}
    (hparts : split '.' value = [whole, fraction]) (decimals : Nat) :
    parseUnits value decimals = (bigIntParse whole).bind fun n =>
      (bigIntParse (padRight decimals fraction)).map fun m => n * 10 ^ decimals + m := by
  cases hwhole : bigIntParse whole <;>
    cases hfraction : bigIntParse (padRight decimals fraction) <;>
    simp [parseUnits, hparts, hwhole, hfraction]

def balanceToDouble (dbl : Doubles) (value : Int) (decimals : Nat) : dbl.Double :=
  let base := 10 ^ decimals
  dbl.div (dbl.ofBigInt value) (dbl.ofBigInt base)

end RlyNetworkSdk.Gsn
