import RlyNetworkSdk.Concurrency.Async
import RlyNetworkSdk.Gsn.GsnTxHelpers

/-!
# `gsn_client.dart`

The relay of a transaction, as an asynchronous program over the heap that concurrent relays
share: the configuration, in which every relay overwrites the address of the relay worker,
and the transactions of the callers, in which it overwrites the gas.
-/

namespace RlyNetworkSdk.Gsn

open Encoding Evm Dart Concurrency

/-! ## The heap -/

/-- The objects that relays share. `τ` names the transaction objects of the callers. Dart passes
both by reference, so what one relay writes is seen by all that hold the same object. -/
structure Heap (τ : Type) where
  config : NetworkConfig
  details : τ → GsnTransactionDetails
  /-- The `ForwardRequest`s that were made, for which transaction object, the last one first. -/
  forwardRequests : List (τ × ForwardRequest)

namespace Heap

variable {τ : Type} [DecidableEq τ]

/-- `config.gsn.relayWorkerAddress = address`, on the configuration that the caller handed over. -/
def setRelayWorkerAddress (m : Heap τ) (address : String) : Heap τ :=
  { m with config := { m.config with gsn := { m.config.gsn with relayWorkerAddress := address } } }

/-- `transaction.gas = gas`, on the object of the caller. -/
def setGas (m : Heap τ) (t : τ) (gas : String) : Heap τ :=
  { m with details := Function.update m.details t { m.details t with gas := some gas } }

def allocate (m : Heap τ) (t : τ) (r : ForwardRequest) : Heap τ :=
  { m with forwardRequests := (t, r) :: m.forwardRequests }

end Heap

/-! ## Messages -/

/-- The `metadata` of a request to the relayer. It is sent beside the relay request, and is not
part of what is signed. -/
structure Metadata where
  maxAcceptanceBudget : String
  relayHubAddress : String
  signature : String
  approvalData : String
  relayMaxNonce : Int
  relayLastKnownNonce : Int
  domainSeparatorName : String
  relayRequestId : String

structure HttpRequest where
  relayRequest : Json
  metadata : Metadata

/-- What a relay waits for: two requests to the relayer, and three queries of the chain. -/
inductive Request where
  /-- `http.get` of `/getaddr` -/
  | getAddr
  /-- The `getNonce` of the forwarder contract. -/
  | getNonce (sender forwarder : EthereumAddress)
  | getTransactionCount (address : EthereumAddress)
  /-- `http.post` to `/relay` -/
  | post (body : HttpRequest)
  /-- The loop that asks for the receipt until there is one. -/
  | transactionReceipt (txHash : String)

/-- How the wait ends. -/
inductive Reply where
  /-- The awaited call throws. -/
  | failure
  | number (n : Int)
  /-- An HTTP response with this decoded body. -/
  | response (body : Json)
  | receipt

/-- How a relay can end without a transaction hash. -/
inductive RelayError where
  /-- The exception of an awaited call. -/
  | awaited
  /-- A null check, a parser or an encoder throws. -/
  | thrown
  /-- `{'message': 'RelayError', 'details': responseMap['error']}` -/
  | relayError (details : Json)

abbrev Relay (τ α : Type) := Async (Heap τ) Request Reply RelayError α

/-- Go on with the value, or throw. This is for what the source computes without waiting. -/
def orThrow {τ α : Type} : Option α → Relay τ α
  | some a => pure a
  | none => .throw .thrown

/-- Await the answer to a request, and decode it. An answer that cannot be decoded throws, as
the exception of an awaited call does. -/
def ask {τ α : Type} (q : Request) (decode : Reply → Option α) : Relay τ α :=
  .invoke q fun reply =>
    match decode reply with
    | some a => pure a
    | none => .throw .awaited

/-! ## `updateConfig` -/

structure GsnServerConfigPayload where
  relayWorkerAddress : String
  relayManagerAddress : String
  relayHubAddress : String
  ownerAddress : String
  minMaxPriorityFeePerGas : String
  maxMaxFeePerGas : String
  minMaxFeePerGas : String
  maxAcceptanceBudget : String
  chainId : String
  networkId : String
  ready : Bool
  version : String

/-- A `bool` of a map. -/
def boolOf : Json → Option Bool
  | .bool b => some b
  | _ => none

/-- `fromJson` of the decoded text; no value where an entry has the wrong type. All entries are
required, though a relay uses only the relay worker. -/
def GsnServerConfigPayload.fromJson (dataMap : Json) : Option GsnServerConfigPayload := do
  return {
    relayWorkerAddress := ← (dataMap.get? "relayWorkerAddress").bind textOf
    relayManagerAddress := ← (dataMap.get? "relayManagerAddress").bind textOf
    relayHubAddress := ← (dataMap.get? "relayHubAddress").bind textOf
    ownerAddress := ← (dataMap.get? "ownerAddress").bind textOf
    minMaxPriorityFeePerGas := ← (dataMap.get? "minMaxPriorityFeePerGas").bind textOf
    maxMaxFeePerGas := ← (dataMap.get? "maxMaxFeePerGas").bind textOf
    minMaxFeePerGas := ← (dataMap.get? "minMaxFeePerGas").bind textOf
    maxAcceptanceBudget := ← (dataMap.get? "maxAcceptanceBudget").bind textOf
    chainId := ← (dataMap.get? "chainId").bind textOf
    networkId := ← (dataMap.get? "networkId").bind textOf
    ready := ← (dataMap.get? "ready").bind boolOf
    version := ← (dataMap.get? "version").bind textOf }

/-- The payload that an answer to `getAddr` carries. -/
def Reply.serverConfig : Reply → Option GsnServerConfigPayload
  | .response body => GsnServerConfigPayload.fromJson body
  | _ => none

/-- The number that an answer carries. -/
def Reply.toNumber : Reply → Option Int
  | .number n => some n
  | _ => none

/-- The body of an answer to `post`. -/
def Reply.body : Reply → Option Json
  | .response body => some body
  | _ => none

def Reply.isReceipt : Reply → Option Unit
  | .receipt => some ()
  | _ => none

section Client

variable {τ : Type} [DecidableEq τ] {w3 : Web3dart} (lib : EthSigUtil w3)

def updateConfig : Relay τ Unit := do
  let serverConfigUpdate ← ask .getAddr Reply.serverConfig
  let heap ← Async.getMemory
  .write (heap.setRelayWorkerAddress serverConfigUpdate.relayWorkerAddress) (return ())

/-! ## `buildRelayRequest` -/

/-- The `ForwardRequest` of a transaction; no value where its gas cannot be parsed. Its gas is
parsed as an `int`, in radix 16 and without the first two characters. -/
def forwardRequestOf (transaction : GsnTransactionDetails) (senderNonce validUntilTime : String) :
    Option ForwardRequest := do
  -- `transaction.gas!.substring(2)`
  let gas ← intParseRadix 16 (← substring 2 (← transaction.gas))
  return {
    «from» := transaction.from
    «to» := transaction.to
    value := transaction.value.getD "0"
    gas := toRadixString 10 gas
    nonce := senderNonce
    data := transaction.data
    validUntilTime := validUntilTime }

/-- The `RelayData` of a transaction, before its cost is estimated. The relay worker is taken
out of the configuration here, and the later steps use this copy. -/
def relayDataOf (transaction : GsnTransactionDetails) (config : GSNConfig) : RelayData where
  maxFeePerGas := transaction.maxFeePerGas
  maxPriorityFeePerGas := transaction.maxPriorityFeePerGas
  transactionCalldataGasUsed := ""
  relayWorker := config.relayWorkerAddress
  paymaster := config.paymasterAddress
  paymasterData := transaction.paymasterData.getD "0x"
  clientId := "1"
  forwarder := config.forwarderAddress

/-- Set `transactionCalldataGasUsed` to the estimate, which is parsed as an `int`. The text of
the estimate is hexadecimal; what is stored is decimal. -/
def fillCalldataGasUsed (w3 : Web3dart) (relayRequest : RelayRequest) (config : GSNConfig) :
    Option RelayRequest := do
  let transactionCalldataGasUsed ← estimateCalldataCostForRequest w3 relayRequest config
  let gasUsed ← intParseRadix 16 transactionCalldataGasUsed
  return { relayRequest with
    relayData := { relayRequest.relayData with
      transactionCalldataGasUsed := toRadixString 10 gasUsed } }

/-- Nothing else is set. -/
theorem eq_of_fillCalldataGasUsed {w3 : Web3dart} {r r' : RelayRequest} {config : GSNConfig}
    (h : fillCalldataGasUsed w3 r config = some r') :
    ∃ gasUsed, r' =
      { r with relayData := { r.relayData with transactionCalldataGasUsed := gasUsed } } := by
  simp only [fillCalldataGasUsed, Option.bind_eq_bind, Option.bind_eq_some_iff] at h
  obtain ⟨cost, -, gasUsed, -, h⟩ := h
  exact ⟨_, (Option.some.inj h).symm⟩

def getSenderNonce (sender forwarderAddress : EthereumAddress) : Relay τ String := do
  let nonce ← ask (.getNonce sender forwarderAddress) Reply.toNumber
  return toRadixString 10 nonce

/-- `buildRelayRequest` for the transaction object `t`, at the time `secondsNow`. The gas of the
object is overwritten before the nonce is asked for. -/
def buildRelayRequest (w3 : Web3dart) (t : τ) (account : Wallet) (secondsNow : Nat) :
    Relay τ RelayRequest := do
  let heap ← Async.getMemory
  let gsn := heap.config.gsn
  let gas ← orThrow
    (estimateGasWithoutCallData (heap.details t) gsn.gtxDataNonZero gsn.gtxDataZero)
  -- the caller's object is changed before anything is awaited
  .write (heap.setGas t gas) do
  let validUntilTime := toRadixString 10 (secondsNow + gsn.requestValidSeconds : Nat)
  let sender ← orThrow (account.address w3)
  let forwarder ← orThrow (w3.fromHex gsn.forwarderAddress)
  let senderNonce ← (getSenderNonce sender forwarder).await
  -- the gas and the relay worker are read after the await
  let heap ← Async.getMemory
  let forwardRequest ← orThrow (forwardRequestOf (heap.details t) senderNonce validUntilTime)
  .write (heap.allocate t forwardRequest) do
  let relayData := relayDataOf (heap.details t) heap.config.gsn
  let relayRequest ← (orThrow
    (fillCalldataGasUsed w3 ⟨forwardRequest, relayData⟩ heap.config.gsn)).await
  return relayRequest

/-! ## `buildRelayHttpRequest` -/

def buildRelayHttpRequest (relayRequest : RelayRequest) (account : Wallet) :
    Relay τ HttpRequest := do
  let heap ← Async.getMemory
  let gsn := heap.config.gsn
  let signature ← (orThrow (signRequest lib relayRequest gsn.domainSeparatorName gsn.chainId
    account heap.config)).await
  let relayWorkerAddress ← orThrow (w3.fromHex relayRequest.relayData.relayWorker)
  let relayLastKnownNonce ← ask (.getTransactionCount relayWorkerAddress) Reply.toNumber
  return {
    relayRequest := relayRequest.toMap
    metadata := {
      maxAcceptanceBudget := gsn.maxAcceptanceBudget
      relayHubAddress := gsn.relayHubAddress
      signature := signature
      approvalData := "0x"
      relayMaxNonce := relayLastKnownNonce + gsn.maxRelayNonceGap
      relayLastKnownNonce := relayLastKnownNonce
      domainSeparatorName := gsn.domainSeparatorName
      relayRequestId := "" } }

/-! ## `relayTransaction` -/

/-- The text of a hash. -/
def transactionHash (w3 : Web3dart) (signedTx : String) : Option String :=
  (w3.hexToBytes signedTx).map fun bs => prefixedHex (w3.keccak256 bs)

def handleGsnResponse (w3 : Web3dart) (responseMap : Json) : Relay τ String :=
  match responseMap.get? "error" with
  | none | some .null => do
    let txHash ← orThrow
      (((responseMap.get? "signedTx").bind textOf).bind (transactionHash w3))
    ask (.transactionReceipt txHash) Reply.isReceipt
    return txHash
  | some details => .throw (.relayError details)

def relayTransaction (t : τ) (account : Wallet) (secondsNow : Nat) : Relay τ String := do
  updateConfig.await
  let relayRequest ← (buildRelayRequest w3 t account secondsNow).await
  let httpRequest ← (buildRelayHttpRequest lib relayRequest account).await
  let relayRequestId ← orThrow
    (getRelayRequestID lib httpRequest.relayRequest httpRequest.metadata.signature)
  let body := { httpRequest with
    metadata := { httpRequest.metadata with relayRequestId := relayRequestId } }
  let responseMap ← ask (.post body) Reply.body
  (handleGsnResponse w3 responseMap).await

end Client

end RlyNetworkSdk.Gsn
