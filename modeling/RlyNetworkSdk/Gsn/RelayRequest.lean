import RlyNetworkSdk.Dart.EthSigUtil
import RlyNetworkSdk.Dart.WalletManager
import RlyNetworkSdk.Dart.Wallet
import RlyNetworkSdk.Gsn.Utils

/-!
# Relay Requests

A request to the relayer, and its three renderings: the map that is posted (`toMap`), the
typed message that is signed (`signRequest`), and the argument list of `relayCall`
(`toJson`).
-/

namespace RlyNetworkSdk.Gsn

open Encoding Evm Dart

/-! ## `forward_request.dart` -/

structure ForwardRequest where
  «from» : Address
  «to» : Address
  value : IntString
  gas : IntString
  nonce : IntString
  data : String
  validUntilTime : IntString
  deriving DecidableEq

namespace ForwardRequest

def toMap (r : ForwardRequest) : Json.Entries :=
  [("from", .string r.from), ("to", .string r.to), ("value", .string r.value),
    ("gas", .string r.gas), ("nonce", .string r.nonce), ("data", .string r.data),
    ("validUntilTime", .string r.validUntilTime)]

/-- `toJson`; no value where a text cannot be parsed. -/
def toJson (w3 : Web3dart) (r : ForwardRequest) : Option Arg := do
  return .list [.address (← w3.fromHex r.from), .address (← w3.fromHex r.to),
    .bigInt (← bigIntParse r.value), .bigInt (← bigIntParse r.gas),
    .bigInt (← bigIntParse r.nonce), .bytes (← w3.hexToBytes r.data),
    .bigInt (← bigIntParse r.validUntilTime)]

end ForwardRequest

/-! ## `relay_data.dart` -/

structure RelayData where
  maxFeePerGas : IntString
  maxPriorityFeePerGas : IntString
  transactionCalldataGasUsed : IntString
  relayWorker : Address
  paymaster : Address
  forwarder : Address
  paymasterData : PrefixedHexString
  clientId : IntString
  deriving DecidableEq

namespace RelayData

def toMap (d : RelayData) : Json.Entries :=
  [("maxFeePerGas", .string d.maxFeePerGas),
    ("maxPriorityFeePerGas", .string d.maxPriorityFeePerGas),
    ("transactionCalldataGasUsed", .string d.transactionCalldataGasUsed),
    ("relayWorker", .string d.relayWorker), ("paymaster", .string d.paymaster),
    ("forwarder", .string d.forwarder), ("paymasterData", .string d.paymasterData),
    ("clientId", .string d.clientId)]

/-- `toJson`; no value where a text cannot be parsed. -/
def toJson (w3 : Web3dart) (d : RelayData) : Option Arg := do
  return .list [.bigInt (← bigIntParse d.maxFeePerGas),
    .bigInt (← bigIntParse d.maxPriorityFeePerGas),
    .bigInt (← bigIntParse d.transactionCalldataGasUsed),
    .address (← w3.fromHex d.relayWorker), .address (← w3.fromHex d.paymaster),
    .address (← w3.fromHex d.forwarder), .bytes (← w3.hexToBytes d.paymasterData),
    .bigInt (← bigIntParse d.clientId)]

end RelayData

/-! ## `relay_request.dart` -/

structure RelayRequest where
  request : ForwardRequest
  relayData : RelayData
  deriving DecidableEq

namespace RelayRequest

def toJson (w3 : Web3dart) (r : RelayRequest) : Option Arg := do
  return .list [← r.request.toJson w3, ← r.relayData.toJson w3]

def toMap (r : RelayRequest) : Json :=
  .object [("request", .object r.request.toMap), ("relayData", .object r.relayData.toMap)]

end RelayRequest

/-! ## `IRelayHub` -/

namespace IRelayHub

def requestComponents : List Parameter :=
  [.leaf "from" "address", .leaf "to" "address", .leaf "value" "uint256",
    .leaf "gas" "uint256", .leaf "nonce" "uint256", .leaf "data" "bytes",
    .leaf "validUntilTime" "uint256"]

def relayDataComponents : List Parameter :=
  [.leaf "maxFeePerGas" "uint256", .leaf "maxPriorityFeePerGas" "uint256",
    .leaf "transactionCalldataGasUsed" "uint256", .leaf "relayWorker" "address",
    .leaf "paymaster" "address", .leaf "forwarder" "address", .leaf "paymasterData" "bytes",
    .leaf "clientId" "uint256"]

def relayRequestComponents : List Parameter :=
  [.mk "request" "tuple" requestComponents, .mk "relayData" "tuple" relayDataComponents]

def relayCall : ContractFunction where
  name := "relayCall"
  inputs :=
    [.leaf "domainSeparatorName" "string", .leaf "maxAcceptanceBudget" "uint256",
      .mk "relayRequest" "tuple" relayRequestComponents, .leaf "signature" "bytes",
      .leaf "approvalData" "bytes"]

end IRelayHub

/-! ## `signRequest` -/

/-- The members of `RelayRequest` that come from the forward request. -/
def requestMembers : List Eip712.Member :=
  [⟨"from", "address"⟩, ⟨"to", "address"⟩, ⟨"value", "uint256"⟩, ⟨"gas", "uint256"⟩,
    ⟨"nonce", "uint256"⟩, ⟨"data", "bytes"⟩, ⟨"validUntilTime", "uint256"⟩]

def relayDataMembers : List Eip712.Member :=
  [⟨"maxFeePerGas", "uint256"⟩, ⟨"maxPriorityFeePerGas", "uint256"⟩,
    ⟨"transactionCalldataGasUsed", "uint256"⟩, ⟨"relayWorker", "address"⟩,
    ⟨"paymaster", "address"⟩, ⟨"forwarder", "address"⟩, ⟨"paymasterData", "bytes"⟩,
    ⟨"clientId", "uint256"⟩]

def signRequestTypes : Eip712.Types :=
  [("EIP712Domain", [⟨"name", "string"⟩, ⟨"version", "string"⟩, ⟨"chainId", "uint256"⟩,
      ⟨"verifyingContract", "address"⟩]),
    ("RelayRequest", requestMembers ++ [⟨"relayData", "RelayData"⟩]),
    ("RelayData", relayDataMembers)]

/-- `messageData`: the forward request flattened, with the relay data under its own key. A later
entry of the same name would replace an earlier one. -/
def messageData (r : RelayRequest) : Json.Entries :=
  (Json.Entries.spread [] r.request.toMap).put "relayData" (.object r.relayData.toMap)

/-- The `jsonData` of `signRequest`: the types, the domain of the forwarder, and the message. -/
def signRequestData (r : RelayRequest) (domainSeparatorName chainId : String)
    (config : NetworkConfig) : TypedData where
  types := signRequestTypes
  primaryType := "RelayRequest"
  domain := .object [("name", .string domainSeparatorName), ("version", .string "3"),
    ("chainId", .string chainId), ("verifyingContract", .string config.gsn.forwarderAddress)]
  message := .object (messageData r)

/-- `wallet.signTypedData`; no value where the key of the wallet or the data cannot be read. -/
def signTypedData {w3 : Web3dart} (lib : EthSigUtil w3) (wallet : Wallet) (d : TypedData) :
    Option String :=
  (wallet.signingKey w3).bind fun key => lib.signTypedData key d

def signRequest {w3 : Web3dart} (lib : EthSigUtil w3) (r : RelayRequest)
    (domainSeparatorName chainId : String) (wallet : Wallet) (config : NetworkConfig) :
    Option String :=
  signTypedData lib wallet (signRequestData r domainSeparatorName chainId config)

end RlyNetworkSdk.Gsn
