import RlyNetworkSdk.Gsn.RelayRequest

/-!
# `eip_712_transaction.dart` and `zk_sync_chain.dart`

A transaction of type `0x71` is written down twice: as the typed message that the wallet signs
(`toTypedData`), with its values as texts under their names, and as the list that is serialised
and sent (`toList`), with its values by position.
-/

namespace RlyNetworkSdk.ZkSync

open Encoding Evm Dart Gsn

/-- What `rlp.encode` serialises: a `BigInt` or an `int`, bytes, a text, or a list. A text is
serialised as its UTF-8 bytes. -/
inductive RlpItem where
  | bigInt (n : Int)
  | bytes (bs : List UInt8)
  | string (s : String)
  | list (items : List RlpItem)

structure ZKSyncEip712Transaction where
  «to» : String
  «from» : String
  nonce : Int
  gas : Int
  maxPriorityFeePerGas : Int
  maxFeePerGas : Int
  data : String
  value : Int
  chainId : Int
  gasPerPubdata : Option Int
  paymaster : Option String
  paymasterInput : Option String
  factoryDeps : Option (List String)

namespace ZKSyncEip712Transaction

/-! ## The signed message -/

def primaryType : String := "Transaction"

def transactionMembers : List Eip712.Member :=
  [⟨"txType", "uint256"⟩, ⟨"from", "uint256"⟩, ⟨"to", "uint256"⟩, ⟨"gasLimit", "uint256"⟩,
    ⟨"gasPerPubdataByteLimit", "uint256"⟩, ⟨"maxFeePerGas", "uint256"⟩,
    ⟨"maxPriorityFeePerGas", "uint256"⟩, ⟨"paymaster", "uint256"⟩, ⟨"nonce", "uint256"⟩,
    ⟨"value", "uint256"⟩, ⟨"data", "bytes"⟩, ⟨"factoryDeps", "bytes32[]"⟩,
    ⟨"paymasterInput", "bytes"⟩]

def types : Eip712.Types :=
  [("EIP712Domain", [⟨"name", "string"⟩, ⟨"version", "string"⟩, ⟨"chainId", "uint256"⟩]),
    ("Transaction", transactionMembers)]

/-- `toString()` of a `BigInt` -/
def numberText (n : Int) : Json := .string (toRadixString 10 n)

/-- `gasPerPubdata.toString()`, which is a text for `null` too: the four letters, and no number. -/
def gasPerPubdataText : Option Int → Json
  | some gasPerPubdata => numberText gasPerPubdata
  | none => .string "null"

/-- The paymaster as a number; no value where it cannot be parsed. A missing one is the `int`
zero and not a text. -/
def paymasterNumber : Option String → Option Json
  | some paymaster => (bigIntParse paymaster).map numberText
  | none => some (.int 0)

/-- `toTypedData`; no value where a text cannot be parsed. The addresses are signed as numbers,
and `BigInt.parse` reads them in decimal unless they begin with `0x`. -/
def toTypedData (tx : ZKSyncEip712Transaction) : Option Json := do
  let «from» ← bigIntParse tx.from
  let «to» ← bigIntParse tx.to
  let paymaster ← paymasterNumber tx.paymaster
  return .object [("txType", .string "113"), ("from", numberText «from»), ("to", numberText «to»),
    ("gasLimit", numberText tx.gas),
    ("gasPerPubdataByteLimit", gasPerPubdataText tx.gasPerPubdata),
    ("maxFeePerGas", numberText tx.maxFeePerGas),
    ("maxPriorityFeePerGas", numberText tx.maxPriorityFeePerGas), ("paymaster", paymaster),
    ("nonce", numberText tx.nonce), ("value", numberText tx.value), ("data", .string tx.data),
    ("factoryDeps", .list ((tx.factoryDeps.getD []).map .string)),
    ("paymasterInput", .string (tx.paymasterInput.getD "0x"))]

/-! ## The list that is sent -/

/-- The last item of the list. It is there only if both fields are set, whatever the defaults of
the message are. -/
def paymasterParams (w3 : Web3dart) : Option String → Option String → Option (List RlpItem)
  | some paymaster, some paymasterInput => do
    return [.bytes (← w3.fromHex paymaster).addressBytes, .bytes (← w3.hexToBytes paymasterInput)]
  | _, _ => some []

/-- `toList`; no value where a text is not hexadecimal. The items stand in the order of the type
`0x71`, and two of them are empty. -/
def toList (w3 : Web3dart) (tx : ZKSyncEip712Transaction) (customSignature : String) :
    Option (List RlpItem) := do
  let «to» ← w3.fromHex tx.to
  let data ← w3.hexToBytes tx.data
  let empty ← w3.hexToBytes "0x"
  let «from» ← w3.fromHex tx.from
  let signature ← w3.hexToBytes customSignature
  let paymasterParams ← paymasterParams w3 tx.paymaster tx.paymasterInput
  return [.bigInt tx.nonce, .bigInt tx.maxPriorityFeePerGas, .bigInt tx.maxFeePerGas,
    .bigInt tx.gas, .bytes «to».addressBytes, .bigInt tx.value, .bytes data, .bigInt tx.chainId,
    .bytes empty, .bytes empty, .bigInt tx.chainId, .bytes «from».addressBytes,
    .bigInt (tx.gasPerPubdata.getD 0), .list ((tx.factoryDeps.getD []).map .string),
    .bytes signature, .list paymasterParams]

end ZKSyncEip712Transaction

/-! ## Sending -/

/-- The `eip712domain` of a chain. -/
structure ZKSyncChain where
  chainId : Int
  /-- `eip712domain.toJson()` -/
  domain : Json

/-- The `eip712Data` of `sendTransaction`: the message under the domain of the chain. -/
def eip712Data (chain : ZKSyncChain) (message : Json) : TypedData where
  types := ZKSyncEip712Transaction.types
  primaryType := ZKSyncEip712Transaction.primaryType
  domain := chain.domain
  message := message

/-- The list that `sendTransaction` serialises and sends. The typed message is signed first, and
the signature is an item of the list. -/
def sendTransaction {w3 : Web3dart} (lib : EthSigUtil w3) (chain : ZKSyncChain)
    (transaction : ZKSyncEip712Transaction) (wallet : Wallet) :
    Option (List RlpItem) := do
  let message ← transaction.toTypedData
  let customSignature ← signTypedData lib wallet (eip712Data chain message)
  transaction.toList w3 customSignature

/-- What is sent was made by both encoders, with the wallet's signature of the one in the
other. -/
theorem sendTransaction_eq_some {w3 : Web3dart} {lib : EthSigUtil w3} {chain : ZKSyncChain}
    {transaction : ZKSyncEip712Transaction} {wallet : Wallet} {list : List RlpItem}
    (h : sendTransaction lib chain transaction wallet = some list) :
    ∃ message customSignature, transaction.toTypedData = some message ∧
      signTypedData lib wallet (eip712Data chain message) = some customSignature ∧
      transaction.toList w3 customSignature = some list := by
  simp only [sendTransaction, Option.bind_eq_bind, Option.bind_eq_some_iff] at h
  obtain ⟨message, hmessage, customSignature, hsignature, hlist⟩ := h
  exact ⟨message, customSignature, hmessage, hsignature, hlist⟩

end RlyNetworkSdk.ZkSync
