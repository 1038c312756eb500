import RlyNetworkSdk.Gsn.Erc20

/-!
# `meta_transactions.dart`

A transfer by meta-transaction: the wallet signs the calldata of a transfer, and the relayed
call hands both to the token contract.
-/

namespace RlyNetworkSdk.Gsn

open Encoding Evm Dart

/-! ## The signed message -/

structure MetaTransaction where
  name : Option String
  version : Option String
  salt : Option String
  verifyingContract : Option String
  nonce : Int
  «from» : String
  functionSignature : List UInt8

def metaTransactionTypes : Eip712.Types :=
  [("EIP712Domain", [⟨"name", "string"⟩, ⟨"version", "string"⟩,
      ⟨"verifyingContract", "address"⟩, ⟨"salt", "bytes32"⟩]),
    ("MetaTransaction", [⟨"nonce", "uint256"⟩, ⟨"from", "address"⟩,
      ⟨"functionSignature", "bytes"⟩])]

/-- A text of a map that may be missing. -/
def optionalText (s : Option String) : Json := s.elim .null .string

def getTypedMetatransaction (metaTransaction : MetaTransaction) : TypedData where
  types := metaTransactionTypes
  primaryType := "MetaTransaction"
  domain := .object [("name", optionalText metaTransaction.name),
    ("version", optionalText metaTransaction.version),
    ("verifyingContract", optionalText metaTransaction.verifyingContract),
    ("salt", optionalText metaTransaction.salt)]
  message := .object [("nonce", .int metaTransaction.nonce),
    ("from", .string metaTransaction.from),
    ("functionSignature", .string (prefixedHex metaTransaction.functionSignature))]

section Signature

variable {w3 : Web3dart} (lib : EthSigUtil w3)

/-- The number of the chain in 32 bytes. -/
def paddedSaltHexString (chainId : Int) : String :=
  "0x" ++ padLeft 64 (toRadixString 16 chainId)

/-- The `MetaTransaction` that `getMetatransactionEIP712Signature` makes. -/
def metaTransactionToSign (w3 : Web3dart) (wallet : Wallet) (contractName contractAddress : String)
    (functionSignature : List UInt8) (config : NetworkConfig) (nonce : Int) :
    Option MetaTransaction := do
  let chainId ← intParse config.gsn.chainId
  let sender ← wallet.address w3
  return {
    name := some contractName
    version := some "1"
    salt := some (paddedSaltHexString chainId)
    verifyingContract := some contractAddress
    nonce := nonce
    «from» := sender.hex
    functionSignature := functionSignature }

def getMetatransactionEIP712Signature (wallet : Wallet) (contractName contractAddress : String)
    (functionSignature : List UInt8) (config : NetworkConfig) (nonce : Int) : Option Rsv := do
  let metaTransaction ← metaTransactionToSign w3 wallet contractName contractAddress
    functionSignature config nonce
  let signature ← signTypedData lib wallet (getTypedMetatransaction metaTransaction)
  rsvOf w3 signature

/-! ## The transaction -/

/-- What the queries of `getExecuteMetatransactionTx` are answered with. -/
structure MetaTransactionAnswers where
  name : String
  /-- The answer of `nonces`; no value where the query fails. -/
  nonces : Option Int
  /-- The answer of `getNonce`, which is asked for only then. -/
  getNonce : Option Int
  estimateGas : Int
  baseFeePerGas : Option Int

/-- `getSenderContractNonce` -/
def MetaTransactionAnswers.senderContractNonce (answers : MetaTransactionAnswers) : Option Int :=
  answers.nonces <|> answers.getNonce

def getExecuteMetatransactionTx (wallet : Wallet) (destinationAddress : String) (amount : Int)
    (config : NetworkConfig) (contractAddress : String) (answers : MetaTransactionAnswers) :
    Option GsnTransactionDetails := do
  let token ← w3.fromHex contractAddress
  let userAddress ← wallet.address w3
  let nonce ← answers.senderContractNonce
  let destination ← w3.fromHex destinationAddress
  let data ← Erc20.transfer.encodeCall w3 [.address destination, .bigInt amount]
  let signatureData ← getMetatransactionEIP712Signature lib wallet answers.name contractAddress
    data config (bigIntToInt nonce)
  let txData ← Erc20.executeMetaTransaction.encodeCall w3
    [.address userAddress, .bytes data, .bytes signatureData.r, .bytes signatureData.s,
      .bigInt signatureData.v.toNat]
  let maxPriorityFeePerGas := 1500000000
  let maxFeePerGas := (← answers.baseFeePerGas) * 2 + maxPriorityFeePerGas
  return {
    «from» := userAddress.hex
    data := prefixedHex txData
    value := some "0"
    «to» := token.hex
    gas := some ("0x" ++ toRadixString 16 answers.estimateGas)
    maxFeePerGas := toRadixString 10 maxFeePerGas
    maxPriorityFeePerGas := toRadixString 10 maxPriorityFeePerGas
    paymasterData := none
    clientId := none
    useGSN := none }

end Signature

end RlyNetworkSdk.Gsn
