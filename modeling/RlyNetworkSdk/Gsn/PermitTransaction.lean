import RlyNetworkSdk.Gsn.Erc20

/-!
# `permit_transaction.dart`

A transfer by permit: the wallet signs that the paymaster may spend the amount, the relayed
call hands the signature to the token contract, and the data for the paymaster tells it what
to do then.
-/

namespace RlyNetworkSdk.Gsn

open Encoding Evm Dart

/-! ## `gas_estimation.dart` -/

structure FeeData where
  maxFeePerGas : Option Int
  maxPriorityFeePerGas : Option Int

namespace FeeData

def computeMaxPriorityFeePerGas (baseFeePerGas : Option Int) (gasPrice : Int) : Int :=
  match baseFeePerGas with
  | none => 1500000000
  | some baseFeePerGas =>
    let tenPercentBuffer := (gasPrice * 10).tdiv 100
    gasPrice + tenPercentBuffer - baseFeePerGas

/-- `getFeeData` for this block and gas price. The whole fee is twice the base fee and the
priority fee; without a base fee it is missing. -/
def getFeeData (baseFeePerGas : Option Int) (gasPrice : Int) : FeeData :=
  let maxPriorityFeePerGas := computeMaxPriorityFeePerGas baseFeePerGas gasPrice
  { maxFeePerGas := baseFeePerGas.map fun baseFeePerGas => baseFeePerGas * 2 + maxPriorityFeePerGas
    maxPriorityFeePerGas := some maxPriorityFeePerGas }

end FeeData

/-! ## The signed message -/

structure Permit where
  name : String
  version : String
  chainId : Int
  verifyingContract : String
  owner : String
  spender : String
  value : Int
  nonce : Int
  deadline : Int
  salt : String

def permitMembers : List Eip712.Member :=
  [⟨"owner", "address"⟩, ⟨"spender", "address"⟩, ⟨"value", "uint256"⟩, ⟨"nonce", "uint256"⟩,
    ⟨"deadline", "uint256"⟩]

/-- The text of the salt that is left out. -/
def zeroSalt : String := "0x0000000000000000000000000000000000000000000000000000000000000000"

/-- The domain has a salt. An empty text and thirty-two zero bytes both mean that there is none. -/
def Permit.hasSalt (permit : Permit) : Bool := permit.salt != zeroSalt && permit.salt != ""

def getTypedPermitTransaction (permit : Permit) : TypedData where
  types :=
    [("EIP712Domain", [⟨"name", "string"⟩, ⟨"version", "string"⟩, ⟨"chainId", "uint256"⟩,
        ⟨"verifyingContract", "address"⟩] ++
        if permit.hasSalt then [⟨"salt", "bytes32"⟩] else []),
      ("Permit", permitMembers)]
  primaryType := "Permit"
  domain := .object ([("name", .string permit.name), ("version", .string permit.version),
    ("chainId", .int permit.chainId), ("verifyingContract", .string permit.verifyingContract)] ++
    if permit.hasSalt then [("salt", .string permit.salt)] else [])
  message := .object [("owner", .string permit.owner), ("spender", .string permit.spender),
    ("value", .string (toRadixString 10 permit.value)),
    ("nonce", .string (toRadixString 10 permit.nonce)),
    ("deadline", .int (bigIntToInt permit.deadline))]

section Signature

variable {w3 : Web3dart} (lib : EthSigUtil w3)

/-- The `Permit` that `getPermitEIP712Signature` makes. -/
def permitToSign (w3 : Web3dart) (wallet : Wallet) (contractName contractAddress : String)
    (config : NetworkConfig) (nonce amount deadline : Int) (salt : String)
    (version : Option String) : Option Permit := do
  let chainId ← intParse config.gsn.chainId
  let owner ← wallet.address w3
  return {
    name := contractName
    version := version.getD "1"
    chainId := chainId
    verifyingContract := contractAddress
    owner := owner.hex
    spender := config.gsn.paymasterAddress
    value := amount
    nonce := nonce
    deadline := deadline
    salt := salt }

def getPermitEIP712Signature (wallet : Wallet) (contractName contractAddress : String)
    (config : NetworkConfig) (nonce amount deadline : Int) (salt : String)
    (version : Option String) : Option Rsv := do
  let permit ← permitToSign w3 wallet contractName contractAddress config nonce amount deadline
    salt version
  let signature ← signTypedData lib wallet (getTypedPermitTransaction permit)
  rsvOf w3 signature

/-! ## The transaction -/

/-- What the queries of `getPermitTx` are answered with. Only the query of the domain may fail
without ending the function. -/
structure PermitAnswers where
  nonces : Int
  name : String
  /-- The time of the block in milliseconds. -/
  timestamp : Int
  /-- The salt in the answer of `eip712Domain`; no value where the query fails. -/
  eip712Domain : Option (List UInt8)
  estimateGas : Int
  baseFeePerGas : Option Int
  gasPrice : Int

/-- A time that is always included in the next three blocks, in the words of the source. The
time of the block is in milliseconds, and so is the sum. -/
def getPermitDeadline (timestamp : Int) : Int := timestamp + 45 * 1000

def fetchEip712SaltFromChain : Option (List UInt8) → String
  | some salt => prefixedHex salt
  | none => ""

/-- The salt that is signed: the one of the caller, or else what the contract says of its
domain. -/
def PermitAnswers.salt (answers : PermitAnswers) (eip712Salt : Option String) : String :=
  eip712Salt.getD (fetchEip712SaltFromChain answers.eip712Domain)

def getPermitTx (wallet : Wallet) (destinationAddress : EthereumAddress) (amount : Int)
    (config : NetworkConfig) (contractAddress : String) (answers : PermitAnswers)
    (eip712Salt eip712Version : Option String) : Option GsnTransactionDetails := do
  let token ← w3.fromHex contractAddress
  let walletAddress ← wallet.address w3
  let owner ← w3.fromHex walletAddress.hex
  let deadline := getPermitDeadline answers.timestamp
  let signature ← getPermitEIP712Signature lib wallet answers.name contractAddress config
    (bigIntToInt answers.nonces) amount deadline (answers.salt eip712Salt) eip712Version
  let fromTx ← Erc20.transferFrom.encodeCall w3
    [.address owner, .address destinationAddress, .bigInt amount]
  let spender ← w3.fromHex config.gsn.paymasterAddress
  let data ← Erc20.permit.encodeCall w3
    [.address owner, .address spender, .bigInt amount, .bigInt deadline,
      .bigInt signature.v.toNat, .bytes signature.r, .bytes signature.s]
  -- `replaceFirst('0x', '')` takes two characters off the text of an address
  let paymasterData :=
    "0x" ++ String.ofList (token.hex.toList.drop 2) ++ String.ofList (Hex.encode fromTx)
  let feeData := FeeData.getFeeData answers.baseFeePerGas answers.gasPrice
  return {
    «from» := walletAddress.hex
    data := prefixedHex data
    value := some "0"
    «to» := token.hex
    gas := some ("0x" ++ toRadixString 16 answers.estimateGas)
    maxFeePerGas := toRadixString 10 (← feeData.maxFeePerGas)
    maxPriorityFeePerGas := toRadixString 10 (← feeData.maxPriorityFeePerGas)
    paymasterData := some paymasterData
    clientId := none
    useGSN := none }

variable {lib}

/-- There is a transaction if every part of it is there. The parts are named, so that a caller
need not go through the function again. -/
theorem exists_getPermitTx {wallet : Wallet} {destinationAddress : EthereumAddress} {amount : Int}
    {config : NetworkConfig} {contractAddress : String} {answers : PermitAnswers}
    {eip712Salt eip712Version : Option String} {token owner spender : EthereumAddress}
    {deadline : Int} {rsv : Rsv} {fromTx data : List UInt8} {baseFeePerGas : Int}
    (htoken : w3.fromHex contractAddress = some token) (howner : wallet.address w3 = some owner)
    (hdeadline : getPermitDeadline answers.timestamp = deadline)
    (hrsv : getPermitEIP712Signature lib wallet answers.name contractAddress config
      (bigIntToInt answers.nonces) amount deadline (answers.salt eip712Salt) eip712Version =
        some rsv)
    (hfromTx : Erc20.transferFrom.encodeCall w3
      [.address owner, .address destinationAddress, .bigInt amount] = some fromTx)
    (hspender : w3.fromHex config.gsn.paymasterAddress = some spender)
    (hdata : Erc20.permit.encodeCall w3 [.address owner, .address spender, .bigInt amount,
      .bigInt deadline, .bigInt rsv.v.toNat, .bytes rsv.r, .bytes rsv.s] = some data)
    (hfee : answers.baseFeePerGas = some baseFeePerGas) :
    ∃ tx, getPermitTx lib wallet destinationAddress amount config contractAddress answers
      eip712Salt eip712Version = some tx := by
  subst hdeadline
  simp only [getPermitTx, htoken, howner, w3.fromHex_hex, hrsv, hfromTx, hspender, hdata, hfee,
    FeeData.getFeeData, Option.bind_eq_bind, Option.bind_some, Option.map_some]
  exact ⟨_, rfl⟩

end Signature

/-- The data for the paymaster as bytes. -/
theorem paymasterData_eq (token : EthereumAddress) (fromTx : List UInt8) :
    "0x" ++ String.ofList (token.hex.toList.drop 2) ++ String.ofList (Hex.encode fromTx) =
      prefixedHex (token.addressBytes ++ fromTx) := by
  have hdigits : token.hex.toList.drop 2 = Hex.encode token.addressBytes := by
    rw [EthereumAddress.hex, prefixedHex, String.toList_ofList]
    rfl
  apply String.toList_inj.mp
  rw [hdigits, prefixedHex, String.toList_append, String.toList_append]
  simp only [String.toList_ofList, Hex.encode_append]
  rfl

end RlyNetworkSdk.Gsn
