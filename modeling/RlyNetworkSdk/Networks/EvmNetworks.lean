import RlyNetworkSdk.Gsn.GsnTxHelpers
import RlyNetworkSdk.Gsn.MetaTransactions
import RlyNetworkSdk.Gsn.PermitTransaction

/-!
# `evm_networks.dart`

A transfer of tokens: `transfer` takes an amount for display, turns it into units and goes on
as `transferExact`, which picks the kind of authorisation and hands the transaction to
`relay`. Each of them compares the amount with a balance of its own.
-/

namespace RlyNetworkSdk.Networks

open Encoding Dart Gsn

/-! ## Errors -/

/-- What is thrown: a text, or the exception of a function that is called. -/
inductive Thrown where
  | text (s : String)
  | exception
  deriving DecidableEq

def missingWalletError : String := "Unable to perform action, no account on device"

def insufficientBalanceError : String := "Unable to transfer, insufficient balance"

/-- The text that `transfer` and `transferExact` throw without a wallet. -/
def accountDoesNotExist : String := "account does not exist"

/-- The value, or else this is thrown. Nothing on the way to the caller catches it. -/
def orThrow {α : Type} (thrown : Thrown) (value : Option α) : Except Thrown α :=
  value.elim (.error thrown) .ok

@[simp] theorem orThrow_some {α : Type} (thrown : Thrown) (a : α) :
    orThrow thrown (some a) = .ok a := rfl

theorem eq_some_of_orThrow {α : Type} {thrown : Thrown} {value : Option α} {a : α}
    (h : orThrow thrown value = .ok a) : value = some a := by
  cases value with
  | none => cases h
  | some b =>
    cases h
    rfl

/-- What comes after a step that does not throw. -/
theorem bind_eq_ok {α β : Type} {x : Except Thrown α} {f : α → Except Thrown β} {b : β} :
    (x >>= f) = .ok b ↔ ∃ a, x = .ok a ∧ f a = .ok b := by
  constructor
  · intro h
    cases x with
    | error thrown => cases h
    | ok a => exact ⟨a, rfl, h⟩
  · rintro ⟨a, rfl, h⟩
    exact h

/-! ## Balances -/

/-- The part of the configuration that transfers use. -/
structure Contracts where
  rlyERC20 : String

/-- The wallet that `getBalance` finds, and the answer to its query. -/
structure BalanceAnswers where
  account : Option Wallet
  balanceOf : Int

/-- `getExactBalance`, which is `getBalance` without `humanReadable`: the number that the token
contract answers, in units. -/
def getExactBalance (w3 : Web3dart) (tokenAddress : String) (answers : BalanceAnswers) :
    Except Thrown Int := do
  let account ← orThrow (.text missingWalletError) answers.account
  let _ ← orThrow .exception (w3.fromHex tokenAddress)
  let _ ← orThrow .exception (account.address w3)
  return answers.balanceOf

/-- `getDisplayBalance`, for these decimals of the token: the balance as a `double`, which may
be rounded. -/
def getDisplayBalance (dbl : Doubles) (w3 : Web3dart) (tokenAddress : String)
    (answers : BalanceAnswers) (decimals : Nat) : Except Thrown dbl.Double := do
  let balance ← getExactBalance w3 tokenAddress answers
  return balanceToDouble dbl balance decimals

/-! ## Transfers -/

inductive MetaTxMethod where
  | permit
  | executeMetaTransaction
  deriving DecidableEq

/-- The fields of `EIP712Domain` that are used. -/
structure EIP712Domain where
  version : Option String
  salt : Option String

/-- What is handed to `relay`, and the typed message that the wallet signed for it on the way.
Both are built from the amount, and neither keeps it as a number. -/
structure Relayed where
  authorisation : TypedData
  transferTx : GsnTransactionDetails

/-- The wallet that `transferExact` finds, and the answers to its queries. Only the queries of
the method that is used are asked. -/
structure TransferExactAnswers where
  account : Option Wallet
  sourceBalance : BalanceAnswers
  permit : PermitAnswers
  metaTransaction : MetaTransactionAnswers

section Transfer

variable {w3 : Web3dart} (lib : EthSigUtil w3) (config : NetworkConfig) (contracts : Contracts)
  (destinationAddress : String)

/-- The `transferTx` of `transferExact`: a transaction by permit or by meta-transaction. There
is none where an address cannot be parsed or an encoder refuses an argument. -/
def transferTxOf (account : Wallet) (amount : Int) (metaTxMethod : MetaTxMethod)
    (tokenAddress : String) (eip712DomainData : Option EIP712Domain)
    (answers : TransferExactAnswers) : Option GsnTransactionDetails :=
  match metaTxMethod with
  | .permit =>
    (w3.fromHex destinationAddress).bind fun destination =>
      getPermitTx lib account destination amount config tokenAddress answers.permit
        (eip712DomainData.bind EIP712Domain.salt) (eip712DomainData.bind EIP712Domain.version)
  | .executeMetaTransaction =>
    getExecuteMetatransactionTx lib account destinationAddress amount config tokenAddress
      answers.metaTransaction

/-- The message that the wallet signs while the `transferTx` is made: the permit of `getPermitTx`, or
the meta-transaction of `getExecuteMetatransactionTx`. -/
def authorisationOf (w3 : Web3dart) (config : NetworkConfig) (destinationAddress : String)
    (account : Wallet) (amount : Int) (metaTxMethod : MetaTxMethod) (tokenAddress : String)
    (eip712DomainData : Option EIP712Domain) (answers : TransferExactAnswers) :
    Option TypedData :=
  match metaTxMethod with
  | .permit =>
    (permitToSign w3 account answers.permit.name tokenAddress config
      (bigIntToInt answers.permit.nonces) amount (getPermitDeadline answers.permit.timestamp)
      (answers.permit.salt (eip712DomainData.bind EIP712Domain.salt))
      (eip712DomainData.bind EIP712Domain.version)).map getTypedPermitTransaction
  | .executeMetaTransaction => do
    let nonce ← answers.metaTransaction.senderContractNonce
    let destination ← w3.fromHex destinationAddress
    let data ← Erc20.transfer.encodeCall w3 [.address destination, .bigInt amount]
    let metaTransaction ← metaTransactionToSign w3 account answers.metaTransaction.name tokenAddress
      data config (bigIntToInt nonce)
    return getTypedMetatransaction metaTransaction

def transferExact (amount : Int) (metaTxMethod : MetaTxMethod) (tokenAddress : Option String)
    (eip712DomainData : Option EIP712Domain) (answers : TransferExactAnswers) :
    Except Thrown Relayed := do
  let account ← orThrow (.text accountDoesNotExist) answers.account
  let tokenAddress := tokenAddress.getD contracts.rlyERC20
  let sourceBalance ← getExactBalance w3 tokenAddress answers.sourceBalance
  let sourceFinalBalance := sourceBalance - amount
  if sourceFinalBalance < 0 then
    throw (.text insufficientBalanceError)
  else
    let transferTx ← orThrow .exception (transferTxOf lib config destinationAddress account amount
      metaTxMethod tokenAddress eip712DomainData answers)
    let authorisation ← orThrow .exception (authorisationOf w3 config destinationAddress account
      amount metaTxMethod tokenAddress eip712DomainData answers)
    return ⟨authorisation, transferTx⟩

/-- The wallet that `transfer` finds, and the answers to its queries. It asks for the decimals
twice, and the two answers are kept apart. -/
structure TransferAnswers where
  account : Option Wallet
  sourceBalance : BalanceAnswers
  /-- The answer to `getDecimals`. -/
  displayDecimals : Nat
  /-- The answer to the query of `transfer` itself. -/
  decimals : Nat
  exact : TransferExactAnswers

def transfer (dbl : Doubles) (amount : dbl.Double) (metaTxMethod : MetaTxMethod)
    (tokenAddress : Option String) (eip712DomainData : Option EIP712Domain)
    (answers : TransferAnswers) : Except Thrown Relayed := do
  let _ ← orThrow (.text accountDoesNotExist) answers.account
  let tokenAddress := tokenAddress.getD contracts.rlyERC20
  let sourceBalance ← getDisplayBalance dbl w3 tokenAddress answers.sourceBalance
    answers.displayDecimals
  let sourceFinalBalance := dbl.sub sourceBalance amount
  if dbl.isNegative sourceFinalBalance then
    throw (.text insufficientBalanceError)
  else
    let _ ← orThrow .exception (w3.fromHex tokenAddress)
    let decimalAmount ← orThrow .exception
      (parseUnits (dbl.text amount).toString answers.decimals)
    transferExact lib config contracts destinationAddress decimalAmount metaTxMethod
      (some tokenAddress) eip712DomainData answers.exact

/-! ## What is relayed -/

variable {lib config contracts destinationAddress}

/-- The balance that `getExactBalance` gives is the answer to its query. -/
theorem eq_of_getExactBalance {tokenAddress : String} {answers : BalanceAnswers} {balance : Int}
    (h : getExactBalance w3 tokenAddress answers = .ok balance) : answers.balanceOf = balance := by
  unfold getExactBalance at h
  obtain ⟨account, -, h⟩ := bind_eq_ok.mp h
  obtain ⟨token, -, h⟩ := bind_eq_ok.mp h
  obtain ⟨address, -, h⟩ := bind_eq_ok.mp h
  cases h
  rfl

/-- A transaction is made only if its authorisation was signed. -/
theorem signed_authorisationOf {account : Wallet} {amount : Int} {metaTxMethod : MetaTxMethod}
    {tokenAddress : String} {eip712DomainData : Option EIP712Domain}
    {answers : TransferExactAnswers} {transferTx : GsnTransactionDetails}
    (htx : transferTxOf lib config destinationAddress account amount metaTxMethod tokenAddress
      eip712DomainData answers = some transferTx) :
    ∃ authorisation signature, authorisationOf w3 config destinationAddress account amount
        metaTxMethod tokenAddress eip712DomainData answers = some authorisation ∧
      signTypedData lib account authorisation = some signature := by
  -- each builder signs first, and stops if the signature fails
  cases metaTxMethod with
  | permit =>
    obtain ⟨destination, -, htx⟩ := Option.bind_eq_some_iff.mp htx
    simp only [getPermitTx, getPermitEIP712Signature, Option.bind_eq_bind,
      Option.bind_eq_some_iff] at htx
    obtain ⟨-, -, -, -, -, -, -, ⟨permit, hpermit, signature, hsignature, -⟩, -⟩ := htx
    exact ⟨_, signature, Option.map_eq_some_iff.mpr ⟨permit, hpermit, rfl⟩, hsignature⟩
  | executeMetaTransaction =>
    simp only [transferTxOf, getExecuteMetatransactionTx, getMetatransactionEIP712Signature,
      Option.bind_eq_bind, Option.bind_eq_some_iff] at htx
    obtain ⟨-, -, -, -, nonce, hnonce, destination, hdestination, data, hdata, -,
      ⟨metaTransaction, hmeta, signature, hsignature, -⟩, -⟩ := htx
    refine ⟨_, signature, ?_, hsignature⟩
    simp only [authorisationOf, hnonce, hdestination, hdata, hmeta, Option.bind_eq_bind,
      Option.bind_some]
    rfl

/-- **What reaches `relay`** from `transferExact`: a transaction for the amount that was asked
for, which is no more than the balance, and the authorisation that was signed for it. -/
theorem transferExact_eq_ok {amount : Int} {metaTxMethod : MetaTxMethod}
    {tokenAddress : Option String} {eip712DomainData : Option EIP712Domain}
    {answers : TransferExactAnswers} {relayed : Relayed}
    (h : transferExact lib config contracts destinationAddress amount metaTxMethod tokenAddress
      eip712DomainData answers = .ok relayed) :
    amount ≤ answers.sourceBalance.balanceOf ∧
      ∃ account, answers.account = some account ∧
        transferTxOf lib config destinationAddress account amount metaTxMethod
          (tokenAddress.getD contracts.rlyERC20) eip712DomainData answers =
            some relayed.transferTx ∧
        authorisationOf w3 config destinationAddress account amount metaTxMethod
          (tokenAddress.getD contracts.rlyERC20) eip712DomainData answers =
            some relayed.authorisation := by
  unfold transferExact at h
  obtain ⟨account, haccount, h⟩ := bind_eq_ok.mp h
  obtain ⟨balance, hbalance, h⟩ := bind_eq_ok.mp h
  have hbalanceOf := eq_of_getExactBalance hbalance
  -- the balance is compared with the amount
  by_cases hcovered : balance - amount < 0
  · rw [if_pos hcovered] at h
    cases h
  · rw [if_neg hcovered] at h
    obtain ⟨transferTx, htx, h⟩ := bind_eq_ok.mp h
    obtain ⟨authorisation, hauthorisation, h⟩ := bind_eq_ok.mp h
    cases h
    exact ⟨by omega, account, eq_some_of_orThrow haccount, eq_some_of_orThrow htx,
      eq_some_of_orThrow hauthorisation⟩

/-- An amount that the balance covers is relayed, if there is a transaction for it. -/
theorem transferExact_of_transferTxOf {amount : Int} {metaTxMethod : MetaTxMethod}
    {tokenAddress : Option String} {eip712DomainData : Option EIP712Domain}
    {answers : TransferExactAnswers} {account : Wallet} {balance : Int}
    {transferTx : GsnTransactionDetails} (haccount : answers.account = some account)
    (hbalance : getExactBalance w3 (tokenAddress.getD contracts.rlyERC20) answers.sourceBalance =
      .ok balance)
    (hcovered : amount ≤ balance)
    (htx : transferTxOf lib config destinationAddress account amount metaTxMethod
      (tokenAddress.getD contracts.rlyERC20) eip712DomainData answers = some transferTx) :
    ∃ authorisation, transferExact lib config contracts destinationAddress amount metaTxMethod
      tokenAddress eip712DomainData answers = .ok ⟨authorisation, transferTx⟩ := by
  obtain ⟨authorisation, signature, hauthorisation, -⟩ := signed_authorisationOf htx
  refine ⟨authorisation, ?_⟩
  unfold transferExact
  -- the account and the balance are there, and the balance is enough
  apply bind_eq_ok.mpr
  refine ⟨account, by rw [haccount, orThrow_some], ?_⟩
  apply bind_eq_ok.mpr
  refine ⟨balance, hbalance, ?_⟩
  rw [if_neg (by omega), htx, hauthorisation]
  rfl

/-- **What reaches `relay`** from `transfer` does so from `transferExact`, for the number that
the text of the amount is parsed as. -/
theorem transfer_eq_ok {dbl : Doubles} {amount : dbl.Double} {metaTxMethod : MetaTxMethod}
    {tokenAddress : Option String} {eip712DomainData : Option EIP712Domain}
    {answers : TransferAnswers} {relayed : Relayed}
    (h : transfer lib config contracts destinationAddress dbl amount metaTxMethod tokenAddress
      eip712DomainData answers = .ok relayed) :
    ∃ decimalAmount, parseUnits (dbl.text amount).toString answers.decimals = some decimalAmount ∧
      transferExact lib config contracts destinationAddress decimalAmount metaTxMethod
        (some (tokenAddress.getD contracts.rlyERC20)) eip712DomainData answers.exact =
          .ok relayed := by
  unfold transfer at h
  obtain ⟨account, -, h⟩ := bind_eq_ok.mp h
  obtain ⟨balance, -, h⟩ := bind_eq_ok.mp h
  -- a double that the balance does not cover is thrown out before the amount is parsed
  by_cases hcovered : dbl.isNegative (dbl.sub balance amount) = true
  · rw [if_pos hcovered] at h
    cases h
  · rw [if_neg hcovered] at h
    obtain ⟨token, -, h⟩ := bind_eq_ok.mp h
    obtain ⟨decimalAmount, hamount, h⟩ := bind_eq_ok.mp h
    exact ⟨decimalAmount, eq_some_of_orThrow hamount, h⟩

/-- A double that the balance for display covers goes on to `transferExact`. -/
theorem transfer_of_transferExact {dbl : Doubles} {amount balance : dbl.Double}
    {metaTxMethod : MetaTxMethod} {tokenAddress : Option String}
    {eip712DomainData : Option EIP712Domain} {answers : TransferAnswers} {account : Wallet}
    {token : EthereumAddress} {decimalAmount : Int} {relayed : Relayed}
    (haccount : answers.account = some account)
    (hbalance : getDisplayBalance dbl w3 (tokenAddress.getD contracts.rlyERC20)
      answers.sourceBalance answers.displayDecimals = .ok balance)
    (hcovered : dbl.isNegative (dbl.sub balance amount) = false)
    (htoken : w3.fromHex (tokenAddress.getD contracts.rlyERC20) = some token)
    (hamount : parseUnits (dbl.text amount).toString answers.decimals = some decimalAmount)
    (hexact : transferExact lib config contracts destinationAddress decimalAmount metaTxMethod
      (some (tokenAddress.getD contracts.rlyERC20)) eip712DomainData answers.exact = .ok relayed) :
    transfer lib config contracts destinationAddress dbl amount metaTxMethod tokenAddress
      eip712DomainData answers = .ok relayed := by
  unfold transfer
  apply bind_eq_ok.mpr
  refine ⟨account, by rw [haccount, orThrow_some], ?_⟩
  apply bind_eq_ok.mpr
  refine ⟨balance, hbalance, ?_⟩
  -- the rest is the call of `transferExact`
  rw [if_neg (by simp [hcovered]), htoken, hamount]
  exact hexact

end Transfer

end RlyNetworkSdk.Networks
