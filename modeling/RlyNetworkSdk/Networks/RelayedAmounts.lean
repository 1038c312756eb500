import RlyNetworkSdk.Gsn.TokenAuthorisation
import RlyNetworkSdk.Networks.EvmNetworks

/-!
# The Amount in What Is Relayed

What reaches `relay` says an amount in several places: in the message that the wallet has
signed, in the call that is relayed, and, by permit, in the transfer that the paymaster is
told to make. Here it is read back from each of them, as the token contract will read it.

## Main results

- `permit_amounts`: a permit says the amount that was asked for, which is a word.
- `metaTransaction_amounts`: a meta-transaction says the word that was made of the amount,
  whether or not the amount was one.
-/

namespace RlyNetworkSdk.Networks

open Encoding Evm Dart Gsn

/-! ## Reading an amount -/

/-- The amount of a call of `transfer`, as a contract decodes it. -/
def transferAmount (w3 : Web3dart) (call : List UInt8) : Option Nat :=
  match Erc20.transfer.decodeCall w3 call with
  | some [_, .word amount] => some amount.toNat
  | _ => none

section Amounts

variable {w3 : Web3dart} (lib : EthSigUtil w3)

/-- A member of the message that is signed, as `eth_sig_util` reads it. A value that it refuses
leaves no struct, and so no member either. -/
def signedMember (d : TypedData) (name : String) : Option Eip712.Value :=
  (d.messageStruct lib.readAtom).bind (·.member d.types name)

/-- The amount that the wallet has signed: the value of a permit, and the amount of the transfer
that a meta-transaction is for. -/
def signedAmount (d : TypedData) : MetaTxMethod → Option Nat
  | .permit =>
    match signedMember lib d "value" with
    | some (.word value) => some value.toNat
    | _ => none
  | .executeMetaTransaction =>
    match signedMember lib d "functionSignature" with
    | some (.bytes call) => transferAmount w3 call
    | _ => none

variable (w3) in
/-- The amount in the calldata: the value of `permit`, and the amount of the transfer that
`executeMetaTransaction` makes. -/
def submittedAmount (tx : GsnTransactionDetails) : MetaTxMethod → Option Nat
  | .permit =>
    match (w3.hexToBytes tx.data).bind (Erc20.permit.decodeCall w3) with
    | some [_, _, .word value, _, _, _, _] => some value.toNat
    | _ => none
  | .executeMetaTransaction =>
    match (w3.hexToBytes tx.data).bind (Erc20.executeMetaTransaction.decodeCall w3) with
    | some [_, .bytes call, _, _, _] => transferAmount w3 call
    | _ => none

variable (w3) in
/-- The amount of the transfer behind the token's address in the data for the paymaster. The
address takes the first twenty bytes. -/
def paymasterAmount (tx : GsnTransactionDetails) : Option Nat :=
  match (tx.paymasterData.bind w3.hexToBytes).bind fun bytes =>
      Erc20.transferFrom.decodeCall w3 (bytes.drop 20) with
  | some [_, _, .word amount] => some amount.toNat
  | _ => none

/-- The signed message, the call and, by permit, the paymaster's transfer are all of this
amount. It is not the argument of the function: each of them is decoded. -/
structure Relayed.IsOf (relayed : Relayed) (metaTxMethod : MetaTxMethod) (amount : Nat) :
    Prop where
  signed : signedAmount lib relayed.authorisation metaTxMethod = some amount
  submitted : submittedAmount w3 relayed.transferTx metaTxMethod = some amount
  paymaster : metaTxMethod = .permit → paymasterAmount w3 relayed.transferTx = some amount

/-- It is of no other amount. -/
theorem Relayed.IsOf.unique {relayed : Relayed} {metaTxMethod : MetaTxMethod} {m n : Nat}
    (hm : relayed.IsOf lib metaTxMethod m) (hn : relayed.IsOf lib metaTxMethod n) : m = n :=
  Option.some.inj (hm.submitted.symm.trans hn.submitted)

variable {lib}

/-- The word of a transfer is read back. -/
theorem transferAmount_of_encodeCall {destination : EthereumAddress} {amount : Int}
    {word : Abi.Word} {call : List UInt8} (hword : w3.encodeUint 256 amount = some word)
    (hcall : Erc20.transfer.encodeCall w3 [.address destination, .bigInt amount] = some call) :
    transferAmount w3 call = some word.toNat := by
  have hdecode := Erc20.decodeCall_of_argumentValues
    (Erc20.argumentValues_transfer_word destination hword) hcall (by simp [weights, Arg.weight])
  rw [transferAmount, hdecode]

/-- A call is encoded only if there is a word for the amount. -/
theorem exists_word_of_encodeCall {destination : EthereumAddress} {amount : Int}
    {call : List UInt8}
    (hcall : Erc20.transfer.encodeCall w3 [.address destination, .bigInt amount] = some call) :
    ∃ word, w3.encodeUint 256 amount = some word := by
  obtain ⟨vs, hvs, -⟩ := Option.map_eq_some_iff.mp hcall
  cases hword : w3.encodeUint 256 amount with
  | some word => exact ⟨word, rfl⟩
  | none =>
    simp [Erc20.transfer, argumentValues, Parameter.leaf, Parameter.value, leafValue, hword] at hvs

/-! ## By meta-transaction -/

/-- **The amount of a meta-transaction** is the word that `web3dart` makes of it. The signed
message carries the encoded call, so the signature and the call cannot differ. -/
theorem metaTransaction_amounts {config : NetworkConfig} {destinationAddress : String}
    {account : Wallet} {amount : Int} {tokenAddress : String}
    {eip712DomainData : Option EIP712Domain} {answers : TransferExactAnswers} {relayed : Relayed}
    (htx : transferTxOf lib config destinationAddress account amount .executeMetaTransaction
      tokenAddress eip712DomainData answers = some relayed.transferTx)
    (hauthorisation : authorisationOf w3 config destinationAddress account amount
      .executeMetaTransaction tokenAddress eip712DomainData answers =
        some relayed.authorisation) :
    ∃ word, w3.encodeUint 256 amount = some word ∧
      relayed.IsOf lib .executeMetaTransaction word.toNat := by
  simp only [transferTxOf, getExecuteMetatransactionTx, getMetatransactionEIP712Signature,
    Option.bind_eq_bind, Option.bind_eq_some_iff] at htx
  obtain ⟨token, -, userAddress, huser, nonce, hnonce, destination, hdestination, call, hcall, rsv,
    ⟨metaTransaction, hmeta, signature, hsignature, hrsv⟩, data, hdata, baseFee, -, htx⟩ := htx
  -- what was signed is what the call was signed with
  simp only [authorisationOf, hnonce, hdestination, hcall, hmeta, Option.bind_eq_bind,
    Option.bind_some] at hauthorisation
  obtain ⟨word, hword⟩ := exists_word_of_encodeCall hcall
  have hamount := transferAmount_of_encodeCall hword hcall
  obtain ⟨hr, hs, message, domain, hsigned⟩ := exists_signedAs hsignature hrsv
  have hfunction : metaTransaction.functionSignature = call := by
    simp only [metaTransactionToSign, Option.bind_eq_bind, Option.bind_eq_some_iff] at hmeta
    obtain ⟨chainId, -, sender, -, hmeta⟩ := hmeta
    cases hmeta
    rfl
  refine ⟨word, hword, ?_, ?_, ?_⟩
  · rw [← Option.some.inj hauthorisation]
    have hentry : (getTypedMetatransaction metaTransaction).message.get? "functionSignature" =
        some (.string (prefixedHex call)) := by
      rw [← hfunction]
      rfl
    have hmember := member_metaTransaction hsigned.message
      (m := ⟨"functionSignature", "bytes"⟩) (by decide) hentry (content_bytes_prefixedHex w3 call)
    have hread : signedMember lib (getTypedMetatransaction metaTransaction) "functionSignature" =
        some (.bytes call) := by
      rw [signedMember, hsigned.message]
      exact hmember
    rw [signedAmount, hread]
    exact hamount
  · have hdecode : Erc20.executeMetaTransaction.decodeCall w3 data = some _ :=
      Erc20.decodeCall_of_argumentValues
        (Erc20.argumentValues_executeMetaTransaction userAddress call hr hs) hdata (by
          have hlen := ContractFunction.length_encodeCall_le_weights hcall
          simp only [weights, Arg.weight, hr, hs] at hlen ⊢
          omega)
    have hbytes : w3.hexToBytes relayed.transferTx.data = some data := by
      rw [← Option.some.inj htx]
      exact w3.hexToBytes_prefixedHex data
    rw [submittedAmount, hbytes, Option.bind_some, hdecode]
    exact hamount
  · -- no paymaster is told of it
    intro hmethod
    cases hmethod

/-! ## By permit -/

/-- **A permit is signed only for a word**: not for a negative amount, and not for one that is too
wide. -/
theorem exists_nat_of_signed {permit : Permit} (hlib : lib.RefusesOutOfRange)
    {message : Eip712.Value}
    (hmessage : (getTypedPermitTransaction permit).messageStruct lib.readAtom = some message) :
    ∃ amount : Nat, permit.value = amount ∧ amount < 2 ^ 256 := by
  have htype : (getTypedPermitTransaction permit).types.lookup "Permit" = some permitMembers := by
    simp [getTypedPermitTransaction, List.lookup_cons]
  obtain ⟨entry, word, hentry, hread, -⟩ := Eip712.read_member (m := ⟨"value", "uint256"⟩) hmessage
    htype (by decide) (by decide)
  cases hentry
  have hatom : (getTypedPermitTransaction permit).types.lookup "uint256" = none := by
    simp [getTypedPermitTransaction, List.lookup_cons]
  have hvalueRead : Eip712.read (getTypedPermitTransaction permit).types lib.readAtom (1 + 1)
      "uint256" (.string (toRadixString 10 permit.value)) = some word := hread
  rw [Eip712.read, hatom] at hvalueRead
  -- otherwise the package would have thrown
  have hrange : 0 ≤ permit.value ∧ permit.value < 2 ^ 256 := by
    by_contra hout
    have hrefused := hlib _ permit.value (bigIntParse_toString permit.value) hout
    rw [hrefused] at hvalueRead
    cases hvalueRead
  exact ⟨permit.value.toNat, by omega, by omega⟩

/-- The value of a call of `permit` is read back, whatever the deadline is. -/
theorem decodeCall_permit {owner spender : EthereumAddress} {value : Nat} {deadline : Int}
    {rsv : Rsv} (hvalue : value < 2 ^ 256) (hr : rsv.r.length = 32) (hs : rsv.s.length = 32)
    {data : List UInt8}
    (hdata : Erc20.permit.encodeCall w3 [.address owner, .address spender, .bigInt value,
      .bigInt deadline, .bigInt rsv.v.toNat, .bytes rsv.r, .bytes rsv.s] = some data) :
    ∃ owner spender deadline v r s, Erc20.permit.decodeCall w3 data =
      some [owner, spender, .word (uintWord value), deadline, v, r, s] := by
  obtain ⟨vs, hvs, -⟩ := Option.map_eq_some_iff.mp hdata
  have hdecode := Erc20.decodeCall_of_argumentValues hvs hdata
    (by simp [weights, Arg.weight, hr, hs])
  -- a deadline without a word would have stopped the call
  cases hdeadline : w3.encodeUint 256 deadline with
  | none =>
    have hnone : leafValue w3 "uint256" (.bigInt deadline) = none := by simp [leafValue, hdeadline]
    simp [Erc20.permit, argumentValues, Parameter.leaf, Parameter.value, leafValue_address,
      leafValue_uint256 hvalue, hnone] at hvs
  | some word =>
    have hsome : leafValue w3 "uint256" (.bigInt deadline) = some (.word word) := by
      simp [leafValue, hdeadline]
    simp only [Erc20.permit, argumentValues, Parameter.leaf, Parameter.value, leafValue_address,
      leafValue_uint256 hvalue, leafValue_uint8, leafValue_bytes32 hr, leafValue_bytes32 hs,
      hsome] at hvs
    rw [hdecode, ← Option.some.inj hvs]
    exact ⟨_, _, _, _, _, _, rfl⟩

/-- **The amount of a permit** is the one that was asked for. It is signed as a number of its
own, and `eth_sig_util` refuses a number that is no word. -/
theorem permit_amounts (hlib : lib.RefusesOutOfRange) {config : NetworkConfig}
    {destinationAddress : String} {account : Wallet} {amount : Int} {tokenAddress : String}
    {eip712DomainData : Option EIP712Domain} {answers : TransferExactAnswers} {relayed : Relayed}
    (htx : transferTxOf lib config destinationAddress account amount .permit tokenAddress
      eip712DomainData answers = some relayed.transferTx)
    (hauthorisation : authorisationOf w3 config destinationAddress account amount .permit
      tokenAddress eip712DomainData answers = some relayed.authorisation) :
    ∃ n : Nat, amount = n ∧ relayed.IsOf lib .permit n := by
  obtain ⟨destination, -, hmade⟩ := Option.bind_eq_some_iff.mp htx
  simp only [getPermitTx, getPermitEIP712Signature, Option.bind_eq_bind,
    Option.bind_eq_some_iff] at hmade
  obtain ⟨token, htoken, owner, howner, owner', howner', rsv, ⟨permit, hpermit, signature,
    hsignature, hrsv⟩, fromTx, hfromTx, spender, hspender, data, hdata, maxFee, -, maxPriority, -,
    hmade⟩ := hmade
  obtain ⟨permit', hpermit', hsame⟩ := Option.map_eq_some_iff.mp hauthorisation
  -- the permit that is signed is the one of the authorisation
  obtain rfl := Option.some.inj (hpermit.symm.trans hpermit')
  obtain ⟨hr, hs, message, domain, hsigned⟩ := exists_signedAs hsignature hrsv
  have hvalue : permit.value = amount := by
    simp only [permitToSign, Option.bind_eq_bind, Option.bind_eq_some_iff] at hpermit
    obtain ⟨chainId, -, owner, -, hpermit⟩ := hpermit
    cases hpermit
    rfl
  -- the library has read the value for the signature, so it fits a word
  obtain ⟨n, hn, hlt⟩ := exists_nat_of_signed hlib hsigned.message
  obtain rfl : amount = n := hvalue.symm.trans hn
  have hword : (uintWord n).toNat = n := by
    rw [uintWord, BitVec.toNat_ofNat, Nat.mod_eq_of_lt hlt]
  refine ⟨n, rfl, ?_, ?_, fun _ => ?_⟩
  · -- in the message
    have hmember := member_permit hsigned.message (m := ⟨"value", "uint256"⟩) (by decide) rfl
      (by rw [hn]; exact content_uint256_toString w3 hlt)
    have hread : signedMember lib (getTypedPermitTransaction permit) "value" =
        some (.word (uintWord n)) := by
      rw [signedMember, hsigned.message]
      exact hmember
    rw [← hsame, signedAmount, hread]
    exact congrArg some hword
  · -- in the calldata
    obtain ⟨_, _, _, _, _, _, hdecode⟩ := decodeCall_permit hlt hr hs hdata
    have hbytes : w3.hexToBytes relayed.transferTx.data = some data := by
      rw [← Option.some.inj hmade]
      exact w3.hexToBytes_prefixedHex data
    rw [submittedAmount, hbytes, Option.bind_some, hdecode]
    exact congrArg some hword
  · -- in the data for the paymaster, behind the address of the token
    have hdecode := Erc20.decodeCall_of_argumentValues
      (Erc20.argumentValues_transferFrom owner' destination hlt) hfromTx
      (by simp [weights, Arg.weight])
    have hbytes : relayed.transferTx.paymasterData.bind w3.hexToBytes =
        some (token.addressBytes ++ fromTx) := by
      rw [← Option.some.inj hmade, ← w3.hexToBytes_prefixedHex (token.addressBytes ++ fromTx),
        ← paymasterData_eq]
      rfl
    rw [paymasterAmount, hbytes, Option.bind_some, List.drop_left' token.length_addressBytes,
      hdecode]
    exact congrArg some hword

end Amounts

end RlyNetworkSdk.Networks
