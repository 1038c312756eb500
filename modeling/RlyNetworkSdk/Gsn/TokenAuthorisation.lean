import RlyNetworkSdk.Gsn.GsnClient
import RlyNetworkSdk.Gsn.MetaTransactions
import RlyNetworkSdk.Gsn.PermitTransaction
import RlyNetworkSdk.Gsn.SignedRequest

/-!
# The Signed Authorisation Is the Submitted Call

A transfer writes its authorisation several times: as the message that the wallet signs, as
the arguments of the call that is relayed, and, by permit, as the data for the paymaster. The
same contents go into all of them.
-/

namespace RlyNetworkSdk.Gsn

open Encoding Evm Dart

/-! ## Agreement -/

/-- What the wallet signs is read as the message and the domain, and the three words make up
the signature. -/
structure SignedAs {w3 : Web3dart} (lib : EthSigUtil w3) (wallet : Wallet) (d : TypedData)
    (message domain : Eip712.Value) (v r s : Abi.Word) : Prop where
  signature : signTypedData lib wallet d =
    some (prefixedHex (r.bytes ++ s.bytes ++ [UInt8.ofNat v.toNat]))
  byte : v.toNat < 256
  message : d.messageStruct lib.readAtom = some message
  domain : d.domainStruct lib.readAtom = some domain

/-- The first four arguments of `permit`, under their names in the signed struct. -/
def permitContents (owner spender : EthereumAddress) (value deadline : Nat) :
    List (String × Content) :=
  [("owner", .address owner), ("spender", .address spender), ("value", .uint (uintWord value)),
    ("deadline", .uint (uintWord deadline))]

/-- The signed permit, the calldata, the relay data and the data for the paymaster agree: owner,
spender, amount and deadline are the same wherever they occur. -/
structure PermitMatches (w3 : Web3dart) (config : NetworkConfig)
    (owner spender destination token : EthereumAddress) (amount nonce deadline : Nat)
    (d : TypedData) (message : Eip712.Value) (v r s : Abi.Word) (tx : GsnTransactionDetails) :
    Prop where
  signed : ∀ e ∈ permitContents owner spender amount deadline,
    message.member d.types e.1 = some e.2.signed
  nonce : message.member d.types "nonce" = some (Content.uint (uintWord nonce)).signed
  call : ∃ data, w3.hexToBytes tx.data = some data ∧ Erc20.permit.decodeCall w3 data =
    some ((permitContents owner spender amount deadline).map (·.2.value) ++
      [.word v, .word r, .word s])
  paymaster : ∀ gas request r,
    fillCalldataGasUsed w3 ⟨request, relayDataOf { tx with gas := gas } config.gsn⟩ config.gsn =
      some r → w3.fromHex r.relayData.paymaster = some spender
  paymasterData : ∃ call,
    w3.hexToBytes (relayDataOf tx config.gsn).paymasterData =
      some (token.addressBytes ++ call) ∧
    Erc20.transferFrom.decodeCall w3 call =
      some [.word (addressWord owner), .word (addressWord destination), .word (uintWord amount)]

/-- The first two arguments of `executeMetaTransaction`, under their names in the signed
struct. -/
def metaTransactionContents (userAddress : EthereumAddress) (functionSignature : List UInt8) :
    List (String × Content) :=
  [("from", .address userAddress), ("functionSignature", .bytes functionSignature)]

/-- The signed meta-transaction and the calldata agree, and the domain is salted with the
chain. -/
structure MetaTransactionMatches (w3 : Web3dart) (userAddress destination : EthereumAddress)
    (amount nonce chainId : Nat) (salt : String) (functionSignature : List UInt8)
    (d : TypedData) (message domain : Eip712.Value) (v r s : Abi.Word)
    (tx : GsnTransactionDetails) : Prop where
  signed : ∀ e ∈ metaTransactionContents userAddress functionSignature,
    message.member d.types e.1 = some e.2.signed
  nonce : message.member d.types "nonce" = some (Content.uint (uintWord nonce)).signed
  call : ∃ data, w3.hexToBytes tx.data = some data ∧
    Erc20.executeMetaTransaction.decodeCall w3 data =
      some ((metaTransactionContents userAddress functionSignature).map (·.2.value) ++
        [.word r, .word s, .word v])
  functionSignature : Erc20.transfer.decodeCall w3 functionSignature =
    some [.word (addressWord destination), .word (uintWord amount)]
  saltBytes : w3.hexToBytes salt = some (BigEndian.ofNat 32 chainId)
  salt : ∃ w : Abi.Word, domain.member d.types "salt" = some (.word w) ∧
    w.bytes = BigEndian.ofNat 32 chainId

/-! ## What is signed -/

section Signed

variable {w3 : Web3dart} {lib : EthSigUtil w3}

theorem content_address_of_fromHex {s : String} {a : EthereumAddress}
    (hbehind : hexPrefixed s = true) (ha : w3.fromHex s = some a) :
    w3.content "address" (.string s) = some (.address a) := by
  simp [Web3dart.content, hbehind, ha]

theorem hexPrefixed_prefixedHex (bs : List UInt8) : hexPrefixed (prefixedHex bs) = true := by
  rw [hexPrefixed, prefixedHex, String.toList_ofList]
  rfl

theorem content_address_hex (a : EthereumAddress) :
    w3.content "address" (.string a.hex) = some (.address a) :=
  content_address_of_fromHex (hexPrefixed_prefixedHex _) (w3.fromHex_hex a)

theorem content_uint256_int {n : Nat} (hn : n < 2 ^ 256) :
    w3.content "uint256" (.int n) = some (.uint (uintWord n)) := by
  have hword : (wordOfInt n).map Content.uint = some (.uint (uintWord n)) := by
    rw [wordOfInt_natCast hn, Option.map_some, uintWord]
  exact hword

/-- The parts of a signature are handed on whole. -/
theorem exists_signedAs {wallet : Wallet} {d : TypedData} {signature : String}
    (hsignature : signTypedData lib wallet d = some signature) {rsv : Rsv}
    (hrsv : rsvOf w3 signature = some rsv) :
    rsv.r.length = 32 ∧ rsv.s.length = 32 ∧ ∃ message domain, SignedAs lib wallet d message domain
      (uintWord rsv.v.toNat) (bytesWord rsv.r) (bytesWord rsv.s) := by
  -- the signature has sixty-five bytes, and its typed data could be read
  obtain ⟨key, -, hkey⟩ := Option.bind_eq_some_iff.mp hsignature
  obtain ⟨bs, hlen, rfl⟩ := lib.signature_eq key d signature hkey
  obtain ⟨⟨message, hmessage⟩, domain, hdomain⟩ := lib.read_of_signTypedData key d _ hkey
  obtain ⟨rsv', hrsv', hr, hs, hconcat⟩ := rsvOf_prefixedHex w3 hlen
  obtain rfl := Option.some.inj (hrsv.symm.trans hrsv')
  have hbyte := rsv.v.toNat_lt
  -- the recovery byte fits in the word that is sent for it
  have hv : (uintWord rsv.v.toNat).toNat = rsv.v.toNat := by
    rw [uintWord, BitVec.toNat_ofNat, Nat.mod_eq_of_lt (by omega)]
  refine ⟨hr, hs, message, domain, ?_, by omega, hmessage, hdomain⟩
  rw [hv, bytes_bytesWord hr, bytes_bytesWord hs, UInt8.ofNat_toNat, hconcat, hsignature]

/-! ## By permit -/

/-- Every member of the permit is signed as what its entry stands for. -/
theorem member_permit {permit : Permit} {message : Eip712.Value}
    (hmessage : (getTypedPermitTransaction permit).messageStruct lib.readAtom = some message)
    {m : Eip712.Member} (hm : m ∈ permitMembers) {entry : Json} {c : Content}
    (hentry : (getTypedPermitTransaction permit).message.get? m.name = some entry)
    (hc : w3.content m.type entry = some c) :
    message.member (getTypedPermitTransaction permit).types m.name = some c.signed := by
  have htype : (getTypedPermitTransaction permit).types.lookup "Permit" = some permitMembers := by
    simp [getTypedPermitTransaction, List.lookup_cons]
  -- the types of the members are no types of the data, so they are read as atoms
  have hatom : (getTypedPermitTransaction permit).types.lookup m.type = none := by
    have hnames : ∀ m ∈ permitMembers, m.type ≠ "EIP712Domain" ∧ m.type ≠ "Permit" := by decide
    obtain ⟨hdomain, hpermit⟩ := hnames m hm
    simp [getTypedPermitTransaction, List.lookup_cons, beq_eq_false_iff_ne.mpr hdomain,
      beq_eq_false_iff_ne.mpr hpermit]
  have hread : Eip712.read (getTypedPermitTransaction permit).types lib.readAtom (1 + 2) "Permit"
      (getTypedPermitTransaction permit).message = some message := hmessage
  exact lib.member_of_content hread htype (by decide) hm hatom hentry hc

theorem permit_matches {wallet : Wallet} {destination : EthereumAddress} {amount : Nat}
    (hamount : amount < 2 ^ 256) {config : NetworkConfig}
    (hpaymaster : hexPrefixed config.gsn.paymasterAddress = true) {contractAddress : String}
    {answers : PermitAnswers} {eip712Salt eip712Version : Option String} {nonce deadline : Nat}
    (hnonces : answers.nonces = nonce) (hnonce : nonce < 2 ^ 63)
    (htimestamp : getPermitDeadline answers.timestamp = deadline) (hdeadline : deadline < 2 ^ 63)
    {tx : GsnTransactionDetails}
    (htx : getPermitTx lib wallet destination amount config contractAddress answers eip712Salt
      eip712Version = some tx) :
    ∃ owner spender token permit message domain v r s, wallet.address w3 = some owner ∧
      w3.fromHex contractAddress = some token ∧
      permitToSign w3 wallet answers.name contractAddress config nonce amount deadline
        (answers.salt eip712Salt) eip712Version = some permit ∧
      SignedAs lib wallet (getTypedPermitTransaction permit) message domain v r s ∧
      PermitMatches w3 config owner spender destination token amount nonce deadline
        (getTypedPermitTransaction permit) message v r s tx := by
  have hnonceInt := bigIntToInt_natCast hnonce
  have hdeadlineInt := bigIntToInt_natCast hdeadline
  -- the transaction, taken apart
  simp only [getPermitTx, getPermitEIP712Signature, hnonces, htimestamp, hnonceInt,
    Option.bind_eq_bind, Option.bind_eq_some_iff] at htx
  obtain ⟨token, htoken, owner, howner, owner', howner', rsv, ⟨permit, hpermit, signature,
    hsignature, hrsv⟩, fromTx, hfromTx, spender, hspender, data, hdata, maxFee, -, maxPriority, -,
    htx⟩ := htx
  obtain rfl := Option.some.inj ((w3.fromHex_hex owner).symm.trans howner')
  obtain rfl := Option.some.inj htx
  obtain ⟨hr, hs, message, domain, hsigned⟩ := exists_signedAs hsignature hrsv
  refine ⟨owner, spender, token, permit, message, domain, _, _, _, howner, htoken, hpermit,
    hsigned, ?_⟩
  -- the members that are signed
  simp only [permitToSign, howner, Option.bind_eq_bind, Option.bind_some,
    Option.bind_eq_some_iff] at hpermit
  obtain ⟨chainId, -, hpermit⟩ := hpermit
  obtain rfl := Option.some.inj hpermit
  have hmember := fun m hm entry c => @member_permit w3 lib _ _ hsigned.message m hm entry c
  refine ⟨?_, ?_, ?_, ?_, ?_⟩
  · intro e he
    simp only [permitContents, List.mem_cons, List.not_mem_nil, or_false] at he
    rcases he with rfl | rfl | rfl | rfl
    · exact hmember ⟨"owner", "address"⟩ (by decide) _ _ rfl (content_address_hex owner)
    · exact hmember ⟨"spender", "address"⟩ (by decide) _ _ rfl
        (content_address_of_fromHex hpaymaster hspender)
    · exact hmember ⟨"value", "uint256"⟩ (by decide) _ _ rfl (content_uint256_toString w3 hamount)
    · refine hmember ⟨"deadline", "uint256"⟩ (by decide) _ _ rfl ?_
      rw [hdeadlineInt]
      exact content_uint256_int (lt_word_of_lt_int hdeadline)
  · exact hmember ⟨"nonce", "uint256"⟩ (by decide) _ _ rfl
      (content_uint256_toString w3 (lt_word_of_lt_int hnonce))
  · exact ⟨data, w3.hexToBytes_prefixedHex data,
      Erc20.decodeCall_of_argumentValues
        (Erc20.argumentValues_permit owner spender hamount (lt_word_of_lt_int hdeadline) hr hs) hdata
        (by simp [weights, Arg.weight, hr, hs])⟩
  · intro gas request r hr
    obtain ⟨gasUsed, rfl⟩ := eq_of_fillCalldataGasUsed hr
    exact hspender
  · refine ⟨fromTx, ?_, Erc20.decodeCall_of_argumentValues
      (Erc20.argumentValues_transferFrom owner destination hamount) hfromTx
      (by simp [weights, Arg.weight])⟩
    have hbytes := w3.hexToBytes_prefixedHex (token.addressBytes ++ fromTx)
    rw [← paymasterData_eq] at hbytes
    exact hbytes

/-! ## By meta-transaction -/

/-- Every member of the meta-transaction is signed as what its entry stands for. -/
theorem member_metaTransaction {metaTransaction : MetaTransaction} {message : Eip712.Value}
    (hmessage : (getTypedMetatransaction metaTransaction).messageStruct lib.readAtom =
      some message)
    {m : Eip712.Member}
    (hm : m ∈ ([⟨"nonce", "uint256"⟩, ⟨"from", "address"⟩, ⟨"functionSignature", "bytes"⟩] :
      List Eip712.Member))
    {entry : Json} {c : Content}
    (hentry : (getTypedMetatransaction metaTransaction).message.get? m.name = some entry)
    (hc : w3.content m.type entry = some c) :
    message.member metaTransactionTypes m.name = some c.signed := by
  have hatom : ∀ m ∈ ([⟨"nonce", "uint256"⟩, ⟨"from", "address"⟩,
      ⟨"functionSignature", "bytes"⟩] : List Eip712.Member),
      metaTransactionTypes.lookup m.type = none := by decide
  -- one level of members, all of them atoms
  have hread : Eip712.read metaTransactionTypes lib.readAtom (1 + 2) "MetaTransaction"
      (getTypedMetatransaction metaTransaction).message = some message := hmessage
  exact lib.member_of_content hread (by decide) (by decide) hm (hatom m hm) hentry hc

variable (w3) in
theorem hexToBytes_paddedSaltHexString {chainId : Nat} (hchainId : chainId < 2 ^ 256) :
    hexPrefixed (paddedSaltHexString chainId) = true ∧
      w3.hexToBytes (paddedSaltHexString chainId) = some (BigEndian.ofNat 32 chainId) := by
  have hdecode : Hex.decode (padLeft (2 * 32) (toRadixString 16 chainId)).toList =
      some (BigEndian.ofNat 32 chainId) :=
    decode_padLeft (by decide) (lt_of_lt_of_le hchainId (by decide))
  have hlist : (paddedSaltHexString chainId).toList =
      '0' :: 'x' :: (padLeft 64 (toRadixString 16 chainId)).toList := String.toList_append
  constructor
  · rw [hexPrefixed, hlist]
    rfl
  · exact (w3.hexToBytes_eq_some_iff _ _).mpr ⟨_, hdecode, .inl hlist⟩

variable (w3) in
/-- The salt is the number of the chain in 32 bytes. -/
theorem content_paddedSaltHexString {chainId : Nat} (hchainId : chainId < 2 ^ 256) :
    ∃ bs : Vector UInt8 32, bs.toList = BigEndian.ofNat 32 chainId ∧
      w3.content "bytes32" (.string (paddedSaltHexString chainId)) = some (.bytes32 bs) := by
  obtain ⟨hbehind, hbytes⟩ := hexToBytes_paddedSaltHexString w3 hchainId
  refine ⟨⟨(BigEndian.ofNat 32 chainId).toArray, by simp⟩, by simp, ?_⟩
  simp [Web3dart.content, hbehind, hbytes]

theorem metaTransaction_matches {wallet : Wallet} {destinationAddress : String} {amount : Nat}
    (hamount : amount < 2 ^ 256) {config : NetworkConfig} {contractAddress : String}
    {answers : MetaTransactionAnswers} {nonce chainId : Nat}
    (hnonces : answers.senderContractNonce = some (nonce : Int)) (hnonce : nonce < 2 ^ 63)
    (hchainId : intParse config.gsn.chainId = some (chainId : Int))
    {tx : GsnTransactionDetails}
    (htx : getExecuteMetatransactionTx lib wallet destinationAddress amount config contractAddress
      answers = some tx) :
    ∃ userAddress destination metaTransaction functionSignature salt message domain v r s,
      wallet.address w3 = some userAddress ∧ w3.fromHex destinationAddress = some destination ∧
      metaTransactionToSign w3 wallet answers.name contractAddress functionSignature config nonce =
        some metaTransaction ∧
      metaTransaction.salt = some salt ∧
      SignedAs lib wallet (getTypedMetatransaction metaTransaction) message domain v r s ∧
      MetaTransactionMatches w3 userAddress destination amount nonce chainId salt
        functionSignature (getTypedMetatransaction metaTransaction) message domain v r s tx := by
  have hnonceInt := bigIntToInt_natCast hnonce
  -- an `int` is small enough for the salt
  have hfits : chainId < 2 ^ 256 := by
    have hint := (Option.filter_eq_some_iff.mp hchainId).2
    simp only [fitsInt, Bool.and_eq_true, decide_eq_true_eq] at hint
    exact lt_word_of_lt_int (by exact_mod_cast hint.2)
  simp only [getExecuteMetatransactionTx, getMetatransactionEIP712Signature, hnonces, hnonceInt,
    Option.bind_eq_bind, Option.bind_some, Option.bind_eq_some_iff] at htx
  obtain ⟨token, htoken, userAddress, huser, destination, hdestination, functionSignature,
    hfunction, rsv, ⟨metaTransaction, hmeta, signature, hsignature, hrsv⟩, data, hdata, baseFee,
    -, htx⟩ := htx
  obtain rfl := Option.some.inj htx
  obtain ⟨hr, hs, message, domain, hsigned⟩ := exists_signedAs hsignature hrsv
  have hfull := hmeta
  simp only [metaTransactionToSign, hchainId, huser, Option.bind_eq_bind, Option.bind_some] at hfull
  obtain rfl := Option.some.inj hfull
  refine ⟨userAddress, destination, _, functionSignature, paddedSaltHexString chainId, message,
    domain, _, _, _, huser, hdestination, hmeta, rfl, hsigned, ?_⟩
  have hmember := fun m hm entry c => @member_metaTransaction w3 lib _ _ hsigned.message m hm entry c
  refine ⟨?_, ?_, ?_, Erc20.decodeCall_of_argumentValues
      (Erc20.argumentValues_transfer destination hamount) hfunction
      (by simp [weights, Arg.weight]),
    (hexToBytes_paddedSaltHexString w3 hfits).2, ?_⟩
  · intro e he
    simp only [metaTransactionContents, List.mem_cons, List.not_mem_nil, or_false] at he
    rcases he with rfl | rfl
    · exact hmember ⟨"from", "address"⟩ (by decide) _ _ rfl (content_address_hex userAddress)
    · exact hmember ⟨"functionSignature", "bytes"⟩ (by decide) _ _ rfl
        (content_bytes_prefixedHex w3 functionSignature)
  · exact hmember ⟨"nonce", "uint256"⟩ (by decide) _ _ rfl
      (content_uint256_int (lt_word_of_lt_int hnonce))
  · refine ⟨data, w3.hexToBytes_prefixedHex data, Erc20.decodeCall_of_argumentValues
      (Erc20.argumentValues_executeMetaTransaction userAddress functionSignature hr hs) hdata ?_⟩
    have hlen := ContractFunction.length_encodeCall_le_weights hfunction
    simp only [weights, Arg.weight, hr, hs] at hlen ⊢
    omega
  · obtain ⟨bs, hbs, hcontent⟩ := content_paddedSaltHexString w3 hfits
    have hread : Eip712.read metaTransactionTypes lib.readAtom (1 + 2) "EIP712Domain" _ =
        some domain := hsigned.domain
    have hsalt := lib.member_of_content hread rfl (by decide)
      (m := ⟨"salt", "bytes32"⟩) (by decide) (by decide) rfl hcontent
    refine ⟨bytesWord bs.toList, hsalt, ?_⟩
    rw [bytes_bytesWord (by simp), hbs]

/-- **What is signed is what is submitted.** For every wallet, destination, token, amount,
nonce, deadline, chain, salt and version. By permit: the owner, spender, value and deadline
that are signed are the first four arguments of the call, the spender is the paymaster of the
relay data, and the data for the paymaster is the token and a transfer of the amount from the
owner to the destination. By meta-transaction: the sender and the function signature that are
signed are the first two arguments of the call, the function signature is a transfer of the
amount to the destination, and the domain is salted with the number of the chain. Both ways
the parts of the signature that are sent make up the signature. -/
theorem token_authorisation_matches_call (lib : EthSigUtil w3) (wallet : Wallet)
    (contractAddress : String) (amount : Nat) (hamount : amount < 2 ^ 256)
    (config : NetworkConfig) :
    (hexPrefixed config.gsn.paymasterAddress = true →
      ∀ (destination : EthereumAddress) (answers : PermitAnswers)
        (eip712Salt eip712Version : Option String) (nonce deadline : Nat)
        (tx : GsnTransactionDetails), answers.nonces = nonce → nonce < 2 ^ 63 →
      getPermitDeadline answers.timestamp = deadline → deadline < 2 ^ 63 →
      getPermitTx lib wallet destination amount config contractAddress answers eip712Salt
        eip712Version = some tx →
      ∃ owner spender token permit message domain v r s, wallet.address w3 = some owner ∧
        w3.fromHex contractAddress = some token ∧
        permitToSign w3 wallet answers.name contractAddress config nonce amount deadline
          (answers.salt eip712Salt) eip712Version = some permit ∧
        SignedAs lib wallet (getTypedPermitTransaction permit) message domain v r s ∧
        PermitMatches w3 config owner spender destination token amount nonce deadline
          (getTypedPermitTransaction permit) message v r s tx) ∧
    (∀ (destinationAddress : String) (answers : MetaTransactionAnswers) (nonce chainId : Nat)
        (tx : GsnTransactionDetails), answers.senderContractNonce = some (nonce : Int) →
      nonce < 2 ^ 63 → intParse config.gsn.chainId = some (chainId : Int) →
      getExecuteMetatransactionTx lib wallet destinationAddress amount config contractAddress
        answers = some tx →
      ∃ userAddress destination metaTransaction functionSignature salt message domain v r s,
        wallet.address w3 = some userAddress ∧ w3.fromHex destinationAddress = some destination ∧
        metaTransactionToSign w3 wallet answers.name contractAddress functionSignature config
          nonce = some metaTransaction ∧
        metaTransaction.salt = some salt ∧
        SignedAs lib wallet (getTypedMetatransaction metaTransaction) message domain v r s ∧
        MetaTransactionMatches w3 userAddress destination amount nonce chainId salt
          functionSignature (getTypedMetatransaction metaTransaction) message domain v r s tx) :=
  ⟨fun hpaymaster _ _ _ _ _ _ _ hnonces hnonce htimestamp hdeadline htx =>
    permit_matches hamount hpaymaster hnonces hnonce htimestamp hdeadline htx,
    fun _ _ _ _ _ hnonces hnonce hchainId htx =>
      metaTransaction_matches hamount hnonces hnonce hchainId htx⟩

end Signed

/-! ## Two transfers -/

namespace Sample

def token : String := "0x758641a1b566998CaC5Bc5fC8032F001e1CEBeEf"

def destination : EthereumAddress := ⟨List.replicate 20 1, rfl⟩

def permitAnswers : PermitAnswers where
  nonces := 7
  name := "Rally Polygon"
  timestamp := 1700000000000
  eip712Domain := none
  estimateGas := 100000
  baseFeePerGas := some 30
  gasPrice := 40

def metaTransactionAnswers : MetaTransactionAnswers where
  name := "Rally Polygon"
  nonces := none
  getNonce := some 7
  estimateGas := 100000
  baseFeePerGas := some 30

/-- The wallet of the key one. -/
def account : Wallet := ⟨"0x01"⟩

/-! The packages differ only in the words that they have for negative numbers. -/

variable {place : Int → Option Abi.Word}

/-- Every message that can be read is signed. -/
theorem exists_rsv {d : TypedData} {message domain : Eip712.Value}
    (hmessage : d.messageStruct (libWith place).readAtom = some message)
    (hdomain : d.domainStruct (libWith place).readAtom = some domain) :
    ∃ signature rsv, signTypedData (libWith place) account d = some signature ∧
      rsvOf (w3With place) signature = some rsv ∧ rsv.r.length = 32 ∧ rsv.s.length = 32 := by
  have hkey : (account.signingKey w3).isSome = true := by decide +kernel
  obtain ⟨key, hkey⟩ := Option.isSome_iff_exists.mp hkey
  have hkey : account.signingKey (w3With place) = some key := hkey
  obtain ⟨rsv, hrsv, hr, hs, -⟩ :=
    rsvOf_prefixedHex (w3With place) (show (Vector.replicate 65 (0 : UInt8)).toList.length = 65 by simp)
  -- the sample library signs whatever can be read
  have hreadable : (d.messageStruct (libWith place).readAtom).isSome ∧
      (d.domainStruct (libWith place).readAtom).isSome :=
    ⟨by rw [hmessage]; rfl, by rw [hdomain]; rfl⟩
  refine ⟨_, rsv, ?_, hrsv, hr, hs⟩
  rw [signTypedData, hkey, Option.bind_some]
  exact if_pos hreadable

theorem readAtom_of_content {type : String} {json : Json} {c : Content}
    (h : (w3With place).content type json = some c) :
    (libWith place).readAtom type json = some c.signed := by
  have hmap : ((w3With place).content type json).map Content.signed = some c.signed := by
    rw [h, Option.map_some]
  exact hmap

/-- A message whose entries are all well formed can be read. -/
theorem exists_read_of_contents {types : Eip712.Types} {type : String} {json : Json}
    {members : List Eip712.Member} (htype : types.lookup type = some members)
    (h : ∀ m ∈ members, types.lookup m.type = none ∧
      ∃ entry c, json.get? m.name = some entry ∧
        (w3With place).content m.type entry = some c) :
    ∃ v, Eip712.read types (libWith place).readAtom (2 + 1) type json = some v := by
  apply Eip712.exists_read htype
  intro m hm
  obtain ⟨hatom, entry, c, hentry, hc⟩ := h m hm
  exact ⟨entry, c.signed, hentry, by rw [Eip712.read, hatom, readAtom_of_content hc]⟩

theorem exists_encodeCall {f : ContractFunction} {args : List Arg} {vs : List Abi.Value}
    (h : argumentValues (w3With place) f.inputs args = some vs) :
    ∃ data, f.encodeCall (w3With place) args = some data :=
  ⟨_, by rw [ContractFunction.encodeCall, h, Option.map_some]⟩

theorem exists_fromHex_token (place : Int → Option Abi.Word) :
    ∃ a, (w3With place).fromHex token = some a := by
  have hsome : (w3.fromHex token).isSome = true := by decide +kernel
  exact Option.isSome_iff_exists.mp hsome

theorem exists_address_account (place : Int → Option Abi.Word) :
    ∃ a, account.address (w3With place) = some a := by
  have hsome : (account.address w3).isSome = true := by decide +kernel
  exact Option.isSome_iff_exists.mp hsome

theorem content_token (place : Int → Option Abi.Word) :
    ∃ a, (w3With place).content "address" (.string token) = some (.address a) := by
  obtain ⟨a, ha⟩ := exists_fromHex_token place
  exact ⟨a, content_address_of_fromHex (by decide +kernel) ha⟩

theorem exists_fromHex_paymaster : ∃ a, w3.fromHex config.gsn.paymasterAddress = some a := by
  have hsome : (w3.fromHex config.gsn.paymasterAddress).isSome = true := by decide +kernel
  exact Option.isSome_iff_exists.mp hsome

theorem hexPrefixed_paymaster : hexPrefixed config.gsn.paymasterAddress = true := by
  decide +kernel

theorem content_paymaster :
    ∃ a, w3.content "address" (.string config.gsn.paymasterAddress) = some (.address a) := by
  obtain ⟨a, ha⟩ := exists_fromHex_paymaster
  exact ⟨a, content_address_of_fromHex hexPrefixed_paymaster ha⟩

theorem intParse_chainId : intParse config.gsn.chainId = some ((80002 : Nat) : Int) := by
  decide +kernel

/-- Every meta-transaction of the account is signed. -/
theorem exists_rsv_metaTransaction (place : Int → Option Abi.Word)
    (functionSignature : List UInt8) :
    ∃ rsv, getMetatransactionEIP712Signature (libWith place) account "Rally Polygon" token
      functionSignature config 7 = some rsv ∧ rsv.r.length = 32 ∧ rsv.s.length = 32 := by
  obtain ⟨userAddress, huser⟩ := exists_address_account place
  obtain ⟨tokenAddress, htoken⟩ := content_token place
  obtain ⟨salt, -, hsalt⟩ :=
    content_paddedSaltHexString (w3With place) (by decide : 80002 < 2 ^ 256)
  let metaTransaction : MetaTransaction := ⟨some "Rally Polygon", some "1",
    some (paddedSaltHexString (80002 : Nat)), some token, (7 : Nat), userAddress.hex,
    functionSignature⟩
  have hmeta : metaTransactionToSign (w3With place) account "Rally Polygon" token
      functionSignature config 7 = some metaTransaction := by
    simp only [metaTransactionToSign, intParse_chainId, huser, Option.bind_eq_bind,
      Option.bind_some]
    rfl
  -- each of the three members has an entry of its type
  have hmessage : ∃ v, (getTypedMetatransaction metaTransaction).messageStruct
      (libWith place).readAtom = some v := by
    apply exists_read_of_contents rfl
    intro m hm
    simp only [List.mem_cons, List.not_mem_nil, or_false] at hm
    rcases hm with rfl | rfl | rfl
    · exact ⟨rfl, _, _, rfl, content_uint256_int (by decide : 7 < 2 ^ 256)⟩
    · exact ⟨rfl, _, _, rfl, content_address_hex userAddress⟩
    · exact ⟨rfl, _, _, rfl, content_bytes_prefixedHex _ functionSignature⟩
  -- and so has each member of the domain, with the number of the chain for a salt
  have hdomain : ∃ v, (getTypedMetatransaction metaTransaction).domainStruct
      (libWith place).readAtom = some v := by
    apply exists_read_of_contents rfl
    intro m hm
    simp only [List.mem_cons, List.not_mem_nil, or_false] at hm
    rcases hm with rfl | rfl | rfl | rfl
    · exact ⟨rfl, _, .string _, rfl, rfl⟩
    · exact ⟨rfl, _, .string _, rfl, rfl⟩
    · exact ⟨rfl, _, _, rfl, htoken⟩
    · exact ⟨rfl, _, _, rfl, hsalt⟩
  obtain ⟨message, hmessage⟩ := hmessage
  obtain ⟨domain, hdomain⟩ := hdomain
  obtain ⟨signature, rsv, hsignature, hrsv, hr, hs⟩ := exists_rsv hmessage hdomain
  refine ⟨rsv, ?_, hr, hs⟩
  simp only [getMetatransactionEIP712Signature, hmeta, hsignature, hrsv, Option.bind_eq_bind,
    Option.bind_some]

/-- **A transfer by meta-transaction goes out**, even of a negative amount, if there is a word for
it. -/
theorem exists_executeMetatransactionTx {amount : Int} {word : Abi.Word}
    (hword : (w3With place).encodeUint 256 amount = some word) :
    ∃ tx, getExecuteMetatransactionTx (libWith place) account destination.hex amount config token
      metaTransactionAnswers = some tx := by
  obtain ⟨tokenAddress, htoken⟩ := exists_fromHex_token place
  obtain ⟨userAddress, huser⟩ := exists_address_account place
  -- the only place for the amount is the call that is signed
  obtain ⟨functionSignature, hfunction⟩ :=
    exists_encodeCall (Erc20.argumentValues_transfer_word destination hword)
  obtain ⟨rsv, hrsv, hr, hs⟩ := exists_rsv_metaTransaction place functionSignature
  have hcall : ∃ data, Erc20.executeMetaTransaction.encodeCall (w3With place) _ = some data :=
    exists_encodeCall
      (Erc20.argumentValues_executeMetaTransaction userAddress functionSignature hr hs)
  obtain ⟨data, hdata⟩ := hcall
  have hnonce : bigIntToInt 7 = 7 := by decide
  simp [getExecuteMetatransactionTx, htoken, huser, Web3dart.fromHex_hex, hfunction, hrsv, hdata,
    metaTransactionAnswers, MetaTransactionAnswers.senderContractNonce, hnonce]

theorem exists_rsv_permit {amount deadline : Nat} (hamount : amount < 2 ^ 256)
    (hdeadline : deadline < 2 ^ 63) :
    ∃ rsv, getPermitEIP712Signature lib account "Rally Polygon" token config 7 amount deadline ""
      none = some rsv ∧ rsv.r.length = 32 ∧ rsv.s.length = 32 := by
  obtain ⟨owner, howner⟩ := exists_address_account Dart.Sample.unsignedWord
  obtain ⟨tokenAddress, htoken⟩ := content_token Dart.Sample.unsignedWord
  obtain ⟨spender, hspender⟩ := content_paymaster
  let permit : Permit := ⟨"Rally Polygon", "1", (80002 : Nat), token, owner.hex,
    config.gsn.paymasterAddress, amount, (7 : Nat), deadline, ""⟩
  have hpermit : permitToSign w3 account "Rally Polygon" token config 7 amount deadline "" none =
      some permit := by
    simp only [permitToSign, intParse_chainId, howner, Option.bind_eq_bind, Option.bind_some]
    rfl
  have hmessage : ∃ v, (getTypedPermitTransaction permit).messageStruct lib.readAtom = some v := by
    apply exists_read_of_contents rfl
    intro m hm
    simp only [permitMembers, List.mem_cons, List.not_mem_nil, or_false] at hm
    rcases hm with rfl | rfl | rfl | rfl | rfl
    · exact ⟨rfl, _, _, rfl, content_address_hex owner⟩
    · exact ⟨rfl, _, _, rfl, hspender⟩
    · exact ⟨rfl, _, _, rfl, content_uint256_toString w3 hamount⟩
    · exact ⟨rfl, _, _, rfl, content_uint256_toString w3 (by decide : 7 < 2 ^ 256)⟩
    · have hcontent : w3.content "uint256" (.int (bigIntToInt deadline)) =
          some (.uint (uintWord deadline)) := by
        rw [bigIntToInt_natCast hdeadline]
        exact content_uint256_int (lt_word_of_lt_int hdeadline)
      exact ⟨rfl, _, _, rfl, hcontent⟩
  -- there is no salt in the domain
  have hmembers : (getTypedPermitTransaction permit).types.lookup "EIP712Domain" =
      some [⟨"name", "string"⟩, ⟨"version", "string"⟩, ⟨"chainId", "uint256"⟩,
        ⟨"verifyingContract", "address"⟩] := rfl
  have hdomain : ∃ v, (getTypedPermitTransaction permit).domainStruct lib.readAtom = some v := by
    apply exists_read_of_contents hmembers
    intro m hm
    simp only [List.mem_cons, List.not_mem_nil, or_false] at hm
    rcases hm with rfl | rfl | rfl | rfl
    · exact ⟨rfl, _, .string _, rfl, rfl⟩
    · exact ⟨rfl, _, .string _, rfl, rfl⟩
    · exact ⟨rfl, _, _, rfl, content_uint256_int (by decide : 80002 < 2 ^ 256)⟩
    · exact ⟨rfl, _, _, rfl, htoken⟩
  obtain ⟨message, hmessage⟩ := hmessage
  obtain ⟨domain, hdomain⟩ := hdomain
  obtain ⟨signature, rsv, hsignature, hrsv, hr, hs⟩ := exists_rsv hmessage hdomain
  refine ⟨rsv, ?_, hr, hs⟩
  simp only [getPermitEIP712Signature, hpermit, hsignature, hrsv, Option.bind_eq_bind,
    Option.bind_some]

/-- **A transfer by permit goes out**, for every amount that is a word and every deadline that
is an `int`. -/
theorem exists_permitTx {amount deadline : Nat} (hamount : amount < 2 ^ 256)
    (hdeadline : getPermitDeadline permitAnswers.timestamp = deadline) (hlt : deadline < 2 ^ 63) :
    ∃ tx, getPermitTx lib account destination amount config token permitAnswers none none =
      some tx := by
  obtain ⟨tokenAddress, htoken⟩ := exists_fromHex_token Dart.Sample.unsignedWord
  obtain ⟨owner, howner⟩ := exists_address_account Dart.Sample.unsignedWord
  obtain ⟨spender, hspender⟩ := exists_fromHex_paymaster
  obtain ⟨rsv, hrsv, hr, hs⟩ := exists_rsv_permit hamount hlt
  obtain ⟨fromTx, hfromTx⟩ :=
    exists_encodeCall (Erc20.argumentValues_transferFrom owner destination hamount)
  obtain ⟨data, hdata⟩ := exists_encodeCall
    (Erc20.argumentValues_permit owner spender hamount (lt_word_of_lt_int hlt) hr hs)
  exact exists_getPermitTx htoken howner hdeadline hrsv hfromTx hspender hdata rfl

end Sample

/-- A transfer of each kind, on Polygon's test network. -/
theorem token_authorisation_matches_call_amoy :
    (∃ tx owner spender data v r s,
      getPermitTx Sample.lib Sample.account Sample.destination 1000 Sample.config Sample.token
        Sample.permitAnswers none none = some tx ∧
      Sample.w3.hexToBytes tx.data = some data ∧
      Erc20.permit.decodeCall Sample.w3 data =
        some ((permitContents owner spender 1000 1700000045000).map (·.2.value) ++
          [.word v, .word r, .word s])) ∧
    ∃ tx userAddress functionSignature data v r s,
      getExecuteMetatransactionTx Sample.lib Sample.account Sample.destination.hex 1000
        Sample.config Sample.token Sample.metaTransactionAnswers = some tx ∧
      Sample.w3.hexToBytes tx.data = some data ∧
      Erc20.executeMetaTransaction.decodeCall Sample.w3 data =
        some ((metaTransactionContents userAddress functionSignature).map (·.2.value) ++
          [.word r, .word s, .word v]) := by
  have hmatches := token_authorisation_matches_call Sample.lib Sample.account Sample.token 1000
    (by decide) Sample.config
  constructor
  · -- by permit, with a deadline forty-five seconds after the block, in milliseconds
    obtain ⟨tx, htx⟩ := Sample.exists_permitTx (show 1000 < 2 ^ 256 by decide)
      (show getPermitDeadline Sample.permitAnswers.timestamp = (1700000045000 : Nat) from rfl)
      (by decide)
    obtain ⟨owner, spender, _, _, _, _, v, r, s, -, -, -, -, hpermit⟩ :=
      hmatches.1 Sample.hexPrefixed_paymaster Sample.destination Sample.permitAnswers none none 7
        1700000045000 tx rfl (by decide) rfl (by decide) htx
    obtain ⟨data, hdata, hcall⟩ := hpermit.call
    exact ⟨tx, owner, spender, data, v, r, s, htx, hdata, hcall⟩
  · -- by meta-transaction, with the nonce 7
    obtain ⟨tx, htx⟩ := Sample.exists_executeMetatransactionTx
      (Sample.w3.encodeUint_of_fits 256 1000 (by decide) (by decide) (by decide))
    obtain ⟨userAddress, _, _, functionSignature, _, _, _, v, r, s, -, -, -, -, -, hmeta⟩ :=
      hmatches.2 Sample.destination.hex Sample.metaTransactionAnswers 7 80002 tx rfl (by decide)
        Sample.intParse_chainId htx
    obtain ⟨data, hdata, hcall⟩ := hmeta.call
    exact ⟨tx, userAddress, functionSignature, data, v, r, s, htx, hdata, hcall⟩

end RlyNetworkSdk.Gsn
