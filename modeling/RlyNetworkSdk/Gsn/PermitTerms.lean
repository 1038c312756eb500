import RlyNetworkSdk.Gsn.TokenAuthorisation

/-!
# The Terms of a Permit

What a permit transaction offers to pay, and until when the permit is good. The fees come from
two readings of the chain that need not fit together, and the deadline is a time in
milliseconds that the token contract compares with seconds.

## Main results

- `FeeData.usable_iff`: for which readings the fees are a pair that can be used.
- `permit_expiry_iff`: in which blocks the deadline decides as it should.
-/

namespace RlyNetworkSdk.Gsn

open Encoding Evm Dart

/-! ## Fees -/

namespace FeeData

/-- Both fees are there, the priority fee is not negative, and it is within the whole fee. This
is what a node demands of a transaction with these fees. -/
def Usable (feeData : FeeData) : Prop :=
  ∃ maxFee maxPriorityFee, feeData.maxFeePerGas = some maxFee ∧
    feeData.maxPriorityFeePerGas = some maxPriorityFee ∧
    0 ≤ maxPriorityFee ∧ maxPriorityFee ≤ maxFee

/-- The fees that are there are small enough for a word, so that placing them in a transaction
does not fail for their size. -/
def FitsWords (feeData : FeeData) : Prop :=
  (∀ n, feeData.maxFeePerGas = some n → n < 2 ^ 256) ∧
    ∀ n, feeData.maxPriorityFeePerGas = some n → n < 2 ^ 256

/-- The gas price with the buffer of ten percent, rounded down as `~/` does. -/
def bufferedPrice (gasPrice : Nat) : Nat := gasPrice + gasPrice * 10 / 100

theorem computeMaxPriorityFeePerGas_some (baseFeePerGas gasPrice : Nat) :
    computeMaxPriorityFeePerGas (some (baseFeePerGas : Int)) gasPrice =
      (bufferedPrice gasPrice : Int) - baseFeePerGas := by
  have hbuffer : ((gasPrice : Int) * 10).tdiv 100 = ((gasPrice * 10 / 100 : Nat) : Int) := rfl
  simp only [computeMaxPriorityFeePerGas, hbuffer, bufferedPrice]
  push_cast
  rfl

theorem usable_some (maxFee maxPriorityFee : Int) :
    Usable ⟨some maxFee, some maxPriorityFee⟩ ↔ 0 ≤ maxPriorityFee ∧ maxPriorityFee ≤ maxFee := by
  constructor
  · rintro ⟨_, _, hmaxFee, hpriority, h⟩
    obtain rfl := Option.some.inj hmaxFee
    obtain rfl := Option.some.inj hpriority
    exact h
  · intro h
    exact ⟨maxFee, maxPriorityFee, rfl, rfl, h⟩

theorem fitsWords_some (maxFee maxPriorityFee : Int) :
    FitsWords ⟨some maxFee, some maxPriorityFee⟩ ↔ maxFee < 2 ^ 256 ∧ maxPriorityFee < 2 ^ 256 := by
  simp [FitsWords]

theorem getFeeData_some (baseFeePerGas gasPrice : Nat) :
    getFeeData (some (baseFeePerGas : Int)) gasPrice =
      ⟨some ((baseFeePerGas : Int) + bufferedPrice gasPrice),
        some ((bufferedPrice gasPrice : Int) - baseFeePerGas)⟩ := by
  rw [getFeeData, computeMaxPriorityFeePerGas_some, Option.map_some]
  congr 2
  omega

/-- **Which readings give usable fees.** For every block and every gas price: the fees are
usable exactly when the block has a base fee and this is at most a tenth above the gas price;
they also fit a word exactly when the two together do. -/
theorem usable_iff (baseFeePerGas : Option Nat) (gasPrice : Nat) :
    ((getFeeData (baseFeePerGas.map Int.ofNat) gasPrice).Usable ↔
      ∃ baseFee, baseFeePerGas = some baseFee ∧ baseFee ≤ bufferedPrice gasPrice) ∧
    ((getFeeData (baseFeePerGas.map Int.ofNat) gasPrice).Usable ∧
        (getFeeData (baseFeePerGas.map Int.ofNat) gasPrice).FitsWords ↔
      ∃ baseFee, baseFeePerGas = some baseFee ∧ baseFee ≤ bufferedPrice gasPrice ∧
        baseFee + bufferedPrice gasPrice < 2 ^ 256) := by
  cases baseFeePerGas with
  | none =>
    -- without a base fee nothing is computed, and both fees are missing
    have hnull : ¬ (getFeeData none gasPrice).Usable := by
      rintro ⟨maxFee, maxPriorityFee, hmaxFee, -⟩
      cases hmaxFee
    simp [hnull]
  | some baseFee =>
    have hvalue : getFeeData (Option.map Int.ofNat (some baseFee)) gasPrice = _ :=
      getFeeData_some baseFee gasPrice
    -- both fees are numbers, and the conditions on them are linear
    rw [hvalue, usable_some, fitsWords_some]
    simp only [Option.some.injEq, exists_eq_left']
    omega

/-- A chain without a base fee, and a base fee that has risen between the two readings. -/
theorem not_usable :
    (getFeeData none 40).maxFeePerGas = none ∧ ¬ (getFeeData none 40).Usable ∧
    (getFeeData (some 100) 30).maxPriorityFeePerGas = some (-67) ∧
      ¬ (getFeeData (some 100) 30).Usable := by
  refine ⟨rfl, ?_, by decide, ?_⟩
  · rintro ⟨maxFee, -, hmaxFee, -⟩
    cases hmaxFee
  · rintro ⟨maxFee, maxPriorityFee, -, hpriority, hnonneg, -⟩
    have hvalue : (getFeeData (some 100) 30).maxPriorityFeePerGas = some (-67) := by decide
    rw [hvalue] at hpriority
    obtain rfl := Option.some.inj hpriority
    exact absurd hnonneg (by decide)

end FeeData

/-- Without a base fee there is no permit transaction: the null check of the caller throws. -/
theorem getPermitTx_eq_none {w3 : Web3dart} (lib : EthSigUtil w3) (wallet : Wallet)
    (destinationAddress : EthereumAddress) (amount : Int) (config : NetworkConfig)
    (contractAddress : String) (answers : PermitAnswers) (eip712Salt eip712Version : Option String)
    (hfee : answers.baseFeePerGas = none) :
    getPermitTx lib wallet destinationAddress amount config contractAddress answers eip712Salt
      eip712Version = none := by
  simp only [getPermitTx, hfee, FeeData.getFeeData, Option.bind_eq_bind, Option.map_none,
    Option.bind_none, Option.bind_fun_none]

/-! ## The deadline -/

section Deadline

variable {w3 : Web3dart} {lib : EthSigUtil w3}

/-- The value of an argument stands at its place. -/
theorem argumentValues_getElem? {ps : List Parameter} {args : List Arg} {vs : List Abi.Value}
    (h : argumentValues w3 ps args = some vs) {i : Nat} {p : Parameter} {arg : Arg}
    (hp : ps[i]? = some p) (harg : args[i]? = some arg) : vs[i]? = p.value w3 arg := by
  induction ps generalizing args vs i with
  | nil => cases hp
  | cons q ps ih =>
    cases args with
    | nil => cases harg
    | cons a args =>
      simp only [argumentValues, Option.bind_eq_bind, Option.bind_eq_some_iff] at h
      obtain ⟨v, hv, vs', hvs', h⟩ := h
      obtain rfl := Option.some.inj h
      -- the first place, or one of the others
      cases i with
      | zero =>
        obtain rfl := Option.some.inj hp
        obtain rfl := Option.some.inj harg
        exact hv.symm
      | succ i => exact ih hvs' hp harg

/-- The deadline is a member of the message that the wallet signs for the permit. -/
def SignsDeadline (lib : EthSigUtil w3) (wallet : Wallet) (permit : Permit) (deadline : Nat) :
    Prop :=
  ∃ message domain v r s,
    SignedAs lib wallet (getTypedPermitTransaction permit) message domain v r s ∧
      message.member (getTypedPermitTransaction permit).types "deadline" =
        some (.word (uintWord deadline))

/-- The deadline is the fourth argument of the permit in the calldata. -/
def SendsDeadline (w3 : Web3dart) (tx : GsnTransactionDetails) (deadline : Nat) : Prop :=
  ∃ data arguments, w3.hexToBytes tx.data = some data ∧
    Erc20.permit.decodeCall w3 data = some arguments ∧
      arguments[3]? = some (.word (uintWord deadline))

/-- **One deadline** is computed, signed and sent. -/
theorem deadline_signed_and_sent {wallet : Wallet} {destination : EthereumAddress} {amount : Int}
    {config : NetworkConfig} {contractAddress : String} {answers : PermitAnswers}
    {eip712Salt eip712Version : Option String} {deadline : Nat}
    (hcomputed : getPermitDeadline answers.timestamp = deadline) (hdeadline : deadline < 2 ^ 63)
    {tx : GsnTransactionDetails}
    (htx : getPermitTx lib wallet destination amount config contractAddress answers eip712Salt
      eip712Version = some tx) :
    ∃ permit, permitToSign w3 wallet answers.name contractAddress config
        (bigIntToInt answers.nonces) amount deadline (answers.salt eip712Salt) eip712Version =
          some permit ∧
      SignsDeadline lib wallet permit deadline ∧ SendsDeadline w3 tx deadline := by
  have hdeadlineInt := bigIntToInt_natCast hdeadline
  have hwide := lt_word_of_lt_int hdeadline
  -- the transaction, taken apart
  simp only [getPermitTx, getPermitEIP712Signature, hcomputed, Option.bind_eq_bind,
    Option.bind_eq_some_iff] at htx
  obtain ⟨token, -, walletAddress, -, owner, -, rsv, ⟨permit, hpermit, signature, hsignature,
    hrsv⟩, fromTx, -, spender, -, data, hdata, maxFee, -, maxPriority, -, htx⟩ := htx
  obtain rfl := Option.some.inj htx
  obtain ⟨hr, hs, message, domain, hsigned⟩ := exists_signedAs hsignature hrsv
  refine ⟨permit, hpermit, ⟨message, domain, _, _, _, hsigned, ?_⟩, ?_⟩
  · -- the entry of the message is an `int`, which the deadline fits
    have hentry : permit.deadline = deadline := by
      simp only [permitToSign, Option.bind_eq_bind, Option.bind_eq_some_iff] at hpermit
      obtain ⟨chainId, -, owner, -, hpermit⟩ := hpermit
      obtain rfl := Option.some.inj hpermit
      rfl
    apply member_permit (m := ⟨"deadline", "uint256"⟩) (c := .uint (uintWord deadline))
      hsigned.message (by decide) rfl
    rw [hentry, hdeadlineInt]
    exact content_uint256_int hwide
  · obtain ⟨arguments, harguments, -⟩ := Option.map_eq_some_iff.mp hdata
    refine ⟨data, arguments, w3.hexToBytes_prefixedHex data, ?_, ?_⟩
    · exact Erc20.decodeCall_of_argumentValues harguments hdata (by simp [weights, Arg.weight, hr, hs])
    · have hvalue := argumentValues_getElem? harguments (i := 3) rfl rfl
      rw [hvalue]
      exact leafValue_uint256 hwide

/-- **When a permit expires.** For every block time of the latest block for which the deadline is
a `DateTime`, and whatever else goes into the permit: one deadline is computed, signed and
sent, and in a block of time `t'` the check of the token contract decides as it should within
45 seconds and after a thousand times the deadline in seconds, and at no time between. -/
theorem permit_expiry_iff (lib : EthSigUtil w3) (wallet : Wallet) (destination : EthereumAddress)
    (amount : Int) (config : NetworkConfig) (contractAddress : String) (answers : PermitAnswers)
    (eip712Salt eip712Version : Option String) (tx : GsnTransactionDetails) (t t' : Nat)
    (htime : answers.timestamp = 1000 * t) (hrange : 1000 * (t + 45) ≤ 8640000000000000)
    (htx : getPermitTx lib wallet destination amount config contractAddress answers eip712Salt
      eip712Version = some tx) :
    ∃ (deadline : Nat) (permit : Permit), getPermitDeadline answers.timestamp = deadline ∧
      permitToSign w3 wallet answers.name contractAddress config (bigIntToInt answers.nonces)
        amount deadline (answers.salt eip712Salt) eip712Version = some permit ∧
      SignsDeadline lib wallet permit deadline ∧ SendsDeadline w3 tx deadline ∧
      ((t' ≤ deadline ↔ t' ≤ t + 45) ↔ t' ≤ t + 45 ∨ 1000 * (t + 45) < t') := by
  -- milliseconds: a thousand times the seconds of the block and of the forty-five
  have hcomputed : getPermitDeadline answers.timestamp = (1000 * (t + 45) : Nat) := by
    rw [getPermitDeadline, htime]
    push_cast
    ring
  have hsmall : 1000 * (t + 45) < 2 ^ 63 := lt_of_le_of_lt hrange (by decide)
  -- the same number goes into the message and into the call
  obtain ⟨permit, hpermit, hsigns, hsends⟩ := deadline_signed_and_sent hcomputed hsmall htx
  exact ⟨_, permit, hcomputed, hpermit, hsigns, hsends, by omega⟩

end Deadline

/-- A permit for which the latest block is of November 2023, a second after it should have
expired. -/
theorem permit_expiry_iff_sample :
    ∃ tx, getPermitTx Sample.lib Sample.account Sample.destination 1000 Sample.config Sample.token
        Sample.permitAnswers none none = some tx ∧
      ∃ (deadline : Nat) (permit : Permit),
        getPermitDeadline Sample.permitAnswers.timestamp = deadline ∧
        permitToSign Sample.w3 Sample.account "Rally Polygon" Sample.token Sample.config
          (bigIntToInt 7) 1000 deadline (Sample.permitAnswers.salt none) none = some permit ∧
        SignsDeadline Sample.lib Sample.account permit deadline ∧
        SendsDeadline Sample.w3 tx deadline ∧
        ((1700000046 ≤ deadline ↔ 1700000046 ≤ 1700000000 + 45) ↔
          1700000046 ≤ 1700000000 + 45 ∨ 1000 * (1700000000 + 45) < 1700000046) := by
  obtain ⟨tx, htx⟩ := Sample.exists_permitTx (show 1000 < 2 ^ 256 by decide)
    (show getPermitDeadline Sample.permitAnswers.timestamp = (1700000045000 : Nat) from rfl)
    (by decide)
  exact ⟨tx, htx, permit_expiry_iff Sample.lib Sample.account Sample.destination 1000 Sample.config
    Sample.token Sample.permitAnswers none none tx 1700000000 1700000046 rfl (by decide) htx⟩

/-- The same permit is still good in a block 46 seconds later, and for more than fifty thousand
years. -/
theorem not_expired :
    ∃ (tx : GsnTransactionDetails) (permit : Permit) (deadline : Nat),
      getPermitTx Sample.lib Sample.account Sample.destination 1000 Sample.config Sample.token
        Sample.permitAnswers none none = some tx ∧
      getPermitDeadline Sample.permitAnswers.timestamp = deadline ∧
      SignsDeadline Sample.lib Sample.account permit deadline ∧
      SendsDeadline Sample.w3 tx deadline ∧ deadline = 1700000045000 ∧
      ¬ (1700000046 ≤ deadline ↔ 1700000046 ≤ 1700000000 + 45) := by
  have hcomputed : getPermitDeadline Sample.permitAnswers.timestamp = (1700000045000 : Nat) := rfl
  obtain ⟨tx, htx⟩ := Sample.exists_permitTx (show 1000 < 2 ^ 256 by decide) hcomputed (by decide)
  obtain ⟨permit, -, hsigns, hsends⟩ := deadline_signed_and_sent hcomputed (by decide) htx
  exact ⟨tx, permit, 1700000045000, htx, hcomputed, hsigns, hsends, rfl, by omega⟩

end RlyNetworkSdk.Gsn
