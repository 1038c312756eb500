import RlyNetworkSdk.Networks.RelayedAmounts

/-!
# Which Transfers Are Covered

A transfer that is relayed should be of an amount between nothing and the balance. The upper
bound is checked by `transferExact`. The lower one is not: a permit of a negative amount cannot
be signed, but a meta-transaction takes the amount as a word, whatever its sign, and the word of a
negative amount may be more than the balance.

## Main result

- `transfers_covered_iff`: exactly which amounts are covered whenever they are relayed.
-/

namespace RlyNetworkSdk.Networks

open Encoding Evm Dart Gsn DoubleText

/-! ## Units -/

/-- What the digits behind the point count for: none is taken away, however many there are, so
that more of them than the token has decimals count too much. -/
def fractionUnits (fraction : List (Fin 10)) (decimals : Nat) : Nat :=
  fractionValue fraction * 10 ^ (decimals - fraction.length)

theorem bigIntParse_wholePart (negative : Bool) (whole : Nat) :
    bigIntParse (String.ofList (sign negative ++ Nat.toDigits 10 whole)) =
      some (if negative then -(whole : Int) else whole) := by
  rw [bigIntParse, String.toList_ofList]
  -- a sign is read by `readSigned` before the digits, and no digit is a sign
  cases negative with
  | false =>
    show readSigned magnitude (Nat.toDigits 10 whole) = some (whole : Int)
    rw [readSigned_toDigits magnitude (by decide) (by decide), magnitude_toDigits]
    rfl
  | true =>
    show (magnitude (Nat.toDigits 10 whole)).map (fun n : Nat => -(n : Int)) = some (-(whole : Int))
    rw [magnitude_toDigits]
    rfl

theorem bigIntParse_fractionalPart {fraction : List (Fin 10)} (hfraction : fraction ≠ [])
    (decimals : Nat) :
    bigIntParse (padRight decimals (String.ofList (fractionDigits fraction))) =
      some (fractionUnits fraction decimals : Int) := by
  obtain ⟨d, fraction, rfl⟩ := List.exists_cons_of_ne_nil hfraction
  obtain ⟨hminus, hplus, -, -⟩ := digitChar_ne (d : Fin 10) (by omega)
  have hlength : (fractionDigits (d :: fraction)).length = (d :: fraction).length :=
    List.length_map _
  -- no digit is an `x`, so the text is not taken for a hexadecimal one
  have hx : ∀ c ∈ fractionDigits (d :: fraction) ++ List.replicate (decimals -
      (d :: fraction).length) '0', c ≠ 'x' ∧ c ≠ 'X' := by
    intro c hc
    rcases List.mem_append.mp hc with hc | hc
    · exact (mem_fractionDigits hc).2
    · obtain rfl := List.eq_of_mem_replicate hc
      decide
  have hzeros : ∀ k, readDigits 10 (List.replicate k '0') = some 0 := by
    intro k
    have hread : readDigits 10 (List.replicate k '0' ++ []) = readDigits 10 [] :=
      readDigits_replicate_zero_append (by decide) k []
    rwa [List.append_nil] at hread
  -- the padding multiplies by a power of ten
  have hread : magnitude (fractionDigits (d :: fraction) ++ List.replicate (decimals -
      (d :: fraction).length) '0') = some (fractionUnits (d :: fraction) decimals) := by
    rw [magnitude_eq_numeral hx, numeral_of_ne_nil (by simp [fractionDigits]), readDigits_append,
      readDigits_fractionDigits, hzeros, Option.bind_some, Option.map_some, List.length_replicate,
      fractionUnits, Nat.add_zero, Nat.mul_comm]
  rw [bigIntParse, padRight, String.toList_ofList, String.toList_ofList, hlength]
  -- the first digit is no sign either
  have hcons : ∃ cs, fractionDigits (d :: fraction) ++ List.replicate (decimals -
      (d :: fraction).length) '0' = Nat.digitChar d :: cs := ⟨_, rfl⟩
  obtain ⟨cs, hcs⟩ := hcons
  rw [hcs] at hread ⊢
  rw [readSigned_cons hminus hplus, hread]
  rfl

/-- An amount in units, from its digits before and behind the point. The sign belongs to the
digits before the point alone. -/
theorem parseUnits_finite (negative : Bool) (whole : Nat) (fraction : List (Fin 10))
    (decimals : Nat) :
    parseUnits (finite negative whole fraction none).toString decimals =
      some ((if negative then -(whole : Int) else whole) * 10 ^ decimals +
        fractionUnits fraction decimals) := by
  have hsplit := split_toString negative whole fraction none
  simp only [exponentPart, List.append_nil] at hsplit
  -- without digits behind the point the text has no point
  by_cases hfraction : fraction = []
  · rw [if_pos hfraction] at hsplit
    rw [parseUnits_whole hsplit, bigIntParse_wholePart, hfraction, fractionUnits]
    simp [fractionValue]
  · rw [if_neg hfraction] at hsplit
    rw [parseUnits_fraction hsplit, bigIntParse_wholePart, bigIntParse_fractionalPart hfraction]
    rfl

/-- A text with an exponent is not parsed. -/
theorem parseUnits_exponent (negative : Bool) (whole : Nat) (fraction : List (Fin 10)) (e : Int)
    (decimals : Nat) : parseUnits (finite negative whole fraction (some e)).toString decimals =
      none := by
  have he : 'e' ∈ exponentPart (some e) := List.mem_cons_self
  have hsplit := split_toString negative whole fraction (some e)
  -- the `e` is in the only part, or in the one behind the point
  by_cases hfraction : fraction = []
  · rw [if_pos hfraction] at hsplit
    have hnone : readSigned magnitude (sign negative ++ Nat.toDigits 10 whole ++
        exponentPart (some e)) = none := by
      apply readSigned_magnitude_eq_none _ (List.mem_append_right _ he) <;> try decide
      intro c hc
      rcases List.mem_append.mp hc with hc | hc
      · rcases List.mem_append.mp hc with hc | hc
        · exact (mem_sign hc).2
        · exact (mem_toDigits_ten hc).2
      · exact (mem_exponentPart hc).2
    rw [parseUnits_whole hsplit, bigIntParse, String.toList_ofList, hnone, Option.map_none]
  · rw [if_neg hfraction] at hsplit
    have hnone : ∀ zeros, readSigned magnitude (fractionDigits fraction ++
        exponentPart (some e) ++ List.replicate zeros '0') = none := by
      intro zeros
      apply readSigned_magnitude_eq_none _
        (List.mem_append_left _ (List.mem_append_right _ he)) <;> try decide
      intro c hc
      rcases List.mem_append.mp hc with hc | hc
      · rcases List.mem_append.mp hc with hc | hc
        · exact (mem_fractionDigits hc).2
        · exact (mem_exponentPart hc).2
      · obtain rfl := List.eq_of_mem_replicate hc
        decide
    have hpart : bigIntParse (padRight decimals (String.ofList
        (fractionDigits fraction ++ exponentPart (some e)))) = none := by
      rw [bigIntParse, padRight, String.toList_ofList, String.toList_ofList, hnone]
    rw [parseUnits_fraction hsplit, hpart]
    -- whatever the part before the point gives
    cases bigIntParse (String.ofList (sign negative ++ Nat.toDigits 10 whole)) <;> rfl

theorem parseUnits_nan (decimals : Nat) : parseUnits nan.toString decimals = none := by
  have hparse : bigIntParse nan.toString = none := by decide
  have hsplit : split '.' nan.toString = [nan.toString] := by
    rw [split, List.splitOn_eq_singleton (by decide), List.map_singleton, String.ofList_toList]
  rw [parseUnits_whole hsplit, hparse, Option.map_none]

theorem parseUnits_infinity (negative : Bool) (decimals : Nat) :
    parseUnits (infinity negative).toString decimals = none := by
  have hparse : bigIntParse (infinity negative).toString = none := by
    cases negative <;> decide
  have hsplit : split '.' (infinity negative).toString = [(infinity negative).toString] := by
    rw [split, List.splitOn_eq_singleton (by cases negative <;> decide), List.map_singleton,
      String.ofList_toList]
  rw [parseUnits_whole hsplit, hparse, Option.map_none]

/-- The amount does not become negative in units: it is not parsed at all, or it has no sign, or
the digits behind the point make up for those before it. -/
def StaysNonnegative (decimals : Nat) : DoubleText → Prop
  | nan | infinity _ | finite _ _ _ (some _) => True
  | finite negative whole fraction none =>
    negative = false ∨ whole * 10 ^ decimals ≤ fractionUnits fraction decimals

instance (decimals : Nat) : DecidablePred (StaysNonnegative decimals)
  | nan | infinity _ | finite _ _ _ (some _) => isTrue trivial
  | finite negative whole fraction none =>
    inferInstanceAs (Decidable (negative = false ∨
      whole * 10 ^ decimals ≤ fractionUnits fraction decimals))

/-- **The sign of an amount in units.** The sign of the text is only in the digits before the
point, and those behind it are added with no regard to it. -/
theorem staysNonnegative_iff (decimals : Nat) (text : DoubleText) :
    StaysNonnegative decimals text ↔
      ∀ n, parseUnits text.toString decimals = some n → 0 ≤ n := by
  -- the printed forms of a double, one by one; only plain digits give an amount
  match text with
  | nan => simp [StaysNonnegative, parseUnits_nan]
  | infinity negative => simp [StaysNonnegative, parseUnits_infinity]
  | finite negative whole fraction (some e) => simp [StaysNonnegative, parseUnits_exponent]
  | finite negative whole fraction none =>
    have hpow : ((whole * 10 ^ decimals : Nat) : Int) = (whole : Int) * 10 ^ decimals := by
      push_cast
      rfl
    simp only [StaysNonnegative, parseUnits_finite, Option.some.injEq, forall_eq']
    -- the sign applies to the whole part alone, so a fraction can outweigh a negative zero
    cases negative with
    | false =>
      simp only [Bool.false_eq_true, if_false, true_or, true_iff]
      omega
    | true =>
      simp only [Bool.true_eq_false, if_true, false_or, neg_mul]
      omega

/-- An amount without a sign does not become negative. -/
theorem staysNonnegative_of_not_isNegative (decimals : Nat) :
    ∀ {text : DoubleText}, text.isNegative = false → StaysNonnegative decimals text
  | nan, _ | infinity _, _ | finite _ _ _ (some _), _ => trivial
  | finite _ _ _ none, hsign => .inl hsign

/-- Only an amount with a sign becomes negative. -/
theorem isNegative_of_parseUnits {text : DoubleText} {decimals : Nat} {n : Int}
    (hparse : parseUnits text.toString decimals = some n) (hn : n < 0) : text.isNegative = true := by
  by_contra hsign
  have hstays := staysNonnegative_of_not_isNegative decimals (Bool.eq_false_iff.mpr hsign)
  have hnonneg := (staysNonnegative_iff decimals text).mp hstays n hparse
  omega

/-! ## Covered transfers -/

/-- What is relayed is of an amount that the balance covers. The amount is read back from what
was built, and has to be the same in every part of it. -/
def Relayed.Covered {w3 : Web3dart} (lib : EthSigUtil w3) (relayed : Relayed)
    (metaTxMethod : MetaTxMethod) (balance : Nat) : Prop :=
  ∃ n, relayed.IsOf lib metaTxMethod n ∧ n ≤ balance

/-- Whatever the wallet, the token, the destination and the other answers, what `transferExact`
relays is covered by the balance that it reads. `place` are the words that `web3dart` has for
negative numbers: none with assertions, and two's complement without. -/
def ExactCovered (place : Int → Option Abi.Word) (balance : Nat) (amount : Int)
    (metaTxMethod : MetaTxMethod) : Prop :=
  ∀ (w3 : Web3dart) (lib : EthSigUtil w3), lib.RefusesOutOfRange →
    (∀ n < 0, w3.encodeUint 256 n = place n) →
    ∀ (config : NetworkConfig) (contracts : Contracts) (destinationAddress : String)
      (tokenAddress : Option String) (eip712DomainData : Option EIP712Domain)
      (answers : TransferExactAnswers) (relayed : Relayed),
    answers.sourceBalance.balanceOf = balance →
    transferExact lib config contracts destinationAddress amount metaTxMethod tokenAddress
      eip712DomainData answers = .ok relayed → relayed.Covered lib metaTxMethod balance

/-- The same for `transfer`, with the balance that `transferExact` reads. The amount is a
`double` here, of which the text is parsed. -/
def DisplayCovered (dbl : Doubles) (place : Int → Option Abi.Word) (balance : Nat)
    (decimals : Nat) (amount : dbl.Double) (metaTxMethod : MetaTxMethod) : Prop :=
  ∀ (w3 : Web3dart) (lib : EthSigUtil w3), lib.RefusesOutOfRange →
    (∀ n < 0, w3.encodeUint 256 n = place n) →
    ∀ (config : NetworkConfig) (contracts : Contracts) (destinationAddress : String)
      (tokenAddress : Option String) (eip712DomainData : Option EIP712Domain)
      (answers : TransferAnswers) (relayed : Relayed),
    answers.exact.sourceBalance.balanceOf = balance → answers.decimals = decimals →
    transfer lib config contracts destinationAddress dbl amount metaTxMethod tokenAddress
      eip712DomainData answers = .ok relayed → relayed.Covered lib metaTxMethod balance

/-- The word that a number is placed as, if there is one, is no more than the balance. A
negative number may be placed as its two's complement, or be refused. -/
def PlacedWithin (place : Int → Option Abi.Word) (balance : Nat) (n : Int) : Prop :=
  ∀ word, place n = some word → word.toNat ≤ balance

section Covered

variable {place : Int → Option Abi.Word} {balance : Nat}

theorem exactCovered_permit (place : Int → Option Abi.Word) (balance : Nat) (amount : Int) :
    ExactCovered place balance amount .permit := by
  intro w3 lib hlib _ config contracts destinationAddress tokenAddress eip712DomainData answers
    relayed hbalance h
  obtain ⟨hle, account, -, htx, hauthorisation⟩ := transferExact_eq_ok h
  obtain ⟨n, rfl, hn⟩ := permit_amounts hlib htx hauthorisation
  exact ⟨n, hn, by omega⟩

/-- The word of a number that is not negative is no more than the number. -/
theorem toNat_le_of_encodeUint {w3 : Web3dart} {amount : Int} (hamount : 0 ≤ amount)
    {word : Abi.Word} (hword : w3.encodeUint 256 amount = some word) :
    (word.toNat : Int) ≤ amount := by
  by_cases hfits : amount < 2 ^ 256
  · have hsame := w3.encodeUint_of_fits 256 amount (Nat.le_refl 256) hamount hfits
    obtain rfl := Option.some.inj (hword.symm.trans hsame)
    have hmod : amount % ((2 ^ 256 : Nat) : Int) = amount :=
      Int.emod_eq_of_lt hamount (by simpa using hfits)
    rw [BitVec.toNat_ofInt, hmod, Int.toNat_of_nonneg hamount]
  · -- too wide a number is more than any word
    have hlt : (word.toNat : Int) < 2 ^ 256 := by exact_mod_cast word.isLt
    omega

theorem exactCovered_of_placed {amount : Int} (h : 0 ≤ amount ∨ PlacedWithin place balance amount)
    (metaTxMethod : MetaTxMethod) : ExactCovered place balance amount metaTxMethod := by
  cases metaTxMethod with
  | permit => exact exactCovered_permit place balance amount
  | executeMetaTransaction =>
    intro w3 lib _ hplace config contracts destinationAddress tokenAddress eip712DomainData answers
      relayed hbalance hok
    obtain ⟨hle, account, -, htx, hauthorisation⟩ := transferExact_eq_ok hok
    -- one word is encoded, and both the calldata and the signed message are read back as it
    obtain ⟨word, hword, hn⟩ := metaTransaction_amounts htx hauthorisation
    refine ⟨word.toNat, hn, ?_⟩
    -- a negative amount is covered if its word is; any other one is the amount that was checked
    by_cases hneg : amount < 0
    · rcases h with hnonneg | hwithin
      · omega
      · exact hwithin word ((hplace amount hneg).symm.trans hword)
    · have hword := toNat_le_of_encodeUint (not_lt.mp hneg) hword
      omega

/-- `transfer` is covered if `transferExact` is for what the text is parsed as. -/
theorem displayCovered_of_exactCovered {dbl : Doubles} {decimals : Nat} {amount : dbl.Double}
    {metaTxMethod : MetaTxMethod}
    (h : ∀ n, parseUnits (dbl.text amount).toString decimals = some n →
      ExactCovered place balance n metaTxMethod) :
    DisplayCovered dbl place balance decimals amount metaTxMethod := by
  intro w3 lib hlib hplace config contracts destinationAddress tokenAddress eip712DomainData answers
    relayed hbalance hdecimals hok
  subst hdecimals
  obtain ⟨n, hn, hexact⟩ := transfer_eq_ok hok
  exact h n hn w3 lib hlib hplace config contracts destinationAddress _ eip712DomainData
    answers.exact relayed hbalance hexact

end Covered

/-! ## Transfers that are not covered -/

namespace Sample

def contracts : Contracts := ⟨Gsn.Sample.token⟩

/-- The account with this balance. -/
def exactAnswers (balance : Int) : TransferExactAnswers where
  account := some Gsn.Sample.account
  sourceBalance := ⟨some Gsn.Sample.account, balance⟩
  permit := Gsn.Sample.permitAnswers
  metaTransaction := Gsn.Sample.metaTransactionAnswers

theorem getExactBalance_account (place : Int → Option Abi.Word) (balance : Int) :
    getExactBalance (Gsn.Sample.w3With place) Gsn.Sample.token
      ⟨some Gsn.Sample.account, balance⟩ = .ok balance := by
  obtain ⟨token, htoken⟩ := Gsn.Sample.exists_fromHex_token place
  obtain ⟨address, haddress⟩ := Gsn.Sample.exists_address_account place
  rw [getExactBalance, htoken]
  show (orThrow .exception (Gsn.Sample.account.address (Gsn.Sample.w3With place)) >>=
    fun _ => .ok balance) = .ok balance
  rw [haddress]
  rfl

theorem encodeUint_negative (place : Int → Option Abi.Word) :
    ∀ n < 0, (Gsn.Sample.w3With place).encodeUint 256 n = place n := fun _ hn => if_pos hn

/-- **A meta-transaction of a negative amount is relayed**, if there is a word for it. The guard
compares the balance with the signed number, and a negative one passes it. -/
theorem exists_transferExact_negative {place : Int → Option Abi.Word} {balance amount : Int}
    {word : Abi.Word} (hbalance : 0 ≤ balance) (hamount : amount < 0)
    (hword : place amount = some word) : ∃ relayed,
    transferExact (Gsn.Sample.libWith place) Gsn.Sample.config contracts Gsn.Sample.destination.hex
      amount .executeMetaTransaction (some Gsn.Sample.token) none (exactAnswers balance) =
        .ok relayed := by
  obtain ⟨transferTx, htx⟩ :=
    Gsn.Sample.exists_executeMetatransactionTx ((encodeUint_negative place amount hamount).trans hword)
  -- the check of the balance passes, as the amount is negative
  have hok : ∃ authorisation, transferExact (Gsn.Sample.libWith place) Gsn.Sample.config contracts
      Gsn.Sample.destination.hex amount .executeMetaTransaction (some Gsn.Sample.token) none
      (exactAnswers balance) = .ok ⟨authorisation, transferTx⟩ :=
    transferExact_of_transferTxOf rfl (getExactBalance_account place balance) (by omega) htx
  obtain ⟨authorisation, hok⟩ := hok
  exact ⟨_, hok⟩

end Sample

section NotCovered

variable {place : Int → Option Abi.Word} {balance : Nat}

/-- The word of a relayed meta-transaction is the only amount that it is of. -/
theorem not_covered_of_word {w3 : Web3dart} {lib : EthSigUtil w3} {config : NetworkConfig}
    {contracts : Contracts} {destinationAddress : String} {amount : Int}
    {tokenAddress : Option String} {eip712DomainData : Option EIP712Domain}
    {answers : TransferExactAnswers} {relayed : Relayed}
    (hok : transferExact lib config contracts destinationAddress amount .executeMetaTransaction
      tokenAddress eip712DomainData answers = .ok relayed)
    {word : Abi.Word} (hword : w3.encodeUint 256 amount = some word)
    (hlt : balance < word.toNat) : ¬ relayed.Covered lib .executeMetaTransaction balance := by
  rintro ⟨n, hn, hle⟩
  obtain ⟨-, account, -, htx, hauthorisation⟩ := transferExact_eq_ok hok
  obtain ⟨word', hword', hn'⟩ := metaTransaction_amounts htx hauthorisation
  obtain rfl := Option.some.inj (hword.symm.trans hword')
  -- an amount that the relayed data carries is the word, which is more than the balance
  have heq := hn.unique lib hn'
  omega

theorem not_exactCovered {amount : Int} (hamount : amount < 0)
    (hnot : ¬ PlacedWithin place balance amount) :
    ¬ ExactCovered place balance amount .executeMetaTransaction := by
  intro hcovered
  simp only [PlacedWithin, not_forall] at hnot
  obtain ⟨word, hword, hlt⟩ := hnot
  -- the transfer at this balance, over the sample configuration
  obtain ⟨relayed, hok⟩ := Sample.exists_transferExact_negative (Int.natCast_nonneg balance) hamount
    hword
  have hlib := Dart.Sample.refusesOutOfRange_ethSigUtil (Gsn.Sample.w3With place)
    (Vector.replicate 65 0)
  have hplace := Sample.encodeUint_negative place
  exact not_covered_of_word hok ((hplace amount hamount).trans hword) (not_le.mp hlt)
    (hcovered (Gsn.Sample.w3With place) (Gsn.Sample.libWith place) hlib hplace Gsn.Sample.config
      Sample.contracts Gsn.Sample.destination.hex (some Gsn.Sample.token) none
      (Sample.exactAnswers balance) relayed rfl hok)

/-- An account may give a negative amount away, whatever it has. -/
theorem not_displayCovered {dbl : Doubles} {decimals : Nat} {amount : dbl.Double} {n : Int}
    (hparse : parseUnits (dbl.text amount).toString decimals = some n) (hn : n < 0)
    (hnot : ¬ PlacedWithin place balance n) :
    ¬ DisplayCovered dbl place balance decimals amount .executeMetaTransaction := by
  intro hcovered
  simp only [PlacedWithin, not_forall] at hnot
  obtain ⟨word, hword, hlt⟩ := hnot
  obtain ⟨token, htoken⟩ := Gsn.Sample.exists_fromHex_token place
  obtain ⟨relayed, hexact⟩ := Sample.exists_transferExact_negative (Int.natCast_nonneg balance) hn
    hword
  have hlib := Dart.Sample.refusesOutOfRange_ethSigUtil (Gsn.Sample.w3With place)
    (Vector.replicate 65 0)
  have hplace := Sample.encodeUint_negative place
  let answers : TransferAnswers := ⟨some Gsn.Sample.account, ⟨some Gsn.Sample.account, 0⟩, 0,
    decimals, Sample.exactAnswers balance⟩
  -- the balance for display is not below a negative amount
  have hsign := isNegative_of_parseUnits hparse hn
  have hdisplay : dbl.isNegative (dbl.sub (balanceToDouble dbl 0 0) amount) = false :=
    dbl.isNegative_sub _ _ (dbl.isNegative_div 0 (10 ^ 0)) hsign
  have hok : transfer (Gsn.Sample.libWith place) Gsn.Sample.config Sample.contracts
      Gsn.Sample.destination.hex dbl amount .executeMetaTransaction (some Gsn.Sample.token) none
      answers = .ok relayed :=
    transfer_of_transferExact rfl
      (bind_eq_ok.mpr ⟨0, Sample.getExactBalance_account place 0, rfl⟩) hdisplay htoken hparse
      hexact
  exact not_covered_of_word hexact ((hplace n hn).trans hword) (not_le.mp hlt)
    (hcovered (Gsn.Sample.w3With place) (Gsn.Sample.libWith place) hlib hplace Gsn.Sample.config
      Sample.contracts Gsn.Sample.destination.hex (some Gsn.Sample.token) none answers relayed rfl
      rfl hok)

end NotCovered

/-- **Which amounts are covered.** For every balance, amount, number of decimals and kind of
authorisation: whatever `transferExact` relays is of an amount within the balance, in the signed
message as in the calls, if and only if it is authorised by permit, or the amount is not negative,
or the word that is placed for the negative amount is within the balance. Whatever `transfer`
relays is covered if and only if it is authorised by permit, or the text of the amount does not
stand for a negative number of units, or the word for these units is within the balance. -/
theorem transfers_covered_iff (dbl : Doubles) (place : Int → Option Abi.Word) (balance : Nat)
    (metaTxMethod : MetaTxMethod) :
    (∀ amount : Int, ExactCovered place balance amount metaTxMethod ↔
      metaTxMethod = .permit ∨ 0 ≤ amount ∨ PlacedWithin place balance amount) ∧
    ∀ (decimals : Nat) (amount : dbl.Double),
      DisplayCovered dbl place balance decimals amount metaTxMethod ↔
        metaTxMethod = .permit ∨ StaysNonnegative decimals (dbl.text amount) ∨
          ∀ units, parseUnits (dbl.text amount).toString decimals = some units →
            PlacedWithin place balance units := by
  constructor
  · intro amount
    cases metaTxMethod with
    | permit => exact iff_of_true (exactCovered_permit place balance amount) (.inl rfl)
    | executeMetaTransaction =>
      constructor
      · intro hcovered
        right
        by_contra hneither
        push Not at hneither
        exact not_exactCovered hneither.1 hneither.2 hcovered
      · rintro (hmethod | hplaced)
        · cases hmethod
        · exact exactCovered_of_placed hplaced _
  · intro decimals amount
    rw [staysNonnegative_iff]
    cases metaTxMethod with
    | permit =>
      apply iff_of_true _ (.inl rfl)
      apply displayCovered_of_exactCovered
      intro n _
      exact exactCovered_permit place balance n
    | executeMetaTransaction =>
      constructor
      · intro hcovered
        right
        by_contra hneither
        push Not at hneither
        obtain ⟨⟨n, hparse, hneg⟩, units, hunits, hnot⟩ := hneither
        -- there is only one number of units
        obtain rfl := Option.some.inj (hparse.symm.trans hunits)
        exact not_displayCovered hparse hneg hnot hcovered
      · rintro (hmethod | hplaced)
        · cases hmethod
        · apply displayCovered_of_exactCovered
          intro n hparse
          apply exactCovered_of_placed
          exact hplaced.imp (fun hnonneg => hnonneg n hparse) fun hwithin => hwithin n hparse

/-- Without assertions, minus one unit and minus one and a half tokens are relayed from an empty
account, as 255 units and as 2^64 - 5 * 10^17. -/
theorem not_every_transfer_covered :
    ¬ ExactCovered Dart.Sample.unsignedWord 0 (-1) .executeMetaTransaction ∧
    ¬ DisplayCovered Dart.Sample.tenths Dart.Sample.unsignedWord 0 18 (-15 : Int)
      .executeMetaTransaction := by
  constructor
  · -- the word of minus one is that of its lowest byte
    apply not_exactCovered (by decide)
    intro hwithin
    have hword : Dart.Sample.unsignedWord (-1) = some 255#256 := by decide +kernel
    exact absurd (hwithin _ hword) (by decide)
  · -- `-1.5` with eighteen decimals: the whole part is negative, the fraction is added
    have hparse : parseUnits (Dart.Sample.tenths.text (-15 : Int)).toString 18 =
        some (-500000000000000000) :=
      (parseUnits_finite true 1 [5] 18).trans (by decide +kernel)
    apply not_displayCovered hparse (by decide)
    intro hwithin
    have hplaced : Dart.Sample.encodeBigIntAsUnsigned (-500000000000000000) =
        17946744073709551616 := by decide +kernel
    have hword := hwithin _ rfl
    rw [hplaced] at hword
    exact absurd hword (by decide +kernel)

end RlyNetworkSdk.Networks
