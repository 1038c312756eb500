import RlyNetworkSdk.Gsn.Repeatability

/-!
# The Forwarded Gas

The caller estimates the gas of the whole transaction, `buildRelayRequest` takes the cost of
the calldata off it, and what is left is the gas of the forward request. On the way the
number is a text three times.

## Layers

1. **Cost**: what is charged for a text, and what the chain charges for its bytes
2. **Making the request**: `Attempt.forwards_iff`, which gas a request is made with
3. **Forms of the gas**: hexadecimal, as the package writes it, and decimal, as the `README` does
-/

namespace RlyNetworkSdk.Gsn

open Encoding Dart Concurrency

/-! ## Layer 1: Cost -/

/-- The text of the bytes is charged for as the bytes are, and what is counted are bytes. The
two parts are separate demands: at some prices the cost alone comes out right. -/
def CostsBytes (b : List UInt8) (gtxDataNonZero gtxDataZero : Nat) : Prop :=
  calculateCalldataCost (uint8ListToHex b) gtxDataNonZero gtxDataZero =
      (gtxDataZero * b.countP (· == 0) + gtxDataNonZero * b.countP (· != 0) : Nat) ∧
    let counts := calculateCalldataBytesZeroNonzero (uint8ListToHex b)
    counts.calldataZeroBytes + counts.calldataNonzeroBytes = b.length

/-- The cost alone can be right by accident, with a high price for zero bytes, as long as it fits
an `int`. -/
theorem calculateCalldataCost_eq_iff {b : List UInt8} {gtxDataNonZero : Nat}
    (hfits : 2 * b.length * gtxDataNonZero < 2 ^ 63) (gtxDataZero : Nat) :
    calculateCalldataCost (uint8ListToHex b) gtxDataNonZero gtxDataZero =
        (gtxDataZero * b.countP (· == 0) + gtxDataNonZero * b.countP (· != 0) : Nat) ↔
      gtxDataNonZero * (b.countP (· != 0) + 2 * b.countP (· == 0)) =
        gtxDataZero * b.countP (· == 0) := by
  have hfitsInt : fitsInt (2 * b.length * gtxDataNonZero : Nat) = true := by
    rw [fitsInt_iff]
    omega
  -- the cost of the code, with the bytes that are not zero once, as it should be, and all the rest
  have hcost : 2 * b.length * gtxDataNonZero =
      gtxDataNonZero * (b.countP (· != 0) + 2 * b.countP (· == 0)) +
        gtxDataNonZero * b.countP (· != 0) := by
    rw [length_eq_zeros_add_nonzeros]
    ring
  rw [uint8ListToHex, calculateCalldataCost_prefixedHex, wrapInt_of_fits hfitsInt, hcost,
    Int.natCast_inj, Nat.add_right_cancel_iff]

/-- **Calldata cost is counted on digits.** It is the cost of the bytes, and the counts are
counts of bytes, for no calldata but the empty one. -/
theorem costsBytes_iff (b : List UInt8) (gtxDataNonZero gtxDataZero : Nat) :
    CostsBytes b gtxDataNonZero gtxDataZero ↔ b = [] := by
  constructor
  · rintro ⟨-, hcounts⟩
    rw [uint8ListToHex, calculateCalldataBytesZeroNonzero_prefixedHex] at hcounts
    -- the counts add up to twice the bytes
    have hlen : 0 + 2 * b.length = b.length := hcounts
    exact List.length_eq_zero_iff.mp (by omega)
  · rintro rfl
    refine ⟨?_, ?_⟩
    · rw [uint8ListToHex, calculateCalldataCost_prefixedHex, List.length_nil, Nat.mul_zero,
        Nat.zero_mul]
      rfl
    · rw [uint8ListToHex, calculateCalldataBytesZeroNonzero_prefixedHex]
      rfl

/-- One zero byte, at the prices of the chain: it is taken for two bytes that are not zero, and
costs 32 in place of 4. -/
theorem not_costsBytes :
    calculateCalldataCost (uint8ListToHex [0]) 16 4 = 32 ∧ ¬ CostsBytes [0] 16 4 := by
  refine ⟨by decide +kernel, ?_⟩
  rintro ⟨hcost, -⟩
  revert hcost
  decide +kernel

/-! ## Layer 2: Making the request -/

namespace Attempt

variable {τ : Type} {w3 : Web3dart} {lib : EthSigUtil w3} {t : τ} {a : Attempt} {heap : Heap τ}

/-- The attempt is a `buildRelayRequest` that only the gas can keep from making a forward
request: it has a sender and a forwarder, and it is told the nonce. -/
structure Reaches (w3 : Web3dart) (a : Attempt) : Prop where
  call : a.call = .buildRelayRequest
  sender : ∃ sender, a.account.address w3 = some sender
  forwarder : ∃ forwarder, w3.fromHex a.config.gsn.forwarderAddress = some forwarder
  nonce : ∃ nonce, a.answers.getNonce = .number nonce

variable [DecidableEq τ]

/-- The attempt makes one forward request for the object, and its gas denotes `n`. The gas of a
request is a decimal text, so it is read back with `BigInt.parse`. -/
def Forwards (lib : EthSigUtil w3) (t : τ) (a : Attempt) (heap : Heap τ) (n : Int) : Prop :=
  ∃ r, (a.after lib t heap).forwardRequests = (t, r) :: heap.forwardRequests ∧
    bigIntParse r.gas = some n

/-- A gas that cannot be parsed ends the attempt before anything is written.
`estimateGasWithoutCallData` is the first thing that `buildRelayRequest` does, and it throws. -/
theorem after_of_parsedGas_none (h : a.Reaches w3) (hgas : parsedGas (heap.details t) = none) :
    (a.after lib t heap).forwardRequests = heap.forwardRequests := by
  have hestimate : estimateGasWithoutCallData (heap.details t) a.config.gsn.gtxDataNonZero
      a.config.gsn.gtxDataZero = none := by
    rw [parsedGas, Option.bind_eq_none_iff] at hgas
    cases htext : (heap.details t).gas with
    | none => simp [estimateGasWithoutCallData, htext]
    | some text =>
      -- the text is too short for `substring`, or `BigInt.parse` throws
      have hparse := hgas text htext
      rw [Option.bind_eq_none_iff] at hparse
      cases hdigits : substring 2 text with
      | none => simp [estimateGasWithoutCallData, htext, hdigits]
      | some digits => simp [estimateGasWithoutCallData, htext, hdigits, hparse digits hdigits]
  have hends : (a.program lib t).Ends a.answers.serve (a.enter heap, ()) none
      (a.enter heap, ()) := by
    unfold program
    rw [h.call]
    apply Async.Ends.bind_none
    apply Async.Ends.getMemory
    show (orThrow (estimateGasWithoutCallData (heap.details t) a.config.gsn.gtxDataNonZero
      a.config.gsn.gtxDataZero) >>= _).Ends _ _ _ _
    rw [hestimate]
    exact ⟨.thrown, rfl⟩
  obtain ⟨e, he⟩ := hends
  rw [after, run, he]
  rfl

/-- The gas goes through `int.parse`, whatever the nonce is: the lowered gas is in the request
if it fits an `int`, and otherwise the parser throws and there is no request. -/
theorem forwardRequest_lowered (h : a.Reaches w3) (details : GsnTransactionDetails) (n : Int) :
    (fitsInt n = true → ∃ r, a.forwardRequest w3 a.config (lowered details (gasText n)) = some r ∧
      r.gas = toRadixString 10 n) ∧
    (fitsInt n = false → a.forwardRequest w3 a.config (lowered details (gasText n)) = none) := by
  obtain ⟨sender, hsender⟩ := h.sender
  obtain ⟨forwarder, hforwarder⟩ := h.forwarder
  obtain ⟨nonce, hnonce⟩ := h.nonce
  -- the lowered gas is hexadecimal again, and is read back if it is an `int`
  have hparse : intParseRadix 16 (toRadixString 16 n) = if fitsInt n then some n else none :=
    intParseRadix_toRadixString (by decide) (by decide) n
  have hdigits : substring 2 (gasText n) = some (toRadixString 16 n) := substring_prefixed _
  simp only [forwardRequest, hsender, hforwarder, hnonce, Reply.toNumber, forwardRequestOf, lowered,
    hdigits, Option.bind_eq_bind, Option.bind_some]
  rw [hparse]
  constructor
  · intro hfits
    rw [if_pos hfits]
    exact ⟨_, rfl, rfl⟩
  · intro hfits
    rw [if_neg (by simp [hfits])]
    rfl

/-- A request is added to the heap exactly when one can be made. -/
theorem exists_built_iff {gas : String} {P : ForwardRequest → Prop} :
    (∃ r, (built w3 a t gas heap).forwardRequests = (t, r) :: heap.forwardRequests ∧ P r) ↔
      ∃ r, a.forwardRequest w3 heap.config (lowered (heap.details t) gas) = some r ∧ P r := by
  unfold built
  cases a.forwardRequest w3 heap.config (lowered (heap.details t) gas) with
  | none =>
    apply iff_of_false
    · rintro ⟨r, hr, -⟩
      have hlen := congrArg List.length hr
      simp [Heap.setGas] at hlen
    · rintro ⟨r, hr, -⟩
      cases hr
  | some made => simp [Heap.allocate, Heap.setGas]

/-- **The gas of the forward request.** It is what is left of the gas that the object's text is
read as, if that fits an `int`; otherwise there is no forward request. What is left may well be
negative: the source does not look at the sign. -/
theorem forwards_iff (h : a.Reaches w3) (heap : Heap τ) (n : Int) :
    a.Forwards lib t heap n ↔ fitsInt n = true ∧
      parsedGas (heap.details t) = some (n + (heap.details t).calldataCost a.config) := by
  cases hgas : parsedGas (heap.details t) with
  | none =>
    have hafter : (a.after lib t heap).forwardRequests = heap.forwardRequests :=
      after_of_parsedGas_none h hgas
    have hne : ∀ r, heap.forwardRequests ≠ (t, r) :: heap.forwardRequests :=
      fun r hr => by simpa using congrArg List.length hr
    simp [Forwards, hafter, hne]
  | some g =>
    have hnetwork : a.network = some a.config := by rw [network, h.call]
    obtain ⟨hafter, -⟩ : a.after lib t heap = _ ∧ (a.Failed lib t heap ↔ _) :=
      after_of_network hnetwork (estimateGas_eq hgas a.config)
    obtain ⟨hmade, hnone⟩ := forwardRequest_lowered h (heap.details t)
      (g - (heap.details t).calldataCost a.config)
    rw [Forwards, hafter, exists_built_iff,
      Option.some.injEq]
    constructor
    · rintro ⟨r, hr, hn⟩
      cases hfits : fitsInt (g - (heap.details t).calldataCost a.config) with
      | false =>
        -- `int.parse` throws, and no request is made
        cases (hnone hfits).symm.trans hr
      | true =>
        obtain ⟨r', hr', hrgas⟩ := hmade hfits
        obtain rfl := Option.some.inj (hr'.symm.trans hr)
        rw [hrgas, bigIntParse_toString] at hn
        obtain rfl := Option.some.inj hn
        exact ⟨hfits, (sub_add_cancel _ _).symm⟩
    · rintro ⟨hfits, rfl⟩
      rw [add_sub_cancel_right] at hmade
      obtain ⟨r, hr, hrgas⟩ := hmade hfits
      refine ⟨r, ?_, by rw [hrgas, bigIntParse_toString]⟩
      rw [add_sub_cancel_right]
      exact hr

end Attempt

/-! ## Layer 3: Forms of the gas -/

/-- How a caller writes the gas. The README passes decimal digits, while the library itself
writes hexadecimal ones. -/
inductive GasForm where
  /-- `'0x${gas.toRadixString(16)}'` -/
  | hexadecimal
  /-- `gas.toString()` -/
  | decimal
  deriving DecidableEq

def GasForm.write : GasForm → Nat → String
  | .hexadecimal, g => gasText g
  | .decimal, g => toRadixString 10 g

/-- The number that the form is read as: without its first two characters, in radix 16. The
source drops them without looking whether they are `0x`. -/
def GasForm.readBack : GasForm → Nat → Option Nat
  | .hexadecimal, g => some g
  | .decimal, g => numeral 16 ((Nat.toDigits 10 g).drop 2)

theorem parse_decimal (g : Nat) :
    (substring 2 (toRadixString 10 g)).bind (bigIntParseRadix 16) =
      (numeral 16 ((Nat.toDigits 10 g).drop 2)).map fun n : Nat => (n : Int) := by
  have hdigits : (toRadixString 10 g).toList = Nat.toDigits 10 g := by
    rw [toRadixString, if_neg (by omega), String.toList_ofList]
    rfl
  rw [substring, hdigits]
  by_cases hlen : 2 ≤ (Nat.toDigits 10 g).length
  · rw [if_pos hlen, Option.bind_some, bigIntParseRadix, String.toList_ofList]
    cases hrest : (Nat.toDigits 10 g).drop 2 with
    | nil => rfl
    | cons c cs =>
      -- what is left begins with a digit, which is no sign
      have hmem : c ∈ Nat.toDigits 10 g := by
        apply List.mem_of_mem_drop
        rw [hrest]
        exact List.mem_cons_self
      obtain ⟨d, hd, rfl⟩ := mem_toDigits (by decide) hmem
      obtain ⟨hminus, hplus, -, -⟩ := digitChar_ne d (by omega)
      exact readSigned_cons hminus hplus _ _
  · have hshort : (Nat.toDigits 10 g).drop 2 = [] := List.drop_eq_nil_of_le (by omega)
    rw [if_neg hlen, hshort]
    rfl

/-- The most by which a text of decimal digits is larger in radix 16, for a number of digits:
each step multiplies by sixteen where the decimal value is multiplied by ten. -/
def hexExcess : Nat → Nat
  | 0 => 0
  | len + 1 => 16 * hexExcess len + 6 * (10 ^ len - 1)

theorem readDigits_sixteen_le {cs : List Char} {m n : Nat} (hm : readDigits 10 cs = some m)
    (hn : readDigits 16 cs = some n) : m < 10 ^ cs.length ∧ n ≤ m + hexExcess cs.length := by
  -- digit by digit from the left, with the same digits in both bases
  induction cs using List.reverseRecOn generalizing m n with
  | nil =>
    cases hm
    cases hn
    exact ⟨Nat.one_pos, Nat.le_refl 0⟩
  | append_singleton cs c ih =>
    rw [readDigits_append_singleton] at hm hn
    obtain ⟨m', hm', hm⟩ := Option.bind_eq_some_iff.mp hm
    obtain ⟨d, hd, rfl⟩ := Option.map_eq_some_iff.mp hm
    obtain ⟨n', hn', hn⟩ := Option.bind_eq_some_iff.mp hn
    obtain ⟨d', hd', rfl⟩ := Option.map_eq_some_iff.mp hn
    -- a decimal digit is the same digit in base sixteen
    obtain rfl := Option.some.inj ((readDigit_of_le (by decide) hd).symm.trans hd')
    have hdigit := lt_of_readDigit hd
    obtain ⟨hlt, hle⟩ := ih hm' hn'
    rw [List.length_append, List.length_singleton, hexExcess, pow_succ]
    omega

theorem hexExcess_lt : ∀ len < 7, hexExcess len < 10 * 10 ^ len := by decide

/-- **No realistic gas is understood in decimal**: none with less than nine digits. What the
rest of the digits gains in radix 16 stays below what the two digits that are dropped were
worth. -/
theorem numeral_drop_ne {g : Nat} (hg : g < 10 ^ 8) :
    numeral 16 ((Nat.toDigits 10 g).drop 2) ≠ some g := by
  intro hread
  have hlen : (Nat.toDigits 10 g).length ≤ 8 :=
    (Nat.length_toDigits_le_iff (by decide) (by decide)).mpr hg
  have hwhole : numeral 10 (Nat.toDigits 10 g) = some g :=
    numeral_toDigits (by decide) (by decide) g
  rw [numeral_of_ne_nil Nat.toDigits_ne_nil] at hwhole
  have hne : (Nat.toDigits 10 g).drop 2 ≠ [] := by
    intro hnil
    rw [hnil] at hread
    cases hread
  rw [numeral_of_ne_nil hne] at hread
  have hsplit := List.take_append_drop 2 (Nat.toDigits 10 g)
  rw [← hsplit, readDigits_append] at hwhole
  obtain ⟨top, -, hwhole⟩ := Option.bind_eq_some_iff.mp hwhole
  obtain ⟨m, hm, hg⟩ := Option.map_eq_some_iff.mp hwhole
  obtain ⟨hlt, hle⟩ := readDigits_sixteen_le hm hread
  have hrest : ((Nat.toDigits 10 g).drop 2).length = (Nat.toDigits 10 g).length - 2 :=
    List.length_drop
  have hpos := List.length_pos_iff.mpr hne
  have hexcess := hexExcess_lt ((Nat.toDigits 10 g).drop 2).length (by omega)
  -- the first digit is not zero
  have hlarge : 10 ^ (((Nat.toDigits 10 g).drop 2).length + 1) ≤ g := by
    rw [← not_lt, ← Nat.length_toDigits_le_iff (by decide) (by omega)]
    omega
  rw [pow_succ] at hlarge
  rcases Nat.lt_or_ge top 10 with hsmall | htop
  · have := Nat.mul_le_mul_left (10 ^ ((Nat.toDigits 10 g).drop 2).length)
      (Nat.le_of_lt_succ hsmall)
    omega
  · have := Nat.mul_le_mul_left (10 ^ ((Nat.toDigits 10 g).drop 2).length) htop
    omega

theorem parsedGas_write {details : GsnTransactionDetails} (form : GasForm) (g : Nat)
    (hgas : details.gas = some (form.write g)) :
    parsedGas details = (form.readBack g).map fun n : Nat => (n : Int) := by
  rw [parsedGas, hgas, Option.bind_some]
  cases form with
  | hexadecimal => exact parse_gasText g
  | decimal => exact parse_decimal g

/-! ### Samples -/

namespace Sample

/-- An object with this calldata and this gas. -/
def gasHeap (data gas : String) : Heap Unit :=
  ⟨config, fun _ => { detailsWith data with gas := some gas }, []⟩

theorem reaches_online : online.Reaches w3 := by
  refine ⟨rfl, ?_, ?_, ⟨0, rfl⟩⟩
  · exact Option.isSome_iff_exists.mp (by decide +kernel)
  · exact Option.isSome_iff_exists.mp (by decide +kernel)

theorem calldataCost_gasHeap (b : List UInt8) (gas : String) :
    ((gasHeap (uint8ListToHex b) gas).details ()).calldataCost config =
      wrapInt (2 * b.length * 16 : Nat) :=
  calculateCalldataCost_prefixedHex b 16 4

theorem forwards_online_iff (b : List UInt8) (form : GasForm) (g : Nat) (n : Int) :
    online.Forwards lib () (gasHeap (uint8ListToHex b) (form.write g)) n ↔
      fitsInt n = true ∧
        (form.readBack g).map (fun m : Nat => (m : Int)) =
          some (n + wrapInt (2 * b.length * 16 : Nat)) := by
  have hcost : ((gasHeap (uint8ListToHex b) (form.write g)).details ()).calldataCost
      online.config = wrapInt (2 * b.length * 16 : Nat) := calldataCost_gasHeap b _
  have hread : parsedGas ((gasHeap (uint8ListToHex b) (form.write g)).details ()) =
      (form.readBack g).map fun m : Nat => (m : Int) := parsedGas_write form g rfl
  rw [Attempt.forwards_iff reaches_online, hread, hcost]

end Sample

/-! ### What the forward request is made with -/

section Forwarded

variable {τ : Type} [DecidableEq τ] {w3 : Web3dart} (lib : EthSigUtil w3) (t : τ) (a : Attempt)
  (heap : Heap τ)

/-- **Which gas is understood.** For every gas that a caller writes in either form, whatever the
calldata: the forward request has what is left of it after the cost of the calldata exactly
when this fits an `int`, and the text is hexadecimal, or decimal digits that behind the first two
happen to be the same number in radix 16. -/
theorem forwards_written_gas_iff (hreaches : a.Reaches w3) (form : GasForm) (g : Nat)
    (hgas : (heap.details t).gas = some (form.write g)) :
    a.Forwards lib t heap (g - (heap.details t).calldataCost a.config) ↔
      fitsInt (g - (heap.details t).calldataCost a.config) = true ∧
        (form = .hexadecimal ∨ numeral 16 ((Nat.toDigits 10 g).drop 2) = some g) := by
  rw [Attempt.forwards_iff hreaches, parsedGas_write form g hgas, sub_add_cancel]
  apply and_congr_right
  intro _
  cases form with
  | hexadecimal => simp [GasForm.readBack]
  | decimal => simp [GasForm.readBack]

end Forwarded

/-- The same gas in hexadecimal, for a call of four bytes: the eight digits of its text cost
sixteen each, and the rest is forwarded. -/
theorem forwards_written_gas_iff_hexadecimal :
    let heap := Sample.gasHeap (uint8ListToHex [0xa9, 0x05, 0x9c, 0xbb])
      (GasForm.hexadecimal.write 100000)
    Sample.online.Forwards Sample.lib () heap
        ((100000 : Nat) - (heap.details ()).calldataCost Sample.online.config) ↔
      fitsInt ((100000 : Nat) - (heap.details ()).calldataCost Sample.online.config) = true ∧
        (GasForm.hexadecimal = .hexadecimal ∨
          numeral 16 ((Nat.toDigits 10 100000).drop 2) = some 100000) :=
  forwards_written_gas_iff Sample.lib () Sample.online _ Sample.reaches_online .hexadecimal 100000 rfl

/-- A decimal gas of 100000 for a transaction without calldata is forwarded as zero: without its
first two characters it is `0000`. -/
theorem not_forwards_decimal_gas :
    let heap := Sample.gasHeap (uint8ListToHex []) (GasForm.decimal.write 100000)
    Sample.online.Forwards Sample.lib () heap 0 ∧
      ¬ Sample.online.Forwards Sample.lib () heap
        (100000 - (heap.details ()).calldataCost Sample.config) := by
  intro heap
  have hcost : (heap.details ()).calldataCost Sample.config = 0 := Sample.calldataCost_gasHeap [] _
  -- the first two digits are cut off as if they were `0x`
  have hread : GasForm.decimal.readBack 100000 = some 0 := by decide
  constructor
  · rw [Sample.forwards_online_iff, hread]
    exact ⟨by decide, rfl⟩
  · rw [hcost, Sample.forwards_online_iff, hread]
    rintro ⟨-, hn⟩
    revert hn
    decide

section Forwarded

variable {τ : Type} [DecidableEq τ] {w3 : Web3dart} (lib : EthSigUtil w3) (t : τ) (a : Attempt)
  (heap : Heap τ)

/-- **When gas is left.** For every calldata and every hexadecimal gas: the forward request is
made with a positive gas exactly when the gas is more than two prices of a nonzero byte for
each byte of the calldata, as an `int`, by an amount that fits an `int` too. -/
theorem forwards_positive_gas_iff (hreaches : a.Reaches w3) (b : List UInt8) (g : Nat)
    (hdata : (heap.details t).data = uint8ListToHex b)
    (hgas : (heap.details t).gas = some (gasText g)) :
    (∃ n, a.Forwards lib t heap n ∧ 0 < n) ↔
      wrapInt (2 * b.length * a.config.gsn.gtxDataNonZero : Nat) < g ∧
        (g : Int) < wrapInt (2 * b.length * a.config.gsn.gtxDataNonZero : Nat) + 2 ^ 63 := by
  -- every digit of the data costs the price of a byte that is not zero
  have hcost : (heap.details t).calldataCost a.config =
      wrapInt (2 * b.length * a.config.gsn.gtxDataNonZero : Nat) := by
    rw [GsnTransactionDetails.calldataCost, hdata]
    exact calculateCalldataCost_prefixedHex _ _ _
  have hparsed : parsedGas (heap.details t) = some (g : Int) :=
    parsedGas_write .hexadecimal g hgas
  simp only [Attempt.forwards_iff hreaches, hparsed, hcost, Option.some.injEq, fitsInt_iff]
  -- from here on it is arithmetic: what is left is the gas less the cost
  generalize wrapInt (2 * b.length * a.config.gsn.gtxDataNonZero : Nat) = cost
  constructor
  · rintro ⟨n, ⟨⟨-, hfits⟩, hn⟩, hpos⟩
    omega
  · rintro ⟨hlo, hhi⟩
    refine ⟨g - cost, ⟨⟨?_, ?_⟩, ?_⟩, ?_⟩ <;> omega

end Forwarded

/-- A call of four bytes has gas left. -/
theorem forwards_positive_gas_iff_call :
    let heap := Sample.gasHeap (uint8ListToHex [0xa9, 0x05, 0x9c, 0xbb]) (gasText 100000)
    (∃ n, Sample.online.Forwards Sample.lib () heap n ∧ 0 < n) ↔
      wrapInt (2 * [(0xa9 : UInt8), 0x05, 0x9c, 0xbb].length *
          Sample.config.gsn.gtxDataNonZero : Nat) < (100000 : Nat) ∧
        ((100000 : Nat) : Int) < wrapInt (2 * [(0xa9 : UInt8), 0x05, 0x9c, 0xbb].length *
          Sample.config.gsn.gtxDataNonZero : Nat) + 2 ^ 63 :=
  forwards_positive_gas_iff Sample.lib () Sample.online _ Sample.reaches_online
    [0xa9, 0x05, 0x9c, 0xbb] 100000 rfl rfl

/-- A call of a thousand zero bytes, with the gas that the node estimates for doing nothing: the
forwarded gas is negative. -/
theorem not_forwards_positive_gas :
    let b : List UInt8 := List.replicate 1000 0
    let heap := Sample.gasHeap (uint8ListToHex b) (gasText 25000)
    21000 + 4 * b.countP (· == 0) + 16 * b.countP (· != 0) ≤ 25000 ∧
      Sample.online.Forwards Sample.lib () heap (-7000) ∧
      ¬ ∃ n, Sample.online.Forwards Sample.lib () heap n ∧ 0 < n := by
  intro b heap
  have hforwards : ∀ n, Sample.online.Forwards Sample.lib () heap n ↔ fitsInt n = true ∧
      some (25000 : Int) = some (n + wrapInt (2 * b.length * 16 : Nat)) :=
    Sample.forwards_online_iff b .hexadecimal 25000
  have hlen : b.length = 1000 := List.length_replicate
  -- the node charges four for each zero byte
  have hzero : b.countP (· == 0) = 1000 := by
    rw [List.countP_replicate]
    rfl
  have hnonzero : b.countP (· != 0) = 0 := by
    rw [List.countP_replicate]
    rfl
  -- the code takes off thirty-two
  have hcost : wrapInt (2 * 1000 * 16 : Nat) = 32000 := by decide
  rw [hlen, hcost] at hforwards
  refine ⟨by omega, ?_, ?_⟩
  · exact (hforwards _).mpr ⟨by decide, rfl⟩
  · rintro ⟨n, hn, hpos⟩
    have hsame := Option.some.inj ((hforwards n).mp hn).2
    omega

end RlyNetworkSdk.Gsn
