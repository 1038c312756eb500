import RlyNetworkSdk.Gsn.SignedRequest
import RlyNetworkSdk.ZkSync.Eip712Transaction

/-!
# What Is Signed and What Is Sent

The fields of a transaction are read back from the typed message, by name, and from the list
that is sent, by position. The two readings agree for most transactions, but not for all
combinations of optional fields: each encoder has a rule of its own for what is missing, and
factory dependencies are texts in both, which a message takes for the bytes that they write and
the list for the characters that they are written with.

## Main result

- `signed_is_sent_iff`: exactly which transactions are sent as they are signed.
-/

namespace RlyNetworkSdk.ZkSync

open Encoding Evm Dart Gsn ZKSyncEip712Transaction

/-! ## Reading the fields -/

/-- The fields that are both signed and sent. The type of the transaction is sent in front of
the list; the chain identifier and the signature are no members of the message. -/
inductive Field where
  | «from»
  | «to»
  | gasLimit
  | gasPerPubdataByteLimit
  | maxFeePerGas
  | maxPriorityFeePerGas
  | nonce
  | value
  | data
  | paymaster
  | paymasterInput
  | factoryDeps
  deriving DecidableEq

/-- What a field stands for, apart from how it is written: the two encoders write the same
number as a text and as an item of a list. -/
inductive FieldValue where
  | number (n : Int)
  | bytes (bs : List UInt8)
  | byteStrings (l : List (List UInt8))
  deriving DecidableEq

/-- The member of the typed message, with its type in the table that is signed. -/
def Field.member : Field → Eip712.Member
  | «from» => ⟨"from", "uint256"⟩
  | «to» => ⟨"to", "uint256"⟩
  | gasLimit => ⟨"gasLimit", "uint256"⟩
  | gasPerPubdataByteLimit => ⟨"gasPerPubdataByteLimit", "uint256"⟩
  | maxFeePerGas => ⟨"maxFeePerGas", "uint256"⟩
  | maxPriorityFeePerGas => ⟨"maxPriorityFeePerGas", "uint256"⟩
  | nonce => ⟨"nonce", "uint256"⟩
  | value => ⟨"value", "uint256"⟩
  | data => ⟨"data", "bytes"⟩
  | paymaster => ⟨"paymaster", "uint256"⟩
  | paymasterInput => ⟨"paymasterInput", "bytes"⟩
  | factoryDeps => ⟨"factoryDeps", "bytes32[]"⟩

/-- The bytes of a text in a typed message: hexadecimal behind `0x`, and any other text as it
is. -/
def bytesText (w3 : Web3dart) (s : String) : Option (List UInt8) :=
  if hexPrefixed s then w3.hexToBytes s else some (utf8 s)

/-- The bytes of a `bytes32` in a typed message, of which there must be 32. A text of any other
length is taken for no value at all. -/
def bytes32Text (w3 : Web3dart) (s : String) : Option (List UInt8) :=
  (bytesText w3 s).filter fun bs => bs.length == 32

/-- The `bytes32` of a text in a tree. -/
def bytes32Of (w3 : Web3dart) : Json → Option (List UInt8)
  | .string s => bytes32Text w3 s
  | _ => none

/-- What a value of the type stands for. A number may be written as a decimal text, as a text
behind `0x`, or as an `int`, which is how a missing paymaster is written. -/
def signedValue (w3 : Web3dart) : String → Json → Option FieldValue
  | "uint256", .string s => (bigIntParse s).map .number
  | "uint256", .int n => some (.number n)
  | "bytes", .string s => (bytesText w3 s).map .bytes
  | "bytes32[]", .list l => (l.mapM (bytes32Of w3)).map .byteStrings
  | _, _ => none

/-- A field of the message that is signed. -/
def Field.signed (w3 : Web3dart) (message : Json) (field : Field) : Option FieldValue :=
  (message.get? field.member.name).bind (signedValue w3 field.member.type)

namespace RlpItem

/-- The bytes of an item that is no number and no list: a text goes out in UTF-8, even if it
looks like hexadecimal digits. -/
def payload : RlpItem → Option (List UInt8)
  | .bytes bs => some bs
  | .string s => some (utf8 s)
  | _ => none

/-- The number of an item: bytes are big-endian. -/
def number : RlpItem → Option FieldValue
  | .bigInt n => some (.number n)
  | item => item.payload.map fun bs => .number (BigEndian.value bs)

def asBytes (item : RlpItem) : Option FieldValue := item.payload.map .bytes

def byteStrings : RlpItem → Option FieldValue
  | .list items => (items.mapM payload).map .byteStrings
  | _ => none

/-- The paymaster of the parameters. Without parameters it is the address zero. -/
def paymaster : RlpItem → Option FieldValue
  | .list [] => some (.number 0)
  | .list [paymaster, _] => number paymaster
  | _ => none

/-- The input of the parameters. Without parameters it is empty. -/
def paymasterInput : RlpItem → Option FieldValue
  | .list [] => some (.bytes [])
  | .list [_, paymasterInput] => asBytes paymasterInput
  | _ => none

end RlpItem

/-- A field of the list that is sent, in the layout of type `0x71`. The items have no names, so
a field is found by its place. -/
def Field.sent (list : List RlpItem) : Field → Option FieldValue
  | nonce => list[0]?.bind RlpItem.number
  | maxPriorityFeePerGas => list[1]?.bind RlpItem.number
  | maxFeePerGas => list[2]?.bind RlpItem.number
  | gasLimit => list[3]?.bind RlpItem.number
  | «to» => list[4]?.bind RlpItem.number
  | value => list[5]?.bind RlpItem.number
  | data => list[6]?.bind RlpItem.asBytes
  | «from» => list[11]?.bind RlpItem.number
  | gasPerPubdataByteLimit => list[12]?.bind RlpItem.number
  | factoryDeps => list[13]?.bind RlpItem.byteStrings
  | paymaster => list[15]?.bind RlpItem.paymaster
  | paymasterInput => list[15]?.bind RlpItem.paymasterInput

/-- The field stands for the same value in the message and in the list. A field that one of them
has no value for does not agree. -/
def Field.Agrees (w3 : Web3dart) (message : Json) (list : List RlpItem) (field : Field) : Prop :=
  ∃ v, field.sent list = some v ∧ field.signed w3 message = some v

/-! ## Texts of addresses and bytes -/

/-- The text of an address is read as the same number with and without regard to `0x`: it
begins with `0x`, or it is a single digit behind zeros. -/
def NumberText (s : String) : Prop := hexPrefixed s = true ∨ ∃ n < 10, bigIntParse s = some n

/-- The text of bytes is read alike by both encoders: it begins with `0x`, or it is empty. The
list takes unprefixed digits for hexadecimal ones, the message takes them for a text. -/
def BytesText (s : String) : Prop := hexPrefixed s = true ∨ s = ""

theorem ne_sign_of_readDigit {c : Char} {d : Nat} (h : readDigit 16 c = some d) :
    c ≠ '-' ∧ c ≠ '+' ∧ c ≠ 'x' ∧ c ≠ 'X' := by
  have hne : ∀ sign, readDigit 16 sign = none → c ≠ sign := by
    rintro sign hnone rfl
    rw [hnone] at h
    cases h
  exact ⟨hne '-' (by decide), hne '+' (by decide), hne 'x' (by decide), hne 'X' (by decide)⟩

/-- A text of digits does not begin with `0x`. -/
theorem not_hexPrefixed_of_decode {s : String} {bs : List UInt8}
    (hdecode : Hex.decode s.toList = some bs) : ¬ hexPrefixed s = true := by
  intro hbehind
  rw [hexPrefixed, beq_iff_eq] at hbehind
  have hs : s.toList = '0' :: 'x' :: s.toList.drop 2 := by
    conv_lhs => rw [← List.take_append_drop 2 s.toList, hbehind]
    rfl
  rw [hs, decode_prefixed] at hdecode
  cases hdecode

/-- Digits without `0x` are taken for decimal ones. -/
theorem bigIntParse_of_decode {s : String} {bs : List UInt8}
    (hdecode : Hex.decode s.toList = some bs) (hne : bs ≠ []) :
    bigIntParse s = (readDigits 10 s.toList).map fun n : Nat => (n : Int) := by
  have hread := Hex.readDigits_of_decode hdecode
  -- a text of digits has neither a sign nor an `x` in it
  have hdigit : ∀ c ∈ s.toList, c ≠ '-' ∧ c ≠ '+' ∧ c ≠ 'x' ∧ c ≠ 'X' := by
    intro c hc
    cases hd : readDigit 16 c with
    | none =>
      rw [readDigits_eq_none_of_mem hc hd] at hread
      cases hread
    | some d => exact ne_sign_of_readDigit hd
  rw [bigIntParse]
  -- an empty text stands for no bytes
  cases hcs : s.toList with
  | nil =>
    rw [hcs] at hdecode
    exact absurd (Option.some.inj hdecode).symm hne
  | cons c cs =>
    rw [hcs] at hdigit
    obtain ⟨hminus, hplus, -, -⟩ := hdigit c List.mem_cons_self
    have hx : ∀ d ∈ c :: cs, d ≠ 'x' ∧ d ≠ 'X' := fun d hd => (hdigit d hd).2.2
    rw [readSigned_cons hminus hplus, magnitude_eq_numeral hx,
      numeral_of_ne_nil (List.cons_ne_nil c cs)]

/-- **An address as a number.** Digits without `0x` are hexadecimal for the list, and decimal for
the message. -/
theorem eq_toNat_iff {w3 : Web3dart} {s : String} {a : EthereumAddress} {n : Int}
    (ha : w3.fromHex s = some a) (hn : bigIntParse s = some n) :
    n = a.toNat ↔ NumberText s := by
  obtain ⟨cs, hdecode, hs | hs⟩ := w3.hexText_of_fromHex s a ha
  · -- behind `0x` both read the digits in radix 16
    have hbehind : hexPrefixed s = true := by
      rw [hexPrefixed, hs]
      rfl
    have hparse : bigIntParse s = some (a.toNat : Int) := by
      rw [bigIntParse, hs]
      show (numeral 16 cs).map (fun n : Nat => (n : Int)) = _
      rw [Hex.numeral_of_decode hdecode a.addressBytes_ne_nil]
      rfl
    apply iff_of_true _ (.inl hbehind)
    exact Option.some.inj (hn.symm.trans hparse)
  · have hbehind : ¬ hexPrefixed s = true := not_hexPrefixed_of_decode (hs ▸ hdecode)
    rw [bigIntParse_of_decode (hs ▸ hdecode) a.addressBytes_ne_nil, hs] at hn
    obtain ⟨m, hm, rfl⟩ := Option.map_eq_some_iff.mp hn
    have hradix := (readDigits_eq_iff (by decide) (by decide) hm
      (Hex.readDigits_of_decode hdecode)).2
    have hparse : bigIntParse s = some (m : Int) := by
      rw [bigIntParse_of_decode (hs ▸ hdecode) a.addressBytes_ne_nil, hs, hm]
      rfl
    constructor
    · intro heq
      right
      refine ⟨m, ?_, hparse⟩
      have hlt := hradix.mp (by exact_mod_cast heq)
      omega
    · rintro (hpre | ⟨k, hk, hkparse⟩)
      · exact absurd hpre hbehind
      · obtain rfl := Option.some.inj (hparse.symm.trans hkparse)
        have heq := hradix.mpr (by omega)
        exact_mod_cast heq

/-- **Bytes in a message.** Digits without `0x` are taken for a text, and there are twice as
many characters in it as bytes, so they agree only when there are none. -/
theorem bytesText_eq_iff {w3 : Web3dart} {s : String} {bs : List UInt8}
    (hbs : w3.hexToBytes s = some bs) : bytesText w3 s = some bs ↔ BytesText s := by
  by_cases hbehind : hexPrefixed s = true
  · rw [bytesText, if_pos hbehind]
    exact iff_of_true hbs (.inl hbehind)
  · obtain ⟨cs, hdecode, hs | hs⟩ := (w3.hexToBytes_eq_some_iff s bs).mp hbs
    · rw [hexPrefixed, hs] at hbehind
      exact absurd rfl hbehind
    · have hlen := Hex.length_of_decode hdecode
      rw [bytesText, if_neg hbehind]
      constructor
      · intro htext
        -- a text takes as many bytes as it has digits, twice too many
        have hutf8 := length_le_utf8 s
        rw [Option.some.inj htext, hs, hlen] at hutf8
        right
        apply String.toList_inj.mp
        rw [hs]
        apply List.eq_nil_of_length_eq_zero
        omega
      · rintro (hpre | rfl)
        · exact absurd hpre hbehind
        · obtain rfl : cs = [] := hs.symm
          obtain rfl := Option.some.inj hdecode
          rfl

theorem bytesText_eq_nil_iff (w3 : Web3dart) (s : String) :
    bytesText w3 s = some [] ↔ s = "0x" ∨ s = "" := by
  have hempty : utf8 "" = [] := rfl
  constructor
  · unfold bytesText
    split
    · intro hbytes
      -- with the prefix it is read as bytes, of which there are none
      obtain ⟨cs, hdecode, hs⟩ := (w3.hexToBytes_eq_some_iff s []).mp hbytes
      have hlen := Hex.length_of_decode hdecode
      obtain rfl : cs = [] := List.eq_nil_of_length_eq_zero hlen
      rcases hs with hs | hs
      · exact .inl (String.toList_inj.mp hs)
      · exact .inr (String.toList_inj.mp hs)
    · intro htext
      -- without it the bytes are those of the text
      exact .inr (utf8_injective ((Option.some.inj htext).trans hempty.symm))
  · rintro (rfl | rfl)
    · show (if hexPrefixed "0x" then w3.hexToBytes "0x" else some (utf8 "0x")) = some []
      rw [if_pos (by decide)]
      exact w3.hexToBytes_prefixedHex []
    · rfl

/-- The text of a dependency is the same 32 bytes for both encoders: none of its characters is
taken for a digit, and in UTF-8 they make up a `bytes32`. -/
def DepText (s : String) : Prop := hexPrefixed s = false ∧ (utf8 s).length = 32

/-- **A dependency in a message.** Behind `0x` two characters are one byte, so the signed bytes are
fewer than those of the text. -/
theorem bytes32Text_eq_iff (w3 : Web3dart) (s : String) :
    bytes32Text w3 s = some (utf8 s) ↔ DepText s := by
  rw [bytes32Text, Option.filter_eq_some_iff, beq_iff_eq, DepText]
  apply and_congr_left
  intro hlen
  cases hbehind : hexPrefixed s with
  | false => simp [bytesText, hbehind]
  | true =>
    simp only [bytesText, hbehind, if_true, Bool.true_eq_false, iff_false]
    intro hbytes
    -- the characters would be twice as many as the bytes, and two more
    obtain ⟨cs, hdecode, hs⟩ := (w3.hexToBytes_eq_some_iff s _).mp hbytes
    have hcs := Hex.length_of_decode hdecode
    have hutf8 := length_le_utf8 s
    rcases hs with hs | hs
    · rw [hs, List.length_cons, List.length_cons] at hutf8
      omega
    · rw [hs] at hutf8
      omega

/-! ## The two encodings -/

/-- The paymaster and its input are both there, or what is missing is the default. The message
has a default for each of them by itself; the list has parameters only if both are set. -/
def PaymasterAlike : Option String → Option String → Prop
  | some paymaster, some paymasterInput => NumberText paymaster ∧ BytesText paymasterInput
  | some paymaster, none => bigIntParse paymaster = some 0
  | none, some paymasterInput => paymasterInput = "0x" ∨ paymasterInput = ""
  | none, none => True

/-- A transaction whose fields are the same for both encoders. The remaining fields are numbers
in Dart, and both write them as they are. -/
structure EncodedAlike (tx : ZKSyncEip712Transaction) : Prop where
  «from» : NumberText tx.from
  «to» : NumberText tx.to
  data : BytesText tx.data
  gasPerPubdata : tx.gasPerPubdata ≠ none
  factoryDeps : ∀ dep ∈ tx.factoryDeps.getD [], DepText dep
  paymaster : PaymasterAlike tx.paymaster tx.paymasterInput

theorem toTypedData_eq_some {tx : ZKSyncEip712Transaction} {message : Json}
    (h : tx.toTypedData = some message) :
    ∃ (sender receiver : Int) (paymaster : Json), bigIntParse tx.from = some sender ∧
      bigIntParse tx.to = some receiver ∧ paymasterNumber tx.paymaster = some paymaster ∧
      message = .object [("txType", .string "113"), ("from", numberText sender),
        ("to", numberText receiver), ("gasLimit", numberText tx.gas),
        ("gasPerPubdataByteLimit", gasPerPubdataText tx.gasPerPubdata),
        ("maxFeePerGas", numberText tx.maxFeePerGas),
        ("maxPriorityFeePerGas", numberText tx.maxPriorityFeePerGas), ("paymaster", paymaster),
        ("nonce", numberText tx.nonce), ("value", numberText tx.value),
        ("data", .string tx.data),
        ("factoryDeps", .list ((tx.factoryDeps.getD []).map .string)),
        ("paymasterInput", .string (tx.paymasterInput.getD "0x"))] := by
  -- the three texts that may fail to be numbers are read first
  simp only [toTypedData, Option.bind_eq_bind, Option.bind_eq_some_iff] at h
  obtain ⟨sender, hsender, receiver, hreceiver, paymaster, hpaymaster, h⟩ := h
  exact ⟨sender, receiver, paymaster, hsender, hreceiver, hpaymaster, (Option.some.inj h).symm⟩

theorem toList_eq_some {w3 : Web3dart} {tx : ZKSyncEip712Transaction} {customSignature : String}
    {list : List RlpItem} (h : tx.toList w3 customSignature = some list) :
    ∃ (sender receiver : EthereumAddress) (data empty signature : List UInt8)
      (params : List RlpItem), w3.fromHex tx.from = some sender ∧
      w3.fromHex tx.to = some receiver ∧ w3.hexToBytes tx.data = some data ∧
      paymasterParams w3 tx.paymaster tx.paymasterInput = some params ∧
      list = [.bigInt tx.nonce, .bigInt tx.maxPriorityFeePerGas, .bigInt tx.maxFeePerGas,
        .bigInt tx.gas, .bytes receiver.addressBytes, .bigInt tx.value, .bytes data,
        .bigInt tx.chainId, .bytes empty, .bytes empty, .bigInt tx.chainId,
        .bytes sender.addressBytes, .bigInt (tx.gasPerPubdata.getD 0),
        .list ((tx.factoryDeps.getD []).map .string), .bytes signature, .list params] := by
  -- in the order of the source; the two empty items and the signature are read from texts as well
  simp only [toList, Option.bind_eq_bind, Option.bind_eq_some_iff] at h
  obtain ⟨receiver, hreceiver, data, hdata, empty, -, sender, hsender, signature, -, params,
    hparams, h⟩ := h
  exact ⟨sender, receiver, data, empty, signature, params, hsender, hreceiver, hdata, hparams,
    (Option.some.inj h).symm⟩

/-! ## Field by field -/

section Fields

variable {w3 : Web3dart} {message : Json} {list : List RlpItem} {field : Field}

theorem agrees_iff {v : FieldValue} (hsent : field.sent list = some v) :
    field.Agrees w3 message list ↔ field.signed w3 message = some v := by
  constructor
  · rintro ⟨v', hsent', hsigned⟩
    obtain rfl := Option.some.inj (hsent.symm.trans hsent')
    exact hsigned
  · intro hsigned
    exact ⟨v, hsent, hsigned⟩

/-- A number is signed as its text. -/
theorem signed_numberText {n : Int} (htype : field.member.type = "uint256")
    (hentry : message.get? field.member.name = some (numberText n)) :
    field.signed w3 message = some (.number n) := by
  rw [Field.signed, hentry, Option.bind_some, htype]
  show (bigIntParse (toRadixString 10 n)).map FieldValue.number = some (.number n)
  rw [bigIntParse_toString, Option.map_some]

theorem agrees_number {n : Int} (hsent : field.sent list = some (.number n))
    (htype : field.member.type = "uint256")
    (hentry : message.get? field.member.name = some (numberText n)) :
    field.Agrees w3 message list :=
  (agrees_iff hsent).mpr (signed_numberText htype hentry)

/-- An address is signed as the number of its text. -/
theorem agrees_address {a : EthereumAddress} {n : Int} {s : String}
    (hsent : field.sent list = some (.number a.toNat)) (ha : w3.fromHex s = some a)
    (htype : field.member.type = "uint256") (hn : bigIntParse s = some n)
    (hentry : message.get? field.member.name = some (numberText n)) :
    field.Agrees w3 message list ↔ NumberText s := by
  rw [agrees_iff hsent, signed_numberText htype hentry, Option.some.injEq, FieldValue.number.injEq]
  exact eq_toNat_iff ha hn

theorem agrees_bytes {bs : List UInt8} {s : String} (hsent : field.sent list = some (.bytes bs))
    (htype : field.member.type = "bytes")
    (hentry : message.get? field.member.name = some (.string s)) :
    field.Agrees w3 message list ↔ bytesText w3 s = some bs := by
  rw [agrees_iff hsent, Field.signed, hentry, Option.bind_some, htype]
  show (bytesText w3 s).map FieldValue.bytes = some (.bytes bs) ↔ _
  cases bytesText w3 s <;> simp

/-- A text is printed for a missing number too, but it is no numeral. -/
theorem agrees_gasPerPubdata {gasPerPubdata : Option Int}
    (hsent : list[12]? = some (.bigInt (gasPerPubdata.getD 0)))
    (hentry : message.get? "gasPerPubdataByteLimit" = some (gasPerPubdataText gasPerPubdata)) :
    Field.Agrees w3 message list .gasPerPubdataByteLimit ↔ gasPerPubdata ≠ none := by
  have hnumber : Field.sent list .gasPerPubdataByteLimit =
      some (.number (gasPerPubdata.getD 0)) := by
    rw [Field.sent, hsent]
    rfl
  cases gasPerPubdata with
  | some n => exact iff_of_true (agrees_number hnumber rfl hentry) (Option.some_ne_none n)
  | none =>
    -- the message has the text `null` where the list has zero
    have hsigned : Field.signed w3 message .gasPerPubdataByteLimit = none := by
      have hparse : bigIntParse "null" = none := by decide
      rw [Field.signed, Field.member, hentry, Option.bind_some]
      show (bigIntParse "null").map FieldValue.number = none
      rw [hparse, Option.map_none]
    apply iff_of_false _ (fun hne => hne rfl)
    rw [agrees_iff hnumber, hsigned]
    exact fun h => nomatch h

theorem sent_factoryDeps {deps : List String}
    (hlist : list[13]? = some (.list (deps.map .string))) :
    Field.sent list .factoryDeps = some (.byteStrings (deps.map utf8)) := by
  have hread : (deps.map RlpItem.string).mapM RlpItem.payload = some (deps.map utf8) := by
    clear hlist
    induction deps with
    | nil => rfl
    | cons s deps ih => simp [RlpItem.payload, ih]
  rw [Field.sent, hlist, Option.bind_some, RlpItem.byteStrings, hread, Option.map_some]

variable (w3) in
/-- A list of dependencies is signed as it is sent just if every one of them is. -/
theorem mapM_bytes32Of_iff (deps : List String) :
    (deps.map Json.string).mapM (bytes32Of w3) = some (deps.map utf8) ↔
      ∀ dep ∈ deps, DepText dep := by
  -- dependency by dependency; one that is not read makes the whole list fail
  induction deps with
  | nil => simp
  | cons s deps ih =>
    rw [List.forall_mem_cons, ← ih, ← bytes32Text_eq_iff w3]
    simp only [List.map_cons, List.mapM_cons, bytes32Of, Option.bind_eq_bind, Option.pure_def,
      Option.bind_eq_some_iff, Option.some.injEq, List.cons.injEq]
    constructor
    · rintro ⟨bs, hbs, rest, hrest, rfl, rfl⟩
      exact ⟨hbs, hrest⟩
    · rintro ⟨hbs, hrest⟩
      exact ⟨_, hbs, _, hrest, rfl, rfl⟩

/-- The dependencies are the same texts in both, but a message reads them as hexadecimal where
it can, and wants 32 bytes of each. -/
theorem agrees_factoryDeps {deps : List String}
    (hsent : Field.sent list .factoryDeps = some (.byteStrings (deps.map utf8)))
    (hentry : message.get? "factoryDeps" = some (.list (deps.map .string))) :
    Field.Agrees w3 message list .factoryDeps ↔ ∀ dep ∈ deps, DepText dep := by
  rw [agrees_iff hsent, Field.signed, ← mapM_bytes32Of_iff w3]
  show (message.get? "factoryDeps").bind (signedValue w3 "bytes32[]") = _ ↔ _
  rw [hentry, Option.bind_some]
  show ((deps.map Json.string).mapM (bytes32Of w3)).map FieldValue.byteStrings = _ ↔ _
  cases (deps.map Json.string).mapM (bytes32Of w3) <;> simp

/-- The paymaster and its input agree just if both are there or the missing ones are the
defaults. -/
theorem agrees_paymaster {paymaster paymasterInput : Option String} {entry : Json}
    {params : List RlpItem}
    (hentry : message.get? "paymaster" = some entry)
    (hinput : message.get? "paymasterInput" = some (.string (paymasterInput.getD "0x")))
    (hnumber : paymasterNumber paymaster = some entry)
    (hparams : paymasterParams w3 paymaster paymasterInput = some params)
    (hlist : list[15]? = some (.list params)) :
    (Field.Agrees w3 message list .paymaster ∧ Field.Agrees w3 message list .paymasterInput) ↔
      PaymasterAlike paymaster paymasterInput := by
  have hsent : Field.sent list .paymaster = RlpItem.paymaster (.list params) := by
    rw [Field.sent, hlist, Option.bind_some]
  have hsentInput : Field.sent list .paymasterInput = RlpItem.paymasterInput (.list params) := by
    rw [Field.sent, hlist, Option.bind_some]
  have hzero : signedValue w3 "uint256" (.int 0) = some (.number 0) := rfl
  have hempty : bytesText w3 "0x" = some [] := (bytesText_eq_nil_iff w3 "0x").mpr (.inl rfl)
  cases paymaster with
  | none =>
    obtain rfl := Option.some.inj hnumber
    obtain rfl := Option.some.inj hparams
    have hpaymaster : Field.Agrees w3 message list .paymaster :=
      (agrees_iff hsent).mpr (by rw [Field.signed, Field.member, hentry, Option.bind_some, hzero])
    rw [agrees_bytes hsentInput rfl hinput]
    cases paymasterInput with
    | none => exact iff_of_true ⟨hpaymaster, hempty⟩ trivial
    | some input =>
      apply (and_iff_right hpaymaster).trans
      exact bytesText_eq_nil_iff w3 input
  | some address =>
    obtain ⟨n, hn, rfl⟩ := Option.map_eq_some_iff.mp hnumber
    cases paymasterInput with
    | none =>
      obtain rfl := Option.some.inj hparams
      -- nothing is sent of the paymaster
      have hsigned : Field.signed w3 message .paymaster = some (.number n) :=
        signed_numberText rfl hentry
      rw [agrees_bytes hsentInput rfl hinput, agrees_iff hsent, hsigned]
      apply (and_iff_left hempty).trans
      show some (FieldValue.number n) = some (.number 0) ↔ bigIntParse address = some 0
      rw [hn, Option.some.injEq, Option.some.injEq, FieldValue.number.injEq]
    | some input =>
      simp only [paymasterParams, Option.bind_eq_bind, Option.bind_eq_some_iff] at hparams
      obtain ⟨a, ha, bs, hbs, hparams⟩ := hparams
      obtain rfl := Option.some.inj hparams
      rw [agrees_address hsent ha rfl hn hentry, agrees_bytes hsentInput rfl hinput]
      exact and_congr_right fun _ => bytesText_eq_iff hbs

end Fields

/-! ## All fields -/

/-- The paymaster and its input, in the two encodings of a transaction. -/
theorem paymaster_agrees_iff {w3 : Web3dart} {tx : ZKSyncEip712Transaction}
    {customSignature : String} {message : Json} {list : List RlpItem}
    (hmessage : tx.toTypedData = some message) (hlist : tx.toList w3 customSignature = some list) :
    (Field.Agrees w3 message list .paymaster ∧ Field.Agrees w3 message list .paymasterInput) ↔
      PaymasterAlike tx.paymaster tx.paymasterInput := by
  obtain ⟨-, -, entry, -, -, hentry, rfl⟩ := toTypedData_eq_some hmessage
  obtain ⟨-, -, -, -, -, params, -, -, -, hparams, rfl⟩ := toList_eq_some hlist
  exact agrees_paymaster rfl rfl hentry hparams rfl

/-- **What is signed is what is sent**, for every transaction that both encoders accept and
whatever the signature, just if the two address texts and the data are read alike by both, the
gas for each byte of pubdata is set, every factory dependency is a text of 32 bytes that does
not begin with `0x`, and the paymaster and its input are set together or the missing ones are
the defaults. -/
theorem signed_is_sent_iff (w3 : Web3dart) (tx : ZKSyncEip712Transaction)
    (customSignature : String) (message : Json) (list : List RlpItem)
    (hmessage : tx.toTypedData = some message) (hlist : tx.toList w3 customSignature = some list) :
    (∀ field : Field, field.Agrees w3 message list) ↔ EncodedAlike tx := by
  have hpaymaster := paymaster_agrees_iff hmessage hlist
  obtain ⟨sender, receiver, entry, hsender, hreceiver, -, hmessage⟩ :=
    toTypedData_eq_some hmessage
  obtain ⟨senderAddress, receiverAddress, data, empty, signature, params, hsenderAddress,
    hreceiverAddress, hdata, -, hlist⟩ := toList_eq_some hlist
  -- the fields that may differ
  have hfrom : Field.Agrees w3 message list .«from» ↔ NumberText tx.from := by
    subst hmessage hlist
    exact agrees_address rfl hsenderAddress rfl hsender rfl
  have hto : Field.Agrees w3 message list .«to» ↔ NumberText tx.to := by
    subst hmessage hlist
    exact agrees_address rfl hreceiverAddress rfl hreceiver rfl
  have hbytes : Field.Agrees w3 message list .data ↔ BytesText tx.data := by
    rw [← bytesText_eq_iff hdata]
    subst hmessage hlist
    exact agrees_bytes rfl rfl rfl
  have hgas : Field.Agrees w3 message list .gasPerPubdataByteLimit ↔ tx.gasPerPubdata ≠ none := by
    subst hmessage hlist
    apply agrees_gasPerPubdata rfl rfl
  have hdeps : Field.Agrees w3 message list .factoryDeps ↔
      ∀ dep ∈ tx.factoryDeps.getD [], DepText dep := by
    subst hmessage hlist
    exact agrees_factoryDeps (sent_factoryDeps rfl) rfl
  constructor
  · intro hall
    exact ⟨hfrom.mp (hall _), hto.mp (hall _), hbytes.mp (hall _), hgas.mp (hall _),
      hdeps.mp (hall _), hpaymaster.mp ⟨hall _, hall _⟩⟩
  · intro halike
    obtain ⟨hpaymasterAgrees, hinputAgrees⟩ := hpaymaster.mpr halike.paymaster
    intro field
    cases field with
    | «from» => exact hfrom.mpr halike.from
    | «to» => exact hto.mpr halike.to
    | data => exact hbytes.mpr halike.data
    | gasPerPubdataByteLimit => exact hgas.mpr halike.gasPerPubdata
    | paymaster => exact hpaymasterAgrees
    | paymasterInput => exact hinputAgrees
    | factoryDeps => exact hdeps.mpr halike.factoryDeps
    | gasLimit | maxFeePerGas | maxPriorityFeePerGas | nonce | value =>
      subst hmessage hlist
      exact agrees_number rfl rfl rfl

/-! ## With and without an input for the paymaster -/

namespace Sample

/-- The empty array has no contents. -/
def readAtom (w3 : Web3dart) : String → Json → Option Eip712.Value
  | "bytes32[]", .list [] => some (.bytes [])
  | type, json => Dart.Sample.readAtom w3 type json

theorem readAtom_eq {w3 : Web3dart} {type : String} {json : Json} {v : Eip712.Value}
    (h : readAtom w3 type json = some v) :
    (type = "bytes32[]" ∧ v = .bytes []) ∨ ∃ c, w3.content type json = some c ∧ v = c.signed := by
  unfold readAtom at h
  split at h
  · exact .inl ⟨rfl, (Option.some.inj h).symm⟩
  · obtain ⟨c, hc, rfl⟩ := Option.map_eq_some_iff.mp h
    exact .inr ⟨c, hc, rfl⟩

theorem content_bytes32Array (w3 : Web3dart) (json : Json) : w3.content "bytes32[]" json = none := by
  cases json <;> rfl

/-- The package that signs arrays too. -/
def lib : EthSigUtil Gsn.Sample.w3 where
  readAtom := readAtom Gsn.Sample.w3
  signTypedData _ d :=
    if (d.messageStruct (readAtom Gsn.Sample.w3)).isSome ∧
        (d.domainStruct (readAtom Gsn.Sample.w3)).isSome then
      some (prefixedHex (List.replicate 65 0))
    else none
  rawEncode _ _ := none
  readAtom_of_content type json c v hc hv := by
    rcases readAtom_eq hv with ⟨rfl, -⟩ | ⟨d, hd, rfl⟩
    · rw [content_bytes32Array] at hc
      cases hc
    · obtain rfl := Option.some.inj (hc.symm.trans hd)
      rfl
  readAtom_sameType type json json' v w hv hw := by
    rcases readAtom_eq hv with ⟨rfl, rfl⟩ | ⟨c, hc, rfl⟩
    · rcases readAtom_eq hw with ⟨-, rfl⟩ | ⟨d, hd, -⟩
      · trivial
      · rw [content_bytes32Array] at hd
        cases hd
    · rcases readAtom_eq hw with ⟨rfl, -⟩ | ⟨d, hd, rfl⟩
      · rw [content_bytes32Array] at hc
        cases hc
      · exact Content.signed_sameType ((type_of_content hc).trans (type_of_content hd).symm)
  read_of_signTypedData key d s h := by
    split at h
    · next hread =>
      exact ⟨Option.isSome_iff_exists.mp hread.1, Option.isSome_iff_exists.mp hread.2⟩
    · cases h
  signature_eq key d s h := by
    split at h
    · exact ⟨List.replicate 65 0, by simp, (Option.some.inj h).symm⟩
    · cases h

/-- The wallet of the key one. -/
def account : Wallet := ⟨"0x01"⟩

/-- The Lens test network. -/
def chain : ZKSyncChain where
  chainId := 37111
  domain := .object [("name", .string "zkSync"), ("version", .string "2"), ("chainId", .int 37111),
    ("salt", .string ""), ("verifyingContract", .string "")]

/-- A transaction with this paymaster and input, and these dependencies. -/
def transaction (paymaster paymasterInput : Option String) (factoryDeps : Option (List String)) :
    ZKSyncEip712Transaction where
  «to» := "0x111C3E89Ce80e62EE88318C2804920D4c96f92bb"
  «from» := "0x758641a1b566998CaC5Bc5fC8032F001e1CEBeEf"
  nonce := 0
  gas := 750000
  maxPriorityFeePerGas := 2
  maxFeePerGas := 250000000000000
  data := "0x"
  value := 0
  chainId := 37111
  gasPerPubdata := some 50000
  paymaster := paymaster
  paymasterInput := paymasterInput
  factoryDeps := factoryDeps

def paymaster : String := "0x115B6D4aED14AD0F900a20819ABDAf915111bf50"

/-- A transaction with a paymaster and its input, and with a dependency of 32 characters that
are no digits. -/
def sponsored : ZKSyncEip712Transaction :=
  transaction (some paymaster) (some "0x8c5a3445") (some ["ghijklmnopqrstuvghijklmnopqrstuv"])

theorem isSome_sendTransaction :
    (sendTransaction lib chain (transaction (some paymaster) none none) account).isSome =
      true := by decide +kernel

end Sample

/-- With a paymaster, its input and a dependency. -/
theorem signed_is_sent_iff_sponsored : ∃ message list,
    Sample.sponsored.toTypedData = some message ∧
      Sample.sponsored.toList Gsn.Sample.w3 "0x" = some list ∧
      ∀ field : Field, field.Agrees Gsn.Sample.w3 message list := by
  have hmessage : Sample.sponsored.toTypedData.isSome = true := by decide +kernel
  have hlist : (Sample.sponsored.toList Gsn.Sample.w3 "0x").isSome = true := by decide +kernel
  obtain ⟨message, hmessage⟩ := Option.isSome_iff_exists.mp hmessage
  obtain ⟨list, hlist⟩ := Option.isSome_iff_exists.mp hlist
  -- the dependency is a text of thirty-two characters
  have hdeps : ∀ dep ∈ Sample.sponsored.factoryDeps.getD [], DepText dep := by
    intro dep hdep
    obtain rfl := List.mem_singleton.mp hdep
    exact ⟨by decide +kernel, by decide +kernel⟩
  refine ⟨message, list, hmessage, hlist, ?_⟩
  apply (signed_is_sent_iff Gsn.Sample.w3 _ "0x" message list hmessage hlist).mpr
  exact ⟨.inl (by decide +kernel), .inl (by decide +kernel), .inl (by decide +kernel),
    Option.some_ne_none _, hdeps, .inl (by decide +kernel), .inl (by decide +kernel)⟩

/-- With a paymaster and no input, the paymaster is signed and not sent: the wallet agrees to a
sponsored transaction, and the chain is told of one without a sponsor. -/
theorem signed_is_not_always_sent : ∃ message list,
    Sample.chain.chainId = (Sample.transaction (some Sample.paymaster) none none).chainId ∧
      sendTransaction Sample.lib Sample.chain (Sample.transaction (some Sample.paymaster) none none)
        Sample.account = some list ∧
      (Sample.transaction (some Sample.paymaster) none none).toTypedData = some message ∧
      ¬ ∀ field : Field, field.Agrees Gsn.Sample.w3 message list := by
  obtain ⟨list, hsent⟩ := Option.isSome_iff_exists.mp Sample.isSome_sendTransaction
  obtain ⟨message, customSignature, hmessage, -, hlist⟩ := sendTransaction_eq_some hsent
  refine ⟨message, list, rfl, hsent, hmessage, ?_⟩
  intro hall
  have hnumber := (paymaster_agrees_iff hmessage hlist).mp ⟨hall _, hall _⟩
  have hne : bigIntParse Sample.paymaster ≠ some 0 := by decide +kernel
  exact hne hnumber

end RlyNetworkSdk.ZkSync
