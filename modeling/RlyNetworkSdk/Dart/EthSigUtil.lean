import RlyNetworkSdk.Dart.Contract
import RlyNetworkSdk.Evm.Eip712

/-!
# The Package `eth_sig_util`

It reads a typed message, in which most values are texts, and signs the hash of what it
read. The content of a text is fixed here once, and the package is a structure whose fields
say that it reads this content or throws.
-/

namespace RlyNetworkSdk.Dart

open Encoding Evm

/-! ## The content of a value -/

/-- What a value of a message, or an argument of a call, stands for. The two libraries have
different types for the same things. -/
inductive Content where
  | uint (w : Abi.Word)
  | address (a : EthereumAddress)
  | bytes (bs : List UInt8)
  | bytes32 (bs : Vector UInt8 32)
  | string (s : String)
  deriving DecidableEq

namespace Content

/-- The content as a value of a typed message. -/
def signed : Content → Eip712.Value
  | uint w => .word w
  | address a => .word (BitVec.ofNat 256 a.toNat)
  | bytes bs => .bytes bs
  | bytes32 bs => .word (BitVec.ofNat 256 (BigEndian.value bs.toList))
  | string s => .bytes (utf8 s)

/-- The content as an argument of a call. -/
def argument : Content → Arg
  | uint w => .bigInt w.toNat
  | address a => .address a
  | bytes bs => .bytes bs
  | bytes32 bs => .bytes bs.toList
  | string s => .string s

/-- The content as an ABI value. -/
def value : Content → Abi.Value
  | uint w => .word w
  | address a => .word (BitVec.ofNat 256 a.toNat)
  | bytes bs => .bytes bs
  | bytes32 bs => .word (BitVec.ofNat 256 (BigEndian.value bs.toList))
  | string s => .bytes (utf8 s)

/-- The type that has such contents. -/
def type : Content → String
  | uint _ => "uint256"
  | address _ => "address"
  | bytes _ => "bytes"
  | bytes32 _ => "bytes32"
  | string _ => "string"

end Content

/-- The text begins with `0x`. -/
def hexPrefixed (s : String) : Bool := s.toList.take 2 == ['0', 'x']

/-- The word of a number; none for a number that is negative or too wide. -/
def wordOfInt (n : Int) : Option Abi.Word :=
  if 0 ≤ n ∧ n < 2 ^ 256 then some (BitVec.ofInt 256 n) else none

/-- The content of a value of the type, if it is well formed: a number may be an integer or a
numeral, an address and a byte string are hexadecimal behind `0x`. -/
def Web3dart.content (w3 : Web3dart) : String → Json → Option Content
  | "uint256", .string s => ((bigIntParse s).bind wordOfInt).map .uint
  | "uint256", .int n => (wordOfInt n).map .uint
  | "address", .string s => if hexPrefixed s then (w3.fromHex s).map .address else none
  | "bytes", .string s => if hexPrefixed s then (w3.hexToBytes s).map .bytes else none
  | "bytes32", .string s =>
    if hexPrefixed s then
      (w3.hexToBytes s).bind fun bs =>
        if h : bs.length = 32 then some (.bytes32 ⟨bs.toArray, by simpa using h⟩) else none
    else none
  | "string", .string s => some (.string s)
  | _, _ => none

section Content

variable (w3 : Web3dart)

theorem content_uint256_text {s : String} {c : Content}
    (h : w3.content "uint256" (.string s) = some c) :
    ∃ w : Abi.Word, bigIntParse s = some (w.toNat : Int) ∧ c = .uint w := by
  simp only [Web3dart.content] at h
  obtain ⟨w, hw, rfl⟩ := Option.map_eq_some_iff.mp h
  obtain ⟨n, hn, hw⟩ := Option.bind_eq_some_iff.mp hw
  unfold wordOfInt at hw
  split at hw
  · next hrange =>
    obtain rfl := Option.some.inj hw
    refine ⟨_, ?_, rfl⟩
    have hmod : n % ((2 ^ 256 : Nat) : Int) = n := Int.emod_eq_of_lt hrange.1 (by simpa using hrange.2)
    rw [hn, BitVec.toNat_ofInt, hmod, Int.toNat_of_nonneg hrange.1]
  · cases hw

theorem content_address_text {s : String} {c : Content}
    (h : w3.content "address" (.string s) = some c) :
    ∃ a, w3.fromHex s = some a ∧ c = .address a := by
  simp only [Web3dart.content] at h
  split at h
  · obtain ⟨a, ha, rfl⟩ := Option.map_eq_some_iff.mp h
    exact ⟨a, ha, rfl⟩
  · cases h

theorem content_bytes_text {s : String} {c : Content}
    (h : w3.content "bytes" (.string s) = some c) :
    ∃ bs, w3.hexToBytes s = some bs ∧ c = .bytes bs := by
  simp only [Web3dart.content] at h
  split at h
  · obtain ⟨bs, hbs, rfl⟩ := Option.map_eq_some_iff.mp h
    exact ⟨bs, hbs, rfl⟩
  · cases h

variable {w3} in
theorem type_of_content {type : String} {json : Json} {c : Content}
    (h : w3.content type json = some c) : c.type = type := by
  unfold Web3dart.content at h
  -- one case for each type that the library reads
  split at h
  · obtain ⟨w, -, rfl⟩ := Option.map_eq_some_iff.mp h
    rfl
  · obtain ⟨w, -, rfl⟩ := Option.map_eq_some_iff.mp h
    rfl
  · split at h
    · obtain ⟨a, -, rfl⟩ := Option.map_eq_some_iff.mp h
      rfl
    · cases h
  · split at h
    · obtain ⟨bs, -, rfl⟩ := Option.map_eq_some_iff.mp h
      rfl
    · cases h
  · split at h
    · obtain ⟨bs, -, h⟩ := Option.bind_eq_some_iff.mp h
      split at h
      · obtain rfl := Option.some.inj h
        rfl
      · cases h
    · cases h
  · obtain rfl := Option.some.inj h
    rfl
  · cases h

theorem word_inj {m n : Nat} (hm : m < 2 ^ 256) (hn : n < 2 ^ 256)
    (h : (BitVec.ofNat 256 m : Abi.Word) = BitVec.ofNat 256 n) : m = n := by
  have hnat := congrArg BitVec.toNat h
  rwa [BitVec.toNat_ofNat, BitVec.toNat_ofNat, Nat.mod_eq_of_lt hm, Nat.mod_eq_of_lt hn] at hnat

/-- **Contents of one type are told apart by their signed values.** Of two types this is not so:
an address and a number may be the same word. -/
theorem Content.signed_injective {c d : Content} (htype : c.type = d.type)
    (h : c.signed = d.signed) : c = d := by
  -- contents of different kinds are of different types
  cases c <;> cases d <;> try (simp [type] at htype; done)
  case uint.uint v w =>
    cases h
    rfl
  case address.address a b =>
    have ha := a.toNat_lt
    have hb := b.toNat_lt
    have hword := word_inj (by omega) (by omega) (Eip712.Value.word.inj h)
    rw [EthereumAddress.toNat_injective hword]
  case bytes.bytes bs cs =>
    cases h
    rfl
  case bytes32.bytes32 bs cs =>
    have hbs := BigEndian.value_lt bs.toList
    have hcs := BigEndian.value_lt cs.toList
    rw [Vector.length_toList] at hbs hcs
    have hvalue := word_inj (by simpa using hbs) (by simpa using hcs) (Eip712.Value.word.inj h)
    have hlist := BigEndian.eq_of_value_eq (by simp) hvalue
    rw [Vector.toList_inj.mp hlist]
  case string.string s t =>
    have hbytes : utf8 s = utf8 t := Eip712.Value.bytes.inj h
    rw [utf8_injective hbytes]

end Content

theorem content_bytes_prefixedHex (w3 : Web3dart) (bs : List UInt8) :
    w3.content "bytes" (.string (prefixedHex bs)) = some (.bytes bs) := by
  have hprefix : hexPrefixed (prefixedHex bs) = true := by
    rw [hexPrefixed, prefixedHex, String.toList_ofList]
    rfl
  simp [Web3dart.content, hprefix]

theorem wordOfInt_natCast {n : Nat} (hn : n < 2 ^ 256) :
    wordOfInt n = some (BitVec.ofNat 256 n) := by
  have hrange : (0 : Int) ≤ (n : Int) ∧ (n : Int) < 2 ^ 256 :=
    ⟨Int.natCast_nonneg _, by exact_mod_cast hn⟩
  rw [wordOfInt, if_pos hrange]
  exact congrArg some (BitVec.ofInt_natCast 256 n)

theorem content_uint256_toString (w3 : Web3dart) {n : Nat} (hn : n < 2 ^ 256) :
    w3.content "uint256" (.string (toRadixString 10 n)) = some (.uint (BitVec.ofNat 256 n)) := by
  have hparse : ((bigIntParse (toRadixString 10 n)).bind wordOfInt).map Content.uint =
      some (.uint (BitVec.ofNat 256 n)) := by
    rw [bigIntParse_toString, Option.bind_some, wordOfInt_natCast hn, Option.map_some]
  exact hparse

/-- **A content can be encoded** as an argument of its type, and is then the ABI value that it
stands for. -/
theorem leafValue_argument (w3 : Web3dart) (c : Content) :
    leafValue w3 c.type c.argument = some c.value := by
  cases c with
  | uint w =>
    have hword : BitVec.ofInt 256 (w.toNat : Int) = w := by simp
    have hfits : (w.toNat : Int) < 2 ^ 256 := by exact_mod_cast w.isLt
    have hencode := w3.encodeUint_of_fits 256 w.toNat (Nat.le_refl 256) (Int.natCast_nonneg _) hfits
    rw [hword] at hencode
    simp [leafValue, Content.type, Content.argument, Content.value, hencode]
  | address a => simp [leafValue, Content.type, Content.argument, Content.value]
  | bytes bs => simp [leafValue, Content.type, Content.argument, Content.value]
  | bytes32 bs => simp [leafValue, Content.type, Content.argument, Content.value]
  | string s => simp [leafValue, Content.type, Content.argument, Content.value]

/-! ## The package -/

/-- The map that is handed to `signTypedData`, with its four entries. -/
structure TypedData where
  types : Eip712.Types
  primaryType : String
  domain : Json
  message : Json

namespace TypedData

variable (readAtom : String → Json → Option Eip712.Value) (d : TypedData)

/-- The struct that is read from the message and signed. There are no more levels than types, as
long as no type contains itself. -/
def messageStruct : Option Eip712.Value :=
  Eip712.read d.types readAtom (d.types.length + 1) d.primaryType d.message

/-- The struct that is read from the domain and signed with the message. -/
def domainStruct : Option Eip712.Value :=
  Eip712.read d.types readAtom (d.types.length + 1) "EIP712Domain" d.domain

end TypedData

/-- What the code uses of `eth_sig_util`. -/
structure EthSigUtil (w3 : Web3dart) where
  /-- How a value of a type that is not a struct is read; no value where it throws. -/
  readAtom : String → Json → Option Eip712.Value
  /-- `signTypedData` with version `V4`, of a private key; no value where it throws. -/
  signTypedData : String → TypedData → Option String
  /-- `AbiUtil.rawEncode` -/
  rawEncode : List String → List String → Option (List UInt8)
  /-- A well-formed value is read as its content, if it is read. -/
  readAtom_of_content : ∀ type json c v, w3.content type json = some c →
    readAtom type json = some v → v = c.signed
  /-- The values of a type all have one form. -/
  readAtom_sameType : ∀ type json json' v w, readAtom type json = some v →
    readAtom type json' = some w → v.SameType w
  /-- Only messages that can be read are signed. -/
  read_of_signTypedData : ∀ key d signature, signTypedData key d = some signature →
    (∃ v, d.messageStruct readAtom = some v) ∧ ∃ v, d.domainStruct readAtom = some v
  /-- A signature is the text of 65 bytes. -/
  signature_eq : ∀ key d signature, signTypedData key d = some signature →
    ∃ bs : List UInt8, bs.length = 65 ∧ signature = prefixedHex bs

/-- **A member of a message that is signed** is what its entry stands for. The package finds
entries by the names in the table of types, so their order in the map does not matter. -/
theorem EthSigUtil.member_of_content {w3 : Web3dart} (lib : EthSigUtil w3) {types : Eip712.Types}
    {depth : Nat} {type : String} {json : Json} {v : Eip712.Value} {members : List Eip712.Member}
    (hread : Eip712.read types lib.readAtom (depth + 2) type json = some v)
    (htype : types.lookup type = some members) (hnodup : (members.map Eip712.Member.name).Nodup)
    {m : Eip712.Member} (hm : m ∈ members) (hatom : types.lookup m.type = none) {entry : Json}
    (hentry : json.get? m.name = some entry) {c : Content}
    (hc : w3.content m.type entry = some c) : v.member types m.name = some c.signed := by
  obtain ⟨entry', w, hentry', hw, hmember⟩ := Eip712.read_member hread htype hnodup hm
  obtain rfl := Option.some.inj (hentry.symm.trans hentry')
  rw [Eip712.read, hatom] at hw
  rw [hmember, lib.readAtom_of_content m.type entry c w hc hw]

/-- **Messages of one type** are read as structs of one form, whatever is in them. -/
theorem EthSigUtil.messageStruct_sameType {w3 : Web3dart} (lib : EthSigUtil w3) {d d' : TypedData}
    (htypes : d.types = d'.types) (hprimary : d.primaryType = d'.primaryType)
    {v v' : Eip712.Value} (hv : d.messageStruct lib.readAtom = some v)
    (hv' : d'.messageStruct lib.readAtom = some v') : v.SameType v' := by
  rw [TypedData.messageStruct, htypes, hprimary] at hv
  rw [TypedData.messageStruct] at hv'
  exact Eip712.read_sameType lib.readAtom_sameType _ _ _ _ v v' hv hv'

/-- A number that is negative or too wide is not taken for a `uint256`: the package throws. -/
def EthSigUtil.RefusesOutOfRange {w3 : Web3dart} (lib : EthSigUtil w3) : Prop :=
  ∀ s n, bigIntParse s = some n → ¬ (0 ≤ n ∧ n < 2 ^ 256) →
    lib.readAtom "uint256" (.string s) = none

/-! ## An instance -/

theorem Content.signed_sameType {c d : Content} (htype : c.type = d.type) :
    c.signed.SameType d.signed := by
  cases c <;> cases d <;> first | trivial | simp [type] at htype

namespace Sample

def readAtom (w3 : Web3dart) (type : String) (json : Json) : Option Eip712.Value :=
  (w3.content type json).map Content.signed

/-- The package with this signature of every message that can be read. -/
def ethSigUtil (w3 : Web3dart) (signature : Vector UInt8 65) : EthSigUtil w3 where
  readAtom := readAtom w3
  signTypedData _ d :=
    if (d.messageStruct (readAtom w3)).isSome ∧ (d.domainStruct (readAtom w3)).isSome then
      some (prefixedHex signature.toList)
    else none
  rawEncode types texts :=
    ((types.zip texts).mapM fun e => w3.content e.1 (.string e.2)).map fun cs =>
      (Abi.Value.tuple (cs.map Content.value)).encode
  readAtom_of_content type json c v hc hv := by
    rw [readAtom, hc] at hv
    exact (Option.some.inj hv).symm
  readAtom_sameType type json json' v w hv hw := by
    obtain ⟨c, hc, rfl⟩ := Option.map_eq_some_iff.mp hv
    obtain ⟨d, hd, rfl⟩ := Option.map_eq_some_iff.mp hw
    exact Content.signed_sameType ((type_of_content hc).trans (type_of_content hd).symm)
  read_of_signTypedData key d s h := by
    split at h
    · next hread =>
      exact ⟨Option.isSome_iff_exists.mp hread.1, Option.isSome_iff_exists.mp hread.2⟩
    · cases h
  signature_eq key d s h := by
    split at h
    · exact ⟨signature.toList, by simp, (Option.some.inj h).symm⟩
    · cases h

theorem refusesOutOfRange_ethSigUtil (w3 : Web3dart) (signature : Vector UInt8 65) :
    (ethSigUtil w3 signature).RefusesOutOfRange := by
  intro s n hparse hn
  have hword : wordOfInt n = none := if_neg hn
  show (((bigIntParse s).bind wordOfInt).map Content.uint).map Content.signed = none
  rw [hparse, Option.bind_some, hword]
  rfl

end Sample

end RlyNetworkSdk.Dart
