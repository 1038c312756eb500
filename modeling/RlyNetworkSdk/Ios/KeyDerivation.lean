import Mathlib.Data.List.TakeWhile
import RlyNetworkSdk.Crypto.Bip32Keys
import RlyNetworkSdk.Crypto.Bip39Seed
import RlyNetworkSdk.Crypto.Mnemonics
import RlyNetworkSdk.Ios.RlyNetworkMobileSdk

/-!
# The iOS Handlers over the C Code

`RlyNetworkMobileSdk.swift` with the functions of `bip39.c` and `bip32.c` themselves in the place of
the parameter that stands for them. The C code keeps seeds in static memory, reads uninitialised
memory and has loops without a bound. None of it can be seen over the channel: in every history
the calls that return give the replies of the handlers over one `Bip39C` (`native_histories`).
-/

namespace RlyNetworkSdk.Ios

open Encoding Crypto Bip39 Bip32 KeyStorage Channel Transition

/-! ## Strings between Swift and C -/

/-- A Swift string as a C function reads it. -/
def cArgument (s : String) : List UInt8 := (cString s).takeWhile (· ≠ 0)

/-- `String(cString:)`, of a text without bytes above 127. -/
def ofCString (text : List UInt8) : String := .ofList (text.map fun b => Char.ofNat b.toNat)

/-- A text of bytes between 1 and 127. -/
def Ascii (text : List UInt8) : Prop := ∀ b ∈ text, 0 < b ∧ b < 128

theorem utf8EncodeChar_ascii : ∀ n < 128, String.utf8EncodeChar (Char.ofNat n) = [UInt8.ofNat n] := by
  decide +kernel

theorem cString_ofCString {text : List UInt8} (h : Ascii text) : cString (ofCString text) = text := by
  rw [cString, String.toUTF8_eq_toByteArray, ← String.utf8Encode_toList, ofCString,
    String.toList_ofList, List.utf8Encode, List.toList_data_toByteArray]
  induction text with
  | nil => rfl
  | cons b text ih =>
    have hb : b.toNat < 128 := UInt8.lt_iff_toNat_lt.mp (h b List.mem_cons_self).2
    rw [List.map_cons, List.flatMap_cons, utf8EncodeChar_ascii _ hb, UInt8.ofNat_toNat,
      ih fun c hc => h c (List.mem_cons_of_mem b hc)]
    rfl

/-- What Swift makes of a C string is read as the same C string again. -/
theorem cArgument_ofCString {text : List UInt8} (h : Ascii text) :
    cArgument (ofCString text) = text := by
  rw [cArgument, cString_ofCString h, List.takeWhile_eq_self_iff]
  intro b hb
  have hpos := (h b hb).1
  rw [decide_eq_true_eq]
  rintro rfl
  exact absurd hpos (by decide)

theorem ascii_joinWords {words : List (List UInt8)} (h : ∀ word ∈ words, word ∈ wordlist) :
    Ascii (joinWords words) := by
  intro b hb
  rcases mem_joinWords hb with rfl | ⟨word, hmem, hb⟩
  · decide
  · obtain ⟨hmin, hmax⟩ := (wellFormedWord_of_mem (h word hmem)).2.2 b hb
    constructor
    · exact UInt8.lt_of_lt_of_le (by decide) hmin
    · exact UInt8.lt_of_le_of_lt hmax (by decide)

/-! ## Phrases -/

/-- The phrase of `mnemonic_from_data(data, 24)`, which is no null pointer. -/
def generated (data : Vector UInt8 24) : String :=
  ofCString ((Bip39.mnemonicFromData data.toList).getD [])

theorem mnemonicCheck_generated (data : Vector UInt8 24) :
    Bip39.mnemonicCheck (cArgument (generated data)) = true := by
  have hreadable : ReadableLength data.toList.length := by
    rw [Vector.length_toList]
    exact .inr (.inl rfl)
  have hwritten := mnemonicFromData_eq hreadable.badLength
  have hascii : Ascii (joinWords (mnemonicWords data.toList)) :=
    ascii_joinWords fun _ => mem_wordlist_of_mem
  rw [generated, hwritten, Option.getD_some, cArgument_ofCString hascii,
    mnemonicCheck_iff_written]
  exact ⟨data.toList, hreadable, hwritten⟩

theorem mnemonicCheck_failure : Bip39.mnemonicCheck (cArgument "failure") = false := by
  decide +kernel

/-! ## Keys -/

section Keys

variable (ecdsaGetPublicKey33 : EcdsaCurve → List UInt8 → List UInt8)

/-- The account key of a phrase: purpose 44', coin type 60', account 0', external chain, slot 0. -/
def accountPath : List (BitVec 32) :=
  [0x80000000 ||| 44, 0x80000000 ||| 60, 0x80000000 ||| 0, 0, 0]

/-- The key at the path below the seed of a phrase. -/
def IsAccountKey (mnemonic : List UInt8) (y : ExtendedKey n) : Prop :=
  ∃ x, IsMaster (Bip39.seed mnemonic []) x ∧
    IsDescendant (publicKeyOf ecdsaGetPublicKey33) x accountPath y

theorem size_ofNat_key (k : Nat) : (BigEndian.ofNat 32 k).toArray.size = 32 := by simp

open Classical in
/-- The bytes of the account key. No phrase is known to have none. -/
noncomputable def accountKey (mnemonic : List UInt8) : Vector UInt8 32 :=
  if h : ∃ y, IsAccountKey ecdsaGetPublicKey33 mnemonic y then
    ⟨(BigEndian.ofNat 32 h.choose.key).toArray, size_ofNat_key _⟩
  else .replicate 32 0

/-- What the C code is to the plugin. -/
noncomputable def bip39C : Bip39C where
  mnemonicFromData := generated
  mnemonicCheck mnemonic := Bip39.mnemonicCheck (cArgument mnemonic)
  privateKey mnemonic := accountKey ecdsaGetPublicKey33 (cArgument mnemonic)
  mnemonicCheck_mnemonicFromData := mnemonicCheck_generated
  mnemonicCheck_failure := mnemonicCheck_failure

theorem IsDescendant.unique {x y z : ExtendedKey n} {path : List (BitVec 32)}
    {serP : Nat → List UInt8} (hy : IsDescendant serP x path y) (hz : IsDescendant serP x path z) :
    y = z := by
  induction path generalizing x with
  | nil => exact hy.symm.trans hz
  | cons i path ih =>
    obtain ⟨child, hchild, hy⟩ := hy
    obtain ⟨child', hchild', hz⟩ := hz
    obtain rfl := hchild.unique hchild'
    exact ih hy hz

theorem IsAccountKey.unique {mnemonic : List UInt8} {y z : ExtendedKey n}
    (hy : IsAccountKey ecdsaGetPublicKey33 mnemonic y)
    (hz : IsAccountKey ecdsaGetPublicKey33 mnemonic z) : y = z := by
  obtain ⟨x, hmaster, hy⟩ := hy
  obtain ⟨x', hmaster', hz⟩ := hz
  obtain rfl := hmaster.unique hmaster'
  exact IsDescendant.unique hy hz

theorem accountKey_of_isAccountKey {mnemonic : List UInt8} {y : ExtendedKey n}
    (h : IsAccountKey ecdsaGetPublicKey33 mnemonic y) :
    (accountKey ecdsaGetPublicKey33 mnemonic).toList = BigEndian.ofNat 32 y.key := by
  have hex : ∃ y, IsAccountKey ecdsaGetPublicKey33 mnemonic y := ⟨y, h⟩
  have hkey : hex.choose.key = y.key :=
    congrArg ExtendedKey.key (IsAccountKey.unique ecdsaGetPublicKey33 hex.choose_spec h)
  rw [accountKey, dif_pos hex, Vector.toList_mk, List.toList_toArray, hkey]

end Keys

/-! ## The Handlers -/

namespace Native

/-- What the C code finds: the memory of the stack, and the turns that its loops may take. -/
structure Env where
  stack : Vector (BitVec 64) 16
  fuel : Nat

variable (ecdsaGetPublicKey33 : EcdsaCurve → List UInt8 → List UInt8)

def generateMnemonic (o : Outcomes) : String :=
  match o.secRandomCopyBytes with
  | some data =>
    let mnemonicString := generated data
    if !Bip39.mnemonicCheck (cArgument mnemonicString) then "failure" else mnemonicString
  | none => "failure"

/-- The derivations from a node. What they return is not looked at, and one that fails leaves the
node as it is. -/
def derive (fuel : Nat) (node : HDNode) (path : List (BitVec 32)) : Option HDNode :=
  path.foldlM (fun node i => (hdnodePrivateCkd ecdsaGetPublicKey33 fuel node i).map (·.getD node))
    node

/-- `private_key` of the node of a seed at the account's path. -/
def derivedKey (fuel : Nat) (seed : List UInt8) : Option (List UInt8) := do
  let node ← hdnodeFromSeed fuel seed (cString "secp256k1")
  let node ← derive ecdsaGetPublicKey33 fuel (← node) accountPath
  return node.privateKey

/-- The reply, if the C code returns, and the cache of seeds afterwards. -/
def getPrivateKeyFromMnemonic (env : Env) (mnemonic : String) (cache : SeedCache) :
    Option Value × SeedCache :=
  if !Bip39.mnemonicCheck (cArgument mnemonic) then (some (.string "failure"), cache)
  else
    let (seed, cache) := mnemonicToSeed env.stack (cArgument mnemonic) [] cache
    let pkey := seed.bind (derivedKey ecdsaGetPublicKey33 env.fuel)
    (pkey.map fun pkey => .ints (pkey.map fun b => (b.toNat : Int)), cache)

/-- `FlutterSdkPlugin.handle` -/
def handle (env : Env) (call : MethodCall) (o : Outcomes) (s : Store × SeedCache) :
    Option Reply × Store × SeedCache :=
  let (st, cache) := s
  match call with
  | .generateNewMnemonic => (some (.success (.string (generateMnemonic o))), st, cache)
  | .getPrivateKeyFromMnemonic data =>
    let (pkey, cache) := getPrivateKeyFromMnemonic ecdsaGetPublicKey33 env data cache
    (pkey.map .success, st, cache)
  | .getMnemonic => (some (.success (.ofString? (getMnemonic o st))), st, cache)
  | .mnemonicBackedUpToCloud =>
    (some (.success (.bool (mnemonicBackedUpToCloud o st))), st, cache)
  | .deleteMnemonic =>
    let (status, st) := deleteMnemonic o st
    (some (.success (.bool status)), st, cache)
  | .deleteCloudMnemonic =>
    let (status, st) := deleteCloudMnemonic o st
    (some (.success (.bool status)), st, cache)
  | .saveMnemonic mnemonicToSave saveToCloud rejectOnCloudSaveFailure =>
    let (status, st) := saveMnemonic o mnemonicToSave saveToCloud rejectOnCloudSaveFailure st
    (some (.success (.bool status)), st, cache)

/-! ### Derivations -/

/-- A derivation from the node of a key succeeds, so it does not matter that the result is not
looked at. -/
theorem derive_nodeOf {fuel : Nat} {path : List (BitVec 32)} {x : ExtendedKey n}
    {depth childNum : BitVec 32} {node : HDNode} :
    derive ecdsaGetPublicKey33 fuel (nodeOf x depth childNum) path = some node ↔
      privateCkdPath ecdsaGetPublicKey33 fuel (nodeOf x depth childNum) path = some (some node) := by
  induction path generalizing x depth childNum with
  | nil => simp [derive, privateCkdPath]
  | cons i path ih =>
    simp only [derive, List.foldlM_cons, privateCkdPath]
    cases hckd : hdnodePrivateCkd ecdsaGetPublicKey33 fuel (nodeOf x depth childNum) i with
    | none => simp
    | some child =>
      obtain ⟨y, -, rfl⟩ := hdnodePrivateCkd_result ecdsaGetPublicKey33 hckd
      exact ih

theorem derivedKey_result {fuel : Nat} {mnemonic key : List UInt8}
    (h : derivedKey ecdsaGetPublicKey33 fuel (Bip39.seed mnemonic []) = some key) :
    ∃ y, IsAccountKey ecdsaGetPublicKey33 mnemonic y ∧ key = BigEndian.ofNat 32 y.key := by
  simp only [derivedKey, Option.bind_eq_bind, Option.bind_eq_some_iff, Option.pure_def,
    Option.some.injEq] at h
  obtain ⟨_, hseed, _, rfl, node, hpath, rfl⟩ := h
  obtain ⟨x, hmaster, hnode⟩ := hdnodeFromSeed_result hseed
  obtain rfl := Option.some.inj hnode
  obtain ⟨y, hdescendant, hnode⟩ := privateCkdPath_result ecdsaGetPublicKey33
    ((derive_nodeOf ecdsaGetPublicKey33).mp hpath)
  refine ⟨y, ⟨x, hmaster, hdescendant⟩, ?_⟩
  rw [Option.some.inj hnode, nodeOf]

/-- With turns enough the derivation comes to the account key. -/
theorem derivedKey_of_isAccountKey {mnemonic : List UInt8} {y : ExtendedKey n}
    (h : IsAccountKey ecdsaGetPublicKey33 mnemonic y) :
    ∃ rounds, ∀ fuel ≥ rounds,
      derivedKey ecdsaGetPublicKey33 fuel (Bip39.seed mnemonic []) =
        some (BigEndian.ofNat 32 y.key) := by
  obtain ⟨x, hmaster, hdescendant⟩ := h
  obtain ⟨first, hfirst⟩ := hmaster.hdnodeFromSeed
  obtain ⟨rest, hrest⟩ := hdescendant.privateCkdPath ecdsaGetPublicKey33 0 0
  refine ⟨max first rest, fun fuel hfuel => ?_⟩
  have hpath := (derive_nodeOf ecdsaGetPublicKey33).mpr (hrest fuel (le_of_max_le_right hfuel))
  simp only [derivedKey, hfirst fuel (le_of_max_le_left hfuel), hpath, Option.bind_eq_bind,
    Option.bind_some, Option.pure_def]
  rfl

/-! ### Calls -/

/-- A call for a key gives what the handlers over `bip39C` give, if it returns, and keeps the cache
coherent. -/
theorem getPrivateKeyFromMnemonic_result {cache : SeedCache} (hc : SeedCache.Coherent cache)
    (env : Env) (mnemonic : String) :
    (∀ value, (getPrivateKeyFromMnemonic ecdsaGetPublicKey33 env mnemonic cache).1 = some value →
        value = Ios.getPrivateKeyFromMnemonic (bip39C ecdsaGetPublicKey33) mnemonic) ∧
      SeedCache.Coherent (getPrivateKeyFromMnemonic ecdsaGetPublicKey33 env mnemonic cache).2 := by
  have hchecked : (bip39C ecdsaGetPublicKey33).mnemonicCheck mnemonic =
      Bip39.mnemonicCheck (cArgument mnemonic) := rfl
  rw [getPrivateKeyFromMnemonic, Ios.getPrivateKeyFromMnemonic, hchecked]
  -- a text that fails the check comes to `failure`, without a look at the cache
  cases hcheck : Bip39.mnemonicCheck (cArgument mnemonic) with
  | false =>
    refine ⟨fun value hvalue => ?_, hc⟩
    exact (Option.some.inj hvalue).symm
  | true =>
    have hempty : ([] : List UInt8).length ≤ 256 := Nat.zero_le 256
    -- the passphrase is empty, so the cached seed is the one of the mnemonic
    obtain ⟨hseed, hcache⟩ := SeedCache.Coherent.mnemonicToSeed hc env.stack hempty
    simp only [Bool.not_true, Bool.false_eq_true, if_false]
    refine ⟨fun value hvalue => ?_, hcache⟩
    rw [hseed, Option.bind_some] at hvalue
    obtain ⟨key, hkey, rfl⟩ := Option.map_eq_some_iff.mp hvalue
    obtain ⟨y, hy, rfl⟩ := derivedKey_result ecdsaGetPublicKey33 hkey
    rw [privateKeyInts, ← accountKey_of_isAccountKey ecdsaGetPublicKey33 hy]
    rfl

/-- The static memory of the C code is coherent, and the keychain is the same. -/
def Related (s : Store × SeedCache) (st : Store) : Prop := s.1 = st ∧ SeedCache.Coherent s.2

/-- One call of any method. -/
theorem handle_result {s : Store × SeedCache} {st : Store} (h : Related s st) (env : Env)
    (call : MethodCall) (o : Outcomes) :
    (∀ reply, (handle ecdsaGetPublicKey33 env call o s).1 = some reply →
        reply = (Ios.handle (bip39C ecdsaGetPublicKey33) call o st).1) ∧
      Related (handle ecdsaGetPublicKey33 env call o s).2
        (Ios.handle (bip39C ecdsaGetPublicKey33) call o st).2 := by
  obtain ⟨st', cache⟩ := s
  obtain ⟨hst, hc⟩ := h
  obtain rfl : st' = st := hst
  -- one method uses the cache; the others do what they did before
  cases call with
  | getPrivateKeyFromMnemonic mnemonic =>
    obtain ⟨hvalue, hcache⟩ := getPrivateKeyFromMnemonic_result ecdsaGetPublicKey33 hc env mnemonic
    refine ⟨fun reply hreply => ?_, rfl, hcache⟩
    obtain ⟨value, hsome, rfl⟩ := Option.map_eq_some_iff.mp hreply
    rw [hvalue value hsome]
    rfl
  | generateNewMnemonic
  | getMnemonic
  | mnemonicBackedUpToCloud
  | deleteMnemonic
  | deleteCloudMnemonic
  | saveMnemonic =>
    refine ⟨fun reply hreply => ?_, rfl, hc⟩
    exact (Option.some.inj hreply).symm

/-- One call of a history: the method, how the system calls end, and what the C code finds. -/
structure Call where
  call : MethodCall
  outcomes : Outcomes
  env : Env

/-- The state after a history. -/
def after (calls : List Call) (st : Store) : Store × SeedCache :=
  run (fun c s => (handle ecdsaGetPublicKey33 c.env c.call c.outcomes s).2) calls
    (st, RoundRobin.empty)

/-- The state after a history is that of the handlers over `bip39C`, with a coherent cache. -/
theorem related_after (calls : List Call) (st : Store) :
    Related (after ecdsaGetPublicKey33 calls st)
      (run (fun c st => (Ios.handle (bip39C ecdsaGetPublicKey33) c.call c.outcomes st).2) calls
        st) := by
  apply run_related
  · intro c s st h
    exact (handle_result ecdsaGetPublicKey33 h c.env c.call c.outcomes).2
  · exact ⟨rfl, RoundRobin.coherent_empty⟩

/-- **Over any history the handlers with the C code are handlers over one `Bip39C`.** Whatever the
system calls give and the memory holds, each reply is the one of the handlers over `bip39C`, whose
private key is that of the account path below the phrase's seed, as long as the C code returns; and
the keychain is left as they leave it. -/
theorem native_histories (calls : List Call) (st : Store) :
    List.Forall₂ (fun answer reply => ∀ r, answer = some r → r = reply)
      (trace (fun c s => handle ecdsaGetPublicKey33 c.env c.call c.outcomes s) calls
        (st, RoundRobin.empty))
      (trace (fun c st => Ios.handle (bip39C ecdsaGetPublicKey33) c.call c.outcomes st) calls st) ∧
    (after ecdsaGetPublicKey33 calls st).1 =
      run (fun c st => (Ios.handle (bip39C ecdsaGetPublicKey33) c.call c.outcomes st).2) calls
        st := by
  constructor
  · -- related states answer alike and stay related
    apply trace_forall₂ (R := Related)
    · intro c s st h
      exact handle_result ecdsaGetPublicKey33 h c.env c.call c.outcomes
    · exact ⟨rfl, RoundRobin.coherent_empty⟩
  · exact (related_after ecdsaGetPublicKey33 calls st).1

/-- What a call comes to over a coherent cache, with turns enough. -/
theorem getPrivateKeyFromMnemonic_iff {cache : SeedCache} (hcache : SeedCache.Coherent cache)
    (stack : Vector (BitVec 64) 16) (mnemonic : String) (value : Value) :
    (∃ fuel, (getPrivateKeyFromMnemonic ecdsaGetPublicKey33 ⟨stack, fuel⟩ mnemonic cache).1 =
        some value) ↔
      if Bip39.mnemonicCheck (cArgument mnemonic) then
        ∃ y, IsAccountKey ecdsaGetPublicKey33 (cArgument mnemonic) y ∧
          value = .ints ((BigEndian.ofNat 32 y.key).map fun b => (b.toNat : Int))
      else value = .string "failure" := by
  have hempty : ([] : List UInt8).length ≤ 256 := Nat.zero_le 256
  have hseed : (mnemonicToSeed stack (cArgument mnemonic) [] cache).1 =
      some (Bip39.seed (cArgument mnemonic) []) := (hcache.mnemonicToSeed stack hempty).1
  cases hcheck : Bip39.mnemonicCheck (cArgument mnemonic) with
  | false => simp [getPrivateKeyFromMnemonic, hcheck, eq_comm]
  | true =>
    simp only [getPrivateKeyFromMnemonic, hcheck, Bool.not_true, Bool.false_eq_true, if_false,
      if_true, hseed, Option.bind_some, Option.map_eq_some_iff]
    constructor
    · -- any number of turns that is enough gives the key of the standard
      rintro ⟨fuel, key, hkey, rfl⟩
      obtain ⟨y, hy, rfl⟩ := derivedKey_result ecdsaGetPublicKey33 hkey
      exact ⟨y, hy, rfl⟩
    · -- where there is a key, some number of turns is enough
      rintro ⟨y, hy, rfl⟩
      obtain ⟨rounds, hrounds⟩ := derivedKey_of_isAccountKey ecdsaGetPublicKey33 hy
      exact ⟨rounds, _, hrounds rounds (Nat.le_refl rounds), rfl⟩

/-- **The keys that come back are the account keys.** After any history a call for a key comes to a
value, with turns enough, if and only if the value is `"failure"` and the phrase is not valid, or
the phrase is valid and the value has the bytes of its account key. -/
theorem native_keys (calls : List Call) (st : Store) (stack : Vector (BitVec 64) 16)
    (mnemonic : String) (value : Value) :
    (∃ fuel, (getPrivateKeyFromMnemonic ecdsaGetPublicKey33 ⟨stack, fuel⟩ mnemonic
        (after ecdsaGetPublicKey33 calls st).2).1 = some value) ↔
      if Bip39.mnemonicCheck (cArgument mnemonic) then
        ∃ y, IsAccountKey ecdsaGetPublicKey33 (cArgument mnemonic) y ∧
          value = .ints ((BigEndian.ofNat 32 y.key).map fun b => (b.toNat : Int))
      else value = .string "failure" :=
  getPrivateKeyFromMnemonic_iff ecdsaGetPublicKey33 (related_after ecdsaGetPublicKey33 calls st).2
    stack mnemonic value

end Native

end RlyNetworkSdk.Ios
