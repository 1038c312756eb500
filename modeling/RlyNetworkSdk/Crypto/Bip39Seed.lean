import RlyNetworkSdk.Crypto.Bip39English
import RlyNetworkSdk.Crypto.Pbkdf2
import RlyNetworkSdk.Transition.RoundRobin
import RlyNetworkSdk.Transition.Runs

/-!
# Seeds

`mnemonic_to_seed` derives the seed of a mnemonic in sixteen portions of its 2048 iterations, and
keeps the seeds of four short mnemonics in static memory. The seed is the one that BIP-39
defines, over any history of calls.
-/

namespace RlyNetworkSdk.Crypto.Bip39

open Digest Sha2 Pbkdf2 Transition

/-- `BIP39_PBKDF2_ROUNDS` -/
def rounds : Nat := 2048

/-- `BIP39_CACHE_SIZE` -/
def cacheSize : Nat := 4

/-- `bip39_cache` and `bip39_cache_index`: seeds by mnemonic and passphrase. An entry that is not
`set` is none. -/
abbrev SeedCache := RoundRobin (List UInt8 × List UInt8) (List UInt8) cacheSize

/-- The lengths that fit in an entry, whose two arrays hold the texts with a terminating zero
behind each. -/
def fitsCache (mnemonic passphrase : List UInt8) : Bool :=
  mnemonic.length < 256 && passphrase.length < 64

/-- The seed without the cache. The buffer of the salt ends behind 256 bytes of passphrase, and
copying more into it is undefined. -/
def deriveSeed (stack : Vector (BitVec 64) 16) (mnemonic passphrase : List UInt8) :
    Option (List UInt8) :=
  let salt := cString "mnemonic" ++ passphrase
  if 8 + 256 < salt.length then none
  else
    let pctx := pbkdf2HmacSha512Init stack mnemonic salt
    let pctx := (List.range 16).foldl (fun pctx _ => pbkdf2HmacSha512Update pctx (rounds / 16)) pctx
    some (pbkdf2HmacSha512Final pctx)

/-- The seed, and the cache afterwards. A text that does not fit an entry is neither looked up
nor stored. -/
def mnemonicToSeed (stack : Vector (BitVec 64) 16) (mnemonic passphrase : List UInt8)
    (cache : SeedCache) : Option (List UInt8) × SeedCache :=
  if fitsCache mnemonic passphrase then
    match cache.lookup (mnemonic, passphrase) with
    | some seed => (some seed, cache)
    | none =>
      match deriveSeed stack mnemonic passphrase with
      | some seed => (some seed, cache.store (mnemonic, passphrase) seed)
      | none => (none, cache)
  else (deriveSeed stack mnemonic passphrase, cache)

/-! ## Seeds of BIP-39 -/

/-- The seed as BIP-39 defines it: 2048 iterations, with the mnemonic as the password and the
passphrase in the salt. -/
def seed (mnemonic passphrase : List UInt8) : List UInt8 :=
  pbkdf2 (variant512.hashFunction.hmac mnemonic) (cString "mnemonic" ++ passphrase) 2048

/-- The portions add up to all iterations, the first of which is part of the initialisation. -/
theorem deriveSeed_eq (stack : Vector (BitVec 64) 16) {mnemonic passphrase : List UInt8}
    (h : passphrase.length ≤ 256) :
    deriveSeed stack mnemonic passphrase = some (seed mnemonic passphrase) := by
  have hsalt : ¬ 8 + 256 < (cString "mnemonic" ++ passphrase).length := by
    have height : (cString "mnemonic").length = 8 := by decide
    rw [List.length_append, height]
    omega
  have hportions : ∀ pctx : PbkdfCtx variant512,
      (List.range 16).foldl (fun pctx _ => pbkdf2HmacSha512Update pctx (rounds / 16)) pctx =
        (128 :: List.replicate 15 128).foldl pbkdfUpdate pctx := fun _ => rfl
  have hcount : max 128 1 + (List.replicate 15 128).sum = 2048 := by decide
  have hfinal := pbkdfFinal_updates consts512 stack mnemonic (cString "mnemonic" ++ passphrase) 128
    (.replicate 15 128)
  rw [hcount] at hfinal
  rw [deriveSeed]
  simp only [if_neg hsalt, hportions]
  exact congrArg some hfinal

/-- A call is answered from the cache or by the derivation. -/
theorem mnemonicToSeed_eq_call (stack : Vector (BitVec 64) 16) {mnemonic passphrase : List UInt8}
    (h : passphrase.length ≤ 256) (cache : SeedCache) :
    mnemonicToSeed stack mnemonic passphrase cache =
      ((some (cache.call (mnemonic, passphrase) (fitsCache mnemonic passphrase)
          (seed mnemonic passphrase)).1),
        (cache.call (mnemonic, passphrase) (fitsCache mnemonic passphrase)
          (seed mnemonic passphrase)).2) := by
  rw [mnemonicToSeed, RoundRobin.call, deriveSeed_eq stack h]
  generalize seed mnemonic passphrase = derived
  split
  case isTrue => cases cache.lookup (mnemonic, passphrase) <;> rfl
  case isFalse => rfl

/-- The seeds in the cache are those of their mnemonics. A hit then gives what would have been
derived. -/
def SeedCache.Coherent (cache : SeedCache) : Prop :=
  RoundRobin.Coherent (fun key derived => derived = Function.uncurry seed key) cache

theorem SeedCache.Coherent.mnemonicToSeed {cache : SeedCache} (hc : SeedCache.Coherent cache)
    (stack : Vector (BitVec 64) 16) {mnemonic passphrase : List UInt8}
    (h : passphrase.length ≤ 256) :
    (mnemonicToSeed stack mnemonic passphrase cache).1 = some (seed mnemonic passphrase) ∧
      SeedCache.Coherent (mnemonicToSeed stack mnemonic passphrase cache).2 := by
  obtain ⟨hanswer, hnext⟩ := RoundRobin.Coherent.call (f := Function.uncurry seed) hc
    (mnemonic, passphrase) (fitsCache mnemonic passphrase)
  rw [Function.uncurry_apply_pair] at hanswer hnext
  rw [mnemonicToSeed_eq_call stack h, hanswer]
  exact ⟨rfl, hnext⟩

/-- One call of `mnemonic_to_seed`, with the words that happen to be on its stack. -/
structure SeedCall where
  stack : Vector (BitVec 64) 16
  mnemonic : List UInt8
  passphrase : List UInt8
  /-- "passphrase must be at most 256 characters or code may crash" -/
  length_passphrase : passphrase.length ≤ 256

/-- **Over any history of calls every seed is that of its mnemonic and passphrase**, whatever
earlier calls left in the cache and on the stack. -/
theorem seeds_of_history (calls : List SeedCall) :
    trace (fun call cache => mnemonicToSeed call.stack call.mnemonic call.passphrase cache) calls
        RoundRobin.empty =
      calls.map fun call => some (seed call.mnemonic call.passphrase) := by
  refine trace_eq_map (I := SeedCache.Coherent) ?_ calls RoundRobin.coherent_empty
  intro call cache hc
  exact hc.mnemonicToSeed call.stack call.length_passphrase

end RlyNetworkSdk.Crypto.Bip39
