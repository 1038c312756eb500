import RlyNetworkSdk.Channel.MethodChannel
import RlyNetworkSdk.KeyStorage.Slots

/-!
# `MnemonicStorageHelper.kt`

The Android store: Block Store (the cloud slot) and the encrypted shared preferences (the
device slot), both under the one key `BIP39_MNEMONIC`.

## Modelling notes

- The outcome of every call into the Android services is part of `Outcomes`, one record for
  each method-channel call; a call makes each service call at most once.
- `storeBytes` and `retrieveBytes` answer through listeners that run on the main thread
  after the handler has returned. An exception thrown in a listener kills the process, so
  no reply follows it; an exception thrown in the handler itself is answered by the engine,
  with an empty response for the checked exceptions of the encrypted preferences.
- The engine delivers the first reply and throws on a second one. The caller does not see
  that exception; where it ends the process, the next step is a restart.
- `deleteBytes` is started and not waited for. It stays in `pendingDeletes` until
  `Store.deleteBytesCompletes` says how it ended.
- A failed `commit` leaves the preferences file as it was.
-/

namespace RlyNetworkSdk.Android

open KeyStorage Channel

/-! ## The store and its environment -/

/-- How `EncryptedSharedPreferences.create` ends in `getSharedPreferences`, which catches an
`IOException` of the first attempt and clears the file before the second. -/
inductive PrefsOpening where
  /-- The first `create` returns. -/
  | opened
  /-- The first `create` throws something other than an `IOException`. -/
  | failed
  /-- The first `create` throws an `IOException`, the file is cleared, the second returns. -/
  | recreated
  /-- As `recreated`, but the second `create` throws as well. -/
  | unrecoverable
  deriving DecidableEq, Repr

/-- The file is cleared: the first attempt has thrown an `IOException`. -/
def PrefsOpening.clears : PrefsOpening → Bool
  | .recreated | .unrecoverable => true
  | .opened | .failed => false

/-- The preferences are returned, by the first attempt or by the second one. -/
def PrefsOpening.returns : PrefsOpening → Bool
  | .opened | .recreated => true
  | .failed | .unrecoverable => false

/-- What the environment decides during one method-channel call. Every native call of a handler
is made at most once, so that one outcome for each is enough. -/
structure Outcomes where
  /-- The randomness behind a generated mnemonic. -/
  seed : Nat
  /-- `retrieveBytes` succeeds. -/
  retrieveBytes : Bool
  /-- `storeBytes` succeeds, or fails with an exception whose text is given. -/
  storeBytes : Option String
  /-- How the encrypted preferences open. -/
  sharedPreferences : PrefsOpening
  /-- A stored preference can be decrypted. -/
  getString : Bool
  /-- `commit` writes the file. -/
  commit : Bool
  deriving DecidableEq, Repr

/-- The persistent slots, and what the helper object and Play services hold in memory: whether
there is encryption for the cloud, and how many `deleteBytes` tasks are running. -/
@[ext]
structure Store where
  slots : Slots String
  isEndToEndEncryptionAvailable : Bool
  pendingDeletes : Nat
  deriving DecidableEq, Repr

/-- Replies of a handler, in the order it sends them, and whether an exception escapes from
the handler itself. -/
structure Handled where
  replies : List Reply
  uncaught : Bool
  deriving DecidableEq, Repr

/-- The handler, or a listener of it, sends these replies. -/
def Handled.replied (replies : List Reply) : Handled := ⟨replies, false⟩

/-- An exception escapes from the handler. -/
def Handled.thrown : Handled := ⟨[], true⟩

/-- An exception escapes from a listener: the process dies, and the caller never gets a reply. -/
def Handled.crashed : Handled := ⟨[], false⟩

/-- What the Dart caller gets: the first reply, which may be the engine's. Replies after the
first one are not delivered. -/
def Handled.reply (h : Handled) : Option Reply :=
  (h.replies ++ if h.uncaught then [Reply.empty] else []).head?

/-! ## The helper -/

/-- `getSharedPreferences`: whether it returns, and the store with the file as it then is. -/
def getSharedPreferences (o : Outcomes) (st : Store) : Bool × Store :=
  (o.sharedPreferences.returns,
    { st with slots := st.slots.wipeDevice o.sharedPreferences.clears })

/-- `saveToSharedPref`: whether it returns. The result of `commit` is dropped.

Assumption: after a `commit` that fails, what is read is what was there before. The system's own
map in memory may show the new value until the process ends; the file, which is what survives, does
not have it. -/
def saveToSharedPref (o : Outcomes) (mnemonic : String) (st : Store) : Bool × Store :=
  match getSharedPreferences o st with
  | (false, st) => (false, st)
  | (true, st) =>
    (true, if o.commit then { st with slots := st.slots.land (some .device) mnemonic } else st)

/-- `save`, with the replies its two callbacks send. The branch for the device is taken without
the cloud as well as after a failure of it, once in a listener and once in the handler. -/
def save (o : Outcomes) (mnemonic : String) (useBlockStore forceBlockStore : Bool)
    (onSuccess : List Reply) (onFailure : String → List Reply) (st : Store) : Handled × Store :=
  if useBlockStore && st.isEndToEndEncryptionAvailable then
    match o.storeBytes with
    -- the success listener
    | none => (.replied onSuccess, { st with slots := st.slots.land (some .cloud) mnemonic })
    | some e =>
      if forceBlockStore then
        (.replied (onFailure s!"Failed to save mnemonic to cloud {e}"), st)
      else
        -- the failure listener
        match saveToSharedPref o mnemonic st with
        | (true, st) => (.replied onSuccess, st)
        | (false, st) => (.crashed, st)
  else if forceBlockStore then
    -- also when the caller did not ask for the cloud
    (.replied (onFailure
      "Failed to save mnemonic. Android Blockstore is unavailable and force cloud is on"), st)
  else
    -- in the handler itself: the engine answers an exception
    match saveToSharedPref o mnemonic st with
    | (true, st) => (.replied onSuccess, st)
    | (false, st) => (.thrown, st)

/-- `readFromSharedPref`: no value when it throws, which it does if the file does not open or a
stored text cannot be decrypted. -/
def readFromSharedPref (o : Outcomes) (st : Store) : Option (Option String) × Store :=
  match getSharedPreferences o st with
  | (false, st) => (none, st)
  | (true, st) =>
    match st.slots.device with
    | none => (some none, st)
    | some m => (if o.getString then some (some m) else none, st)

/-- The key that every call of the plugin uses. -/
def mnemonicStorageKey : String := "BIP39_MNEMONIC"

/-- The map in a `RetrieveBytesResponse` for the one key that is asked for: empty, or with one
entry. -/
def blockstoreDataMap (st : Store) : List (String × String) :=
  st.slots.cloud.toList.map fun bytes => (mnemonicStorageKey, bytes)

/-- `read`, with the replies its callback sends. Both branches run in a listener. The cloud
comes first; the preferences are read only if there is nothing in it, or if it fails. -/
def read (o : Outcomes) (onSuccess : Option String → Bool → List Reply) (st : Store) :
    Handled × Store :=
  let fallback : Handled × Store :=
    match readFromSharedPref o st with
    | (some mnemonic, st) => (.replied (onSuccess mnemonic false), st)
    | (none, st) => (.crashed, st)
  if o.retrieveBytes then
    if (blockstoreDataMap st).isEmpty then fallback
    else
      -- the response has an entry for the key that was asked for
      match (blockstoreDataMap st).lookup mnemonicStorageKey with
      | some mnemonic => (.replied (onSuccess (some mnemonic) true), st)
      | none => (.replied (onSuccess none true), st)
  else
    -- a failed retrieval counts as an empty one
    fallback

/-- `deleteFromCloudKeystore`: the task is started, its result is not looked at. When it
completes, and how, is not a part of the call. -/
def deleteFromCloudKeystore (st : Store) : Store :=
  { st with pendingDeletes := st.pendingDeletes + 1 }

/-- `deleteFromSharedPref`: whether it returns. The result of `commit` is dropped here too, and the
same is assumed of one that fails. -/
def deleteFromSharedPref (o : Outcomes) (st : Store) : Bool × Store :=
  match getSharedPreferences o st with
  | (false, st) => (false, st)
  | (true, st) =>
    (true, if o.commit then { st with slots := st.slots.set .device none } else st)

/-- `delete`: whether it returns. The task for the cloud is started before the preferences are
touched. -/
def delete (o : Outcomes) (st : Store) : Bool × Store :=
  deleteFromSharedPref o (deleteFromCloudKeystore st)

/-! ## What happens in the background -/

/-- One started `deleteBytes` completes, with success or not. With success it empties the cloud
slot, whatever has been stored there since. -/
def Store.deleteBytesCompletes (ok : Bool) (st : Store) : Store :=
  match st.pendingDeletes with
  | 0 => st
  | n + 1 =>
    { st with
      slots := if ok then st.slots.set .cloud none else st.slots
      pendingDeletes := n }

/-- Every started `deleteBytes` completes with success. Without one nothing happens to the
store. -/
def Store.settle (st : Store) : Store :=
  if st.pendingDeletes = 0 then st
  else { st with slots := st.slots.set .cloud none, pendingDeletes := 0 }

end RlyNetworkSdk.Android
