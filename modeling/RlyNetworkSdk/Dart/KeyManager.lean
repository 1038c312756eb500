import RlyNetworkSdk.Channel.MethodChannel
import RlyNetworkSdk.Concurrency.Async
import RlyNetworkSdk.Dart.Numbers

/-!
# `key_manager.dart`, `key_storage_config.dart`, `wallet.dart`

The Dart side of the method channel. Every function of `KeyManager` is one awaited
`invokeMethod` with the checks that follow it.
-/

namespace RlyNetworkSdk.Dart

open Channel Concurrency

/-- `KeyStorageConfig`: where the phrase is to be stored, and whether it is an error if the
cloud cannot be used for it. -/
structure KeyStorageConfig where
  saveToCloud : Bool
  rejectOnCloudSaveFailure : Bool
  deriving DecidableEq, Repr

/-- A wallet, as the hexadecimal private key that `Wallet.fromHex` is given. Two wallets are the
same if they have been made of the same text. -/
structure Wallet where
  hex : String
  deriving DecidableEq, Repr

def Wallet.fromHex (hex : String) : Wallet := ⟨hex⟩

/-- The static field `WalletManager._cachedWallet`: what `getWallet` returns without asking the
platform. It is empty when a process starts. -/
abbrev Cache := Option Wallet

/-- An `async` function of the package: the memory that its calls share is the cached
wallet, its requests go over the method channel. -/
abbrev Future (α : Type) := Async Cache MethodCall Reply DartError α

/-- `methodChannel.invokeMethod<T>`, for the cast to `T?`. The future ends with what the decoded
reply is cast to, or with the error of either. -/
def invokeMethod {α : Type} (cast : Value → Except DartError α) (call : MethodCall) : Future α :=
  .invoke call fun reply => .ofExcept (reply.decode >>= cast)

namespace KeyManager

/-- `Uint8List.fromList`, which keeps the low eight bits of each. -/
def uint8List (ints : List Int) : List UInt8 := ints.map fun i => UInt8.ofNat (i % 256).toNat

/-- `int.parse(obj.toString())`, for an element of a list that went over the channel. -/
def parsedElement (obj : Int) : Option Int := intParse (toRadixString 10 obj)

/-- `_intListToUint8List` -/
def intListToUint8List (intList : List Int) : Except DartError (List UInt8) :=
  match intList.mapM parsedElement with
  | none => .error .formatException
  | some ints => .ok (uint8List ints)

theorem parsedElement_of_byte {i : Int} (hlo : 0 ≤ i) (hhi : i < 256) : parsedElement i = some i :=
  intParse_toString (by rw [fitsInt_iff]; omega)

theorem intListToUint8List_of_bytes {intList : List Int}
    (hbytes : ∀ i ∈ intList, 0 ≤ i ∧ i < 256) :
    intListToUint8List intList = .ok (uint8List intList) := by
  have hparsed : intList.mapM parsedElement = some intList := by
    induction intList with
    | nil => rfl
    | cons i rest ih =>
      obtain ⟨hi, hrest⟩ := List.forall_mem_cons.mp hbytes
      rw [List.mapM_cons, parsedElement_of_byte hi.1 hi.2, ih hrest]
      rfl
  rw [intListToUint8List, hparsed]

def deleteMnemonic : Future Unit := do
  -- unlike `deleteCloudMnemonic`, without a check of the status
  let _ ← (invokeMethod Value.asBool .deleteMnemonic).await
  return ()

def deleteCloudMnemonic : Future Unit := do
  let status ← (invokeMethod Value.asBool .deleteCloudMnemonic).await
  if status = none ∨ status = some false then
    .throw (.exception
      "Unable to delete mnemonic from cloud storage, something went wrong at native code layer")
  else return ()

def generateMnemonic : Future String := do
  match ← (invokeMethod Value.asString .generateNewMnemonic).await with
  | none =>
    .throw (.exception "Unable to generate mnemonic, something went wrong at native code layer")
  | some mnemonic => return mnemonic

def getMnemonic : Future (Option String) := do
  let mnemonic ← (invokeMethod Value.asString .getMnemonic).await
  return mnemonic

def walletBackedUpToCloud : Future Bool := do
  match ← (invokeMethod Value.asBool .mnemonicBackedUpToCloud).await with
  | none =>
    .throw (.exception
      "Unable to get wallet backup status, something went wrong at native code layer")
  | some backedUpToCloud => return backedUpToCloud

def getPrivateKeyFromMnemonic (mnemonic : String) : Future (List UInt8) := do
  match ← (invokeMethod Value.asList (.getPrivateKeyFromMnemonic mnemonic)).await with
  -- `pvtKey!`
  | none => .throw .nullCheckError
  | some pvtKey => .ofExcept (intListToUint8List pvtKey)

def saveMnemonic (mnemonic : String) (storageOptions : KeyStorageConfig) : Future Unit := do
  -- the status in the reply is not looked at
  let _ ← (invokeMethod Value.asDynamic (.saveMnemonic mnemonic storageOptions.saveToCloud
    storageOptions.rejectOnCloudSaveFailure)).await
  return ()

end KeyManager

end RlyNetworkSdk.Dart
