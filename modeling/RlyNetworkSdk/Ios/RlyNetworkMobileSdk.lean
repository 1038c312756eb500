import RlyNetworkSdk.Channel.MethodChannel
import RlyNetworkSdk.Ios.KeychainHelper

/-!
# `RlyNetworkMobileSdk.swift` and the iOS `FlutterSdkPlugin.swift`

The iOS handlers. The BIP-39 and BIP-32 functions are those of the vendored C code
(`bip39.c`, `bip32.c`) and are a parameter.
-/

namespace RlyNetworkSdk.Ios

open KeyStorage Channel

/-- What the plugin uses of the C code, with the two properties of it that the results rest on.
`Ios.KeyDerivation` instantiates it with the code itself. -/
structure Bip39C where
  /-- `mnemonic_from_data(data, 24)` -/
  mnemonicFromData : Vector UInt8 24 → String
  /-- `mnemonic_check(mnemonic) != 0` -/
  mnemonicCheck : String → Bool
  /-- The private key of the node `m/44'/60'/0'/0/0` of `mnemonic_to_seed(mnemonic, "")`. -/
  privateKey : String → Vector UInt8 32
  /-- `mnemonic_from_data` appends the checksum that `mnemonic_check` compares. -/
  mnemonicCheck_mnemonicFromData : ∀ data, mnemonicCheck (mnemonicFromData data) = true
  /-- A phrase of one word has no valid length. -/
  mnemonicCheck_failure : mnemonicCheck "failure" = false

variable (c : Bip39C)

def getMnemonic (o : Outcomes) (st : Store) : Option String := read o st

def mnemonicBackedUpToCloud (o : Outcomes) (st : Store) : Bool :=
  (readFromiCloudKeychain o st).isSome

def generateMnemonic (o : Outcomes) : String :=
  match o.secRandomCopyBytes with
  | some data =>
    let mnemonicString := c.mnemonicFromData data
    if !c.mnemonicCheck mnemonicString then "failure" else mnemonicString
  -- an error is a string like any other phrase
  | none => "failure"

/-- `saveMnemonic`. The third argument of the source, `rejectOnCloudSaveFailure`, is not
looked at. -/
def saveMnemonic (o : Outcomes) (mnemonic : String) (saveToCloud _rejectOnCloudSaveFailure : Bool)
    (st : Store) : Bool × Store :=
  (true, save o mnemonic saveToCloud st)

def deleteMnemonic (o : Outcomes) (st : Store) : Bool × Store := (true, delete o st)

def deleteCloudMnemonic (o : Outcomes) (st : Store) : Bool × Store :=
  (true, deleteFromiCloudKeychain o st)

/-- The bytes of the derived key as the list that the codec transports: always thirty-two of
them. -/
def privateKeyInts (mnemonic : String) : List Int :=
  (c.privateKey mnemonic).toList.map fun b => (b.toNat : Int)

def getPrivateKeyFromMnemonic (mnemonic : String) : Value :=
  if !c.mnemonicCheck mnemonic then .string "failure" else .ints (privateKeyInts c mnemonic)

/-- `FlutterSdkPlugin.handle`: the handler of each method. Every one of them replies once, and a
failure is a value like any other. -/
def handle (call : MethodCall) (o : Outcomes) (st : Store) : Reply × Store :=
  match call with
  | .generateNewMnemonic => (.success (.string (generateMnemonic c o)), st)
  | .getPrivateKeyFromMnemonic data => (.success (getPrivateKeyFromMnemonic c data), st)
  | .getMnemonic => (.success (.ofString? (getMnemonic o st)), st)
  | .mnemonicBackedUpToCloud => (.success (.bool (mnemonicBackedUpToCloud o st)), st)
  | .deleteMnemonic =>
    let (status, st) := deleteMnemonic o st
    (.success (.bool status), st)
  | .deleteCloudMnemonic =>
    let (status, st) := deleteCloudMnemonic o st
    (.success (.bool status), st)
  | .saveMnemonic mnemonicToSave saveToCloud rejectOnCloudSaveFailure =>
    let (status, st) := saveMnemonic o mnemonicToSave saveToCloud rejectOnCloudSaveFailure st
    (.success (.bool status), st)

end RlyNetworkSdk.Ios
