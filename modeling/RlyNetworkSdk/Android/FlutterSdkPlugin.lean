import RlyNetworkSdk.Android.MnemonicStorageHelper
import Mathlib.Algebra.Group.Nat.Defs
import Mathlib.Data.Nat.Size

/-!
# `FlutterSdkPlugin.kt`

The method-call handlers of the Android plugin. The BIP-39 and BIP-32 functions come from
the `kethereum` library and are a parameter.
-/

namespace RlyNetworkSdk.Android

open Channel

/-- What the plugin uses of `org.kethereum`, with the one property of it that the results rest
on: what it generates, it validates. -/
structure Kethereum where
  /-- `generateMnemonic(192, WORDLIST_ENGLISH)`, by the randomness it draws. -/
  generateMnemonic : Nat → String
  /-- `MnemonicWords(mnemonic).validate(WORDLIST_ENGLISH)`. -/
  validate : String → Bool
  /-- The private key of `dirtyPhraseToMnemonicWords(mnemonic).toSeed().toKey("m/44'/60'/0'/0/0")`. -/
  privateKey : String → Nat
  /-- The generator produces mnemonics with a correct checksum. -/
  validate_generateMnemonic : ∀ seed, validate (generateMnemonic seed) = true

/-- `BigInteger.toByteArray`: the shortest big-endian two's complement form. -/
def toByteArray (n : Nat) : List Int :=
  (List.range (n.size / 8 + 1)).reverse.map fun i => ((n / 256 ^ i : Nat) : Int).bmod 256

/-- The list of integers that the handler replies: `it.toInt() and 0xFF` for each byte, which
undoes the sign. -/
def privateKeyInts (k : Kethereum) (mnemonic : String) : List Int :=
  (toByteArray (k.privateKey mnemonic)).map (· % 256)

variable (k : Kethereum)

def getMnemonic (o : Outcomes) (st : Store) : Handled × Store :=
  read o (fun mnemonic _fromBlockstore => [.success (.ofString? mnemonic)]) st

def isBackedUpToCloud (o : Outcomes) (st : Store) : Handled × Store :=
  read o (fun mnemonic fromBlockstore => [.success (.bool (mnemonic.isSome && fromBlockstore))]) st

def generateNewMnemonic (o : Outcomes) (st : Store) : Handled × Store :=
  (.replied [.success (.string (k.generateMnemonic o.seed))], st)

/-- `saveMnemonic`. The handler goes on after the error reply for an invalid mnemonic, so that
the phrase is stored and a second reply is sent. -/
def saveMnemonic (o : Outcomes) (mnemonic : String) (useBlockStore forceBlockStore : Bool)
    (st : Store) : Handled × Store :=
  let verification : List Reply :=
    if !k.validate mnemonic then
      [.error "mnemonic_verification_failure" "Mnemonic is not valid"]
    else []
  -- no `return` after `result.error`: the phrase is saved all the same
  let (saved, st) := save o mnemonic useBlockStore forceBlockStore
    [.success (.bool true)] (fun message => [.error "mnemonic_save_failure" message]) st
  ({ saved with replies := verification ++ saved.replies }, st)

def deleteCloudMnemonic (st : Store) : Handled × Store :=
  (.replied [.success (.bool true)], deleteFromCloudKeystore st)

def deleteMnemonic (o : Outcomes) (st : Store) : Handled × Store :=
  match delete o st with
  | (true, st) => (.replied [.success (.bool true)], st)
  -- `deleteBytes` has been started by then
  | (false, st) => (.thrown, st)

/-- `getPrivateKeyFromMnemonic`. Here too the handler goes on after the error reply, and replies
with a key as well. -/
def getPrivateKeyFromMnemonic (mnemonic : String) (st : Store) : Handled × Store :=
  let verification : List Reply :=
    if !k.validate mnemonic then
      [.error "mnemonic_verification_failure" "mnemonic failed to pass check"]
    else []
  (.replied (verification ++ [.success (.ints (privateKeyInts k mnemonic))]), st)

/-- `onMethodCall`: the handler of each method, with the arguments of the call. -/
def onMethodCall (call : MethodCall) (o : Outcomes) (st : Store) : Handled × Store :=
  match call with
  | .saveMnemonic mnemonic saveToCloud rejectOnCloudSaveFailure =>
    saveMnemonic k o mnemonic saveToCloud rejectOnCloudSaveFailure st
  | .getMnemonic => getMnemonic o st
  | .mnemonicBackedUpToCloud => isBackedUpToCloud o st
  | .deleteMnemonic => deleteMnemonic o st
  | .deleteCloudMnemonic => deleteCloudMnemonic st
  | .generateNewMnemonic => generateNewMnemonic k o st
  | .getPrivateKeyFromMnemonic mnemonic => getPrivateKeyFromMnemonic k mnemonic st

end RlyNetworkSdk.Android
