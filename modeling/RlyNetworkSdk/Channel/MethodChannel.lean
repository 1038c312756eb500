import Mathlib.Data.Option.Basic

/-!
# The Method Channel `rly_network_flutter_sdk`

The calls that the Dart side sends over the channel and the envelopes that come back, with
the casts that `invokeMethod<T>` applies to a reply.

## Modelling notes

The arguments of `saveMnemonic` and `getPrivateKeyFromMnemonic` are always present in the
calls that `KeyManager` issues, so a call carries them directly. The two methods that no
Dart code of the package calls through `KeyManager` (`getPlatformVersion`, `getBundleId`)
are left out.
-/

namespace RlyNetworkSdk.Channel

/-- A call sent to the platform side, with the arguments that the handlers read. The two flags
of a save are called `useBlockStore` and `forceBlockStore` on Android; iOS makes no use of the
second one. -/
inductive MethodCall where
  | generateNewMnemonic
  | getMnemonic
  | mnemonicBackedUpToCloud
  | deleteMnemonic
  | deleteCloudMnemonic
  | saveMnemonic (mnemonic : String) (saveToCloud rejectOnCloudSaveFailure : Bool)
  | getPrivateKeyFromMnemonic (mnemonic : String)
  deriving DecidableEq, Repr

/-- The name of a call, without its arguments. What the environment does during a call is given
for each name. -/
inductive Method where
  | generateNewMnemonic
  | getMnemonic
  | mnemonicBackedUpToCloud
  | deleteMnemonic
  | deleteCloudMnemonic
  | saveMnemonic
  | getPrivateKeyFromMnemonic
  deriving DecidableEq, Repr

/-- The method that a call names. -/
def MethodCall.method : MethodCall → Method
  | .generateNewMnemonic => .generateNewMnemonic
  | .getMnemonic => .getMnemonic
  | .mnemonicBackedUpToCloud => .mnemonicBackedUpToCloud
  | .deleteMnemonic => .deleteMnemonic
  | .deleteCloudMnemonic => .deleteCloudMnemonic
  | .saveMnemonic .. => .saveMnemonic
  | .getPrivateKeyFromMnemonic .. => .getPrivateKeyFromMnemonic

/-- The values of the standard codec that the plugin uses. An integer stands for the `int` that
the codec makes of it. -/
inductive Value where
  | null
  | bool (b : Bool)
  | string (s : String)
  | ints (l : List Int)
  deriving DecidableEq, Repr

/-- A nullable string as a codec value. -/
def Value.ofString? : Option String → Value
  | some s => .string s
  | none => .null

/-- A reply to a call, in the envelope of the standard codec. Of an error only the code and the
message are ever set. -/
inductive Reply where
  | success (value : Value)
  | error (code message : String)
  /-- The empty response that the engine sends for a handler that died of an exception. -/
  | empty
  deriving DecidableEq, Repr

/-- What a Dart caller can be thrown: by the channel, by a cast, by the operator `!`, by a
parser, or by the code of this library. -/
inductive DartError where
  | platformException (code message : String)
  | missingPluginException
  /-- A failed cast. -/
  | typeError
  /-- The operator `!` applied to null. -/
  | nullCheckError
  /-- `int.parse` of a text that is no number. -/
  | formatException
  /-- `throw Exception(message)`. -/
  | exception (message : String)
  /-- `throw` of a string. -/
  | string (text : String)
  deriving DecidableEq, Repr

/-- Decode the envelope of a reply: an error becomes a `PlatformException`, and no envelope at
all a `MissingPluginException`. -/
def Reply.decode : Reply → Except DartError Value
  | .success v => .ok v
  | .error code message => .error (.platformException code message)
  | .empty => .error .missingPluginException

namespace Value

/-! ## The casts of `invokeMethod<T>` -/

/-- `as String?` -/
def asString : Value → Except DartError (Option String)
  | .null => .ok none
  | .string s => .ok (some s)
  | _ => .error .typeError

/-- `as bool?` -/
def asBool : Value → Except DartError (Option Bool)
  | .null => .ok none
  | .bool b => .ok (some b)
  | _ => .error .typeError

/-- `as List<Object?>?` -/
def asList : Value → Except DartError (Option (List Int))
  | .null => .ok none
  | .ints l => .ok (some l)
  | _ => .error .typeError

/-- `as dynamic` -/
def asDynamic (v : Value) : Except DartError Value := .ok v

@[simp] theorem asString_ofString? (s : Option String) : (ofString? s).asString = .ok s := by
  cases s <;> rfl

end Value

end RlyNetworkSdk.Channel
