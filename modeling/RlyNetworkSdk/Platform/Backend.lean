import RlyNetworkSdk.Android.Outcome
import RlyNetworkSdk.Ios.Outcome
import RlyNetworkSdk.Dart.WalletManager

/-!
# The Two Back Ends behind the Method Channel

`Backend` is either plugin. For both, a method-channel call is a function of the outcomes
of the native calls it makes (`Backend.invoke`), and the theorems of this module give that
function in the same terms on both sides: the two slots, what a read reports (`seen`),
which slot a save reaches (`landing`), and when the Android preferences file is cleared.
Everything above this module is proved from these theorems alone, once for both platforms.
-/

namespace RlyNetworkSdk.Platform

open KeyStorage Channel Concurrency Dart

/-! ## Back ends -/

/-- A plugin, with the library it takes its BIP-39 functions from. Results about both platforms
are stated once, over this type. -/
inductive Backend where
  | android (k : Android.Kethereum)
  | ios (c : Ios.Bip39C)

namespace Backend

/-- The platform's store. -/
def Store : Backend → Type
  | android _ => Android.Store
  | ios _ => Ios.Store

/-- What the environment decides during one call. The two platforms differ in which native calls
there are. -/
def Outcomes : Backend → Type
  | android _ => Android.Outcomes
  | ios _ => Ios.Outcomes

/-- One method-channel call: the reply that reaches Dart, if any, and the store. On Android only
the first reply does; on iOS there always is one. -/
def invoke : (d : Backend) → MethodCall → d.Outcomes → d.Store → Option Reply × d.Store
  | android k => fun call o st =>
    ((Android.onMethodCall k call o st).1.reply, (Android.onMethodCall k call o st).2)
  | ios c => fun call o st => (some (Ios.handle c call o st).1, (Ios.handle c call o st).2)

/-- A task that a call left running completes, with success or not. There are such tasks on
Android only. -/
def taskCompletes : (d : Backend) → Bool → d.Store → d.Store
  | android _ => fun ok (st : Android.Store) => st.deleteBytesCompletes ok
  | ios _ => fun _ st => st

/-- Every task that is running completes with success. -/
def settle : (d : Backend) → d.Store → d.Store
  | android _ => fun (st : Android.Store) => st.settle
  | ios _ => fun st => st

/-! ## The common vocabulary -/

variable (d : Backend)

/-- The two slots. -/
def slots : (d : Backend) → d.Store → Slots String
  | android _ => fun (st : Android.Store) => st.slots
  | ios _ => fun (st : Ios.Store) => st

/-- The platform's BIP-39 check. A phrase is valid if this holds of it. -/
def accepts : Backend → String → Bool
  | android k => k.validate
  | ios c => c.mnemonicCheck

/-- The save handler has no objection to the phrase. Only Android looks at it; iOS stores any
text. -/
def savable : Backend → String → Bool
  | android k => k.validate
  | ios _ => fun _ => true

/-- The private key that the platform replies for a mnemonic it accepts, as the list of integers
that goes over the channel. -/
def privateKeyInts : Backend → String → List Int
  | android k => Android.privateKeyInts k
  | ios c => Ios.privateKeyInts c

/-- The wallet that the Dart side makes of a mnemonic: of the integers that the platform
replies, by way of their low eight bits. -/
def walletOf (m : String) : Wallet :=
  walletOfPrivateKey (KeyManager.uint8List (d.privateKeyInts m))

theorem privateKeyInts_bounds (d : Backend) (m : String) :
    ∀ i ∈ d.privateKeyInts m, 0 ≤ i ∧ i < 256 := by
  intro i hi
  cases d with
  | android k =>
    obtain ⟨b, -, rfl⟩ := List.mem_map.mp hi
    omega
  | ios c =>
    obtain ⟨b, -, rfl⟩ := List.mem_map.mp hi
    have hb := b.toNat_lt
    change 0 ≤ (b.toNat : Int) ∧ (b.toNat : Int) < 256
    omega

/-- **The detour through decimal texts is exact** for what either plugin sends: every element is
a small number, whose text is read back as itself. -/
theorem intListToUint8List_privateKeyInts (m : String) :
    KeyManager.intListToUint8List (d.privateKeyInts m) =
      .ok (KeyManager.uint8List (d.privateKeyInts m)) :=
  KeyManager.intListToUint8List_of_bytes (d.privateKeyInts_bounds m)

/-- What the Dart side throws for a mnemonic that key derivation rejects: on Android the error
of the handler, on iOS a failed cast of its text. -/
def rejection : Backend → DartError
  | android _ =>
    .platformException "mnemonic_verification_failure" "mnemonic failed to pass check"
  | ios _ => .typeError

/-- The phrase that `generateNewMnemonic` replies. -/
def generated : (d : Backend) → d.Outcomes → String
  | android k => fun (o : Android.Outcomes) => k.generateMnemonic o.seed
  | ios c => fun (o : Ios.Outcomes) => Ios.generateMnemonic c o

/-- The mnemonic that `getMnemonic` reports; no value if no reply is sent, which happens on
Android only. -/
def seen : (d : Backend) → d.Outcomes → d.Store → Option (Option String)
  | android _ => fun o st => Android.seen o st
  | ios _ => fun o st => some (Ios.getMnemonic o st)

/-- `getMnemonic` clears the device slot on its way. -/
def readClears : (d : Backend) → d.Outcomes → d.Store → Bool
  | android _ => fun o st => Android.readClears o st
  | ios _ => fun _ _ => false

/-- The slot that `saveMnemonic` reaches, if it reaches one. The reply may say that the save is
done although it does not. -/
def landing : (d : Backend) → d.Outcomes → KeyStorageConfig → d.Store → Option Slot
  | android _ => fun o cfg st =>
    Android.landing o cfg.saveToCloud cfg.rejectOnCloudSaveFailure st
  | ios _ => fun o cfg st => Ios.landing o cfg.saveToCloud st

/-- `saveMnemonic` clears the device slot on its way. -/
def saveClears : (d : Backend) → d.Outcomes → KeyStorageConfig → d.Store → Bool
  | android _ => fun o cfg st =>
    Android.saveClears o cfg.saveToCloud cfg.rejectOnCloudSaveFailure st
  | ios _ => fun _ _ _ => false

/-- The reply to `saveMnemonic`. On iOS it is success in any case; on Android it can be an
error, or none. -/
def saveReply : (d : Backend) → d.Outcomes → String → KeyStorageConfig → d.Store → Option Reply
  | android k => fun o m cfg st =>
    if k.validate m then Android.saveReply o cfg.saveToCloud cfg.rejectOnCloudSaveFailure st
    else some (.error "mnemonic_verification_failure" "Mnemonic is not valid")
  | ios _ => fun _ _ _ _ => some (.success (.bool true))

/-- The store after `getMnemonic`. -/
def afterRead (o : d.Outcomes) (st : d.Store) : d.Store := (d.invoke .getMnemonic o st).2

/-- The store after `saveMnemonic`. -/
def afterSave (o : d.Outcomes) (m : String) (cfg : KeyStorageConfig) (st : d.Store) : d.Store :=
  (d.invoke (.saveMnemonic m cfg.saveToCloud cfg.rejectOnCloudSaveFailure) o st).2

/-! ## The calls in that vocabulary -/

variable {d}

theorem invoke_generateNewMnemonic (o : d.Outcomes) (st : d.Store) :
    d.invoke .generateNewMnemonic o st = (some (.success (.string (d.generated o))), st) := by
  cases d <;> rfl

theorem invoke_getMnemonic (o : d.Outcomes) (st : d.Store) :
    d.invoke .getMnemonic o st =
      ((d.seen o st).map fun m => .success (.ofString? m), d.afterRead o st) := by
  refine Prod.ext ?_ rfl
  cases d with
  | android k =>
    have h := congrArg Prod.fst (Android.getMnemonic_eq o st)
    exact h
  | ios c => rfl

/-- On Android a read changes the store only by clearing the preferences file. -/
theorem afterRead_android {k : Android.Kethereum} (o : (android k).Outcomes)
    (st : (android k).Store) :
    (android k).afterRead o st =
      ({ (st : Android.Store) with
        slots := ((android k).slots st).wipeDevice (Android.readClears o st) } : Android.Store) :=
  congrArg Prod.snd (Android.getMnemonic_eq o st)

theorem slots_afterRead (o : d.Outcomes) (st : d.Store) :
    d.slots (d.afterRead o st) = (d.slots st).wipeDevice (d.readClears o st) := by
  cases d with
  | android k => rw [afterRead_android]; rfl
  | ios c => rfl

theorem has_of_seen {o : d.Outcomes} {st : d.Store} {m : String}
    (h : d.seen o st = some (some m)) : (d.slots st).Has m := by
  cases d with
  | android k => exact Android.has_of_seen h
  | ios c => exact Ios.has_of_read (Option.some.inj h)

theorem invoke_saveMnemonic (o : d.Outcomes) (m : String) (cfg : KeyStorageConfig)
    (st : d.Store) :
    d.invoke (.saveMnemonic m cfg.saveToCloud cfg.rejectOnCloudSaveFailure) o st =
      (d.saveReply o m cfg st, d.afterSave o m cfg st) := by
  refine Prod.ext ?_ rfl
  cases d with
  | android k =>
    have h := congrArg Prod.fst (Android.saveMnemonic_eq k o m cfg.saveToCloud
      cfg.rejectOnCloudSaveFailure st)
    exact h
  | ios c => rfl

theorem afterSave_android {k : Android.Kethereum} (o : (android k).Outcomes) (m : String)
    (cfg : KeyStorageConfig) (st : (android k).Store) :
    (android k).afterSave o m cfg st =
      ({ (st : Android.Store) with
        slots := (((android k).slots st).wipeDevice ((android k).saveClears o cfg st)).land
          ((android k).landing o cfg st) m } : Android.Store) :=
  congrArg Prod.snd (Android.saveMnemonic_eq k o m _ _ st)

theorem slots_afterSave (o : d.Outcomes) (m : String) (cfg : KeyStorageConfig) (st : d.Store) :
    d.slots (d.afterSave o m cfg st) =
      ((d.slots st).wipeDevice (d.saveClears o cfg st)).land (d.landing o cfg st) m := by
  cases d with
  | android k => rw [afterSave_android]; rfl
  | ios c => exact Ios.save_eq o m cfg.saveToCloud st

/-- `getPrivateKeyFromMnemonic`: the key for a phrase that the platform accepts, and
otherwise a reply that the Dart side turns into `rejection`. -/
theorem invoke_getPrivateKeyFromMnemonic (m : String) (o : d.Outcomes) (st : d.Store) :
    ∃ r, d.invoke (.getPrivateKeyFromMnemonic m) o st = (some r, st) ∧
      r.decode >>= Value.asList =
        if d.accepts m then .ok (some (d.privateKeyInts m)) else .error d.rejection := by
  cases d with
  | android k =>
    cases hv : k.validate m with
    | false =>
      -- the handler goes on after this reply, but only the first one arrives
      refine ⟨.error "mnemonic_verification_failure" "mnemonic failed to pass check", ?_, ?_⟩
      · simp [invoke, Android.onMethodCall, Android.getPrivateKeyFromMnemonic, hv,
          Android.Handled.replied, Android.Handled.reply]
      · simp only [accepts, hv]
        rfl
    | true =>
      refine ⟨.success (.ints (Android.privateKeyInts k m)), ?_, ?_⟩
      · simp [invoke, Android.onMethodCall, Android.getPrivateKeyFromMnemonic, hv,
          Android.Handled.replied, Android.Handled.reply]
      · simp only [accepts, hv]
        rfl
  | ios c =>
    refine ⟨.success (Ios.getPrivateKeyFromMnemonic c m), rfl, ?_⟩
    cases hv : c.mnemonicCheck m with
    | false =>
      -- a string is no list, so the cast fails
      simp only [accepts, hv, Ios.getPrivateKeyFromMnemonic]
      rfl
    | true =>
      simp only [accepts, hv, Ios.getPrivateKeyFromMnemonic]
      rfl

/-! ## New phrases -/

/-- The randomness for a new phrase can be had. On iOS `SecRandomCopyBytes` may fail, and then
the phrase is the text `failure`. -/
def EntropySucceeds : (d : Backend) → d.Outcomes → Prop
  | android _ => fun _ => True
  | ios _ => fun (o : Ios.Outcomes) => o.secRandomCopyBytes.isSome = true

/-- A generated phrase is valid exactly if there was randomness for it: what iOS replies
otherwise is the string "failure". -/
theorem accepts_generated_iff (o : d.Outcomes) :
    d.accepts (d.generated o) = true ↔ d.EntropySucceeds o := by
  cases d with
  | android k =>
    have hvalid := k.validate_generateMnemonic o.seed
    exact iff_of_true hvalid trivial
  | ios c => exact Ios.mnemonicCheck_generateMnemonic_iff c o

/-! ## Calls that do not interfere -/

/-- A read does not change which slot a later save reaches. -/
theorem landing_afterRead (o o' : d.Outcomes) (cfg : KeyStorageConfig) (st : d.Store) :
    d.landing o cfg (d.afterRead o' st) = d.landing o cfg st := by
  cases d with
  | android k => rw [afterRead_android]; rfl
  | ios c => rfl

theorem saveClears_afterRead (o o' : d.Outcomes) (cfg : KeyStorageConfig) (st : d.Store) :
    d.saveClears o cfg (d.afterRead o' st) = d.saveClears o cfg st := by
  cases d with
  | android k => rw [afterRead_android]; rfl
  | ios c => rfl

theorem saveReply_afterRead (o o' : d.Outcomes) (m : String) (cfg : KeyStorageConfig)
    (st : d.Store) : d.saveReply o m cfg (d.afterRead o' st) = d.saveReply o m cfg st := by
  cases d with
  | android k => rw [afterRead_android]; rfl
  | ios c => rfl

/-! ## Deletions -/

/-- The number of deletions that are still running. -/
def running : (d : Backend) → d.Store → Nat
  | android _ => fun (st : Android.Store) => st.pendingDeletes
  | ios _ => fun _ => 0

/-- Running tasks complete, in this order and with these results. -/
def tasksComplete (d : Backend) (results : List Bool) (st : d.Store) : d.Store :=
  results.foldl (fun st ok => d.taskCompletes ok st) st

/-- The completed tasks have emptied the cloud slot: one of those that were running succeeded.
Results beyond them are those of no task. -/
def tasksEmptyCloud (d : Backend) (results : List Bool) (st : d.Store) : Bool :=
  (results.take (d.running st)).contains true

theorem slots_tasksComplete (results : List Bool) (st : d.Store) :
    d.slots (d.tasksComplete results st) =
      (d.slots st).wipeCloud (d.tasksEmptyCloud results st) := by
  cases d with
  | android k => exact Android.slots_deleteBytesComplete results st
  | ios c =>
    -- iOS leaves nothing running
    have hkept : (Backend.ios c).tasksComplete results st = st := by
      unfold tasksComplete
      induction results with
      | nil => rfl
      | cons ok results ih => exact ih
    rw [hkept]
    rfl

/-- The store after `deleteCloudMnemonic`. -/
def afterDeleteCloud (d : Backend) (o : d.Outcomes) (st : d.Store) : d.Store :=
  (d.invoke .deleteCloudMnemonic o st).2

/-- `deleteCloudMnemonic` empties the cloud slot before it replies. On Android it only starts
to. -/
def deletesCloudAtOnce : (d : Backend) → d.Outcomes → Bool
  | android _ => fun _ => false
  | ios _ => fun (o : Ios.Outcomes) => o.secItemDelete .cloud

/-- The number of deletions that a call leaves running. -/
def deletionsStarted : Backend → Nat
  | android _ => 1
  | ios _ => 0

theorem invoke_deleteCloudMnemonic (o : d.Outcomes) (st : d.Store) :
    d.invoke .deleteCloudMnemonic o st =
      (some (.success (.bool true)), d.afterDeleteCloud o st) := by
  cases d <;> rfl

theorem slots_afterDeleteCloud (o : d.Outcomes) (st : d.Store) :
    d.slots (d.afterDeleteCloud o st) = (d.slots st).wipeCloud (d.deletesCloudAtOnce o) := by
  cases d with
  | android k => rfl
  | ios c =>
    have h := Ios.secItemDelete_snd o .cloud st
    exact h

theorem running_afterDeleteCloud (o : d.Outcomes) (st : d.Store) :
    d.running (d.afterDeleteCloud o st) = d.running st + d.deletionsStarted := by
  cases d <;> rfl

/-- `deleteMnemonic` empties the device slot. On neither platform does the reply say whether it
did. -/
def deletesDevice : (d : Backend) → d.Outcomes → Bool
  | android _ => fun o => Android.deleteEmptiesDevice o
  | ios _ => fun (o : Ios.Outcomes) => o.secItemDelete .device

/-- `deleteMnemonic` replies with success. On Android it fails if the preferences do not open,
on iOS never. -/
def deleteReturns : (d : Backend) → d.Outcomes → Bool
  | android _ => fun (o : Android.Outcomes) => o.sharedPreferences.returns
  | ios _ => fun _ => true

/-- The store after `deleteMnemonic`. -/
def afterDelete (d : Backend) (o : d.Outcomes) (st : d.Store) : d.Store :=
  (d.invoke .deleteMnemonic o st).2

theorem invoke_deleteMnemonic (o : d.Outcomes) (st : d.Store) :
    d.invoke .deleteMnemonic o st =
      (some (if d.deleteReturns o then .success (.bool true) else .empty), d.afterDelete o st) := by
  refine Prod.ext ?_ rfl
  cases d with
  | android k =>
    have h := congrArg Prod.fst (Android.deleteMnemonic_eq o st)
    exact h
  | ios c => rfl

theorem afterDelete_android {k : Android.Kethereum} (o : (android k).Outcomes)
    (st : (android k).Store) :
    (android k).afterDelete o st =
      ({ (st : Android.Store) with
        slots := ((android k).slots st).wipeDevice (Android.deleteEmptiesDevice o)
        pendingDeletes := (android k).running st + 1 } : Android.Store) :=
  congrArg Prod.snd (Android.deleteMnemonic_eq o st)

theorem slots_afterDelete (o : d.Outcomes) (st : d.Store) :
    d.slots (d.afterDelete o st) =
      ((d.slots st).wipeDevice (d.deletesDevice o)).wipeCloud (d.deletesCloudAtOnce o) := by
  cases d with
  | android k => rw [afterDelete_android]; rfl
  | ios c =>
    have h := Ios.delete_eq o st
    exact h

theorem running_afterDelete (o : d.Outcomes) (st : d.Store) :
    d.running (d.afterDelete o st) = d.running st + d.deletionsStarted := by
  cases d with
  | android k => rw [afterDelete_android]; rfl
  | ios c => rfl

theorem running_afterRead (o : d.Outcomes) (st : d.Store) :
    d.running (d.afterRead o st) = d.running st := by
  cases d with
  | android k => rw [afterRead_android]; rfl
  | ios c => rfl

theorem running_afterSave (o : d.Outcomes) (m : String) (cfg : KeyStorageConfig) (st : d.Store) :
    d.running (d.afterSave o m cfg st) = d.running st := by
  cases d with
  | android k => rw [afterSave_android]; rfl
  | ios c => rfl

/-- One completion empties the cloud slot if a deletion was running and succeeded. -/
theorem slots_taskCompletes (ok : Bool) (st : d.Store) :
    d.slots (d.taskCompletes ok st) =
      (d.slots st).wipeCloud (decide (0 < d.running st) && ok) := by
  have h := slots_tasksComplete [ok] st
  have hempties : d.tasksEmptyCloud [ok] st = (decide (0 < d.running st) && ok) := by
    unfold tasksEmptyCloud
    cases d.running st <;> cases ok <;> simp
  rw [hempties] at h
  exact h

theorem running_taskCompletes (ok : Bool) (st : d.Store) :
    d.running (d.taskCompletes ok st) = d.running st - 1 := by
  cases d with
  | android k =>
    obtain ⟨slots, e, n⟩ := st
    cases n <;> rfl
  | ios c => rfl

theorem slots_settle (st : d.Store) :
    d.slots (d.settle st) = (d.slots st).wipeCloud (decide (0 < d.running st)) := by
  cases d with
  | android k =>
    obtain ⟨slots, e, n⟩ := st
    cases n <;> rfl
  | ios c => rfl

theorem running_settle (st : d.Store) : d.running (d.settle st) = 0 := by
  cases d with
  | android k =>
    obtain ⟨slots, e, n⟩ := st
    cases n <;> rfl
  | ios c => rfl

theorem settle_of_idle {st : d.Store} (h : d.running st = 0) : d.settle st = st := by
  cases d with
  | android k =>
    obtain ⟨slots, e, n⟩ := st
    have hn : n = 0 := h
    subst hn
    rfl
  | ios c => rfl

/-! ## The process and its surroundings -/

/-- Play services answer whether end-to-end encryption is available. Until then the helper
object takes it that it is not. -/
def encryptionAnswers : (d : Backend) → Bool → d.Store → d.Store
  | android _ => fun isAvailable (st : Android.Store) =>
    { st with isEndToEndEncryptionAvailable := isAvailable }
  | ios _ => fun _ st => st

/-- The process ends and starts again. The helper object is a new one; a deletion that Play
services have begun goes on. -/
def restart : (d : Backend) → d.Store → d.Store
  | android _ => fun (st : Android.Store) => { st with isEndToEndEncryptionAvailable := false }
  | ios _ => fun st => st

@[simp] theorem slots_encryptionAnswers (isAvailable : Bool) (st : d.Store) :
    d.slots (d.encryptionAnswers isAvailable st) = d.slots st := by
  cases d <;> rfl

@[simp] theorem running_encryptionAnswers (isAvailable : Bool) (st : d.Store) :
    d.running (d.encryptionAnswers isAvailable st) = d.running st := by
  cases d <;> rfl

@[simp] theorem slots_restart (st : d.Store) : d.slots (d.restart st) = d.slots st := by
  cases d <;> rfl

@[simp] theorem running_restart (st : d.Store) : d.running (d.restart st) = d.running st := by
  cases d <;> rfl

/-! ## Native reads that succeed -/

/-- The native reads of a call succeed. Whether there is anything to be read is another matter. -/
def ReadsSucceed : (d : Backend) → d.Outcomes → Prop
  | android _ => fun (o : Android.Outcomes) =>
    o.retrieveBytes = true ∧ o.sharedPreferences = .opened ∧ o.getString = true
  | ios _ => fun (o : Ios.Outcomes) => ∀ item, o.secItemCopyMatching item = true

/-- A successful read reports the cell that the two slots stand for. -/
theorem seen_of_readsSucceed {o : d.Outcomes} (ho : d.ReadsSucceed o) (st : d.Store) :
    d.seen o st = some (d.slots st).current := by
  cases d with
  | android k =>
    obtain ⟨hr, hp, hg⟩ := ho
    obtain ⟨⟨cloud, device⟩, e, n⟩ := st
    cases cloud <;> cases device <;>
      simp [seen, slots, Android.seen, Android.readsSharedPref, Android.readFromSharedPref,
        Android.getSharedPreferences, Android.PrefsOpening.returns, Android.PrefsOpening.clears,
        hr, hp, hg]
  | ios c =>
    obtain ⟨cloud, device⟩ := st
    cases cloud <;>
      simp [seen, slots, Ios.getMnemonic, Ios.read, Ios.readFromiCloudKeychain,
        Ios.readFromDeviceKeychain, Ios.secItemCopyMatching, ho _, Slots.get]

/-- A successful read leaves the store as it is. -/
theorem afterRead_of_readsSucceed {o : d.Outcomes} (ho : d.ReadsSucceed o) (st : d.Store) :
    d.afterRead o st = st := by
  cases d with
  | android k =>
    have hclears : Android.readClears o st = false := by
      simp [Android.readClears, ho.2.1, Android.PrefsOpening.clears]
    rw [afterRead_android, hclears]
    rfl
  | ios c => rfl

/-- A successful query of the backup flag tells whether the cloud slot is filled. -/
theorem invoke_mnemonicBackedUpToCloud {o : d.Outcomes} (ho : d.ReadsSucceed o) (st : d.Store) :
    d.invoke .mnemonicBackedUpToCloud o st =
      (some (.success (.bool (d.slots st).cloud.isSome)), st) := by
  cases d with
  | android k =>
    have h := Android.isBackedUpToCloud_eq ho.1 ho.2.1 ho.2.2 st
    exact h
  | ios c =>
    obtain ⟨cloud, device⟩ := st
    simp [invoke, Ios.handle, Ios.mnemonicBackedUpToCloud, Ios.readFromiCloudKeychain,
      Ios.secItemCopyMatching, ho _, slots, Slots.get]

/-! ## Native calls that all succeed -/

theorem savable_of_accepts {m : String} (hm : d.accepts m = true) : d.savable m = true := by
  cases d with
  | android k => exact hm
  | ios c => rfl

/-- Every native call of a method-channel call succeeds: reads, writes, deletions and the
randomness. -/
def Succeeds : (d : Backend) → d.Outcomes → Prop
  | android _ => fun (o : Android.Outcomes) =>
    o.retrieveBytes = true ∧ o.storeBytes = none ∧ o.sharedPreferences = .opened ∧
      o.getString = true ∧ o.commit = true
  | ios _ => fun (o : Ios.Outcomes) =>
    o.secRandomCopyBytes.isSome ∧ o.secItemAdd = true ∧ o.secItemUpdate = true ∧
      (∀ item, o.secItemCopyMatching item = true) ∧ ∀ item, o.secItemDelete item = true

theorem Succeeds.accepts_generated {o : d.Outcomes} (ho : d.Succeeds o) :
    d.accepts (d.generated o) = true := by
  rw [accepts_generated_iff]
  cases d with
  | android k => trivial
  | ios c => exact ho.1

theorem Succeeds.reads {o : d.Outcomes} (ho : d.Succeeds o) : d.ReadsSucceed o := by
  cases d with
  | android k => exact ⟨ho.1, ho.2.2.1, ho.2.2.2.1⟩
  | ios c => exact ho.2.2.2.1

/-- A save to the cloud slot can be tried. On iOS nothing is asked beforehand. -/
def cloudAvailable : (d : Backend) → d.Store → Bool
  | android _ => fun (st : Android.Store) => st.isEndToEndEncryptionAvailable
  | ios _ => fun _ => true

/-- The save is refused outright. Android takes `rejectOnCloudSaveFailure` for a demand for
the cloud, and refuses a save that is not meant for it as well. -/
def refuses : (d : Backend) → KeyStorageConfig → d.Store → Bool
  | android k => fun cfg st =>
    cfg.rejectOnCloudSaveFailure && !(cfg.saveToCloud && (android k).cloudAvailable st)
  | ios _ => fun _ _ => false

/-- The slot that a save goes to, if it is not refused: the cloud when it is asked for and
available, or else the device. -/
def target (d : Backend) (cfg : KeyStorageConfig) (st : d.Store) : Slot :=
  if cfg.saveToCloud && d.cloudAvailable st then .cloud else .device

theorem refuses_congr (cfg : KeyStorageConfig) {st st' : d.Store}
    (h : d.cloudAvailable st' = d.cloudAvailable st) : d.refuses cfg st' = d.refuses cfg st := by
  cases d with
  | android k => exact congrArg (fun b => cfg.rejectOnCloudSaveFailure && !(cfg.saveToCloud && b)) h
  | ios c => rfl

theorem Succeeds.saveClears {o : d.Outcomes} (ho : d.Succeeds o) (cfg : KeyStorageConfig)
    (st : d.Store) : d.saveClears o cfg st = false := by
  cases d with
  | android k =>
    have hprefs : o.sharedPreferences = .opened := ho.2.2.1
    simp [Backend.saveClears, Android.saveClears, hprefs, Android.PrefsOpening.clears]
  | ios c => rfl

/-- With every native call succeeding, a save reaches the slot that it goes to, unless it is
refused. -/
theorem Succeeds.landing {o : d.Outcomes} (ho : d.Succeeds o) (cfg : KeyStorageConfig)
    (st : d.Store) :
    d.landing o cfg st = if d.refuses cfg st then none else some (d.target cfg st) := by
  cases d with
  | android k =>
    obtain ⟨-, hstore, hprefs, -, hcommit⟩ := ho
    obtain ⟨saveToCloud, reject⟩ := cfg
    obtain ⟨slots, e, n⟩ := st
    change Android.landing o saveToCloud reject ⟨slots, e, n⟩ = _
    -- `storeBytes` succeeds, so the cloud is missed only for want of encryption
    unfold Android.landing Android.savesToSharedPref refuses target cloudAvailable
    cases saveToCloud <;> cases reject <;> cases e <;>
      simp [hstore, hprefs, hcommit, Android.PrefsOpening.returns]
  | ios c =>
    obtain ⟨-, hadd, hupdate, -⟩ := ho
    change Ios.landing o cfg.saveToCloud st = _
    unfold Ios.landing Ios.writes Ios.target refuses target cloudAvailable
    simp [hadd, hupdate]

@[simp] theorem cloudAvailable_afterSave (o : d.Outcomes) (m : String) (cfg : KeyStorageConfig)
    (st : d.Store) : d.cloudAvailable (d.afterSave o m cfg st) = d.cloudAvailable st := by
  cases d with
  | android k =>
    rw [afterSave_android]
    rfl
  | ios c => rfl

@[simp] theorem cloudAvailable_afterDelete (o : d.Outcomes) (st : d.Store) :
    d.cloudAvailable (d.afterDelete o st) = d.cloudAvailable st := by
  cases d with
  | android k =>
    rw [afterDelete_android]
    rfl
  | ios c => rfl

@[simp] theorem cloudAvailable_afterDeleteCloud (o : d.Outcomes) (st : d.Store) :
    d.cloudAvailable (d.afterDeleteCloud o st) = d.cloudAvailable st := by
  cases d <;> rfl

@[simp] theorem cloudAvailable_settle (st : d.Store) :
    d.cloudAvailable (d.settle st) = d.cloudAvailable st := by
  cases d with
  | android k =>
    obtain ⟨slots, e, n⟩ := st
    cases n <;> rfl
  | ios c => rfl

/-- With every native call succeeding, a completed deletion leaves the cloud slot empty. -/
theorem Succeeds.cloud_deleted {o : d.Outcomes} (ho : d.Succeeds o) (st : d.Store) :
    (d.slots (d.settle (d.afterDeleteCloud o st))).cloud = none := by
  rw [slots_settle, slots_afterDeleteCloud, running_afterDeleteCloud,
    Slots.wipeCloud_cloud_eq_none_iff, Slots.wipeCloud_cloud_eq_none_iff]
  cases d with
  -- Android's deletion was left running and has completed by now; iOS's was done at once
  | android k => exact .inr (by simp [deletionsStarted])
  | ios c => exact .inl (.inr (ho.2.2.2.2 .cloud))

theorem Succeeds.deletes {o : d.Outcomes} (ho : d.Succeeds o) :
    d.deleteReturns o = true ∧ d.deletesDevice o = true := by
  cases d with
  | android k =>
    obtain ⟨-, -, hprefs, -, hcommit⟩ := ho
    constructor
    · change o.sharedPreferences.returns = true
      rw [hprefs]
      rfl
    · change (o.sharedPreferences.clears || (o.sharedPreferences.returns && o.commit)) = true
      rw [hprefs, hcommit]
      rfl
  | ios c => exact ⟨rfl, ho.2.2.2.2 .device⟩

/-- With every native call succeeding, a completed deletion leaves both slots empty. -/
theorem Succeeds.slots_deleted {o : d.Outcomes} (ho : d.Succeeds o) (st : d.Store) :
    d.slots (d.settle (d.afterDelete o st)) = Slots.empty := by
  have hcloud : (d.slots (d.settle (d.afterDelete o st))).cloud = none := by
    rw [slots_settle, slots_afterDelete, running_afterDelete, Slots.wipeCloud_cloud_eq_none_iff,
      Slots.wipeCloud_cloud_eq_none_iff]
    cases d with
    | android k => exact .inr (by simp [deletionsStarted])
    | ios c => exact .inl (.inr (ho.2.2.2.2 .cloud))
  have hdevice : (d.slots (d.settle (d.afterDelete o st))).device = none := by
    rw [slots_settle, slots_afterDelete, Slots.wipeCloud_device, Slots.wipeCloud_device,
      ho.deletes.2]
    rfl
  exact Slots.ext hcloud hdevice

end Backend

/-! ## A concrete instance

Two phrases with the private keys that BIP-39 and BIP-32 give them, for evaluating the
model on actual inputs. -/

namespace Sample

/-- The phrase of 24 zero bytes. -/
def zeroPhrase : String :=
  "abandon abandon abandon abandon abandon abandon abandon abandon abandon " ++
  "abandon abandon abandon abandon abandon abandon abandon abandon agent"

/-- The phrase of 24 bytes `0x7f`. -/
def legalPhrase : String :=
  "legal winner thank year wave sausage worth useful legal " ++
  "winner thank year wave sausage worth useful legal will"

def isPhrase (m : String) : Bool := m == zeroPhrase || m == legalPhrase

def privateKey (m : String) : Nat :=
  if m = zeroPhrase then 0x7baa95e968e65395b2b4cc341885bcfbc0d820571af180c65cc9c5019551c669
  else 0xd27d4a695225fdf22bfbeb495d7b319fb1b40d6f8ac50dd63ceaef0a0e171966

/-- The `kethereum` functions on these phrases. -/
def kethereum : Android.Kethereum where
  generateMnemonic seed := if seed = 0 then zeroPhrase else legalPhrase
  validate := isPhrase
  privateKey := privateKey
  validate_generateMnemonic seed := by by_cases h : seed = 0 <;> simp [h, isPhrase]

/-- The functions of the C code on these phrases. -/
def bip39C : Ios.Bip39C where
  mnemonicFromData data := if data = Vector.replicate 24 0 then zeroPhrase else legalPhrase
  mnemonicCheck := isPhrase
  privateKey m := Vector.ofFn fun i => UInt8.ofNat (privateKey m / 256 ^ (31 - i.val))
  mnemonicCheck_mnemonicFromData data := by
    by_cases h : data = Vector.replicate 24 0 <;> simp [h, isPhrase]
  mnemonicCheck_failure := by decide +kernel

abbrev android : Backend := .android kethereum

abbrev ios : Backend := .ios bip39C

/-- Every native call of an Android call succeeds. -/
def androidSuccess : Android.Outcomes where
  seed := 0
  retrieveBytes := true
  storeBytes := none
  sharedPreferences := .opened
  getString := true
  commit := true

/-- Every native call of an iOS call succeeds. -/
def iosSuccess : Ios.Outcomes where
  secRandomCopyBytes := some (Vector.replicate 24 0)
  secItemAdd := true
  secItemUpdate := true
  secItemCopyMatching _ := true
  secItemDelete _ := true

/-- An Android store with these slots, end-to-end encryption available, nothing pending. -/
def androidStore (cloud device : Option String) : Android.Store := ⟨⟨cloud, device⟩, true, 0⟩

end Sample

end RlyNetworkSdk.Platform
