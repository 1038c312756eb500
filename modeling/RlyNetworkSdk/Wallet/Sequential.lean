import RlyNetworkSdk.Platform.Backend

/-!
# One Wallet Operation at a Time

`Backend.exec` runs an operation of the `WalletManager` with nothing else going on. The
environment of the operation is one record of native outcomes for each channel method:
an operation calls each method at most once, save `getPrivateKeyFromMnemonic`, which makes
no native call that can fail.

The theorems give each operation in closed form, in the vocabulary of `Platform.Backend`.
-/

namespace RlyNetworkSdk.Platform.Backend

open KeyStorage Channel Concurrency Dart

variable (d : Backend)

/-- The outcomes of the native calls of one operation. Only the derivation of a key can be asked
for twice, and it makes no native call. -/
abbrev Environment : Type := Method → d.Outcomes

/-- How the channel serves the calls of one operation. -/
def handler (o : d.Environment) (call : MethodCall) (st : d.Store) : Option Reply × d.Store :=
  d.invoke call (o call.method) st

/-- Run an operation alone, from a content of `_cachedWallet` and of the store: how it ends, and
what it leaves in both. -/
def exec {α : Type} (o : d.Environment) (p : Future α) (w : Cache × d.Store) :
    Completion DartError α × Cache × d.Store :=
  p.run (d.handler o) w

variable {d} {α β : Type}

@[simp] theorem exec_bind (o : d.Environment) (p : Future α) (f : α → Future β)
    (w : Cache × d.Store) :
    d.exec o (p >>= f) w = Completion.andThen (d.exec o p w) fun a w' => d.exec o (f a) w' :=
  Async.run_bind _ p f w

@[simp] theorem exec_await (o : d.Environment) (p : Future α) (w : Cache × d.Store) :
    d.exec o p.await w = d.exec o p w := Async.run_await _ p w

@[simp] theorem exec_pure (o : d.Environment) (a : α) (w : Cache × d.Store) :
    d.exec o (pure a) w = (.returned a, w) := Async.run_pure _ a w

@[simp] theorem exec_throw (o : d.Environment) (e : DartError) (w : Cache × d.Store) :
    d.exec o (.throw e : Future α) w = (.threw e, w) := Async.run_throw _ e w

@[simp] theorem exec_getMemory (o : d.Environment) (w : Cache × d.Store) :
    d.exec o Async.getMemory w = (.returned w.1, w) := Async.run_getMemory _ w

@[simp] theorem exec_write (o : d.Environment) (c : Cache) (p : Future α) (w : Cache × d.Store) :
    d.exec o (.write c p) w = d.exec o p (c, w.2) := Async.run_write _ c p w

/-! ## The functions of `KeyManager` -/

/-- The completion that a reply causes, for a caller that ignores its value: an error is thrown
all the same, and no reply is waited for in vain. -/
def completionOf : Option Reply → Completion DartError Unit
  | none => .pending
  | some r =>
    match r.decode with
    | .ok _ => .returned ()
    | .error e => .threw e

theorem exec_invokeMethod_some {o : d.Environment} {f : Value → Except DartError α}
    {call : MethodCall} {w : Cache × d.Store} {r : Reply} {st : d.Store}
    (h : d.invoke call (o call.method) w.2 = (some r, st)) :
    d.exec o (invokeMethod f call) w = (.ofExcept (r.decode >>= f), w.1, st) :=
  (Async.run_invoke_some (d.handler o) h).trans (Async.run_ofExcept _ _ (w.1, st))

theorem exec_invokeMethod_none {o : d.Environment} {f : Value → Except DartError α}
    {call : MethodCall} {w : Cache × d.Store} {st : d.Store}
    (h : d.invoke call (o call.method) w.2 = (none, st)) :
    d.exec o (invokeMethod f call) w = (.pending, w.1, st) :=
  Async.run_invoke_none _ h

theorem exec_generateMnemonic (o : d.Environment) (w : Cache × d.Store) :
    d.exec o KeyManager.generateMnemonic w =
      (.returned (d.generated (o .generateNewMnemonic)), w) := by
  simp only [KeyManager.generateMnemonic, exec_bind, exec_await,
    exec_invokeMethod_some (invoke_generateNewMnemonic (o .generateNewMnemonic) w.2)]
  rfl

theorem exec_getMnemonic (o : d.Environment) (w : Cache × d.Store) :
    d.exec o KeyManager.getMnemonic w =
      (match d.seen (o .getMnemonic) w.2 with
        | some m => .returned m
        | none => .pending,
        w.1, d.afterRead (o .getMnemonic) w.2) := by
  have hinv := invoke_getMnemonic (o .getMnemonic) w.2
  simp only [KeyManager.getMnemonic, exec_await]
  -- a read that is never answered leaves the call waiting
  cases hs : d.seen (o .getMnemonic) w.2 with
  | none =>
    rw [hs] at hinv
    simp only [exec_invokeMethod_none hinv]
  | some m =>
    rw [hs] at hinv
    simp only [exec_invokeMethod_some hinv]
    cases m <;> rfl

/-- The integers of the reply are parsed from texts, and none is lost on the way. -/
theorem exec_getPrivateKeyFromMnemonic (o : d.Environment) (m : String) (w : Cache × d.Store) :
    d.exec o (KeyManager.getPrivateKeyFromMnemonic m) w =
      (if d.accepts m then .returned (KeyManager.uint8List (d.privateKeyInts m))
        else .threw d.rejection, w) := by
  obtain ⟨r, hinv, hr⟩ :=
    invoke_getPrivateKeyFromMnemonic m (o .getPrivateKeyFromMnemonic) w.2
  simp only [KeyManager.getPrivateKeyFromMnemonic, exec_bind, exec_await,
    exec_invokeMethod_some hinv, hr]
  -- a phrase that the platform rejects is an error of the channel
  cases d.accepts m with
  | false => rfl
  | true =>
    show (Completion.ofExcept (KeyManager.intListToUint8List (d.privateKeyInts m)), w) = _
    rw [intListToUint8List_privateKeyInts]
    rfl

theorem exec_saveMnemonic (o : d.Environment) (m : String) (cfg : KeyStorageConfig)
    (w : Cache × d.Store) :
    d.exec o (KeyManager.saveMnemonic m cfg) w =
      (completionOf (d.saveReply (o .saveMnemonic) m cfg w.2), w.1,
        d.afterSave (o .saveMnemonic) m cfg w.2) := by
  have hinv := invoke_saveMnemonic (o .saveMnemonic) m cfg w.2
  simp only [KeyManager.saveMnemonic, exec_bind, exec_await]
  -- with no reply the store is changed all the same
  cases hr : d.saveReply (o .saveMnemonic) m cfg w.2 with
  | none =>
    rw [hr] at hinv
    simp only [exec_invokeMethod_none hinv, Completion.andThen_pending, completionOf]
  | some r =>
    rw [hr] at hinv
    simp only [exec_invokeMethod_some hinv]
    cases r <;> rfl

/-- What the Dart side throws for a save that the platform refuses. -/
def refusal : DartError :=
  .platformException "mnemonic_save_failure"
    "Failed to save mnemonic. Android Blockstore is unavailable and force cloud is on"

/-- With every native call succeeding, a save is reported as done, unless it is refused. -/
theorem Succeeds.completionOf_saveReply {o : d.Outcomes} (ho : d.Succeeds o) {m : String}
    (hm : d.savable m = true) (cfg : KeyStorageConfig) (st : d.Store) :
    completionOf (d.saveReply o m cfg st) =
      if d.refuses cfg st then .threw refusal else .returned () := by
  cases d with
  | android k =>
    -- on Android the flags decide which of the branches of the save replies
    obtain ⟨-, hstore, hprefs, -, -⟩ := ho
    have hv : k.validate m = true := hm
    obtain ⟨saveToCloud, reject⟩ := cfg
    obtain ⟨slots, e, n⟩ := st
    change completionOf (if k.validate m then
      Android.saveReply o saveToCloud reject ⟨slots, e, n⟩ else _) = _
    rw [hv]
    unfold Android.saveReply refuses cloudAvailable
    cases saveToCloud <;> cases reject <;> cases e <;>
      simp [hstore, hprefs, Android.PrefsOpening.returns, completionOf, Reply.decode, refusal]
  | ios c => rfl

/-! ## The operations of `WalletManager` -/

/-- The result of `_makeWalletFromMnemonic`, which leaves cache and store alone. -/
def derived (d : Backend) (m : String) : Completion DartError Wallet :=
  if d.accepts m then .returned (d.walletOf m) else .threw d.rejection

theorem exec_makeWalletFromMnemonic (o : d.Environment) (m : String) (w : Cache × d.Store) :
    d.exec o (WalletManager.makeWalletFromMnemonic m) w = (d.derived m, w) := by
  simp only [WalletManager.makeWalletFromMnemonic, exec_bind, exec_await,
    exec_getPrivateKeyFromMnemonic, derived]
  cases d.accepts m <;> rfl

/-- `getWallet` with a cached wallet. -/
theorem exec_getWallet_cached (o : d.Environment) (wallet : Wallet) (st : d.Store) :
    d.exec o WalletManager.getWallet (some wallet, st) =
      (.returned (some wallet), some wallet, st) := by
  simp [WalletManager.getWallet]

/-- `getWallet` with an empty cache. -/
theorem exec_getWallet_uncached (o : d.Environment) (st : d.Store) :
    d.exec o WalletManager.getWallet (none, st) =
      match d.seen (o .getMnemonic) st with
      | none => (.pending, none, d.afterRead (o .getMnemonic) st)
      | some none => (.returned none, none, d.afterRead (o .getMnemonic) st)
      | some (some m) =>
        if d.accepts m then
          (.returned (some (d.walletOf m)), some (d.walletOf m), d.afterRead (o .getMnemonic) st)
        else (.threw d.rejection, none, d.afterRead (o .getMnemonic) st) := by
  simp only [WalletManager.getWallet, exec_bind, exec_getMemory, exec_await,
    Completion.andThen_returned, exec_getMnemonic]
  match d.seen (o .getMnemonic) st with
  | none => rfl
  | some none => rfl
  | some (some m) =>
    -- only a wallet that could be derived is cached
    simp only [Completion.andThen_returned, exec_bind, exec_await, exec_makeWalletFromMnemonic,
      derived]
    cases d.accepts m <;> rfl

/-- What `getWallet` makes of the mnemonic it reads: nothing of none, and the rejection of one
that the platform does not accept. -/
def walletRead (d : Backend) : Option String → Completion DartError (Option Wallet)
  | none => .returned none
  | some m => if d.accepts m then .returned (some (d.walletOf m)) else .threw d.rejection

theorem exec_getWallet_of_readsSucceed {o : d.Environment}
    (ho : d.ReadsSucceed (o .getMnemonic)) (c : Cache) (st : d.Store) :
    (d.exec o WalletManager.getWallet (c, st)).1 =
      match c with
      | some wallet => .returned (some wallet)
      | none => d.walletRead (d.slots st).current := by
  cases c with
  | some wallet => rw [exec_getWallet_cached]
  | none =>
    rw [exec_getWallet_uncached, seen_of_readsSucceed ho]
    cases (d.slots st).current with
    | none => rfl
    | some m => cases hacc : d.accepts m <;> simp [walletRead, hacc]

theorem exec_getMnemonic_of_readsSucceed {o : d.Environment}
    (ho : d.ReadsSucceed (o .getMnemonic)) (w : Cache × d.Store) :
    d.exec o KeyManager.getMnemonic w = (.returned (d.slots w.2).current, w) := by
  rw [exec_getMnemonic, seen_of_readsSucceed ho, afterRead_of_readsSucceed ho]

/-- The configuration that `_saveMnemonic` uses. -/
def storageConfig (storageOptions : Option KeyStorageConfig) : KeyStorageConfig :=
  storageOptions.getD { rejectOnCloudSaveFailure := true, saveToCloud := true }

/-- The overwrite guard lets a save through, from cache content `c`. With a phrase that gives no
wallet it does not, as `getWallet` throws in front of the guard. -/
def admits (o : d.Environment) (overwrite : Bool) (c : Cache) (st : d.Store) : Bool :=
  match c with
  | some _ => overwrite
  | none =>
    match d.seen (o .getMnemonic) st with
    | none => false
    | some none => true
    | some (some m) => d.accepts m && overwrite

/-- The cached wallet after the guard has called `getWallet`: the one that was cached, or the
one of the phrase that it has read. -/
def guardCache (o : d.Environment) (c : Cache) (st : d.Store) : Cache :=
  match c with
  | some wallet => some wallet
  | none =>
    match d.seen (o .getMnemonic) st with
    | some (some m) => if d.accepts m then some (d.walletOf m) else none
    | _ => none

/-- The store after the guard has called `getWallet`. -/
def guardStore (o : d.Environment) (c : Cache) (st : d.Store) : d.Store :=
  match c with
  | some _ => st
  | none => d.afterRead (o .getMnemonic) st

/-- How an operation ends that the guard does not let through: with the message of the guard,
with what `getWallet` has thrown, or never. -/
def guardStop (α : Type) (o : d.Environment) (c : Cache) (st : d.Store) :
    Completion DartError α :=
  match c, d.seen (o .getMnemonic) st with
  | none, none => .pending
  | none, some (some m) =>
    if d.accepts m then .threw (.string "Wallet already exists. Use overwrite flag to overwrite")
    else .threw d.rejection
  | _, _ => .threw (.string "Wallet already exists. Use overwrite flag to overwrite")

theorem guardStop_ne_returned (o : d.Environment) (c : Cache) (st : d.Store) (a : α) :
    guardStop α o c st ≠ .returned a := by
  unfold guardStop
  split
  · simp
  · split <;> simp
  · simp

/-- Nothing follows a stop of the guard. -/
theorem andThen_guardStop {W : Type} (o : d.Environment) (c : Cache) (st : d.Store) (w : W)
    (f : α → W → Completion DartError β × W) :
    Completion.andThen (guardStop α o c st, w) f = (guardStop β o c st, w) := by
  unfold guardStop
  split
  · rfl
  · split <;> rfl
  · rfl

/-- `_saveMnemonic` is the guard followed by the save. -/
theorem exec_guardedSave (o : d.Environment) (m : String) (overwrite : Bool)
    (storageOptions : Option KeyStorageConfig) (c : Cache) (st : d.Store) :
    d.exec o (WalletManager.saveMnemonic m overwrite storageOptions) (c, st) =
      if admits o overwrite c st then
        (completionOf
            (d.saveReply (o .saveMnemonic) m (storageConfig storageOptions) (guardStore o c st)),
          guardCache o c st,
          d.afterSave (o .saveMnemonic) m (storageConfig storageOptions) (guardStore o c st))
      else (guardStop Unit o c st, guardCache o c st, guardStore o c st) := by
  have hsave := exec_saveMnemonic o m (storageConfig storageOptions)
  simp only [storageConfig] at hsave
  simp only [WalletManager.saveMnemonic, exec_bind, exec_await]
  cases c with
  | some wallet =>
    -- a cached wallet is an existing one: only `overwrite` lets the save through
    rw [exec_getWallet_cached]
    cases overwrite <;>
      simp [admits, guardStop, guardCache, guardStore, hsave, storageConfig]
  | none =>
    rw [exec_getWallet_uncached]
    match hseen : d.seen (o .getMnemonic) st with
    | none => simp [admits, guardStop, guardCache, guardStore, hseen]
    -- null, whatever it stands for, lets the save through
    | some none => simp [admits, guardCache, guardStore, hseen, hsave, storageConfig]
    | some (some m') =>
      -- an invalid phrase in the store makes the guard throw, with `overwrite` or without
      cases hacc : d.accepts m' <;> cases overwrite <;>
        simp [admits, guardStop, guardCache, guardStore, hseen, hacc, hsave, storageConfig]

/-- The guard's own read does not change what the save does. -/
theorem landing_guardStore (o : d.Environment) (c : Cache) (cfg : KeyStorageConfig)
    (st : d.Store) :
    d.landing (o .saveMnemonic) cfg (guardStore o c st) = d.landing (o .saveMnemonic) cfg st := by
  cases c with
  | some wallet => rfl
  | none => exact landing_afterRead _ _ _ _

theorem saveReply_guardStore (o : d.Environment) (m : String) (c : Cache)
    (cfg : KeyStorageConfig) (st : d.Store) :
    d.saveReply (o .saveMnemonic) m cfg (guardStore o c st) =
      d.saveReply (o .saveMnemonic) m cfg st := by
  cases c with
  | some wallet => rfl
  | none => exact saveReply_afterRead _ _ _ _ _

/-- The guard clears the device slot on its way. -/
def guardClears (o : d.Environment) (c : Cache) (st : d.Store) : Bool :=
  c.isNone && d.readClears (o .getMnemonic) st

/-- The guarded save clears the device slot on its way. -/
def creationClears (o : d.Environment) (c : Cache) (cfg : KeyStorageConfig) (st : d.Store) :
    Bool :=
  guardClears o c st || d.saveClears (o .saveMnemonic) cfg st

theorem slots_guardStore (o : d.Environment) (c : Cache) (st : d.Store) :
    d.slots (guardStore o c st) = (d.slots st).wipeDevice (guardClears o c st) := by
  cases c with
  | some wallet => rfl
  | none => exact slots_afterRead _ _

/-- The slots after a save that the guard lets through. -/
theorem slots_guardedSave (o : d.Environment) (m : String) (c : Cache) (cfg : KeyStorageConfig)
    (st : d.Store) :
    d.slots (d.afterSave (o .saveMnemonic) m cfg (guardStore o c st)) =
      ((d.slots st).wipeDevice (creationClears o c cfg st)).land
        (d.landing (o .saveMnemonic) cfg st) m := by
  have hclears : d.saveClears (o .saveMnemonic) cfg (guardStore o c st) =
      d.saveClears (o .saveMnemonic) cfg st := by
    cases c with
    | some wallet => rfl
    | none => exact saveClears_afterRead _ _ _ _
  rw [slots_afterSave, slots_guardStore, landing_guardStore, hclears, Slots.wipeDevice_wipeDevice]
  rfl

/-! ## Creating and importing -/

end Backend

/-- The two operations that store a new phrase, one that is generated or one that is given. -/
inductive Creation where
  | createWallet
  | importExistingWallet (existinMnemonic : String)
  deriving DecidableEq, Repr

namespace Creation

open KeyStorage Channel Concurrency Dart

/-- The Dart operation. -/
def program : Creation → Bool → Option KeyStorageConfig → Future Wallet
  | createWallet => WalletManager.createWallet
  | importExistingWallet m => WalletManager.importExistingWallet m

/-- The phrase that the operation stores. -/
def phrase (d : Backend) (o : d.Environment) : Creation → String
  | createWallet => d.generated (o .generateNewMnemonic)
  | importExistingWallet m => m

end Creation

namespace Backend

open KeyStorage Channel Concurrency Dart

variable {d : Backend}

/-- Creating and importing are the same once the phrase is there: a guarded save, the
derivation of the wallet, and its publication. -/
theorem exec_creation (o : d.Environment) (r : Creation) (overwrite : Bool)
    (storageOptions : Option KeyStorageConfig) (w : Cache × d.Store) :
    d.exec o (r.program overwrite storageOptions) w =
      Completion.andThen
        (d.exec o (WalletManager.saveMnemonic (r.phrase d o) overwrite storageOptions) w)
        fun _ w' =>
          Completion.andThen (d.derived (r.phrase d o), w') fun wallet w'' =>
            (.returned wallet, some wallet, w''.2) := by
  -- a new phrase is always generated, so from there on both are alike
  cases r with
  | createWallet =>
    simp only [Creation.program, WalletManager.createWallet, Creation.phrase, exec_bind,
      exec_await, exec_generateMnemonic, Completion.andThen_returned, exec_makeWalletFromMnemonic,
      exec_write, exec_pure]
  | importExistingWallet m =>
    simp only [Creation.program, WalletManager.importExistingWallet, Creation.phrase, exec_bind,
      exec_await, exec_makeWalletFromMnemonic, exec_write, exec_pure]

/-- **Creation in closed form.** A creation that the guard stops changes nothing but what
the guard's own `getWallet` changes; one that is let through writes its phrase, and
publishes its wallet if the save and the derivation both succeed. -/
theorem exec_creation_eq (o : d.Environment) (r : Creation) (overwrite : Bool)
    (storageOptions : Option KeyStorageConfig) (c : Cache) (st : d.Store) :
    d.exec o (r.program overwrite storageOptions) (c, st) =
      if admits o overwrite c st then
        let st' := d.afterSave (o .saveMnemonic) (r.phrase d o) (storageConfig storageOptions)
          (guardStore o c st)
        match completionOf (d.saveReply (o .saveMnemonic) (r.phrase d o)
            (storageConfig storageOptions) st) with
        | .pending => (.pending, guardCache o c st, st')
        | .threw e => (.threw e, guardCache o c st, st')
        | .returned _ =>
          if d.accepts (r.phrase d o) then
            (.returned (d.walletOf (r.phrase d o)), some (d.walletOf (r.phrase d o)), st')
          else (.threw d.rejection, guardCache o c st, st')
      else (guardStop Wallet o c st, guardCache o c st, guardStore o c st) := by
  rw [exec_creation, exec_guardedSave, saveReply_guardStore]
  -- the guard, then the reply of the save, then the phrase itself
  cases admits o overwrite c st with
  | false => simp [andThen_guardStop]
  | true =>
    simp only [if_true]
    cases completionOf (d.saveReply (o .saveMnemonic) (r.phrase d o)
        (storageConfig storageOptions) st) with
    | pending => rfl
    | threw e => rfl
    | returned u => cases hacc : d.accepts (r.phrase d o) <;> simp [derived, hacc]

/-- When a creation returns. -/
theorem creation_returns_iff (o : d.Environment) (r : Creation) (overwrite : Bool)
    (storageOptions : Option KeyStorageConfig) (c : Cache) (st : d.Store) (wallet : Wallet) :
    (d.exec o (r.program overwrite storageOptions) (c, st)).1 = .returned wallet ↔
      admits o overwrite c st = true ∧
        completionOf (d.saveReply (o .saveMnemonic) (r.phrase d o)
          (storageConfig storageOptions) st) = .returned () ∧
        d.derived (r.phrase d o) = .returned wallet := by
  rw [exec_creation_eq]
  -- read off the closed form: only the last of its branches returns
  cases hadm : admits o overwrite c st with
  | false => simp [guardStop_ne_returned]
  | true =>
    simp only [if_true, true_and]
    cases completionOf (d.saveReply (o .saveMnemonic) (r.phrase d o)
        (storageConfig storageOptions) st) with
    | pending => simp
    | threw e => simp
    | returned u => cases hacc : d.accepts (r.phrase d o) <;> simp [derived, hacc]

/-- The store after a creation: the write has happened, whatever becomes of the reply and of
the derivation. -/
theorem exec_creation_store (o : d.Environment) (r : Creation) (overwrite : Bool)
    (storageOptions : Option KeyStorageConfig) (c : Cache) (st : d.Store) :
    (d.exec o (r.program overwrite storageOptions) (c, st)).2.2 =
      if admits o overwrite c st then
        d.afterSave (o .saveMnemonic) (r.phrase d o) (storageConfig storageOptions)
          (guardStore o c st)
      else guardStore o c st := by
  rw [exec_creation_eq]
  -- the store is that of the save in every branch behind the guard
  cases admits o overwrite c st with
  | false => rfl
  | true =>
    simp only [if_true]
    cases completionOf (d.saveReply (o .saveMnemonic) (r.phrase d o)
        (storageConfig storageOptions) st) with
    | pending => rfl
    | threw e => rfl
    | returned u => cases d.accepts (r.phrase d o) <;> rfl

theorem running_guardStore (o : d.Environment) (c : Cache) (st : d.Store) :
    d.running (guardStore o c st) = d.running st := by
  cases c with
  | some wallet => rfl
  | none => exact running_afterRead _ _

theorem running_creation (o : d.Environment) (r : Creation) (overwrite : Bool)
    (storageOptions : Option KeyStorageConfig) (c : Cache) (st : d.Store) :
    d.running (d.exec o (r.program overwrite storageOptions) (c, st)).2.2 = d.running st := by
  rw [exec_creation_store]
  split
  · rw [running_afterSave, running_guardStore]
  · rw [running_guardStore]

/-- A creation clears the device slot on its way. -/
def creationWipes (o : d.Environment) (overwrite : Bool) (c : Cache) (cfg : KeyStorageConfig)
    (st : d.Store) : Bool :=
  guardClears o c st || (admits o overwrite c st && d.saveClears (o .saveMnemonic) cfg st)

/-- The slot that a creation writes, if the guard lets it through and the save reaches one. -/
def creationLands (o : d.Environment) (overwrite : Bool) (c : Cache) (cfg : KeyStorageConfig)
    (st : d.Store) : Option Slot :=
  if admits o overwrite c st then d.landing (o .saveMnemonic) cfg st else none

theorem slots_creation (o : d.Environment) (r : Creation) (overwrite : Bool)
    (storageOptions : Option KeyStorageConfig) (c : Cache) (st : d.Store) :
    d.slots (d.exec o (r.program overwrite storageOptions) (c, st)).2.2 =
      ((d.slots st).wipeDevice
        (creationWipes o overwrite c (storageConfig storageOptions) st)).land
          (creationLands o overwrite c (storageConfig storageOptions) st) (r.phrase d o) := by
  rw [exec_creation_store]
  unfold creationWipes creationLands
  cases admits o overwrite c st with
  | false => simp [slots_guardStore]
  | true =>
    simp only [if_true, Bool.true_and]
    exact slots_guardedSave o (r.phrase d o) c (storageConfig storageOptions) st

end Backend

end RlyNetworkSdk.Platform
