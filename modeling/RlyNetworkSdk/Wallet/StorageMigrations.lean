import RlyNetworkSdk.Wallet.DeviceOnly
import RlyNetworkSdk.Wallet.StorageUpdate

/-!
# Moving the Wallet Back and Forth

`updateWalletStorage` may be called any number of times, with any configurations, some of them
refused. Stale copies stay behind in the slot that is not read; still the phrase that is read
stays the same, and whether the wallet is in the cloud depends on the last update that returned
alone. The exception is an invalid phrase on Android: the update throws, but has stored it.

Every native call succeeds here, every deletion completes before the next call, and a save to
the cloud slot can be tried.

## Proof outline

1. One update is a write and a deletion (`slots_update`, `update_returns`)
2. One call keeps the agreement exactly when it is `Harmless` (`agrees_step_iff`)
3. A run keeps it exactly when all of its calls are (`updates_history_independent_iff`)
-/

namespace RlyNetworkSdk.Platform

open KeyStorage Channel Concurrency Dart

/-! ## Calls and states -/

/-- The calls of a sequence of migrations. -/
inductive StorageCall where
  | updateWalletStorage (storageOptions : KeyStorageConfig)
  | getWallet
  | getMnemonic
  deriving DecidableEq, Repr

def StorageCall.operation : StorageCall → Operation
  | updateWalletStorage storageOptions => .updateWalletStorage storageOptions
  | getWallet => .getWallet
  | getMnemonic => .getMnemonic

/-- A call whose native calls all succeed. -/
structure SuccessfulStorageCall (d : Backend) where
  call : StorageCall
  o : d.Environment
  succeeds : ∀ method, d.Succeeds (o method)

def SuccessfulStorageCall.toCall {d : Backend} (l : SuccessfulStorageCall d) : SuccessfulCall d :=
  ⟨l.call.operation, l.o, l.succeeds⟩

/-- Between two calls no deletion is running, and the cloud slot is available. -/
structure Ready (d : Backend) where
  cache : Cache
  store : d.Store
  idle : d.running store = 0
  available : d.cloudAvailable store = true

namespace Backend

variable {d : Backend}

/-! ## Step 1: One update -/

/-- With every native call succeeding, a completed deletion empties the cloud slot alone. -/
theorem Succeeds.slots_cloud_deleted {o : d.Outcomes} (ho : d.Succeeds o) (st : d.Store) :
    d.slots (d.settle (d.afterDeleteCloud o st)) = (d.slots st).wipeCloud true := by
  apply Slots.ext
  · rw [ho.cloud_deleted]
    rfl
  · rw [slots_settle, slots_afterDeleteCloud, Slots.wipeCloud_device, Slots.wipeCloud_device,
      Slots.wipeCloud_device]

/-- The handler replies an error for a phrase that it objects to, whatever it does then. -/
theorem completionOf_saveReply_of_not_savable {m : String} (hm : d.savable m = false)
    (o : d.Outcomes) (cfg : KeyStorageConfig) (st : d.Store) :
    (completionOf (d.saveReply o m cfg st)).isReturned = false := by
  cases d with
  | android k =>
    -- `result.error` is called first, and Dart sees the first reply
    have hv : k.validate m = false := hm
    simp [saveReply, hv, completionOf, Reply.decode, Completion.isReturned]
  | ios c => cases hm

/-- When an update returns. -/
theorem update_returns {o : d.Environment} (ho : ∀ method, d.Succeeds (o method))
    (cfg : KeyStorageConfig) (c : Cache) {st : d.Store} {m : String}
    (hm : (d.slots st).current = some m) :
    (d.exec o (WalletManager.updateWalletStorage cfg) (c, st)).1.isReturned =
      (d.savable m && !d.refuses cfg st) := by
  have hseen : d.seen (o .getMnemonic) st = some (some m) := by
    rw [seen_of_readsSucceed (ho _).reads, hm]
  have hreply : (completionOf (d.saveReply (o .saveMnemonic) m cfg st)).isReturned =
      (d.savable m && !d.refuses cfg st) := by
    -- a phrase that cannot be saved makes the update throw
    cases hsavable : d.savable m with
    | false => rw [completionOf_saveReply_of_not_savable hsavable, Bool.false_and]
    | true =>
      rw [(ho _).completionOf_saveReply hsavable]
      cases d.refuses cfg st <;> rfl
  rw [← hreply, exec_updateWalletStorage_some hseen]
  cases completionOf (d.saveReply (o .saveMnemonic) m cfg st) <;> rfl

/-- **One update**, with the deletion that it starts: the phrase is written to the slot that it
goes to, unless the platform refuses, and the cloud slot is emptied if the update returned and
was meant for the device. -/
theorem slots_update {o : d.Environment} (ho : ∀ method, d.Succeeds (o method))
    (cfg : KeyStorageConfig) (c : Cache) {st : d.Store} (hidle : d.running st = 0) {m : String}
    (hm : (d.slots st).current = some m) :
    d.slots (d.settle (d.exec o (WalletManager.updateWalletStorage cfg) (c, st)).2.2) =
      ((d.slots st).land (if d.refuses cfg st then none else some (d.target cfg st)) m).wipeCloud
        (!cfg.saveToCloud && (d.savable m && !d.refuses cfg st)) := by
  have hseen : d.seen (o .getMnemonic) st = some (some m) := by
    rw [seen_of_readsSucceed (ho _).reads, hm]
  have hreturns := update_returns ho cfg c hm
  have hsaved : d.slots (d.afterSave (o .saveMnemonic) m cfg st) =
      (d.slots st).land (if d.refuses cfg st then none else some (d.target cfg st)) m := by
    rw [slots_afterSave, (ho _).saveClears, (ho _).landing, Slots.wipeDevice_false]
  have hdeletes : updateDeletes o m cfg st =
      (!cfg.saveToCloud && (d.savable m && !d.refuses cfg st)) := by
    rw [← hreturns, updateDeletes, exec_updateWalletStorage_some hseen]
    cases completionOf (d.saveReply (o .saveMnemonic) m cfg st) <;> rfl
  rw [exec_updateWalletStorage_store (ho _).reads cfg c hm, hdeletes]
  -- a deletion is started exactly when the save returned and was meant for the device
  split
  · next hdeleted => rw [(ho _).slots_cloud_deleted, hsaved, hdeleted]
  · next hkept =>
    rw [slots_settle, running_afterSave, hidle, hsaved, Bool.eq_false_iff.mpr hkept]
    rfl

/-! ## The machine -/

/-- `walletEligibleForCloudSync` tells whether the cloud slot is filled. -/
theorem exec_walletEligibleForCloudSync {o : d.Environment}
    (ho : d.ReadsSucceed (o .mnemonicBackedUpToCloud)) (w : Cache × d.Store) :
    d.exec o WalletManager.walletEligibleForCloudSync w =
      (.returned (d.slots w.2).cloud.isSome, w) := by
  have hinvoked := exec_invokeMethod_some (f := Value.asBool) (w := w)
    (invoke_mnemonicBackedUpToCloud ho w.2)
  simp only [WalletManager.walletEligibleForCloudSync, KeyManager.walletBackedUpToCloud, exec_bind,
    exec_await, hinvoked]
  rfl

/-- A call that does not update leaves the store as it is. -/
theorem settledStep_read (l : SuccessfulStorageCall d)
    (hl : ∀ storageOptions, l.call ≠ .updateWalletStorage storageOptions) (w : Cache × d.Store)
    (hw : d.running w.2 = 0) : (settledStep l.toCall w).2 = w.2 := by
  obtain ⟨call, o, ho⟩ := l
  obtain ⟨c, st⟩ := w
  cases call with
  | updateWalletStorage cfg => exact absurd rfl (hl cfg)
  | getWallet =>
    have hstore : (d.exec o WalletManager.getWallet (c, st)).2.2 = st := by
      rw [exec_getWallet_store]
      -- a cached wallet keeps the platform from being asked at all
      cases c with
      | some wallet => rfl
      | none => exact afterRead_of_readsSucceed (ho _).reads st
    show d.settle (d.exec o WalletManager.getWallet (c, st)).2.2 = st
    rw [hstore]
    exact settle_of_idle hw
  | getMnemonic =>
    show d.settle (d.exec o KeyManager.getMnemonic (c, st)).2.2 = st
    rw [exec_getMnemonic_of_readsSucceed (ho _).reads]
    exact settle_of_idle hw

/-- No call makes the cloud slot unavailable. -/
theorem cloudAvailable_settledStep (l : SuccessfulStorageCall d) (w : Cache × d.Store)
    (hw : d.running w.2 = 0) :
    d.cloudAvailable (settledStep l.toCall w).2 = d.cloudAvailable w.2 := by
  cases hcall : l.call with
  | getWallet => rw [settledStep_read l (by simp [hcall]) w hw]
  | getMnemonic => rw [settledStep_read l (by simp [hcall]) w hw]
  | updateWalletStorage cfg =>
    obtain ⟨call, o, ho⟩ := l
    obtain ⟨c, st⟩ := w
    subst hcall
    show d.cloudAvailable (d.settle (d.exec o (WalletManager.updateWalletStorage cfg) (c, st)).2.2) =
      d.cloudAvailable st
    rw [cloudAvailable_settle]
    -- without a phrase nothing is written
    cases hm : (d.slots st).current with
    | none =>
      have hseen : d.seen (o .getMnemonic) st = some none := by
        rw [seen_of_readsSucceed (ho _).reads, hm]
      rw [exec_updateWalletStorage_none hseen, afterRead_of_readsSucceed (ho _).reads]
    | some m =>
      rw [exec_updateWalletStorage_store (ho _).reads cfg c hm]
      split <;> simp

/-- The state after a call and after the deletion that it started. -/
def migrate (l : SuccessfulStorageCall d) (s : Ready d) : Ready d where
  cache := (settledStep l.toCall (s.cache, s.store)).1
  store := (settledStep l.toCall (s.cache, s.store)).2
  idle := running_settle _
  available := (cloudAvailable_settledStep l (s.cache, s.store) s.idle).trans s.available

/-- The `saveToCloud` of the last update that returned. -/
def lastSaved (l : SuccessfulStorageCall d) (s : Ready d) (saved : Bool) : Bool :=
  match l.call with
  | .updateWalletStorage storageOptions =>
    if (d.exec l.o (WalletManager.updateWalletStorage storageOptions)
        (s.cache, s.store)).1.isReturned then storageOptions.saveToCloud
    else saved
  | .getWallet | .getMnemonic => saved

def trackedStep (l : SuccessfulStorageCall d) (s : Ready d × Bool) : Ready d × Bool :=
  (migrate l s.1, lastSaved l s.1 s.2)

/-- `getMnemonic` returns `m`, and `walletEligibleForCloudSync` what was saved last. -/
def Agrees (m : String) (s : Ready d × Bool) : Prop :=
  ∀ o : d.Environment, (∀ method, d.Succeeds (o method)) →
    (d.exec o KeyManager.getMnemonic (s.1.cache, s.1.store)).1 = .returned (some m) ∧
      (d.exec o WalletManager.walletEligibleForCloudSync (s.1.cache, s.1.store)).1 =
        .returned s.2

/-- The call does not store an invalid phrase in an empty cloud slot. -/
def Harmless (m : String) (l : SuccessfulStorageCall d) (s : Ready d × Bool) : Prop :=
  match l.call with
  | .updateWalletStorage storageOptions =>
    storageOptions.saveToCloud = true → d.savable m = true ∨ (d.slots s.1.store).cloud ≠ none
  | .getWallet | .getMnemonic => True

/-! ## Step 2: One call -/

/-- A save to an available cloud slot is not refused. -/
theorem refuses_eq_false {cfg : KeyStorageConfig} (hcfg : cfg.saveToCloud = true) {st : d.Store}
    (hst : d.cloudAvailable st = true) : d.refuses cfg st = false := by
  cases d with
  | android k =>
    show (cfg.rejectOnCloudSaveFailure && !(cfg.saveToCloud && (android k).cloudAvailable st)) = false
    rw [hcfg, hst, Bool.and_true, Bool.not_true, Bool.and_false]
  | ios c => rfl

/-- **Two slots as one cell that is moved.** The phrase that is read is written to one of the
slots or, where the move is refused, to none; if the move succeeds and goes to the device, the
cloud slot is emptied. What is read stays, and the cloud slot is filled as the last successful
move says, unless a move to the cloud fails that has written to an empty slot. -/
theorem move_agrees_iff {P : Type} {s : Slots P} {m : P} (hs : s.current = some m)
    (toCloud accepted : Bool) {refused : Bool} (hrefused : toCloud = true → refused = false) :
    let s' := (s.land (if refused then none else some (if toCloud then .cloud else .device))
      m).wipeCloud (!toCloud && (accepted && !refused))
    (s'.current = some m ∧
        s'.cloud.isSome = if accepted && !refused then toCloud else s.cloud.isSome) ↔
      (toCloud = true → accepted = true ∨ s.cloud ≠ none) := by
  obtain ⟨cloud, device⟩ := s
  cases toCloud with
  | true =>
    -- the cloud slot is filled with the phrase, whether or not this is reported
    obtain rfl := hrefused rfl
    cases accepted with
    | true => simp
    | false => cases cloud <;> simp
  | false =>
    cases refused with
    | true => simp [hs]
    | false =>
      cases accepted with
      | true => simp
      | false =>
        -- a cloud copy that hides what is written is the same phrase
        cases cloud with
        | none => simp
        | some q => simpa using hs

theorem exists_succeeds (d : Backend) : ∃ o : d.Outcomes, d.Succeeds o := by
  cases d with
  | android k => exact ⟨Sample.androidSuccess, rfl, rfl, rfl, rfl, rfl⟩
  | ios c => exact ⟨Sample.iosSuccess, rfl, rfl, rfl, fun _ => rfl, fun _ => rfl⟩

theorem agrees_iff (m : String) (s : Ready d × Bool) :
    Agrees m s ↔ (d.slots s.1.store).current = some m ∧ (d.slots s.1.store).cloud.isSome = s.2 := by
  obtain ⟨s, saved⟩ := s
  -- the two calls read the slots, whatever the outcomes of the native calls are
  have hobserve : ∀ o : d.Environment, (∀ method, d.Succeeds (o method)) →
      ((d.exec o KeyManager.getMnemonic (s.cache, s.store)).1 = .returned (some m) ∧
        (d.exec o WalletManager.walletEligibleForCloudSync (s.cache, s.store)).1 =
          .returned saved ↔
      (d.slots s.store).current = some m ∧ (d.slots s.store).cloud.isSome = saved) := by
    intro o ho
    rw [exec_getMnemonic_of_readsSucceed (ho _).reads,
      exec_walletEligibleForCloudSync (ho _).reads]
    simp
  constructor
  · intro h
    obtain ⟨o, ho⟩ := exists_succeeds d
    exact (hobserve (fun _ => o) fun _ => ho).mp (h (fun _ => o) fun _ => ho)
  · intro h o ho
    exact (hobserve o ho).mpr h

theorem agrees_update_iff {m : String} {l : SuccessfulStorageCall d} {s : Ready d × Bool}
    {cfg : KeyStorageConfig} (hl : l.call = .updateWalletStorage cfg) (h : Agrees m s) :
    Agrees m (trackedStep l s) ↔ Harmless m l s := by
  obtain ⟨call, o, ho⟩ := l
  obtain ⟨⟨c, st, hidle, havailable⟩, saved⟩ := s
  subst hl
  obtain ⟨hm, hsaved⟩ := (agrees_iff m _).mp h
  have hslots := slots_update ho cfg c hidle hm
  have hreturns := update_returns ho cfg c hm
  -- the cloud is available, so the configuration alone chooses the slot
  have htarget : d.target cfg st = if cfg.saveToCloud then .cloud else .device := by
    rw [target, havailable, Bool.and_true]
  -- what remains is about the slots: which of them the phrase is in afterwards
  have hmove := move_agrees_iff hm cfg.saveToCloud (d.savable m) fun hcfg =>
    refuses_eq_false hcfg havailable
  rw [← htarget, ← hslots, ← hreturns, hsaved] at hmove
  rw [agrees_iff]
  exact hmove

theorem agrees_read_iff {m : String} {l : SuccessfulStorageCall d} {s : Ready d × Bool}
    (hl : ∀ storageOptions, l.call ≠ .updateWalletStorage storageOptions) (h : Agrees m s) :
    Agrees m (trackedStep l s) ↔ Harmless m l s := by
  have hstore : (trackedStep l s).1.store = s.1.store :=
    settledStep_read l hl (s.1.cache, s.1.store) s.1.idle
  have hsaved : (trackedStep l s).2 = s.2 := by
    show lastSaved l s.1 s.2 = s.2
    unfold lastSaved
    split
    · next cfg hcall => exact absurd hcall (hl cfg)
    · rfl
    · rfl
  -- such a call is harmless by definition, and leaves what was observed
  have hharmless : Harmless m l s := by
    unfold Harmless
    split
    · next cfg hcall => exact absurd hcall (hl cfg)
    · trivial
    · trivial
  apply iff_of_true _ hharmless
  rw [agrees_iff] at h ⊢
  rw [hstore, hsaved]
  exact h

/-- **One call** keeps the agreement exactly when it is harmless. -/
theorem agrees_step_iff (m : String) (l : SuccessfulStorageCall d) (s : Ready d × Bool)
    (h : Agrees m s) : Agrees m (trackedStep l s) ↔ Harmless m l s := by
  cases hcall : l.call with
  | updateWalletStorage cfg => exact agrees_update_iff hcall h
  | getWallet => exact agrees_read_iff (by simp [hcall]) h
  | getMnemonic => exact agrees_read_iff (by simp [hcall]) h

/-! ## Step 3: All calls -/

/-- Whatever the slots hold from which the phrase is read, and whatever is called. -/
def HistoryIndependent (d : Backend) : Prop :=
  ∀ (m : String) (calls : List (SuccessfulStorageCall d)) (s : Ready d) (saved : Bool),
    Agrees m (s, saved) → Transition.Along trackedStep (Agrees m) calls (s, saved)

/-- **Updates do not depend on the history, exactly.** On either platform, from every content of
the slots from which `getMnemonic` returns `m`, for every sequence of updates and reads:
`getMnemonic` returns `m` after every call and `walletEligibleForCloudSync` the `saveToCloud` of
the last update that returned, or its first value, if and only if no update is told to store in
an empty cloud slot a phrase to which the save handler objects. -/
theorem updates_history_independent_iff (d : Backend) (m : String)
    (calls : List (SuccessfulStorageCall d)) (s : Ready d) (saved : Bool)
    (hstart : Agrees m (s, saved)) :
    Transition.Along trackedStep (Agrees m) calls (s, saved) ↔
      Transition.StepsMeet trackedStep (Harmless m) calls (s, saved) :=
  Transition.along_iff_stepsMeet (agrees_step_iff m) calls hstart

/-- A state of the Android part with these slots. -/
def androidReady (cloud device : Option String) : Ready Sample.android where
  cache := none
  store := Sample.androidStore cloud device
  idle := rfl
  available := rfl

/-- An Android call whose native calls all succeed. -/
def androidStorageCall (call : StorageCall) : SuccessfulStorageCall Sample.android :=
  ⟨call, (androidCall call.operation).o, (androidCall call.operation).succeeds⟩

/-- A move to the device, a refused one, and the move back to the cloud. -/
def backAndForth : List StorageCall :=
  [.updateWalletStorage ⟨false, false⟩, .getMnemonic, .updateWalletStorage ⟨false, true⟩,
    .updateWalletStorage ⟨true, true⟩, .getWallet]

theorem updates_history_independent_iff_sample :
    Transition.Along trackedStep (Agrees Sample.zeroPhrase) (backAndForth.map androidStorageCall)
        (androidReady (some Sample.zeroPhrase) (some Sample.legalPhrase), true) ↔
      Transition.StepsMeet trackedStep (Harmless Sample.zeroPhrase)
        (backAndForth.map androidStorageCall)
        (androidReady (some Sample.zeroPhrase) (some Sample.legalPhrase), true) :=
  updates_history_independent_iff Sample.android Sample.zeroPhrase
    (backAndForth.map androidStorageCall)
    (androidReady (some Sample.zeroPhrase) (some Sample.legalPhrase)) true
    ((agrees_iff _ _).mpr ⟨rfl, rfl⟩)

/-- **An update that throws has moved the wallet.** An invalid phrase is on the device alone; the
move to the cloud reports an error, and fills the cloud slot. -/
theorem not_historyIndependent : ¬ HistoryIndependent Sample.android := by
  intro h
  -- as `importExistingWallet` leaves the slots that is told to save to the device
  have hstart : Agrees "not a phrase" (androidReady none (some "not a phrase"), false) :=
    (agrees_iff _ _).mpr ⟨rfl, rfl⟩
  have hrun := h "not a phrase" [androidStorageCall (.updateWalletStorage ⟨true, false⟩)]
    (androidReady none (some "not a phrase")) false hstart
  have hcloud := ((agrees_iff _ _).mp hrun.2).2
  revert hcloud
  decide +kernel

/-- For a phrase to which the save handler does not object the condition always holds. -/
theorem harmless_of_savable {m : String} (hm : d.savable m = true)
    (calls : List (SuccessfulStorageCall d)) (s : Ready d × Bool) :
    Transition.StepsMeet trackedStep (Harmless m) calls s := by
  apply Transition.stepsMeet_of_forall
  intro l s
  unfold Harmless
  split
  · exact fun _ => .inl hm
  · trivial
  · trivial

/-- On iOS the save handler objects to no phrase. -/
theorem historyIndependent_ios (c : Ios.Bip39C) : HistoryIndependent (.ios c) := by
  intro m calls s saved hstart
  apply (Transition.along_iff_stepsMeet (agrees_step_iff m) calls hstart).mpr
  exact harmless_of_savable rfl calls (s, saved)

end Backend

end RlyNetworkSdk.Platform
