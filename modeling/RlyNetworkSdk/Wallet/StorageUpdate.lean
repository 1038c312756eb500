import RlyNetworkSdk.Wallet.Operations

/-!
# `updateWalletStorage` and the Stored Wallet

An update reads the phrase, writes it where the new configuration wants it, and, when the
wallet goes to the device only, deletes the cloud copy. The deletion runs whenever the save
was reported as done, so everything rests on what a platform reports after a failed write.
-/

namespace RlyNetworkSdk.Platform.Backend

open KeyStorage Channel Concurrency Dart

variable {d : Backend}

/-! ## The store afterwards -/

/-- The update reports that the save is done, and goes on to delete the cloud copy. The report
is all that it goes by. -/
def updateDeletes (o : d.Environment) (m : String) (cfg : KeyStorageConfig) (st : d.Store) :
    Bool :=
  !cfg.saveToCloud && (completionOf (d.saveReply (o .saveMnemonic) m cfg st)).isReturned

/-- The store after an update of the wallet with phrase `m`. -/
theorem exec_updateWalletStorage_store {o : d.Environment}
    (hread : d.ReadsSucceed (o .getMnemonic)) (cfg : KeyStorageConfig) (c : Cache)
    {st : d.Store} {m : String} (hm : (d.slots st).current = some m) :
    (d.exec o (WalletManager.updateWalletStorage cfg) (c, st)).2.2 =
      if updateDeletes o m cfg st then
        d.afterDeleteCloud (o .deleteCloudMnemonic) (d.afterSave (o .saveMnemonic) m cfg st)
      else d.afterSave (o .saveMnemonic) m cfg st := by
  have hseen : d.seen (o .getMnemonic) st = some (some m) := by
    rw [seen_of_readsSucceed hread, hm]
  rw [exec_updateWalletStorage_some hseen, afterRead_of_readsSucceed hread]
  unfold updateDeletes
  cases completionOf (d.saveReply (o .saveMnemonic) m cfg st) with
  | pending => simp [Completion.isReturned]
  | threw e => simp [Completion.isReturned]
  -- only here does the Dart code come to `deleteCloudMnemonic`
  | returned u => cases cfg.saveToCloud <;> simp [Completion.isReturned]

/-! ## The wallet afterwards -/

/-- What `getMnemonic` returns, in terms of the cell. -/
theorem exec_getMnemonic_eq_some {o : d.Environment} (ho : d.ReadsSucceed (o .getMnemonic))
    (w : Cache × d.Store) (m : String) :
    (d.exec o KeyManager.getMnemonic w).1 = .returned (some m) ↔
      (d.slots w.2).current = some m := by
  rw [exec_getMnemonic_of_readsSucceed ho]
  simp

/-- The cloud copy is gone once the deletions that run after the update have completed with
`results`: one that the update makes at once, or one that it or an earlier call started. -/
def updateEmptiesCloud (o : d.Environment) (m : String) (cfg : KeyStorageConfig) (st : d.Store)
    (results : List Bool) : Bool :=
  (updateDeletes o m cfg st && d.deletesCloudAtOnce (o .deleteCloudMnemonic)) ||
    (results.take (d.running st + if updateDeletes o m cfg st then d.deletionsStarted else 0)).contains
      true

/-- The slots after the update and the completions of the running deletions. -/
theorem slots_updated {o : d.Environment} (hread : d.ReadsSucceed (o .getMnemonic))
    (cfg : KeyStorageConfig) (c : Cache) {st : d.Store} {m : String}
    (hm : (d.slots st).current = some m) (results : List Bool) :
    d.slots (d.tasksComplete results
        (d.exec o (WalletManager.updateWalletStorage cfg) (c, st)).2.2) =
      (((d.slots st).wipeDevice (d.saveClears (o .saveMnemonic) cfg st)).land
        (d.landing (o .saveMnemonic) cfg st) m).wipeCloud
          (updateEmptiesCloud o m cfg st results) := by
  rw [slots_tasksComplete, exec_updateWalletStorage_store hread cfg c hm]
  unfold tasksEmptyCloud updateEmptiesCloud
  -- without a deletion of its own the update leaves the cloud to those that are running
  cases updateDeletes o m cfg st with
  | false => simp [running_afterSave, slots_afterSave]
  | true =>
    simp only [if_true, slots_afterDeleteCloud, slots_afterSave, running_afterDeleteCloud,
      running_afterSave, Slots.wipeCloud_wipeCloud, Bool.true_and]

/-- `updateWalletStorage` never loses the wallet: a later read finds the same phrase, however
the update ends and whenever the deletions complete. -/
def UpdateKeepsWallet (d : Backend) : Prop :=
  ∀ (cfg : KeyStorageConfig) (o o' : d.Environment) (c : Cache) (st : d.Store) (m : String)
    (results : List Bool),
    d.ReadsSucceed (o .getMnemonic) → d.ReadsSucceed (o' .getMnemonic) →
    (d.slots st).current = some m →
    (d.exec o' KeyManager.getMnemonic
      (c, d.tasksComplete results
        (d.exec o (WalletManager.updateWalletStorage cfg) (c, st)).2.2)).1 = .returned (some m)

/-- The phrase has a copy that survives the update: it was written to the device slot; or
it was written to the cloud slot or stood there before, and no deletion empties that slot;
or it stood in the device slot before, and the preferences file was not cleared. -/
def UpdateLeavesCopy (d : Backend) (o : d.Environment) (m : String) (cfg : KeyStorageConfig)
    (st : d.Store) (results : List Bool) : Prop :=
  d.landing (o .saveMnemonic) cfg st = some .device ∨
    ((d.landing (o .saveMnemonic) cfg st = some .cloud ∨ (d.slots st).cloud = some m) ∧
      updateEmptiesCloud o m cfg st results = false) ∨
    ((d.slots st).device = some m ∧ d.saveClears (o .saveMnemonic) cfg st = false)

/-- **The update keeps the wallet, exactly.** On either platform, whether the update
returns, throws or hangs, and however the deletions complete that are running then:
`getMnemonic` still returns the phrase if and only if the update leaves a copy of it. -/
theorem update_keeps_wallet_iff (d : Backend) (cfg : KeyStorageConfig) (o o' : d.Environment)
    (c : Cache) (st : d.Store) (m : String) (results : List Bool)
    (hread : d.ReadsSucceed (o .getMnemonic)) (hread' : d.ReadsSucceed (o' .getMnemonic))
    (hm : (d.slots st).current = some m) :
    (d.exec o' KeyManager.getMnemonic
        (c, d.tasksComplete results
          (d.exec o (WalletManager.updateWalletStorage cfg) (c, st)).2.2)).1 =
            .returned (some m) ↔
      d.UpdateLeavesCopy o m cfg st results := by
  rw [exec_getMnemonic_eq_some hread', slots_updated hread cfg c hm results,
    Slots.current_move_eq_some_iff hm]
  unfold UpdateLeavesCopy
  -- where the phrase has landed: nowhere, on the device or in the cloud
  match d.landing (o .saveMnemonic) cfg st with
  | none => simp
  | some .device => simp
  | some .cloud => simp

/-- Moving a wallet from the cloud to the device with every native call succeeding. -/
theorem update_keeps_wallet_iff_sample :
    (Sample.ios.exec (fun _ => Sample.iosSuccess) KeyManager.getMnemonic
        (none, Sample.ios.tasksComplete []
          (Sample.ios.exec (fun _ => Sample.iosSuccess)
            (WalletManager.updateWalletStorage ⟨false, false⟩)
            (none, (⟨some Sample.zeroPhrase, none⟩ : Slots String))).2.2)).1 =
              .returned (some Sample.zeroPhrase) ↔
      Sample.ios.UpdateLeavesCopy (fun _ => Sample.iosSuccess) Sample.zeroPhrase ⟨false, false⟩
        (⟨some Sample.zeroPhrase, none⟩ : Slots String) [] :=
  update_keeps_wallet_iff Sample.ios ⟨false, false⟩ (fun _ => Sample.iosSuccess)
    (fun _ => Sample.iosSuccess) none (⟨some Sample.zeroPhrase, none⟩ : Slots String)
    Sample.zeroPhrase [] (fun _ => rfl) (fun _ => rfl) rfl

/-- **A failed device write is followed by the deletion.** The wallet is in the cloud slot
and moves to the device. On Android `commit` fails, on iOS `SecItemAdd`; the save is
reported as done, the cloud copy is deleted, and the phrase is gone. -/
theorem not_updateKeepsWallet :
    ¬ UpdateKeepsWallet Sample.android ∧ ¬ UpdateKeepsWallet Sample.ios := by
  constructor
  · intro h
    have hlater := h ⟨false, false⟩ (fun _ => { Sample.androidSuccess with commit := false })
      (fun _ => Sample.androidSuccess) none
      (Sample.androidStore (some Sample.zeroPhrase) none) Sample.zeroPhrase [true]
      ⟨rfl, rfl, rfl⟩ ⟨rfl, rfl, rfl⟩ rfl
    revert hlater
    decide +kernel
  · intro h
    have hlater := h ⟨false, false⟩ (fun _ => { Sample.iosSuccess with secItemAdd := false })
      (fun _ => Sample.iosSuccess) none (⟨some Sample.zeroPhrase, none⟩ : Slots String)
      Sample.zeroPhrase [] (fun _ => rfl) (fun _ => rfl) rfl
    revert hlater
    decide +kernel

end RlyNetworkSdk.Platform.Backend
