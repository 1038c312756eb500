import RlyNetworkSdk.Wallet.Sequential

/-!
# Durability of a Created or Imported Wallet

Does the wallet that `createWallet(overwrite: true)` or `importExistingWallet(..,
overwrite: true)` returns come back from `getWallet` after a restart? The operation reports
success after a write to one slot; the next process reads the slots in a fixed order.
-/

namespace RlyNetworkSdk.Platform.Backend

open KeyStorage Channel Concurrency Dart

variable {d : Backend}

/-! ## After a restart -/

/-- What `getWallet` returns in a new process, in terms of the cell. -/
theorem exec_getWallet_restarted {o : d.Environment} (ho : d.ReadsSucceed (o .getMnemonic))
    (st : d.Store) (wallet : Wallet) :
    (d.exec o WalletManager.getWallet (none, st)).1 = .returned (some wallet) ↔
      ∃ m, (d.slots st).current = some m ∧ d.derived m = .returned wallet := by
  rw [exec_getWallet_of_readsSucceed ho]
  cases (d.slots st).current with
  | none => simp [walletRead]
  | some m => cases hacc : d.accepts m <;> simp [walletRead, derived, hacc]

/-- A creation that returns has let its save through and derived the wallet of its phrase. -/
theorem exec_creation_returned {o : d.Environment} {r : Creation} {overwrite : Bool}
    {storageOptions : Option KeyStorageConfig} {c : Cache} {st : d.Store} {wallet : Wallet}
    (h : (d.exec o (r.program overwrite storageOptions) (c, st)).1 = .returned wallet) :
    admits o overwrite c st = true ∧ d.derived (r.phrase d o) = .returned wallet ∧
      (d.exec o (r.program overwrite storageOptions) (c, st)).2 =
        (some wallet, d.afterSave (o .saveMnemonic) (r.phrase d o)
          (storageConfig storageOptions) (guardStore o c st)) := by
  obtain ⟨hadm, hreply, hderived⟩ := (creation_returns_iff o r overwrite storageOptions c st
    wallet).mp h
  refine ⟨hadm, hderived, ?_⟩
  -- the wallet is derived from a phrase that the platform accepts
  have hacc : d.accepts (r.phrase d o) = true ∧ d.walletOf (r.phrase d o) = wallet := by
    unfold derived at hderived
    split at hderived
    · exact ⟨by assumption, Completion.returned.inj hderived⟩
    · simp at hderived
  rw [exec_creation_eq]
  simp [hadm, hreply, hacc.1, hacc.2]

/-! ## Durability -/

/-- The wallet of every creation with `overwrite: true` survives a restart: the next process,
whose cache is empty, finds it if its reads succeed. -/
def CreatedWalletDurable (d : Backend) : Prop :=
  ∀ (r : Creation) (storageOptions : Option KeyStorageConfig) (o o' : d.Environment) (c : Cache)
    (st : d.Store) (wallet : Wallet),
    (d.exec o (r.program true storageOptions) (c, st)).1 = .returned wallet →
    d.ReadsSucceed (o' .getMnemonic) →
    (d.exec o' WalletManager.getWallet
      (none, (d.exec o (r.program true storageOptions) (c, st)).2.2)).1 = .returned (some wallet)

/-- The written phrase is what the next process reads. The save must have reached the cloud
slot; or the device slot, and the cloud slot then holds nothing or another copy of the
wallet; or no slot at all, and the wallet was the stored one before, with no clearing of the
preferences file that takes it away. -/
def WriteIsReadBack (d : Backend) (o : d.Environment) (cfg : KeyStorageConfig) (c : Cache)
    (st : d.Store) (wallet : Wallet) : Prop :=
  match d.landing (o .saveMnemonic) cfg st with
  | some .cloud => True
  | some .device => ∀ m, (d.slots st).cloud = some m → d.derived m = .returned wallet
  | none => ∃ m, ((d.slots st).wipeDevice (creationClears o c cfg st)).current = some m ∧
      d.derived m = .returned wallet

/-- **Durability, exactly.** On either platform, a creation that returned a wallet is
durable if and only if its write is read back. -/
theorem created_wallet_durable_iff (d : Backend) (r : Creation)
    (storageOptions : Option KeyStorageConfig) (o o' : d.Environment) (c : Cache) (st : d.Store)
    (wallet : Wallet)
    (hret : (d.exec o (r.program true storageOptions) (c, st)).1 = .returned wallet)
    (hread : d.ReadsSucceed (o' .getMnemonic)) :
    (d.exec o' WalletManager.getWallet
        (none, (d.exec o (r.program true storageOptions) (c, st)).2.2)).1 =
          .returned (some wallet) ↔
      d.WriteIsReadBack o (storageConfig storageOptions) c st wallet := by
  -- the next process reads the cell, into which the save has written or not
  obtain ⟨-, hderived, hstate⟩ := exec_creation_returned hret
  rw [hstate, exec_getWallet_restarted hread, slots_guardedSave,
    Slots.current_land_iff (Q := fun m => d.derived m = .returned wallet) _ _ hderived]
  unfold WriteIsReadBack
  cases d.landing (o .saveMnemonic) (storageConfig storageOptions) st with
  | none => exact Iff.rfl
  | some slot =>
    cases slot with
    | cloud => exact Iff.rfl
    | device => simp only [Slots.wipeDevice_cloud]

/-- An import over a wallet that is in both slots goes to the cloud slot and is read back. -/
theorem created_wallet_durable_iff_sample :
    (Sample.android.exec (fun _ => Sample.androidSuccess) WalletManager.getWallet
      (none, (Sample.android.exec (fun _ => Sample.androidSuccess)
        ((Creation.importExistingWallet Sample.legalPhrase).program true none)
        (none, Sample.androidStore (some Sample.zeroPhrase) (some Sample.zeroPhrase))).2.2)).1 =
      .returned (some (Sample.android.walletOf Sample.legalPhrase)) := by
  refine (created_wallet_durable_iff Sample.android (.importExistingWallet Sample.legalPhrase) none
    (fun _ => Sample.androidSuccess) (fun _ => Sample.androidSuccess) none
    (Sample.androidStore (some Sample.zeroPhrase) (some Sample.zeroPhrase)) _ (by decide +kernel)
    ⟨rfl, rfl, rfl⟩).mpr ?_
  exact trivial

/-- **A stale cloud copy wins.** A phrase imported for device-only storage over a wallet in
the cloud slot is not the one the next process reads, on either platform, although every
native call succeeds. -/
theorem not_createdWalletDurable :
    ¬ CreatedWalletDurable Sample.android ∧ ¬ CreatedWalletDurable Sample.ios := by
  constructor
  · intro h
    have hlater := h (.importExistingWallet Sample.legalPhrase) (some ⟨false, false⟩)
      (fun _ => Sample.androidSuccess) (fun _ => Sample.androidSuccess) none
      (Sample.androidStore (some Sample.zeroPhrase) none)
      (Sample.android.walletOf Sample.legalPhrase) (by decide +kernel) ⟨rfl, rfl, rfl⟩
    revert hlater
    decide +kernel
  · intro h
    have hlater := h (.importExistingWallet Sample.legalPhrase) (some ⟨false, false⟩)
      (fun _ => Sample.iosSuccess) (fun _ => Sample.iosSuccess) none
      (⟨some Sample.zeroPhrase, none⟩ : Slots String)
      (Sample.ios.walletOf Sample.legalPhrase) (by decide +kernel) (fun _ => rfl)
    revert hlater
    decide +kernel

end RlyNetworkSdk.Platform.Backend
