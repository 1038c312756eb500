import RlyNetworkSdk.Wallet.Sequential

/-!
# Creations that Throw

A creation stores its phrase before it derives the wallet, and the Android plugin stores a
phrase even after it has replied that the phrase is invalid. So a creation can throw and
still have replaced the wallet. The theorem lists what must hold of the slots for a throw to
leave everything as it was.
-/

namespace RlyNetworkSdk.Platform.Backend

open KeyStorage Channel Concurrency Dart

variable {d : Backend}

/-- A creation that throws leaves the cache to the guard. -/
theorem exec_creation_threw {o : d.Environment} {r : Creation} {overwrite : Bool}
    {storageOptions : Option KeyStorageConfig} {c : Cache} {st : d.Store} {e : DartError}
    (h : (d.exec o (r.program overwrite storageOptions) (c, st)).1 = .threw e) :
    (d.exec o (r.program overwrite storageOptions) (c, st)).2.1 = guardCache o c st := by
  rw [exec_creation_eq] at h ⊢
  cases hadm : admits o overwrite c st with
  | false => rfl
  | true =>
    rw [hadm] at h
    simp only [if_true] at h ⊢
    cases hreply : completionOf (d.saveReply (o .saveMnemonic) (r.phrase d o)
        (storageConfig storageOptions) st) with
    | pending => rfl
    | threw e' => rfl
    | returned u =>
      -- saved, so the derivation must have thrown
      cases hacc : d.accepts (r.phrase d o) with
      | false => rfl
      | true => simp [hreply, hacc] at h

/-! ## The wallet that is read before and after -/

/-- The guard, if it caches a wallet, caches the one that a successful read gives. It may have
read another phrase if the read of the cloud slot failed. -/
def GuardCachesCurrent (d : Backend) (o : d.Environment) (c : Cache) (st : d.Store) : Prop :=
  c = none → ∀ q, d.seen (o .getMnemonic) st = some (some q) → d.accepts q = true →
    ∃ m, (d.slots st).current = some m ∧ d.derived m = .returned (d.walletOf q)

/-- With the cell unchanged, `getWallet` is unchanged exactly if the guard cached no other
wallet. -/
theorem getWallet_guardCache_iff {o o₁ o₂ : d.Environment}
    (h₁ : d.ReadsSucceed (o₁ .getMnemonic)) (h₂ : d.ReadsSucceed (o₂ .getMnemonic)) (c : Cache)
    (st st' : d.Store) (hst : (d.slots st').current = (d.slots st).current) :
    (d.exec o₂ WalletManager.getWallet (guardCache o c st, st')).1 =
        (d.exec o₁ WalletManager.getWallet (c, st)).1 ↔
      d.GuardCachesCurrent o c st := by
  rw [exec_getWallet_of_readsSucceed h₁, exec_getWallet_of_readsSucceed h₂, hst]
  unfold GuardCachesCurrent guardCache
  cases c with
  | some wallet => simp
  | none =>
    match hseen : d.seen (o .getMnemonic) st with
    | none => simp
    | some none => simp
    | some (some q) =>
      cases hq : d.accepts q with
      | false => simp [hq]
      | true =>
        -- now the cache answers where the cell answered before
        simp only [if_true, true_implies, Option.some.injEq, forall_eq', hq]
        cases (d.slots st).current with
        | none => simp [walletRead]
        | some m =>
          cases hm : d.accepts m with
          | false => simp [walletRead, derived, hm]
          | true =>
            simp only [walletRead, derived, hm, if_true, Completion.returned.injEq,
              Option.some.injEq, exists_eq_left']
            exact eq_comm

/-! ## Failure -/

/-- A creation that throws changes neither the mnemonic nor the wallet that is read: what
successful reads give afterwards is what they gave before. -/
def FailureChangesNothing (d : Backend) : Prop :=
  ∀ (r : Creation) (overwrite : Bool) (storageOptions : Option KeyStorageConfig)
    (o o₁ o₂ : d.Environment) (c : Cache) (st : d.Store) (e : DartError),
    d.ReadsSucceed (o₁ .getMnemonic) → d.ReadsSucceed (o₂ .getMnemonic) →
    (d.exec o (r.program overwrite storageOptions) (c, st)).1 = .threw e →
    (d.exec o₂ KeyManager.getMnemonic
        (d.exec o (r.program overwrite storageOptions) (c, st)).2).1 =
      (d.exec o₁ KeyManager.getMnemonic (c, st)).1 ∧
    (d.exec o₂ WalletManager.getWallet
        (d.exec o (r.program overwrite storageOptions) (c, st)).2).1 =
      (d.exec o₁ WalletManager.getWallet (c, st)).1

/-- The writes of the creation do not show: the phrase that reached the cloud slot was read
before; one that reached the device slot was there or is hidden by a cloud copy; with no
slot reached, the preferences file was not cleared, or held nothing that is read. -/
def WritesUnseen (d : Backend) (o : d.Environment) (phrase : String) (overwrite : Bool)
    (cfg : KeyStorageConfig) (c : Cache) (st : d.Store) : Prop :=
  match creationLands o overwrite c cfg st with
  | some .cloud => (d.slots st).current = some phrase
  | some .device => (d.slots st).cloud ≠ none ∨ (d.slots st).device = some phrase
  | none => (d.slots st).cloud ≠ none ∨ (d.slots st).device = none ∨
      creationWipes o overwrite c cfg st = false

/-- **Failure, exactly.** On either platform, a creation that throws changes nothing that is
read if and only if its writes are unseen and its guard cached the wallet that is read. -/
theorem failure_changes_nothing_iff (d : Backend) (r : Creation) (overwrite : Bool)
    (storageOptions : Option KeyStorageConfig) (o o₁ o₂ : d.Environment) (c : Cache)
    (st : d.Store) (e : DartError) (h₁ : d.ReadsSucceed (o₁ .getMnemonic))
    (h₂ : d.ReadsSucceed (o₂ .getMnemonic))
    (hthrew : (d.exec o (r.program overwrite storageOptions) (c, st)).1 = .threw e) :
    ((d.exec o₂ KeyManager.getMnemonic
          (d.exec o (r.program overwrite storageOptions) (c, st)).2).1 =
        (d.exec o₁ KeyManager.getMnemonic (c, st)).1 ∧
      (d.exec o₂ WalletManager.getWallet
          (d.exec o (r.program overwrite storageOptions) (c, st)).2).1 =
        (d.exec o₁ WalletManager.getWallet (c, st)).1) ↔
      d.WritesUnseen o (r.phrase d o) overwrite (storageConfig storageOptions) c st ∧
        d.GuardCachesCurrent o c st := by
  have hcache := exec_creation_threw hthrew
  have hslots := slots_creation o r overwrite storageOptions c st
  obtain ⟨⟨c', st'⟩, hafter⟩ :
      ∃ w, (d.exec o (r.program overwrite storageOptions) (c, st)).2 = w := ⟨_, rfl⟩
  rw [hafter] at hcache hslots ⊢
  dsimp only at hcache hslots
  subst hcache
  -- the mnemonic is the cell, which the writes change or not
  have hcell : (d.slots st').current = (d.slots st).current ↔
      d.WritesUnseen o (r.phrase d o) overwrite (storageConfig storageOptions) c st := by
    rw [hslots, Slots.current_land_wipeDevice_eq_iff]
    exact Iff.rfl
  rw [exec_getMnemonic_of_readsSucceed h₁, exec_getMnemonic_of_readsSucceed h₂]
  simp only [Completion.returned.injEq]
  rw [hcell]
  refine and_congr_right fun hunseen => ?_
  exact getWallet_guardCache_iff h₁ h₂ c st st' (hcell.mpr hunseen)

/-- An import that the guard refuses, with the cached wallet in the cloud slot. -/
theorem failure_changes_nothing_iff_sample :
    ((Sample.ios.exec (fun _ => Sample.iosSuccess) KeyManager.getMnemonic
          (Sample.ios.exec (fun _ => Sample.iosSuccess)
            ((Creation.importExistingWallet Sample.legalPhrase).program false none)
            (none, (⟨some Sample.zeroPhrase, none⟩ : Slots String))).2).1 =
        (Sample.ios.exec (fun _ => Sample.iosSuccess) KeyManager.getMnemonic
          (none, (⟨some Sample.zeroPhrase, none⟩ : Slots String))).1 ∧
      (Sample.ios.exec (fun _ => Sample.iosSuccess) WalletManager.getWallet
          (Sample.ios.exec (fun _ => Sample.iosSuccess)
            ((Creation.importExistingWallet Sample.legalPhrase).program false none)
            (none, (⟨some Sample.zeroPhrase, none⟩ : Slots String))).2).1 =
        (Sample.ios.exec (fun _ => Sample.iosSuccess) WalletManager.getWallet
          (none, (⟨some Sample.zeroPhrase, none⟩ : Slots String))).1) ↔
      Sample.ios.WritesUnseen (fun _ => Sample.iosSuccess) Sample.legalPhrase false
          (storageConfig none) none (⟨some Sample.zeroPhrase, none⟩ : Slots String) ∧
        Sample.ios.GuardCachesCurrent (fun _ => Sample.iosSuccess) none
          (⟨some Sample.zeroPhrase, none⟩ : Slots String) :=
  failure_changes_nothing_iff Sample.ios (.importExistingWallet Sample.legalPhrase) false none
    (fun _ => Sample.iosSuccess) (fun _ => Sample.iosSuccess) (fun _ => Sample.iosSuccess) none
    (⟨some Sample.zeroPhrase, none⟩ : Slots String)
    (.string "Wallet already exists. Use overwrite flag to overwrite") (fun _ => rfl)
    (fun _ => rfl) (by decide +kernel)

/-- **A phrase that is rejected replaces the wallet.** An import of an invalid phrase with
`overwrite` throws and leaves that phrase in place of the old one: on Android the handler
goes on after its error reply, on iOS nothing checks the phrase before it is stored. -/
theorem not_failureChangesNothing :
    ¬ FailureChangesNothing Sample.android ∧ ¬ FailureChangesNothing Sample.ios := by
  constructor
  · intro h
    have hlater := h (.importExistingWallet "not a phrase") true (some ⟨false, false⟩)
      (fun _ => Sample.androidSuccess) (fun _ => Sample.androidSuccess)
      (fun _ => Sample.androidSuccess) none (Sample.androidStore none (some Sample.zeroPhrase))
      (.platformException "mnemonic_verification_failure" "Mnemonic is not valid")
      ⟨rfl, rfl, rfl⟩ ⟨rfl, rfl, rfl⟩ (by decide +kernel)
    revert hlater
    decide +kernel
  · intro h
    have hlater := h (.importExistingWallet "not a phrase") true none
      (fun _ => Sample.iosSuccess) (fun _ => Sample.iosSuccess) (fun _ => Sample.iosSuccess) none
      (⟨some Sample.zeroPhrase, none⟩ : Slots String) .typeError (fun _ => rfl) (fun _ => rfl)
      (by decide +kernel)
    revert hlater
    decide +kernel

end RlyNetworkSdk.Platform.Backend
