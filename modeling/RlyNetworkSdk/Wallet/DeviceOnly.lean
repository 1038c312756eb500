import RlyNetworkSdk.Wallet.Operations

/-!
# Storing on the Device Only

`KeyStorageConfig` documents that with `saveToCloud: false` the mnemonic is only stored on
the device. An update deletes the cloud copy after it has saved; a creation leaves the
cloud slot alone, so a copy of the same phrase that is there stays. Every native call
succeeds here, and every deletion completes before the next operation.
-/

namespace RlyNetworkSdk.Platform

open KeyStorage Channel Concurrency Dart

/-- An operation whose native calls all succeed. Everything that goes wrong here goes wrong
without a failure. -/
structure SuccessfulCall (d : Backend) where
  op : Operation
  o : d.Environment
  succeeds : ∀ method, d.Succeeds (o method)

namespace Backend

variable {d : Backend}

/-- The operation runs, and the deletions it started complete before the next one begins. -/
def settledStep (l : SuccessfulCall d) (w : Cache × d.Store) : Cache × d.Store :=
  ((step (.call l.op l.o) w).1, d.settle (step (.call l.op l.o) w).2)

/-- An operation that returned after storing a phrase for the device only leaves no copy of
it in the cloud slot. -/
def DeviceOnly (l : SuccessfulCall d) (w : Cache × d.Store) : Prop :=
  match l.op with
  | .creation r overwrite storageOptions =>
    (storageConfig storageOptions).saveToCloud = false → ∀ wallet,
      (d.exec l.o (r.program overwrite storageOptions) w).1 = .returned wallet →
      (d.slots (settledStep l w).2).cloud ≠ some (r.phrase d l.o)
  | .updateWalletStorage storageOptions =>
    storageOptions.saveToCloud = false →
      (d.exec l.o (WalletManager.updateWalletStorage storageOptions) w).1 = .returned () →
      ∀ m, (d.slots w.2).current = some m → (d.slots (settledStep l w).2).cloud ≠ some m
  | _ => True

/-- The operation is not the creation of a wallet, for the device only and over an existing
one, with a valid phrase that the cloud slot holds already; or the platform refuses it. -/
def NoCloudCopy (l : SuccessfulCall d) (w : Cache × d.Store) : Prop :=
  match l.op with
  | .creation r overwrite storageOptions =>
    (storageConfig storageOptions).saveToCloud = false →
      d.refuses (storageConfig storageOptions) w.2 = false → overwrite = true →
      d.accepts (r.phrase d l.o) = true → (d.slots w.2).cloud ≠ some (r.phrase d l.o)
  | _ => True

/-! ## Creations -/

/-- A creation for the device only leaves the cloud slot as it was. -/
theorem cloud_creation {o : d.Environment} (ho : d.Succeeds (o .saveMnemonic)) (r : Creation)
    (overwrite : Bool) {storageOptions : Option KeyStorageConfig}
    (hcfg : (storageConfig storageOptions).saveToCloud = false) (c : Cache) {st : d.Store}
    (hst : d.running st = 0) :
    (d.slots (d.settle (d.exec o (r.program overwrite storageOptions) (c, st)).2.2)).cloud =
      (d.slots st).cloud := by
  have hrunning := running_creation o r overwrite storageOptions c st
  rw [slots_settle, hrunning, hst, slots_creation]
  unfold creationLands
  rw [ho.landing]
  cases admits o overwrite c st <;> cases d.refuses (storageConfig storageOptions) st <;>
    simp [target, hcfg]

/-- With a valid phrase in the cloud slot, the guard asks for `overwrite`. -/
theorem admits_of_cloud {o : d.Environment} (ho : d.ReadsSucceed (o .getMnemonic))
    (overwrite : Bool) (c : Cache) {st : d.Store} {m : String}
    (hm : (d.slots st).cloud = some m) (hacc : d.accepts m = true) :
    admits o overwrite c st = overwrite := by
  have hcur : (d.slots st).current = some m :=
    (Slots.current_eq_some_iff _ _).mpr (.inl hm)
  have hseen : d.seen (o .getMnemonic) st = some (some m) := by
    rw [seen_of_readsSucceed ho, hcur]
  cases c with
  | some wallet => rfl
  | none => simp [admits, hseen, hacc]

theorem deviceOnly_creation_iff {l : SuccessfulCall d} {w : Cache × d.Store} {r : Creation}
    {overwrite : Bool} {storageOptions : Option KeyStorageConfig}
    (hop : l.op = .creation r overwrite storageOptions) (hw : d.running w.2 = 0) :
    DeviceOnly l w ↔ NoCloudCopy l w := by
  obtain ⟨op, o, ho⟩ := l
  obtain ⟨c, st⟩ := w
  subst hop
  unfold DeviceOnly NoCloudCopy
  refine imp_congr_right fun hcfg => ?_
  have hcloud := cloud_creation (ho .saveMnemonic) r overwrite hcfg c hw
  have hreply : d.accepts (r.phrase d o) = true →
      completionOf (d.saveReply (o .saveMnemonic) (r.phrase d o) (storageConfig storageOptions)
        st) =
          if d.refuses (storageConfig storageOptions) st then .threw refusal else .returned () :=
    fun hacc => (ho _).completionOf_saveReply (savable_of_accepts hacc) _ st
  constructor
  · intro h hdevice hover hacc hm
    -- such a creation returns, and the cloud slot still holds its phrase
    have hret : (d.exec o (r.program overwrite storageOptions) (c, st)).1 =
        .returned (d.walletOf (r.phrase d o)) := by
      rw [creation_returns_iff, admits_of_cloud (ho _).reads overwrite c hm hacc, hreply hacc,
        hdevice]
      exact ⟨hover, rfl, by simp [derived, hacc]⟩
    exact h _ hret (hcloud.trans hm)
  · intro h wallet hret hm
    -- conversely, one that returned was let through, and with `overwrite`
    obtain ⟨hadm, hdone, hderived⟩ := (creation_returns_iff _ _ _ _ _ _ _).mp hret
    have hacc : d.accepts (r.phrase d o) = true := by
      by_contra hacc
      simp [derived, hacc] at hderived
    have hdevice : d.refuses (storageConfig storageOptions) st = false := by
      rw [hreply hacc] at hdone
      by_contra hrefused
      simp [hrefused] at hdone
    have hm' : (d.slots st).cloud = some (r.phrase d o) := hcloud.symm.trans hm
    rw [admits_of_cloud (ho _).reads overwrite c hm' hacc] at hadm
    exact h hdevice hadm hacc hm'

/-! ## Updates -/

/-- An update for the device only that returned has emptied the cloud slot. -/
theorem deviceOnly_updateWalletStorage {l : SuccessfulCall d} {w : Cache × d.Store}
    {storageOptions : KeyStorageConfig} (hop : l.op = .updateWalletStorage storageOptions) :
    DeviceOnly l w := by
  obtain ⟨op, o, ho⟩ := l
  obtain ⟨c, st⟩ := w
  subst hop
  intro hcfg hret m hm
  have hseen : d.seen (o .getMnemonic) st = some (some m) := by
    rw [seen_of_readsSucceed (ho _).reads, hm]
  rw [exec_updateWalletStorage_some hseen] at hret
  have hstore : (d.slots (d.settle (d.exec o
      (WalletManager.updateWalletStorage storageOptions) (c, st)).2.2)).cloud = none := by
    rw [exec_updateWalletStorage_some hseen]
    -- it returned, so the save was reported as done and the deletion has run
    cases hreply : completionOf (d.saveReply (o .saveMnemonic) m storageOptions st) with
    | pending => simp [hreply] at hret
    | threw e => simp [hreply] at hret
    | returned u =>
      simp only [hcfg, Bool.false_eq_true, if_false]
      exact (ho _).cloud_deleted _
  change (d.slots (d.settle (d.exec o
    (WalletManager.updateWalletStorage storageOptions) (c, st)).2.2)).cloud ≠ some m
  rw [hstore]
  simp

/-! ## Runs -/

/-- **One step.** The operation leaves the phrase on the device only if and only if it leaves no
copy in the cloud, as a condition on the state before it. -/
theorem deviceOnly_iff_noCloudCopy (l : SuccessfulCall d) (w : Cache × d.Store)
    (hw : d.running w.2 = 0) : DeviceOnly l w ↔ NoCloudCopy l w := by
  cases hop : l.op with
  | creation r overwrite storageOptions => exact deviceOnly_creation_iff hop hw
  | updateWalletStorage storageOptions =>
    refine iff_of_true (deviceOnly_updateWalletStorage hop) ?_
    unfold NoCloudCopy
    rw [hop]
    trivial
  | getMnemonic => simp [DeviceOnly, NoCloudCopy, hop]
  | getWallet => simp [DeviceOnly, NoCloudCopy, hop]
  | permanentlyDeleteWallet => simp [DeviceOnly, NoCloudCopy, hop]

/-- Whatever came before, device-only means device-only, for every sequence of successful
operations. -/
def DeviceOnlyAlways (d : Backend) : Prop :=
  ∀ (calls : List (SuccessfulCall d)) (w : Cache × d.Store), d.running w.2 = 0 →
    Transition.StepsMeet settledStep DeviceOnly calls w

/-- **Device-only, exactly.** On either platform, for every run of operations whose native
calls succeed and complete: each operation that stores for the device only leaves no copy of
its phrase in the cloud slot, if and only if no wallet is created over an existing one with
the phrase that the cloud slot holds. -/
theorem device_only_iff (d : Backend) (calls : List (SuccessfulCall d)) (w : Cache × d.Store)
    (hw : d.running w.2 = 0) :
    Transition.StepsMeet settledStep DeviceOnly calls w ↔
      Transition.StepsMeet settledStep NoCloudCopy calls w :=
  Transition.stepsMeet_iff_of_invariant (I := fun w : Cache × d.Store => d.running w.2 = 0)
    (fun _ _ _ => running_settle _) deviceOnly_iff_noCloudCopy calls hw

/-- An Android operation whose native calls all succeed. -/
def androidCall (op : Operation) : SuccessfulCall Sample.android :=
  ⟨op, fun _ => Sample.androidSuccess, fun _ => ⟨rfl, rfl, rfl, rfl, rfl⟩⟩

/-- An iOS operation whose native calls all succeed. -/
def iosCall (op : Operation) : SuccessfulCall Sample.ios :=
  ⟨op, fun _ => Sample.iosSuccess, fun _ => ⟨rfl, rfl, rfl, fun _ => rfl, fun _ => rfl⟩⟩

/-- The import of a wallet into the cloud, and its move to the device. -/
def importAndMove : List Operation :=
  [.creation (.importExistingWallet Sample.legalPhrase) true (some ⟨true, false⟩),
    .updateWalletStorage ⟨false, false⟩]

/-- The import of a wallet into the cloud, and again for the device only. -/
def importTwice : List Operation :=
  [.creation (.importExistingWallet Sample.legalPhrase) true (some ⟨true, false⟩),
    .creation (.importExistingWallet Sample.legalPhrase) true (some ⟨false, false⟩)]

theorem device_only_iff_sample :
    Transition.StepsMeet settledStep DeviceOnly (importAndMove.map androidCall)
        (none, Sample.androidStore none none) ↔
      Transition.StepsMeet settledStep NoCloudCopy (importAndMove.map androidCall)
        (none, Sample.androidStore none none) :=
  device_only_iff Sample.android (importAndMove.map androidCall)
    (none, Sample.androidStore none none) rfl

/-- **The cloud copy stays.** A phrase that is in the cloud slot is imported again for the
device only, on either platform. -/
theorem not_deviceOnlyAlways :
    ¬ DeviceOnlyAlways Sample.android ∧ ¬ DeviceOnlyAlways Sample.ios := by
  constructor
  · intro h
    have hmeets := h (importTwice.map androidCall) (none, Sample.androidStore none none) rfl
    have hcloud := hmeets.2.1 rfl (Sample.android.walletOf Sample.legalPhrase)
      (by decide +kernel)
    revert hcloud
    decide +kernel
  · intro h
    have hmeets := h (importTwice.map iosCall) (none, (⟨none, none⟩ : Slots String)) rfl
    have hcloud := hmeets.2.1 rfl (Sample.ios.walletOf Sample.legalPhrase) (by decide +kernel)
    revert hcloud
    decide +kernel

end Backend

end RlyNetworkSdk.Platform
