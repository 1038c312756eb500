import RlyNetworkSdk.Wallet.Sequential

/-!
# The Overwrite Guard and the Keys It Does Not See

`_saveMnemonic` with `overwrite: false` refuses to save when `getWallet` finds a wallet. The
guard sees "wallet or null" only; a read that failed and a read that found nothing are the
same to it. The theorem says which stored keys are then at risk: those in the slot that the
save reaches, when the read of the guard comes back empty.
-/

namespace RlyNetworkSdk.Platform.Backend

open KeyStorage Channel Concurrency Dart

variable {d : Backend}

/-! ## Reads that come back empty -/

/-- `getMnemonic` replies null, because there is nothing or because a native read has failed:
the reply is the same. -/
def ReadsAsEmpty : (d : Backend) → d.Outcomes → d.Store → Prop
  | android _ => Android.ReadsAsEmpty
  | ios _ => Ios.ReadsAsEmpty

theorem seen_eq_some_none_iff (o : d.Outcomes) (st : d.Store) :
    d.seen o st = some none ↔ d.ReadsAsEmpty o st := by
  cases d with
  | android k => exact Android.seen_eq_some_none_iff o st
  | ios c => exact Option.some_inj.trans (Ios.getMnemonic_eq_none_iff o st)

/-- Without `overwrite`, the guard lets a save through exactly if nothing is cached and the
read comes back empty. -/
theorem admits_false_iff (o : d.Environment) (c : Cache) (st : d.Store) :
    admits o false c st = true ↔ c = none ∧ d.ReadsAsEmpty (o .getMnemonic) st := by
  rw [← seen_eq_some_none_iff]
  unfold admits
  cases c with
  | some wallet => simp
  | none =>
    match d.seen (o .getMnemonic) st with
    | none => simp
    | some none => simp
    | some (some m) => simp

/-! ## The guard -/

/-- The slots that a creation may not touch: as they were, save for the preferences file
that an `IOException` made the plugin clear. -/
def guarded (o : d.Environment) (cfg : KeyStorageConfig) (c : Cache) (st : d.Store) :
    Slots String :=
  (d.slots st).wipeDevice (creationWipes o false c cfg st)

/-- Without `overwrite`, no creation replaces or removes a stored key, whatever the outcomes of
its native calls are. -/
def GuardProtectsKeys (d : Backend) : Prop :=
  ∀ (r : Creation) (storageOptions : Option KeyStorageConfig) (o : d.Environment) (c : Cache)
    (st : d.Store) (slot : Slot) (m : String),
    (guarded o (storageConfig storageOptions) c st).get slot = some m →
    (d.slots (d.exec o (r.program false storageOptions) (c, st)).2.2).get slot = some m

/-- No key is in the way of the save. If nothing is cached and the read of the guard comes
back empty, then the slot that the save reaches is empty or holds the very phrase. -/
def NoUnseenKey (d : Backend) (o : d.Environment) (phrase : String) (cfg : KeyStorageConfig)
    (c : Cache) (st : d.Store) : Prop :=
  c = none → d.ReadsAsEmpty (o .getMnemonic) st →
    ∀ slot, d.landing (o .saveMnemonic) cfg st = some slot →
      (guarded o cfg c st).get slot = none ∨ (guarded o cfg c st).get slot = some phrase

/-- **The guard, exactly.** On either platform, for every outcome of the native reads and
writes: a creation without `overwrite` keeps every stored key if and only if no unseen key
is in the way of its save. -/
theorem guard_protects_keys_iff (d : Backend) (r : Creation)
    (storageOptions : Option KeyStorageConfig) (o : d.Environment) (c : Cache) (st : d.Store) :
    (∀ slot m, (guarded o (storageConfig storageOptions) c st).get slot = some m →
        (d.slots (d.exec o (r.program false storageOptions) (c, st)).2.2).get slot = some m) ↔
      d.NoUnseenKey o (r.phrase d o) (storageConfig storageOptions) c st := by
  rw [slots_creation]
  unfold guarded
  rw [Slots.land_keeps_iff]
  unfold NoUnseenKey creationLands
  cases hadm : admits o false c st with
  | false =>
    -- the guard throws or the read hangs, so nothing is written
    have hstop : ¬ (c = none ∧ d.ReadsAsEmpty (o .getMnemonic) st) := by
      rw [← admits_false_iff, hadm]
      simp
    constructor
    · intro _ hc hempty
      exact absurd ⟨hc, hempty⟩ hstop
    · intro _ slot hslot
      simp at hslot
  | true =>
    -- the guard has seen nothing, whatever the slots hold
    obtain ⟨hc, hempty⟩ := (admits_false_iff o c st).mp hadm
    constructor
    · intro h _ _ slot hslot
      exact h slot (by simpa using hslot)
    · intro h slot hslot
      exact h hc hempty slot (by simpa using hslot)

/-- **A failed read opens the guard.** The cloud slot holds a key, the read of it fails, and
an import without `overwrite` stores its own phrase there, on either platform. -/
theorem not_guardProtectsKeys :
    ¬ GuardProtectsKeys Sample.android ∧ ¬ GuardProtectsKeys Sample.ios := by
  constructor
  · intro h
    have hkept := h (.importExistingWallet Sample.legalPhrase) none
      (fun _ => { Sample.androidSuccess with retrieveBytes := false }) none
      (Sample.androidStore (some Sample.zeroPhrase) none) .cloud Sample.zeroPhrase rfl
    revert hkept
    decide +kernel
  · intro h
    have hkept := h (.importExistingWallet Sample.legalPhrase) none
      (fun _ => { Sample.iosSuccess with secItemCopyMatching := fun _ => false }) none
      (⟨some Sample.zeroPhrase, none⟩ : Slots String) .cloud Sample.zeroPhrase rfl
    revert hkept
    decide +kernel

end RlyNetworkSdk.Platform.Backend
