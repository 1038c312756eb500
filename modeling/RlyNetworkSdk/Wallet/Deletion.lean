import RlyNetworkSdk.Wallet.Operations

/-!
# What `permanentlyDeleteWallet` Leaves Behind

A deletion has to empty two slots. On Android the one of the cloud slot is started and not
waited for, on iOS no status is looked at, and `deleteMnemonic` replies with success either
way. `Progress` follows a run from the outcomes and the order of the native deletions alone;
the theorem says that reads after the deletion find nothing exactly if each comes after both
slots were emptied.
-/

namespace RlyNetworkSdk.Platform

open KeyStorage Channel Concurrency Dart

namespace Backend

variable {d : Backend}

/-! ## How far a deletion is -/

/-- Which slots are known to be empty, and the deletions that are still running. It is computed
from the steps alone, without a look at the slots. -/
structure Progress where
  deviceEmpty : Bool
  cloudEmpty : Bool
  running : Nat
  deriving DecidableEq, Repr

/-- The slots as they are. -/
def Progress.of (st : d.Store) : Progress :=
  ⟨(d.slots st).device.isNone, (d.slots st).cloud.isNone, d.running st⟩

/-- What the native deletions of one step add: at once where the platform deletes at once, and
when the task completes where it does not. -/
def Progress.after : Event d → Progress → Progress
  | .call .permanentlyDeleteWallet o, p =>
    ⟨p.deviceEmpty || d.deletesDevice (o .deleteMnemonic),
      p.cloudEmpty || d.deletesCloudAtOnce (o .deleteMnemonic), p.running + d.deletionsStarted⟩
  | .taskCompletes ok, p =>
    ⟨p.deviceEmpty, p.cloudEmpty || (decide (0 < p.running) && ok), p.running - 1⟩
  | _, p => p

end Backend

/-- The operation asks for the mnemonic. -/
def Operation.reads : Operation → Bool
  | .permanentlyDeleteWallet => false
  | _ => true

namespace Backend

variable {d : Backend}

/-- An operation that reads comes after both slots were emptied: the condition on a step, in
terms of the progress before it. -/
def EmptiedBeforeRead : Event d → Progress → Prop
  | .call op _, p => op.reads = true → p.deviceEmpty = true ∧ p.cloudEmpty = true
  | _, _ => True

/-- An operation that reads finds no mnemonic and no wallet. -/
def ReadsNull : Event d → Cache × d.Store → Prop
  | .call op o, w => op.reads = true →
    (d.exec o KeyManager.getMnemonic w).1 = .returned none ∧
      (d.exec o WalletManager.getWallet w).1 = .returned none
  | _, _ => True

/-- The step comes before the next successful save, and its native reads succeed: a creation
that the guard lets through neither reaches a slot nor is told that it did. -/
def BeforeNextSave : Event d → Cache × d.Store → Prop
  | .call (.creation r overwrite storageOptions) o, w =>
    d.ReadsSucceed (o .getMnemonic) ∧
      (admits o overwrite w.1 w.2 = true →
        d.landing (o .saveMnemonic) (storageConfig storageOptions) w.2 = none ∧
          (completionOf (d.saveReply (o .saveMnemonic) (r.phrase d o)
            (storageConfig storageOptions) w.2)).isReturned = false)
  | .call _ o, _ => d.ReadsSucceed (o .getMnemonic)
  | _, _ => True

theorem BeforeNextSave.reads {op : Operation} {o : d.Environment} {w : Cache × d.Store}
    (h : BeforeNextSave (.call op o) w) : d.ReadsSucceed (o .getMnemonic) := by
  cases op with
  | creation r overwrite storageOptions => exact h.1
  | getMnemonic => exact h
  | getWallet => exact h
  | updateWalletStorage cfg => exact h
  | permanentlyDeleteWallet => exact h

/-! ## The progress reflects the store -/

/-- Nothing is cached, and the progress says which slots are empty. This is the invariant of the
runs after a deletion. -/
structure Reflects (w : Cache × d.Store) (p : Progress) : Prop where
  cache : w.1 = none
  device : (d.slots w.2).device = none ↔ p.deviceEmpty = true
  cloud : (d.slots w.2).cloud = none ↔ p.cloudEmpty = true
  running : d.running w.2 = p.running

theorem Reflects.of (st : d.Store) : Reflects (none, st) (Progress.of st) where
  cache := rfl
  device := Option.isNone_iff_eq_none.symm
  cloud := Option.isNone_iff_eq_none.symm
  running := rfl

theorem Reflects.congr {st st' : d.Store} {p : Progress} (h : Reflects ((none, st)) p)
    (hslots : d.slots st' = d.slots st) (hrunning : d.running st' = d.running st) :
    Reflects ((none, st')) p where
  cache := rfl
  device := by rw [hslots]; exact h.device
  cloud := by rw [hslots]; exact h.cloud
  running := hrunning.trans h.running

/-- Reads find nothing exactly if both slots are empty. -/
theorem Reflects.readsNull_iff {w : Cache × d.Store} {p : Progress} (h : Reflects w p)
    {op : Operation} {o : d.Environment} (ho : d.ReadsSucceed (o .getMnemonic)) :
    ReadsNull (.call op o) w ↔ EmptiedBeforeRead (.call op o) p := by
  obtain ⟨c, st⟩ := w
  obtain rfl : c = none := h.cache
  -- the progress says of each slot whether it is empty
  have hcell : (d.slots st).current = none ↔ p.deviceEmpty = true ∧ p.cloudEmpty = true := by
    rw [Slots.current_eq_none_iff, ← h.device, ← h.cloud]
    exact and_comm
  change (op.reads = true → _ ∧ _) ↔ (op.reads = true → _)
  rw [exec_getMnemonic_of_readsSucceed ho, exec_getWallet_of_readsSucceed ho, ← hcell]
  refine imp_congr_right fun _ => ?_
  cases (d.slots st).current with
  | none => simp [walletRead]
  | some m => simp

/-- The step lemma for a deletion: what it empties at once, and what it leaves running. -/
theorem Reflects.permanentlyDeleteWallet {w : Cache × d.Store} {p : Progress}
    (h : Reflects w p) (o : d.Environment) :
    Reflects (step (.call .permanentlyDeleteWallet o) w)
      (Progress.after (d := d) (.call .permanentlyDeleteWallet o) p) := by
  obtain ⟨c, st⟩ := w
  obtain rfl : c = none := h.cache
  have hstep : step (.call .permanentlyDeleteWallet o) ((none, st) : Cache × d.Store) =
      (none, d.afterDelete (o .deleteMnemonic) st) := by
    change (d.exec o WalletManager.permanentlyDeleteWallet (none, st)).2 = _
    rw [exec_permanentlyDeleteWallet]
    split <;> rfl
  rw [hstep]
  refine ⟨rfl, ?_, ?_, ?_⟩
  -- the device slot, the cloud slot, the deletions left running
  · rw [slots_afterDelete, Slots.wipeCloud_device, Slots.wipeDevice_device_eq_none_iff, h.device]
    exact Bool.or_eq_true_iff.symm
  · rw [slots_afterDelete, Slots.wipeCloud_cloud_eq_none_iff, Slots.wipeDevice_cloud, h.cloud]
    exact Bool.or_eq_true_iff.symm
  · rw [running_afterDelete]
    exact congrArg (· + d.deletionsStarted) h.running

/-- A creation before the next successful save, from empty slots, leaves them empty. -/
theorem Reflects.creation {st : d.Store} {p : Progress} (h : Reflects ((none, st)) p)
    {o : d.Environment} {r : Creation} {overwrite : Bool}
    {storageOptions : Option KeyStorageConfig}
    (hsave : BeforeNextSave (.call (.creation r overwrite storageOptions) o) ((none, st)))
    (hempty : (d.slots st).current = none) :
    Reflects (step (.call (.creation r overwrite storageOptions) o) ((none, st))) p := by
  obtain ⟨ho, hunsaved⟩ := hsave
  have hseen : d.seen (o .getMnemonic) st = some none := by
    rw [seen_of_readsSucceed ho, hempty]
  have hadm : admits o overwrite none st = true := by
    simp [admits, hseen]
  obtain ⟨hland, hreturned⟩ := hunsaved hadm
  have hslots := slots_creation o r overwrite storageOptions none st
  have hcache : (d.exec o (r.program overwrite storageOptions) (none, st)).2.1 = none := by
    have hguard : guardCache o none st = none := by simp [guardCache, hseen]
    rw [exec_creation_eq]
    simp only [hadm, if_true]
    -- the save does not report success, so nothing is published
    cases hcompletion : completionOf (d.saveReply (o .saveMnemonic) (r.phrase d o)
        (storageConfig storageOptions) st) with
    | pending => exact hguard
    | threw e => exact hguard
    | returned u => simp [hcompletion, Completion.isReturned] at hreturned
  obtain ⟨hcloud, hdevice⟩ := (Slots.current_eq_none_iff _).mp hempty
  simp only [creationLands, hadm, if_true, hland, Slots.land_none] at hslots
  refine ⟨hcache, ?_, ?_, (running_creation _ _ _ _ _ _).trans h.running⟩
  · change (d.slots (d.exec o (r.program overwrite storageOptions) (none, st)).2.2).device = _ ↔ _
    rw [hslots, Slots.wipeDevice_device_eq_none_iff, ← h.device]
    exact iff_of_true (.inl hdevice) hdevice
  · change (d.slots (d.exec o (r.program overwrite storageOptions) (none, st)).2.2).cloud = _ ↔ _
    rw [hslots, Slots.wipeDevice_cloud]
    exact h.cloud

/-- **One step.** A step before the next save, whose reads find nothing, keeps the progress
a reflection of the store. -/
theorem Reflects.step {e : Event d} {w : Cache × d.Store} {p : Progress} (h : Reflects w p)
    (hsave : BeforeNextSave e w) (hnull : ReadsNull e w) :
    Reflects (Backend.step e w) (Progress.after e p) := by
  obtain ⟨c, st⟩ := w
  obtain rfl : c = none := h.cache
  cases e with
  | taskCompletes ok =>
    refine ⟨rfl, ?_, ?_, ?_⟩
    · change (d.slots (d.taskCompletes ok st)).device = none ↔ _
      rw [slots_taskCompletes, Slots.wipeCloud_device]
      exact h.device
    · change (d.slots (d.taskCompletes ok st)).cloud = none ↔ _
      have hrunning : d.running st = p.running := h.running
      rw [slots_taskCompletes, Slots.wipeCloud_cloud_eq_none_iff, h.cloud, hrunning]
      exact Bool.or_eq_true_iff.symm
    · change d.running (d.taskCompletes ok st) = p.running - 1
      rw [running_taskCompletes]
      exact congrArg (· - 1) h.running
  | encryptionAnswers isAvailable =>
    exact h.congr (slots_encryptionAnswers _ _) (running_encryptionAnswers _ _)
  | restart => exact h.congr (slots_restart _) (running_restart _)
  | call op o =>
    have ho := hsave.reads
    -- an operation that reads has found nothing, so both slots are empty
    have hempty : op.reads = true → (d.slots st).current = none := by
      intro hreads
      have hfirst := (hnull hreads).1
      rw [exec_getMnemonic_of_readsSucceed ho] at hfirst
      simpa using hfirst
    cases op with
    | permanentlyDeleteWallet => exact h.permanentlyDeleteWallet o
    | creation r overwrite storageOptions => exact h.creation hsave (hempty rfl)
    | getMnemonic =>
      have hstep : Backend.step (.call .getMnemonic o) ((none, st) : Cache × d.Store) =
          (none, st) :=
        congrArg Prod.snd (exec_getMnemonic_of_readsSucceed ho (none, st))
      rw [hstep]
      exact h
    | getWallet =>
      have hseen : d.seen (o .getMnemonic) st = some none := by
        rw [seen_of_readsSucceed ho, hempty rfl]
      have hstep : Backend.step (.call .getWallet o) ((none, st) : Cache × d.Store) =
          (none, st) := by
        change (d.exec o WalletManager.getWallet (none, st)).2 = _
        rw [exec_getWallet_uncached, hseen, afterRead_of_readsSucceed ho]
      rw [hstep]
      exact h
    | updateWalletStorage cfg =>
      have hseen : d.seen (o .getMnemonic) st = some none := by
        rw [seen_of_readsSucceed ho, hempty rfl]
      have hstep : Backend.step (.call (.updateWalletStorage cfg) o)
          ((none, st) : Cache × d.Store) = (none, st) := by
        change (d.exec o (WalletManager.updateWalletStorage cfg) (none, st)).2 = _
        rw [exec_updateWalletStorage_none hseen, afterRead_of_readsSucceed ho]
      rw [hstep]
      exact h

/-! ## Deletion -/

/-- After a deletion that returned, no operation finds a wallet before the next save, in every
run whose native reads succeed. -/
def DeletionEffective (d : Backend) : Prop :=
  ∀ (o : d.Environment) (c : Cache) (st : d.Store) (events : List (Event d)),
    (d.exec o WalletManager.permanentlyDeleteWallet (c, st)).1 = .returned () →
    Transition.StepsMeet step BeforeNextSave events
      (d.exec o WalletManager.permanentlyDeleteWallet (c, st)).2 →
    Transition.StepsMeet step ReadsNull events
      (d.exec o WalletManager.permanentlyDeleteWallet (c, st)).2

/-- **Deletion, exactly.** On either platform, for every outcome and every completion time
of the native deletions: what follows a deletion that returned finds no wallet, up to the
next successful save, if and only if each read comes after both slots were emptied. -/
theorem deletion_effective_iff (d : Backend) (o : d.Environment) (c : Cache) (st : d.Store)
    (events : List (Event d))
    (hret : (d.exec o WalletManager.permanentlyDeleteWallet (c, st)).1 = .returned ())
    (hsave : Transition.StepsMeet step BeforeNextSave events
      (d.exec o WalletManager.permanentlyDeleteWallet (c, st)).2) :
    Transition.StepsMeet step ReadsNull events
        (d.exec o WalletManager.permanentlyDeleteWallet (c, st)).2 ↔
      Transition.StepsMeet Progress.after EmptiedBeforeRead events
        (Progress.after (d := d) (.call .permanentlyDeleteWallet o) (Progress.of st)) := by
  have hdeleted : (d.exec o WalletManager.permanentlyDeleteWallet (c, st)).2 =
      step (.call .permanentlyDeleteWallet o) (none, st) := by
    change _ = (d.exec o WalletManager.permanentlyDeleteWallet (none, st)).2
    rw [exec_permanentlyDeleteWallet] at hret
    rw [exec_permanentlyDeleteWallet, exec_permanentlyDeleteWallet]
    cases hreturns : d.deleteReturns (o .deleteMnemonic) with
    | false => simp [hreturns] at hret
    | true => rfl
  rw [hdeleted] at hsave ⊢
  -- from here on the run and its progress are two machines on the same labels
  have hstart := (Reflects.of st).permanentlyDeleteWallet o
  refine Transition.stepsMeet_iff_of_simulation ?_ ?_ events hstart hsave
  · intro e w p hrel hbefore
    cases e with
    | call op o' => exact hrel.readsNull_iff hbefore.reads
    | taskCompletes ok => exact Iff.rfl
    | encryptionAnswers isAvailable => exact Iff.rfl
    | restart => exact Iff.rfl
  · intro e w p hrel hbefore hnull
    exact hrel.step hbefore hnull

/-- A read after the deletion in the background has completed. -/
def lateRead : List (Event Sample.android) :=
  [.taskCompletes true, .call .getWallet fun _ => Sample.androidSuccess]

theorem deletion_effective_iff_sample :
    Transition.StepsMeet step ReadsNull lateRead
        (Sample.android.exec (fun _ => Sample.androidSuccess)
          WalletManager.permanentlyDeleteWallet
          (none, Sample.androidStore (some Sample.zeroPhrase) none)).2 ↔
      Transition.StepsMeet Progress.after EmptiedBeforeRead lateRead
        (Progress.after (d := Sample.android)
          (.call .permanentlyDeleteWallet fun _ => Sample.androidSuccess)
          (Progress.of (d := Sample.android)
            (Sample.androidStore (some Sample.zeroPhrase) none))) :=
  deletion_effective_iff Sample.android (fun _ => Sample.androidSuccess) none
    (Sample.androidStore (some Sample.zeroPhrase) none) lateRead (by decide +kernel)
    ⟨trivial, ⟨rfl, rfl, rfl⟩, trivial⟩

/-- **A deleted wallet comes back.** On Android a read that comes before the deletion in the
background completes finds the cloud copy; on iOS the deletion of the cloud item fails and
the call returns all the same. -/
theorem not_deletionEffective :
    ¬ DeletionEffective Sample.android ∧ ¬ DeletionEffective Sample.ios := by
  constructor
  · intro h
    have hnull := h (fun _ => Sample.androidSuccess) none
      (Sample.androidStore (some Sample.zeroPhrase) none)
      [.call .getMnemonic fun _ => Sample.androidSuccess] (by decide +kernel)
      ⟨⟨rfl, rfl, rfl⟩, trivial⟩
    -- the read comes right after the call, and finds the phrase
    have hread := (hnull.1 rfl).1
    revert hread
    decide +kernel
  · intro h
    have hnull := h
      (fun _ => { Sample.iosSuccess with secItemDelete := fun item => item == .device }) none
      (⟨some Sample.zeroPhrase, none⟩ : Slots String)
      [.call .getMnemonic fun _ => Sample.iosSuccess] (by decide +kernel)
      ⟨fun _ => rfl, trivial⟩
    have hread := (hnull.1 rfl).1
    revert hread
    decide +kernel

end Backend

end RlyNetworkSdk.Platform
