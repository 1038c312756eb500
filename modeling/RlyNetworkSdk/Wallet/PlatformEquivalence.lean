import RlyNetworkSdk.Wallet.Operations

/-!
# The Android and the iOS Store as One Store

`KeyCall.ideal` is the two-slot store that both plugins are meant to be: a save fills the
slot that it names, a read prefers the cloud slot. With every native call succeeding, each
plugin refines it, save for the calls that it refuses outright and for one thing: iOS has
emptied the cloud slot when a deletion returns, Android has only begun to.

`Lag` follows both stores from the calls and the completions alone. The theorem says that
the plugins answer alike exactly as long as no call brings the difference to light.
-/

namespace RlyNetworkSdk.Platform

open KeyStorage Channel Concurrency Dart

/-! ## The calls of `KeyManager` and what can be observed of them -/

/-- The calls of `KeyManager` on the stored mnemonic. -/
inductive KeyCall where
  | saveMnemonic (mnemonic : String) (storageOptions : KeyStorageConfig)
  | getMnemonic
  | walletBackedUpToCloud
  | deleteCloudMnemonic
  | deleteMnemonic

/-- What a caller observes: a result, an error, or nothing at all. The texts of errors differ
between the platforms and are left out. -/
inductive Observation where
  | done
  | mnemonic (m : Option String)
  | backedUp (flag : Bool)
  | error
  | noReply
  deriving DecidableEq, Repr

/-- The observation of a completed call whose result is shown by `f`. -/
def Observation.ofCompletion {α : Type} (f : α → Observation) :
    Completion DartError α → Observation
  | .returned a => f a
  | .threw _ => .error
  | .pending => .noReply

namespace KeyCall

/-- The slot that a save names. -/
def target (cfg : KeyStorageConfig) : Slot := if cfg.saveToCloud then .cloud else .device

/-- The two-slot store that the plugins are meant to be. With `atOnce`, a deletion has
emptied the cloud slot when it returns. -/
def ideal (atOnce : Bool) : KeyCall → Slots String → Observation × Slots String
  | saveMnemonic m cfg, s => (.done, s.land (some (target cfg)) m)
  | getMnemonic, s => (.mnemonic s.current, s)
  | walletBackedUpToCloud, s => (.backedUp s.cloud.isSome, s)
  | deleteCloudMnemonic, s => (.done, s.wipeCloud atOnce)
  | deleteMnemonic, s => (.done, (s.wipeDevice true).wipeCloud atOnce)

/-- The call deletes the cloud copy. -/
def deletesCloud : KeyCall → Bool
  | deleteCloudMnemonic | deleteMnemonic => true
  | _ => false

/-- The call demands the cloud for a phrase that is not meant for it: `saveToCloud` is false and
`rejectOnCloudSaveFailure` true. -/
def ForcesDeviceSave : KeyCall → Prop
  | saveMnemonic _ cfg => cfg.saveToCloud = false ∧ cfg.rejectOnCloudSaveFailure = true
  | _ => False

end KeyCall

namespace Backend

variable {d : Backend}

/-- One call of `KeyManager`, from its request to its end. -/
def serve (o : d.Environment) (call : KeyCall) (st : d.Store) : Observation × d.Store :=
  match call with
  | .saveMnemonic m cfg =>
    let (r, _, st) := d.exec o (KeyManager.saveMnemonic m cfg) (none, st)
    (.ofCompletion (fun _ => .done) r, st)
  | .getMnemonic =>
    let (r, _, st) := d.exec o KeyManager.getMnemonic (none, st)
    (.ofCompletion .mnemonic r, st)
  | .walletBackedUpToCloud =>
    let (r, _, st) := d.exec o KeyManager.walletBackedUpToCloud (none, st)
    (.ofCompletion .backedUp r, st)
  | .deleteCloudMnemonic =>
    let (r, _, st) := d.exec o KeyManager.deleteCloudMnemonic (none, st)
    (.ofCompletion (fun _ => .done) r, st)
  | .deleteMnemonic =>
    let (r, _, st) := d.exec o KeyManager.deleteMnemonic (none, st)
    (.ofCompletion (fun _ => .done) r, st)

theorem exec_deleteMnemonic {o : d.Environment} (ho : d.Succeeds (o .deleteMnemonic))
    (w : Cache × d.Store) :
    d.exec o KeyManager.deleteMnemonic w =
      (.returned (), w.1, d.afterDelete (o .deleteMnemonic) w.2) := by
  have hinv := invoke_deleteMnemonic (o .deleteMnemonic) w.2
  rw [ho.deletes.1] at hinv
  simp only [KeyManager.deleteMnemonic, exec_bind, exec_await,
    exec_invokeMethod_some (f := Value.asBool) hinv]
  rfl

theorem exec_walletBackedUpToCloud {o : d.Environment}
    (ho : d.ReadsSucceed (o .mnemonicBackedUpToCloud)) (w : Cache × d.Store) :
    d.exec o KeyManager.walletBackedUpToCloud w =
      (.returned (d.slots w.2).cloud.isSome, w) := by
  have hinv := invoke_mnemonicBackedUpToCloud ho w.2
  simp only [KeyManager.walletBackedUpToCloud, exec_bind, exec_await,
    exec_invokeMethod_some (f := Value.asBool) hinv]
  rfl

/-! ## Refinement of the ideal store -/

/-- The platform refuses the call. -/
def refusesCall (d : Backend) : KeyCall → d.Store → Bool
  | .saveMnemonic _ cfg, st => d.refuses cfg st
  | _, _ => false

/-- A deletion leaves nothing running. -/
def deletesAtOnce (d : Backend) : Bool := d.deletionsStarted == 0

theorem Succeeds.deletesCloudAtOnce {o : d.Outcomes} (ho : d.Succeeds o) :
    d.deletesCloudAtOnce o = d.deletesAtOnce := by
  cases d with
  | android k => rfl
  | ios c => exact ho.2.2.2.2 .cloud

/-- The call was served as by the ideal store, unless it was refused; a call that was refused
has changed nothing. -/
structure ServedAsIdeal (call : KeyCall) (st : d.Store) (served : Observation × d.Store) :
    Prop where
  observation : served.1 =
    if d.refusesCall call st then .error else (call.ideal d.deletesAtOnce (d.slots st)).1
  slots : d.slots served.2 =
    if d.refusesCall call st then d.slots st else (call.ideal d.deletesAtOnce (d.slots st)).2
  running : d.running served.2 =
    d.running st + if call.deletesCloud then d.deletionsStarted else 0
  cloudAvailable : d.cloudAvailable served.2 = d.cloudAvailable st

theorem serve_saveMnemonic_refines {o : d.Environment} (ho : d.Succeeds (o .saveMnemonic))
    {m : String} (hm : d.savable m = true) (cfg : KeyStorageConfig) {st : d.Store}
    (hst : d.cloudAvailable st = true) :
    ServedAsIdeal (.saveMnemonic m cfg) st (serve o (.saveMnemonic m cfg) st) := by
  -- with the cloud available the configuration alone chooses the slot
  have htarget : d.target cfg st = KeyCall.target cfg := by
    unfold Backend.target KeyCall.target
    rw [hst, Bool.and_true]
  unfold serve
  simp only [exec_saveMnemonic]
  rw [ho.completionOf_saveReply hm]
  refine ⟨?_, ?_, running_afterSave _ _ _ _, cloudAvailable_afterSave _ _ _ _⟩
  · change _ = if d.refuses cfg st then Observation.error else .done
    cases d.refuses cfg st <;> rfl
  · -- a save that is refused leaves the slots as they are, on both platforms
    change _ = if d.refuses cfg st then d.slots st
      else (d.slots st).land (some (KeyCall.target cfg)) m
    rw [slots_afterSave, ho.saveClears, ho.landing, htarget]
    cases d.refuses cfg st <;> rfl

/-- **Each plugin refines the ideal store**, up to the calls that it refuses. The ideal store
says for both when a deletion takes effect. -/
theorem serve_refines {o : d.Environment} (ho : ∀ method, d.Succeeds (o method)) {call : KeyCall}
    (hcall : ∀ m cfg, call = .saveMnemonic m cfg → d.savable m = true) {st : d.Store}
    (hst : d.cloudAvailable st = true) : ServedAsIdeal call st (serve o call st) := by
  cases call with
  | saveMnemonic m cfg => exact serve_saveMnemonic_refines (ho _) (hcall m cfg rfl) cfg hst
  | getMnemonic =>
    unfold serve
    simp only [exec_getMnemonic_of_readsSucceed (ho _).reads]
    exact ⟨rfl, rfl, rfl, rfl⟩
  | walletBackedUpToCloud =>
    unfold serve
    simp only [exec_walletBackedUpToCloud (ho _).reads]
    exact ⟨rfl, rfl, rfl, rfl⟩
  | deleteCloudMnemonic =>
    unfold serve
    simp only [exec_deleteCloudMnemonic]
    refine ⟨rfl, ?_, running_afterDeleteCloud _ _, cloudAvailable_afterDeleteCloud _ _⟩
    -- on Android the slot is wiped later, when the task completes
    change _ = (d.slots st).wipeCloud d.deletesAtOnce
    rw [slots_afterDeleteCloud, (ho .deleteCloudMnemonic).deletesCloudAtOnce]
  | deleteMnemonic =>
    unfold serve
    simp only [exec_deleteMnemonic (ho _)]
    refine ⟨rfl, ?_, running_afterDelete _ _, cloudAvailable_afterDelete _ _⟩
    change _ = ((d.slots st).wipeDevice true).wipeCloud d.deletesAtOnce
    rw [slots_afterDelete, (ho .deleteMnemonic).deletes.2,
      (ho .deleteMnemonic).deletesCloudAtOnce]

end Backend

namespace KeyCall

/-- With encryption available, Android refuses what demands the cloud and is not for it. -/
theorem refusesCall_android {k : Android.Kethereum} {st : Android.Store}
    (hst : st.isEndToEndEncryptionAvailable = true) (call : KeyCall) :
    (Backend.android k).refusesCall call st = true ↔ call.ForcesDeviceSave := by
  cases call with
  | saveMnemonic m cfg =>
    -- the branch for the device refuses whenever the cloud is demanded, asked for or not
    change (cfg.rejectOnCloudSaveFailure &&
      !(cfg.saveToCloud && st.isEndToEndEncryptionAvailable)) = true ↔
        cfg.saveToCloud = false ∧ cfg.rejectOnCloudSaveFailure = true
    rw [hst]
    cases cfg.saveToCloud <;> simp
  | getMnemonic => simp [Backend.refusesCall, ForcesDeviceSave]
  | walletBackedUpToCloud => simp [Backend.refusesCall, ForcesDeviceSave]
  | deleteCloudMnemonic => simp [Backend.refusesCall, ForcesDeviceSave]
  | deleteMnemonic => simp [Backend.refusesCall, ForcesDeviceSave]

theorem refusesCall_ios (c : Ios.Bip39C) (call : KeyCall) (st : Ios.Store) :
    (Backend.ios c).refusesCall call st = false := by
  cases call <;> rfl

end KeyCall

/-! ## The two plugins side by side -/

/-- A call with outcomes for both platforms, all of them successes. A phrase to be saved is
one that the Android check accepts; iOS makes no check. -/
structure CommonCall (k : Android.Kethereum) (c : Ios.Bip39C) where
  call : KeyCall
  onAndroid : (Backend.android k).Environment
  onIos : (Backend.ios c).Environment
  android_succeeds : ∀ method, (Backend.android k).Succeeds (onAndroid method)
  ios_succeeds : ∀ method, (Backend.ios c).Succeeds (onIos method)
  valid : ∀ m cfg, call = .saveMnemonic m cfg → k.validate m = true

/-- What happens: a call on both platforms, or the completion of a deletion that Android has
left running. -/
inductive CommonEvent (k : Android.Kethereum) (c : Ios.Bip39C) where
  | call (l : CommonCall k c)
  | deleteBytesCompletes

/-! ## How far Android is behind -/

/-- The slots as they are with every deletion done at once, what Android's cloud slot still
holds, and the deletions that Android has running. -/
structure Lag where
  slots : Slots String
  cloud : Option String
  running : Nat
  deriving DecidableEq, Repr

namespace Lag

def start : Lag := ⟨Slots.empty, none, 0⟩

/-- A call, refused by neither platform. -/
def after : KeyCall → Lag → Lag
  | .saveMnemonic m cfg, p =>
    ⟨p.slots.land (some (KeyCall.target cfg)) m,
      if cfg.saveToCloud then some m else p.cloud, p.running⟩
  | .deleteCloudMnemonic, p => ⟨p.slots.wipeCloud true, p.cloud, p.running + 1⟩
  | .deleteMnemonic, p => ⟨Slots.empty, p.cloud, p.running + 1⟩
  | _, p => p

/-- A deletion completes on Android. It takes whatever is in the cloud slot by then, also what
has been saved since it was started. -/
def deleteBytesCompletes (p : Lag) : Lag :=
  ⟨p.slots, if p.running = 0 then p.cloud else none, p.running - 1⟩

/-- The call does not tell the platforms apart. A save does not demand the cloud for the
device; a read finds the two cloud slots alike, or, if it asks for the mnemonic, finds the
copy that is in one of them only in the device slot as well. -/
def InStep : KeyCall → Lag → Prop
  | .saveMnemonic m cfg, _ => ¬ (KeyCall.saveMnemonic m cfg).ForcesDeviceSave
  | .getMnemonic, p => p.cloud = p.slots.cloud ∨ p.slots.device = p.cloud.or p.slots.cloud
  | .walletBackedUpToCloud, p => p.cloud = p.slots.cloud
  | _, _ => True

/-- If both cloud slots are filled, they hold the same phrase. Android's may be filled alone, as
it is emptied later, or be empty alone, by a late deletion. -/
def Consistent (p : Lag) : Prop :=
  p.cloud = none ∨ p.slots.cloud = none ∨ p.cloud = p.slots.cloud

theorem Consistent.after {p : Lag} (h : p.Consistent) (call : KeyCall) :
    (after call p).Consistent := by
  cases call with
  | saveMnemonic m cfg =>
    cases hcfg : cfg.saveToCloud with
    -- a save to the cloud fills both slots with the same phrase
    | true => exact .inr (.inr (by simp [Lag.after, KeyCall.target, hcfg]))
    | false => simpa [Consistent, Lag.after, KeyCall.target, hcfg] using h
  | getMnemonic => exact h
  | walletBackedUpToCloud => exact h
  | deleteCloudMnemonic => exact .inr (.inl rfl)
  | deleteMnemonic => exact .inr (.inl rfl)

theorem Consistent.deleteBytesCompletes {p : Lag} (h : p.Consistent) :
    p.deleteBytesCompletes.Consistent := by
  unfold Lag.deleteBytesCompletes
  by_cases hrunning : p.running = 0
  · rw [if_pos hrunning]
    exact h
  · rw [if_neg hrunning]
    exact .inl rfl

/-! ### The ideal stores in step with it -/

theorem ideal_atOnce (call : KeyCall) (p : Lag) :
    (call.ideal true p.slots).2 = (after call p).slots := by
  cases call <;> rfl

theorem ideal_lagging (call : KeyCall) (p : Lag) :
    (call.ideal false ⟨p.cloud, p.slots.device⟩).2 =
      ⟨(after call p).cloud, (after call p).slots.device⟩ := by
  cases call with
  | saveMnemonic m cfg =>
    cases hcfg : cfg.saveToCloud <;>
      simp [KeyCall.ideal, Lag.after, KeyCall.target, hcfg]
  | getMnemonic => rfl
  | walletBackedUpToCloud => rfl
  | deleteCloudMnemonic => rfl
  | deleteMnemonic => rfl

theorem running_after (call : KeyCall) (p : Lag) :
    (after call p).running = p.running + if call.deletesCloud then 1 else 0 := by
  cases call <;> rfl

/-- What a read of the mnemonic finds in the two stores. -/
theorem Consistent.current_eq_iff {p : Lag} (h : p.Consistent) :
    (⟨p.cloud, p.slots.device⟩ : Slots String).current = p.slots.current ↔
      InStep .getMnemonic p := by
  obtain ⟨⟨cloud, device⟩, lagging, running⟩ := p
  change lagging = none ∨ cloud = none ∨ lagging = cloud at h
  change _ ↔ lagging = cloud ∨ device = lagging.or cloud
  -- by what the lagging store holds: nothing, or what the other one holds as well
  cases lagging with
  | none =>
    cases cloud with
    | none => simp
    | some m => simp
  | some m =>
    cases cloud with
    | none => simp [eq_comm]
    | some m' =>
      have hm : m = m' := by simpa using h
      simp [hm]

theorem Consistent.isSome_eq_iff {p : Lag} (h : p.Consistent) :
    p.cloud.isSome = p.slots.cloud.isSome ↔ p.cloud = p.slots.cloud := by
  obtain ⟨⟨cloud, device⟩, lagging, running⟩ := p
  change lagging = none ∨ cloud = none ∨ lagging = cloud at h
  change lagging.isSome = cloud.isSome ↔ lagging = cloud
  cases lagging with
  | none => cases cloud <;> simp
  | some m =>
    cases cloud with
    | none => simp
    | some m' =>
      have hm : m = m' := by simpa using h
      simp [hm]

/-- Save for the calls that Android refuses, the two ideal stores answer alike exactly to the
calls that are in step. -/
theorem Consistent.ideal_eq_iff {p : Lag} (h : p.Consistent) {call : KeyCall}
    (hcall : ¬ call.ForcesDeviceSave) :
    (call.ideal false ⟨p.cloud, p.slots.device⟩).1 = (call.ideal true p.slots).1 ↔
      InStep call p := by
  cases call with
  | saveMnemonic m cfg => exact iff_of_true rfl hcall
  | getMnemonic => exact (Observation.mnemonic.injEq _ _).to_iff.trans h.current_eq_iff
  | walletBackedUpToCloud => exact (Observation.backedUp.injEq _ _).to_iff.trans h.isSome_eq_iff
  | deleteCloudMnemonic => exact iff_of_true rfl trivial
  | deleteMnemonic => exact iff_of_true rfl trivial

theorem InStep.not_forcesDeviceSave {call : KeyCall} {p : Lag} (h : InStep call p) :
    ¬ call.ForcesDeviceSave := by
  cases call with
  | saveMnemonic m cfg => exact h
  | getMnemonic => exact id
  | walletBackedUpToCloud => exact id
  | deleteCloudMnemonic => exact id
  | deleteMnemonic => exact id

end Lag

namespace CommonEvent

variable {k : Android.Kethereum} {c : Ios.Bip39C}

/-- The event on Android. Only a call can be observed. -/
def serveAndroid : CommonEvent k c → Android.Store → Option Observation × Android.Store
  | call l, st =>
    let (observation, st) := Backend.serve (d := .android k) l.onAndroid l.call st
    (some observation, st)
  | deleteBytesCompletes, st => (none, st.deleteBytesCompletes true)

/-- The event on iOS, which leaves no deletion running. -/
def serveIos : CommonEvent k c → Ios.Store → Option Observation × Ios.Store
  | call l, st =>
    let (observation, st) := Backend.serve (d := .ios c) l.onIos l.call st
    (some observation, st)
  | deleteBytesCompletes, st => (none, st)

def after : CommonEvent k c → Lag → Lag
  | call l, p => Lag.after l.call p
  | deleteBytesCompletes, p => p.deleteBytesCompletes

def InStep : CommonEvent k c → Lag → Prop
  | call l, p => Lag.InStep l.call p
  | deleteBytesCompletes, _ => True

/-- The two stores are those that the lag describes, with end-to-end encryption available. This
is the relation of the simulation. -/
structure Agree (sa : Android.Store) (si : Ios.Store) (p : Lag) : Prop where
  android : sa = ⟨⟨p.cloud, p.slots.device⟩, true, p.running⟩
  ios : si = p.slots
  consistent : p.Consistent

variable {sa : Android.Store} {si : Ios.Store} {p : Lag}

/-- Android serves a call as an ideal store whose deletions lag. -/
theorem Agree.servedAndroid (h : Agree sa si p) (l : CommonCall k c) :
    Backend.ServedAsIdeal (d := .android k) l.call sa (Backend.serve l.onAndroid l.call sa) := by
  refine Backend.serve_refines l.android_succeeds l.valid ?_
  rw [h.android]
  rfl

/-- iOS serves a call as the ideal store. -/
theorem servedIos (si : Ios.Store) (l : CommonCall k c) :
    Backend.ServedAsIdeal (d := .ios c) l.call si (Backend.serve l.onIos l.call si) :=
  Backend.serve_refines l.ios_succeeds (fun _ _ _ => rfl) rfl

/-- **One observation.** From stores that agree, a call gives the same observation on both
platforms exactly if it is in step. -/
theorem Agree.observation_eq_iff (h : Agree sa si p) (e : CommonEvent k c) :
    (e.serveAndroid sa).1 = (e.serveIos si).1 ↔ e.InStep p := by
  cases e with
  | deleteBytesCompletes => exact iff_of_true rfl trivial
  | call l =>
    have ha := (h.servedAndroid l).observation
    have hi := (servedIos si l).observation
    have hencryption : sa.isEndToEndEncryptionAvailable = true := by rw [h.android]
    have href := KeyCall.refusesCall_android (k := k) hencryption l.call
    rw [KeyCall.refusesCall_ios, if_neg (by simp)] at hi
    change some (Backend.serve (d := .android k) l.onAndroid l.call sa).1 =
      some (Backend.serve (d := .ios c) l.onIos l.call si).1 ↔ Lag.InStep l.call p
    rw [Option.some_inj, ha, hi]
    by_cases hcall : l.call.ForcesDeviceSave
    · -- an error on Android, a success on iOS
      rw [if_pos (href.mpr hcall)]
      refine iff_of_false ?_ fun hstep => hstep.not_forcesDeviceSave hcall
      cases hl : l.call <;> simp [KeyCall.ideal, KeyCall.ForcesDeviceSave, hl] at hcall ⊢
    · -- served by both, so it is up to the two ideal stores
      rw [if_neg (mt href.mp hcall), ← h.consistent.ideal_eq_iff hcall, h.android, h.ios]
      rfl

/-- **One step.** An event that is in step keeps the relation, so that the next one can be
compared as well. -/
theorem Agree.step (h : Agree sa si p) {e : CommonEvent k c} (he : e.InStep p) :
    Agree (e.serveAndroid sa).2 (e.serveIos si).2 (e.after p) := by
  cases e with
  | deleteBytesCompletes =>
    refine ⟨?_, h.ios, h.consistent.deleteBytesCompletes⟩
    rw [h.android]
    change Android.Store.deleteBytesCompletes true ⟨⟨p.cloud, p.slots.device⟩, true, p.running⟩ =
      ⟨⟨p.deleteBytesCompletes.cloud, p.slots.device⟩, true, p.running - 1⟩
    unfold Android.Store.deleteBytesCompletes Lag.deleteBytesCompletes
    cases p.running <;> rfl
  | call l =>
    have hcall : ¬ l.call.ForcesDeviceSave := Lag.InStep.not_forcesDeviceSave he
    have hencryption : sa.isEndToEndEncryptionAvailable = true := by rw [h.android]
    have href := KeyCall.refusesCall_android (k := k) hencryption l.call
    have ha := h.servedAndroid l
    have hi := (servedIos si l).slots
    have haSlots := ha.slots
    have haRunning := ha.running
    have haCloud := ha.cloudAvailable
    rw [if_neg (mt href.mp hcall)] at haSlots
    rw [KeyCall.refusesCall_ios, if_neg (by simp)] at hi
    -- Android's store field by field, then iOS's
    refine ⟨Android.Store.ext ?_ ?_ ?_, ?_, h.consistent.after l.call⟩
    · refine Eq.trans ?_ (Lag.ideal_lagging l.call p)
      rw [h.android] at haSlots ⊢
      exact haSlots
    · rw [h.android] at haCloud ⊢
      exact haCloud
    · refine Eq.trans ?_ (Lag.running_after l.call p).symm
      rw [h.android] at haRunning ⊢
      exact haRunning
    · rw [h.ios] at hi ⊢
      exact hi.trans (Lag.ideal_atOnce l.call p)

/-! ## Equivalence -/

/-- From empty stores, the two plugins give the same observations, for every sequence of calls
and completions. -/
def PlatformsAgree (k : Android.Kethereum) (c : Ios.Bip39C) : Prop :=
  ∀ events : List (CommonEvent k c),
    Transition.trace serveAndroid events ⟨Slots.empty, true, 0⟩ =
      Transition.trace serveIos events Slots.empty

/-- **Equivalence, exactly.** For every sequence of calls from empty stores, with end-to-end
encryption available and every native call succeeding, and whenever the deletions that
Android leaves running complete: Android and iOS give the same observation at every step if
and only if each call is in step. -/
theorem platforms_agree_iff (k : Android.Kethereum) (c : Ios.Bip39C)
    (events : List (CommonEvent k c)) :
    Transition.trace serveAndroid events ⟨Slots.empty, true, 0⟩ =
        Transition.trace serveIos events Slots.empty ↔
      Transition.StepsMeet after InStep events Lag.start := by
  have hstart : Agree ⟨Slots.empty, true, 0⟩ Slots.empty Lag.start := ⟨rfl, rfl, .inl rfl⟩
  refine Transition.trace_eq_iff_stepsMeet (R := Agree) ?_ ?_ events hstart
  · intro e sa si p h
    exact h.observation_eq_iff e
  · intro e sa si p h he
    exact h.step he

/-- **One save is refused on Android only.** A save for the device with
`rejectOnCloudSaveFailure` is an error on Android and a success on iOS. -/
theorem not_platformsAgree : ¬ PlatformsAgree Sample.kethereum Sample.bip39C := by
  intro h
  have htrace := h [.call ⟨.saveMnemonic Sample.legalPhrase ⟨false, true⟩,
    fun _ => Sample.androidSuccess, fun _ => Sample.iosSuccess,
    fun _ => ⟨rfl, rfl, rfl, rfl, rfl⟩, fun _ => ⟨rfl, rfl, rfl, fun _ => rfl, fun _ => rfl⟩,
    by rintro m cfg ⟨rfl, rfl⟩; decide +kernel⟩]
  revert htrace
  decide +kernel

/-! ### Deletions that complete in time -/

/-- Every deletion completes before the next call. -/
def settled (calls : List (CommonCall k c)) : List (CommonEvent k c) :=
  calls.flatMap fun l => [.call l, .deleteBytesCompletes]

/-- If every deletion completes before the next call, only a save that demands the cloud for
the device tells the platforms apart. -/
theorem inStep_settled_iff (calls : List (CommonCall k c)) {p : Lag}
    (hcloud : p.cloud = p.slots.cloud) (hrunning : p.running = 0) :
    Transition.StepsMeet after InStep (settled calls) p ↔
      ∀ l ∈ calls, ¬ l.call.ForcesDeviceSave := by
  induction calls generalizing p with
  | nil => simp [settled, Transition.StepsMeet]
  | cons l calls ih =>
    -- with the stores equal, only the forced save is out of step
    have hstep : Lag.InStep l.call p ↔ ¬ l.call.ForcesDeviceSave := by
      refine ⟨Lag.InStep.not_forcesDeviceSave, fun h => ?_⟩
      cases hl : l.call with
      | saveMnemonic m cfg => rw [hl] at h; exact h
      | getMnemonic => exact .inl hcloud
      | walletBackedUpToCloud => exact hcloud
      | deleteCloudMnemonic => trivial
      | deleteMnemonic => trivial
    -- the deletion completes after the call, so the stores are equal again
    have hnext : (Lag.after l.call p).deleteBytesCompletes.cloud =
          (Lag.after l.call p).deleteBytesCompletes.slots.cloud ∧
        (Lag.after l.call p).deleteBytesCompletes.running = 0 := by
      cases hl : l.call with
      | saveMnemonic m cfg =>
        cases hcfg : cfg.saveToCloud <;>
          simp [Lag.after, Lag.deleteBytesCompletes, KeyCall.target, hcfg, hcloud, hrunning]
      | getMnemonic => simp [Lag.after, Lag.deleteBytesCompletes, hcloud, hrunning]
      | walletBackedUpToCloud => simp [Lag.after, Lag.deleteBytesCompletes, hcloud, hrunning]
      | deleteCloudMnemonic => simp [Lag.after, Lag.deleteBytesCompletes, hrunning]
      | deleteMnemonic => simp [Lag.after, Lag.deleteBytesCompletes, hrunning, Slots.empty]
    rw [List.forall_mem_cons, ← ih hnext.1 hnext.2, ← hstep]
    change Lag.InStep l.call p ∧ True ∧ Transition.StepsMeet after InStep (settled calls) _ ↔ _
    rw [true_and]
    rfl

end CommonEvent

end RlyNetworkSdk.Platform
