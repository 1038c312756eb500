import RlyNetworkSdk.Wallet.Operations

/-!
# Valid Phrases in the Store

Is every phrase in a slot one that the platform's BIP-39 check accepts? Updates move
phrases, reads and deletions at most remove some; so the answer lies with the creations.
The step lemma says which creations keep the invariant, and a run keeps it exactly if every
creation in it does.
-/

namespace RlyNetworkSdk.Platform.Backend

open KeyStorage Channel Concurrency Dart

variable {d : Backend}

/-! ## Phrases that creations store -/

/-- The phrase of a creation is a valid one: it was given as such, or generated with randomness
that could be had. -/
def PhraseIsValid (o : d.Environment) : Creation → Prop
  | .createWallet => d.EntropySucceeds (o .generateNewMnemonic)
  | .importExistingWallet m => d.accepts m = true

theorem accepts_phrase_iff (o : d.Environment) (r : Creation) :
    d.accepts (r.phrase d o) = true ↔ PhraseIsValid o r := by
  cases r with
  | createWallet => exact accepts_generated_iff _
  | importExistingWallet m => exact Iff.rfl

/-! ## The invariant and its steps -/

/-- Every phrase in a slot is valid. -/
def HoldsValidPhrases (w : Cache × d.Store) : Prop :=
  (d.slots w.2).All fun m => d.accepts m = true

/-- A creation that the guard lets through, and whose save reaches a slot, has a valid
phrase. -/
def StoresValidPhrase : Event d → Cache × d.Store → Prop
  | .call (.creation r overwrite storageOptions) o, w =>
    admits o overwrite w.1 w.2 = true →
      d.landing (o .saveMnemonic) (storageConfig storageOptions) w.2 ≠ none → PhraseIsValid o r
  | _, _ => True

theorem holdsValid_creation_iff (o : d.Environment) (r : Creation) (overwrite : Bool)
    (storageOptions : Option KeyStorageConfig) {w : Cache × d.Store}
    (hw : HoldsValidPhrases w) :
    HoldsValidPhrases (step (.call (.creation r overwrite storageOptions) o) w) ↔
      StoresValidPhrase (.call (.creation r overwrite storageOptions) o) w := by
  obtain ⟨c, st⟩ := w
  change (d.slots (d.exec o (r.program overwrite storageOptions) (c, st)).2.2).All _ ↔ _
  rw [slots_creation, Slots.all_land_iff (hw.wipeDevice _), accepts_phrase_iff]
  unfold creationLands StoresValidPhrase
  cases hadm : admits o overwrite c st <;> simp [hadm]

/-- An update writes a phrase that it has read in one of the slots. -/
theorem holdsValid_updateWalletStorage (o : d.Environment) (cfg : KeyStorageConfig)
    {w : Cache × d.Store} (hw : HoldsValidPhrases w) :
    HoldsValidPhrases (step (.call (.updateWalletStorage cfg) o) w) := by
  obtain ⟨c, st⟩ := w
  have hread : (d.slots (d.afterRead (o .getMnemonic) st)).All fun m => d.accepts m = true := by
    rw [slots_afterRead]
    exact hw.wipeDevice _
  change (d.slots (d.exec o (WalletManager.updateWalletStorage cfg) (c, st)).2.2).All _
  match hseen : d.seen (o .getMnemonic) st with
  | none =>
    rw [exec_updateWalletStorage_pending hseen]
    exact hread
  | some none =>
    rw [exec_updateWalletStorage_none hseen]
    exact hread
  | some (some m) =>
    -- what was read is in a slot, so the invariant holds of it
    have hm : d.accepts m = true := hw m (has_of_seen hseen)
    have hsaved : (d.slots (d.afterSave (o .saveMnemonic) m cfg
        (d.afterRead (o .getMnemonic) st))).All fun m => d.accepts m = true := by
      rw [slots_afterSave, Slots.all_land_iff (hread.wipeDevice _)]
      exact fun _ => hm
    rw [exec_updateWalletStorage_some hseen]
    cases completionOf (d.saveReply (o .saveMnemonic) m cfg st) with
    | pending => exact hsaved
    | threw e => exact hsaved
    | returned u =>
      cases cfg.saveToCloud with
      | true => exact hsaved
      | false =>
        have hdeleted := hsaved.wipeCloud (d.deletesCloudAtOnce (o .deleteCloudMnemonic))
        rw [← slots_afterDeleteCloud] at hdeleted
        exact hdeleted

theorem holdsValid_permanentlyDeleteWallet (o : d.Environment) {w : Cache × d.Store}
    (hw : HoldsValidPhrases w) :
    HoldsValidPhrases (step (.call .permanentlyDeleteWallet o) w) := by
  obtain ⟨c, st⟩ := w
  have hdeleted : (d.slots (d.afterDelete (o .deleteMnemonic) st)).All
      fun m => d.accepts m = true := by
    rw [slots_afterDelete]
    exact (hw.wipeDevice _).wipeCloud _
  change (d.slots (d.exec o WalletManager.permanentlyDeleteWallet (c, st)).2.2).All _
  rw [exec_permanentlyDeleteWallet]
  split
  · exact hdeleted
  · exact hdeleted

/-- **One step.** From a store of valid phrases, only a creation can lead out of it, by writing
a phrase that is not valid. -/
theorem holdsValid_step_iff (e : Event d) {w : Cache × d.Store} (hw : HoldsValidPhrases w) :
    HoldsValidPhrases (step e w) ↔ StoresValidPhrase e w := by
  obtain ⟨c, st⟩ := w
  cases e with
  | call op o =>
    cases op with
    | creation r overwrite storageOptions =>
      exact holdsValid_creation_iff o r overwrite storageOptions hw
    -- every other step at most empties a slot or moves a phrase
    | getMnemonic =>
      refine iff_of_true ?_ trivial
      change (d.slots (d.exec o KeyManager.getMnemonic (c, st)).2.2).All _
      rw [exec_getMnemonic, slots_afterRead]
      exact hw.wipeDevice _
    | getWallet =>
      refine iff_of_true ?_ trivial
      change (d.slots (d.exec o WalletManager.getWallet (c, st)).2.2).All _
      rw [exec_getWallet_store, slots_guardStore]
      exact hw.wipeDevice _
    | updateWalletStorage cfg => exact iff_of_true (holdsValid_updateWalletStorage o cfg hw) trivial
    | permanentlyDeleteWallet =>
      exact iff_of_true (holdsValid_permanentlyDeleteWallet o hw) trivial
  | taskCompletes ok =>
    refine iff_of_true ?_ trivial
    change (d.slots (d.taskCompletes ok st)).All _
    rw [slots_taskCompletes]
    exact hw.wipeCloud _
  | encryptionAnswers isAvailable =>
    refine iff_of_true ?_ trivial
    change (d.slots (d.encryptionAnswers isAvailable st)).All _
    rw [slots_encryptionAnswers]
    exact hw
  | restart =>
    refine iff_of_true ?_ trivial
    change (d.slots (d.restart st)).All _
    rw [slots_restart]
    exact hw

/-! ## Runs -/

/-- From empty slots, every reachable store holds valid phrases only, in every state of every
run. -/
def OnlyValidPhrasesStored (d : Backend) : Prop :=
  ∀ (events : List (Event d)) (st : d.Store), d.slots st = Slots.empty →
    Transition.Along step HoldsValidPhrases events ((none, st) : Cache × d.Store)

/-- **Valid phrases, exactly.** On either platform, for every run and every outcome of the
native calls: the store holds valid phrases only, in every state of the run, if and only if
every creation of the run that stores a phrase stores a valid one. -/
theorem only_valid_phrases_stored_iff (d : Backend) (events : List (Event d))
    (w : Cache × d.Store) (hw : HoldsValidPhrases w) :
    Transition.Along step HoldsValidPhrases events w ↔
      Transition.StepsMeet step StoresValidPhrase events w :=
  Transition.along_iff_stepsMeet (fun e _ h => holdsValid_step_iff e h) events hw

/-- A run that creates a wallet, moves it to the device and deletes it. -/
def sampleRun : List (Event Sample.android) :=
  [.call (.creation .createWallet false none) fun _ => Sample.androidSuccess,
    .call (.updateWalletStorage ⟨false, false⟩) fun _ => Sample.androidSuccess,
    .taskCompletes true,
    .call .permanentlyDeleteWallet fun _ => Sample.androidSuccess]

theorem only_valid_phrases_stored_iff_sample :
    Transition.Along step HoldsValidPhrases sampleRun (none, Sample.androidStore none none) ↔
      Transition.StepsMeet step StoresValidPhrase sampleRun
        (none, Sample.androidStore none none) :=
  only_valid_phrases_stored_iff Sample.android sampleRun (none, Sample.androidStore none none)
    fun _ h => by
      rcases h with h | h
      · exact absurd h (by simp [slots, Sample.androidStore])
      · exact absurd h (by simp [slots, Sample.androidStore])

/-- **Invalid phrases are stored.** On Android an import of an arbitrary string stores it,
on iOS a creation without randomness stores the string "failure". -/
theorem not_onlyValidPhrasesStored :
    ¬ OnlyValidPhrasesStored Sample.android ∧ ¬ OnlyValidPhrasesStored Sample.ios := by
  constructor
  · intro h
    have halong := h [.call (.creation (.importExistingWallet "not a phrase") false
      (some ⟨false, false⟩)) (fun _ => Sample.androidSuccess)] (Sample.androidStore none none) rfl
    have hvalid := halong.2 "not a phrase" (.inr (by decide +kernel))
    revert hvalid
    decide +kernel
  · intro h
    have halong := h [.call (.creation .createWallet false none)
      (fun _ => { Sample.iosSuccess with secRandomCopyBytes := none })]
      (⟨none, none⟩ : Slots String) rfl
    have hvalid := halong.2 "failure" (.inl (by decide +kernel))
    revert hvalid
    decide +kernel

end RlyNetworkSdk.Platform.Backend
