import RlyNetworkSdk.Platform.Backend

/-!
# Saves before the Encryption Callback

The constructor of the Android helper asks Play services whether end-to-end encryption is
available, and sets the flag that `save` looks at when the answer comes. Meanwhile the
method channel already delivers calls. Here the device has end-to-end encryption and every
`storeBytes` succeeds, and what varies is the position of the callback among the saves.
-/

namespace RlyNetworkSdk.Android

open KeyStorage Channel Platform

/-! ## Saves and the callback -/

/-- A call `save(key, mnemonic, useBlockStore = true, forceBlockStore)`, on a device where
`storeBytes` succeeds. -/
structure CloudSave where
  mnemonic : String
  forceBlockStore : Bool
  outcomes : Outcomes
  storeBytes_succeeds : outcomes.storeBytes = none

/-- What happens to the helper object: the callback comes, or a handler calls its `save`. -/
inductive HelperEvent where
  /-- The success callback of `isEndToEndEncryptionAvailable`, with the answer `true`. -/
  | encryptionAvailable
  | save (s : CloudSave)

/-- The replies of the two callbacks that the plugin passes to `save`, and the store afterwards. -/
def CloudSave.run (s : CloudSave) (st : Store) : Handled × Store :=
  Android.save s.outcomes s.mnemonic true s.forceBlockStore [.success (.bool true)]
    (fun message => [.error "mnemonic_save_failure" message]) st

/-- The helper sets its flag in the callback. Before that the flag has the value that it was
initialized with. -/
def encryptionCallback (st : Store) : Store := { st with isEndToEndEncryptionAvailable := true }

/-- The results of the saves of a run: what each replies, and what the cloud slot then holds. -/
def saveResults : List HelperEvent → Store → List (Handled × Option String)
  | [], _ => []
  | .encryptionAvailable :: events, st => saveResults events (encryptionCallback st)
  | .save s :: events, st =>
    ((s.run st).1, (s.run st).2.slots.cloud) :: saveResults events (s.run st).2

/-- The result that is meant: the save succeeds and the cloud slot holds the phrase. -/
def CloudSave.stored (s : CloudSave) : Handled × Option String :=
  (.replied [.success (.bool true)], some s.mnemonic)

/-! ## One save -/

theorem CloudSave.run_available (s : CloudSave) {st : Store}
    (hst : st.isEndToEndEncryptionAvailable = true) :
    s.run st =
      (.replied [.success (.bool true)],
        { st with slots := st.slots.land (some .cloud) s.mnemonic }) := by
  simp [CloudSave.run, Android.save, hst, s.storeBytes_succeeds]

/-- Before the callback a save that must reach the cloud is refused, and any other goes to
the preferences. -/
theorem CloudSave.run_early (s : CloudSave) {st : Store}
    (hst : st.isEndToEndEncryptionAvailable = false) :
    (s.run st).2.isEndToEndEncryptionAvailable = false ∧
      (s.run st).2.slots.cloud = st.slots.cloud ∧
      ((s.run st).1 = .replied [.success (.bool true)] ↔
        s.forceBlockStore = false ∧ s.outcomes.sharedPreferences.returns = true) := by
  simp only [CloudSave.run, Android.save, hst, Bool.and_false, saveToSharedPref_eq]
  cases hf : s.forceBlockStore with
  | true => simp [hst, Handled.replied]
  | false =>
    cases hp : s.outcomes.sharedPreferences.returns with
    | false => simp [Handled.replied, Handled.thrown]
    | true =>
      cases s.outcomes.commit <;> simp

/-! ## Runs of saves -/

/-- After the callback every save has the result that is meant. -/
theorem saveResults_available (saves : List CloudSave) {st : Store}
    (hst : st.isEndToEndEncryptionAvailable = true) :
    saveResults (saves.map .save) st = saves.map CloudSave.stored := by
  induction saves generalizing st with
  | nil => rfl
  | cons s saves ih =>
    simp only [List.map_cons, saveResults]
    rw [s.run_available hst]
    exact congrArg₂ List.cons rfl (ih hst)

/-- A save before the callback has that result only by accident: the phrase need not reach
the cloud, the preferences take it, and the cloud slot held it already. -/
def CloudSave.Harmless (cloud : Option String) (s : CloudSave) : Prop :=
  s.forceBlockStore = false ∧ s.outcomes.sharedPreferences.returns = true ∧
    cloud = some s.mnemonic

theorem saveResults_early_iff (before after : List CloudSave) {st : Store}
    (hst : st.isEndToEndEncryptionAvailable = false) :
    saveResults (before.map .save ++ .encryptionAvailable :: after.map .save) st =
        (before ++ after).map CloudSave.stored ↔
      ∀ s ∈ before, s.Harmless st.slots.cloud := by
  induction before generalizing st with
  | nil =>
    -- nothing comes before the callback
    simp only [List.map_nil, List.nil_append, saveResults, List.not_mem_nil, false_implies,
      implies_true, iff_true]
    exact saveResults_available after rfl
  | cons s before ih =>
    obtain ⟨hflag, hcloud, hreply⟩ := s.run_early hst
    have hrest := ih hflag
    rw [hcloud] at hrest
    have hfirst : ((s.run st).1, (s.run st).2.slots.cloud) = s.stored ↔
        s.Harmless st.slots.cloud := by
      unfold CloudSave.stored CloudSave.Harmless
      rw [Prod.mk.injEq, hreply, hcloud, and_assoc]
    simp only [List.map_cons, List.cons_append, saveResults, List.cons.injEq, List.mem_cons,
      forall_eq_or_imp]
    rw [hfirst, hrest]

/-- The results of the saves do not depend on when the callback comes: with it in their midst
they are the same as with it in front of all of them. -/
def CallbackTimingIrrelevant : Prop :=
  ∀ (before after : List CloudSave) (slots : Slots String) (pendingDeletes : Nat),
    saveResults (before.map .save ++ .encryptionAvailable :: after.map .save)
        ⟨slots, false, pendingDeletes⟩ =
      saveResults (.encryptionAvailable :: (before ++ after).map .save)
        ⟨slots, false, pendingDeletes⟩

/-- With the callback first, every save succeeds and the cloud slot holds its phrase. -/
theorem saveResults_callback_first (saves : List CloudSave) (st : Store) :
    saveResults (.encryptionAvailable :: saves.map .save) st = saves.map CloudSave.stored :=
  saveResults_available saves rfl

/-- **When the timing of the callback does not matter.** For every run of saves and every
position of the callback among them: the saves have the results that they have with the
callback first, exactly if each save before the callback is harmless. -/
theorem callback_timing_irrelevant_iff (before after : List CloudSave) (slots : Slots String)
    (pendingDeletes : Nat) :
    saveResults (before.map .save ++ .encryptionAvailable :: after.map .save)
          ⟨slots, false, pendingDeletes⟩ =
        saveResults (.encryptionAvailable :: (before ++ after).map .save)
          ⟨slots, false, pendingDeletes⟩ ↔
      ∀ s ∈ before, s.Harmless slots.cloud := by
  rw [saveResults_callback_first]
  exact saveResults_early_iff before after rfl

/-- **The storage place depends on the timing.** A save that arrives before the callback puts
the phrase into the preferences and reports success. -/
theorem not_callbackTimingIrrelevant : ¬ CallbackTimingIrrelevant := by
  intro h
  have heq := h [⟨Sample.zeroPhrase, false, Sample.androidSuccess, rfl⟩] [] ⟨none, none⟩ 0
  revert heq
  decide +kernel

end RlyNetworkSdk.Android
