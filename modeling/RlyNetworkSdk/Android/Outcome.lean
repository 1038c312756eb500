import RlyNetworkSdk.Android.FlutterSdkPlugin

/-!
# What an Android Call Does to the Two Slots

Closed forms for the handlers: which slot a save reaches, what a read sees, when the
preferences file is cleared on the way. They are functions of the call, of the outcomes of
the service calls and of the store before the call; the theorems tie them to the handlers.
-/

namespace RlyNetworkSdk.Android

open KeyStorage Channel

/-- `save` goes to the encrypted preferences: the cloud is not demanded, and has not taken the
phrase. -/
def savesToSharedPref (o : Outcomes) (useBlockStore forceBlockStore : Bool) (st : Store) : Bool :=
  !forceBlockStore &&
    !(useBlockStore && st.isEndToEndEncryptionAvailable && o.storeBytes.isNone)

/-- The slot that a save reaches. It is none if the save is refused, and also if the preferences
do not open or their `commit` fails, of which the caller is not told. -/
def landing (o : Outcomes) (useBlockStore forceBlockStore : Bool) (st : Store) : Option Slot :=
  if useBlockStore && st.isEndToEndEncryptionAvailable && o.storeBytes.isNone then some .cloud
  else if savesToSharedPref o useBlockStore forceBlockStore st &&
      (o.sharedPreferences.returns && o.commit) then some .device
  else none

/-- A save clears the preferences file on its way. -/
def saveClears (o : Outcomes) (useBlockStore forceBlockStore : Bool) (st : Store) : Bool :=
  savesToSharedPref o useBlockStore forceBlockStore st && o.sharedPreferences.clears

/-- A read turns to the encrypted preferences. -/
def readsSharedPref (o : Outcomes) (st : Store) : Bool :=
  !(o.retrieveBytes && st.slots.cloud.isSome)

/-- A read clears the preferences file on its way. -/
def readClears (o : Outcomes) (st : Store) : Bool :=
  readsSharedPref o st && o.sharedPreferences.clears

/-- The mnemonic that a read reports; no value if it reports none at all, because the process
has died. -/
def seen (o : Outcomes) (st : Store) : Option (Option String) :=
  if readsSharedPref o st then (readFromSharedPref o st).1 else some st.slots.cloud

/-- A deletion empties the device slot: the file was cleared on the way, or the removal was
committed. -/
def deleteEmptiesDevice (o : Outcomes) : Bool :=
  o.sharedPreferences.clears || (o.sharedPreferences.returns && o.commit)

/-! ## Reading -/

theorem readFromSharedPref_snd (o : Outcomes) (st : Store) :
    (readFromSharedPref o st).2 =
      { st with slots := st.slots.wipeDevice o.sharedPreferences.clears } := by
  unfold readFromSharedPref getSharedPreferences
  cases o.sharedPreferences.returns with
  | false => rfl
  | true =>
    dsimp only
    split <;> rfl

/-- The handler `getMnemonic` in closed form. -/
theorem getMnemonic_eq (o : Outcomes) (st : Store) :
    ((getMnemonic o st).1.reply, (getMnemonic o st).2) =
      ((seen o st).map fun mnemonic => .success (.ofString? mnemonic),
        { st with slots := st.slots.wipeDevice (readClears o st) }) := by
  obtain ⟨⟨cloud, device⟩, e, n⟩ := st
  have hsnd := readFromSharedPref_snd o ⟨⟨cloud, device⟩, e, n⟩
  cases hread : readFromSharedPref o ⟨⟨cloud, device⟩, e, n⟩ with
  | mk m st' =>
    rw [hread] at hsnd
    subst hsnd
    -- whether the cloud copy answers, and if not, whether the preferences do
    cases hr : o.retrieveBytes <;> cases cloud <;> cases m <;>
      simp [getMnemonic, read, hr, blockstoreDataMap, seen, readClears, readsSharedPref, hread,
        Handled.reply, Handled.replied, Handled.crashed]

/-- A read reports null: the cloud copy was not retrieved, by failure or for want of one, and
the preferences open and hold nothing then. -/
def ReadsAsEmpty (o : Outcomes) (st : Store) : Prop :=
  (o.retrieveBytes = false ∨ st.slots.cloud = none) ∧ o.sharedPreferences.returns = true ∧
    (st.slots.device = none ∨ o.sharedPreferences.clears = true)

theorem seen_eq_some_none_iff (o : Outcomes) (st : Store) :
    seen o st = some none ↔ ReadsAsEmpty o st := by
  obtain ⟨⟨cloud, device⟩, e, n⟩ := st
  unfold seen readsSharedPref readFromSharedPref getSharedPreferences ReadsAsEmpty
  -- the cloud copy answers only if it is there and retrieved
  cases o.retrieveBytes <;> cases cloud <;> cases device <;> cases o.sharedPreferences <;>
    cases o.getString <;> simp [PrefsOpening.returns, PrefsOpening.clears]

/-- With the native reads succeeding, the backup flag tells whether Block Store answers. -/
theorem isBackedUpToCloud_eq {o : Outcomes} (hretrieve : o.retrieveBytes = true)
    (hprefs : o.sharedPreferences = .opened) (hget : o.getString = true) (st : Store) :
    ((isBackedUpToCloud o st).1.reply, (isBackedUpToCloud o st).2) =
      (some (.success (.bool st.slots.cloud.isSome)), st) := by
  obtain ⟨⟨cloud, device⟩, e, n⟩ := st
  -- with an empty cloud slot the answer is false, whatever the preferences hold
  cases cloud <;> cases device <;>
    simp [isBackedUpToCloud, read, hretrieve, blockstoreDataMap, readFromSharedPref,
      getSharedPreferences, hprefs, hget, PrefsOpening.returns, PrefsOpening.clears,
      Handled.reply, Handled.replied]

/-- A read reports only what one of the slots holds. -/
theorem has_of_seen {o : Outcomes} {st : Store} {m : String} (h : seen o st = some (some m)) :
    st.slots.Has m := by
  unfold seen at h
  cases hp : readsSharedPref o st with
  | false =>
    -- the cloud copy answered
    rw [hp] at h
    exact .inl (Option.some.inj h)
  | true =>
    -- the preferences answered, with what they hold after a possible clearing
    rw [hp, if_pos rfl] at h
    unfold readFromSharedPref getSharedPreferences at h
    cases hr : o.sharedPreferences.returns with
    | false => rw [hr] at h; cases h
    | true =>
      rw [hr] at h
      cases hd : (st.slots.wipeDevice o.sharedPreferences.clears).device with
      | none => simp [hd] at h
      | some d =>
        simp only [hd] at h
        have hdm : d = m := by
          cases hg : o.getString <;> simp [hg] at h
          exact h
        subst hdm
        exact Slots.has_wipeDevice (.inr hd)

/-! ## Writing -/

theorem saveToSharedPref_eq (o : Outcomes) (mnemonic : String) (st : Store) :
    saveToSharedPref o mnemonic st =
      (o.sharedPreferences.returns,
        { st with
          slots := (st.slots.wipeDevice o.sharedPreferences.clears).land
            (if o.sharedPreferences.returns && o.commit then some .device else none) mnemonic }) := by
  unfold saveToSharedPref getSharedPreferences
  cases o.sharedPreferences.returns <;> cases o.commit <;> rfl

/-- The effect of `save` on the slots. -/
theorem save_slots (o : Outcomes) (mnemonic : String) (useBlockStore forceBlockStore : Bool)
    (onSuccess : List Reply) (onFailure : String → List Reply) (st : Store) :
    (save o mnemonic useBlockStore forceBlockStore onSuccess onFailure st).2 =
      { st with
        slots := (st.slots.wipeDevice (saveClears o useBlockStore forceBlockStore st)).land
          (landing o useBlockStore forceBlockStore st) mnemonic } := by
  unfold save saveClears landing savesToSharedPref
  -- one case for each branch of `save`
  cases hu : useBlockStore && st.isEndToEndEncryptionAvailable <;> cases hs : o.storeBytes <;>
    cases forceBlockStore <;> simp [saveToSharedPref_eq] <;>
    cases o.sharedPreferences.returns <;> simp

/-- The reply to `saveMnemonic` for a valid mnemonic. It does not depend on `commit`, and there
is none if the listener dies. -/
def saveReply (o : Outcomes) (useBlockStore forceBlockStore : Bool) (st : Store) : Option Reply :=
  if useBlockStore && st.isEndToEndEncryptionAvailable then
    match o.storeBytes with
    | none => some (.success (.bool true))
    | some e =>
      if forceBlockStore then
        some (.error "mnemonic_save_failure" s!"Failed to save mnemonic to cloud {e}")
      else if o.sharedPreferences.returns then some (.success (.bool true))
      else none
  else if forceBlockStore then
    some (.error "mnemonic_save_failure"
      "Failed to save mnemonic. Android Blockstore is unavailable and force cloud is on")
  else if o.sharedPreferences.returns then some (.success (.bool true))
  else some .empty

/-- The handler `saveMnemonic` in closed form. -/
theorem saveMnemonic_eq (k : Kethereum) (o : Outcomes) (mnemonic : String)
    (useBlockStore forceBlockStore : Bool) (st : Store) :
    ((saveMnemonic k o mnemonic useBlockStore forceBlockStore st).1.reply,
        (saveMnemonic k o mnemonic useBlockStore forceBlockStore st).2) =
      (if k.validate mnemonic then saveReply o useBlockStore forceBlockStore st
        else some (.error "mnemonic_verification_failure" "Mnemonic is not valid"),
        { st with
          slots := (st.slots.wipeDevice (saveClears o useBlockStore forceBlockStore st)).land
            (landing o useBlockStore forceBlockStore st) mnemonic }) := by
  refine Prod.ext ?_ ?_
  · cases hv : k.validate mnemonic with
    | false =>
      -- the error reply is the first one, so it is the one that counts
      simp [saveMnemonic, hv, Handled.reply]
    | true =>
      obtain ⟨slots, e2ee, n⟩ := st
      cases useBlockStore <;> cases e2ee <;> cases hs : o.storeBytes <;>
        cases forceBlockStore <;> cases hp : o.sharedPreferences.returns <;>
        simp [saveMnemonic, save, saveReply, saveToSharedPref_eq, hv, hs, hp, Handled.reply,
          Handled.replied, Handled.crashed, Handled.thrown]
  · simp only [saveMnemonic, save_slots]

/-! ## Deleting -/

/-- The handler `deleteMnemonic` in closed form. -/
theorem deleteMnemonic_eq (o : Outcomes) (st : Store) :
    ((deleteMnemonic o st).1.reply, (deleteMnemonic o st).2) =
      (some (if o.sharedPreferences.returns then .success (.bool true) else .empty),
        { st with
          slots := st.slots.wipeDevice (deleteEmptiesDevice o)
          pendingDeletes := st.pendingDeletes + 1 }) := by
  unfold deleteMnemonic delete deleteFromSharedPref getSharedPreferences deleteEmptiesDevice
  cases hp : o.sharedPreferences <;> cases hc : o.commit <;>
    simp [deleteFromCloudKeystore, PrefsOpening.returns, PrefsOpening.clears, Handled.reply,
      Handled.replied, Handled.thrown, Slots.set]

/-- Completed deletions have emptied the cloud slot exactly if one of the running ones was
among them and succeeded. -/
theorem slots_deleteBytesComplete (results : List Bool) (st : Store) :
    (results.foldl (fun st ok => st.deleteBytesCompletes ok) st).slots =
      st.slots.wipeCloud ((results.take st.pendingDeletes).contains true) := by
  induction results generalizing st with
  | nil => simp
  | cons ok results ih =>
    obtain ⟨slots, e2ee, n⟩ := st
    rw [List.foldl_cons, ih]
    cases n with
    | zero =>
      -- nothing is running, so the result is not taken
      simp [Store.deleteBytesCompletes]
    | succ n =>
      cases ok with
      | false => simp [Store.deleteBytesCompletes]
      | true =>
        have hset : slots.set .cloud none = slots.wipeCloud true := rfl
        simp only [Store.deleteBytesCompletes, if_true, hset, Slots.wipeCloud_wipeCloud,
          List.take_succ_cons, List.contains_cons]
        simp

end RlyNetworkSdk.Android
