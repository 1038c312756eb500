import RlyNetworkSdk.Ios.RlyNetworkMobileSdk

/-!
# What an iOS Call Does to the Two Keychain Items

The closed forms that `Android.Outcome` gives for Android, for the keychain.
-/

namespace RlyNetworkSdk.Ios

open KeyStorage

/-- The item that a save is meant for. -/
def target (saveToCloud : Bool) : Slot := if saveToCloud then .cloud else .device

/-- The keychain carries out what a save of `item` asks for: the add, and the update as
well if the item is there already. -/
def writes (o : Outcomes) (item : Slot) (st : Store) : Bool :=
  o.secItemAdd && ((st.get item).isNone || o.secItemUpdate)

/-- The slot that a save reaches. It is none if the keychain does not carry the write out, of
which the caller is not told. -/
def landing (o : Outcomes) (saveToCloud : Bool) (st : Store) : Option Slot :=
  if writes o (target saveToCloud) st then some (target saveToCloud) else none

/-- The effect of a save of one item. -/
theorem saveToKeychain_eq (item : Slot) (o : Outcomes) (data : String) (st : Store) :
    saveToKeychain item o data st =
      st.land (if writes o item st then some item else none) data := by
  unfold saveToKeychain secItemAdd secItemUpdate writes
  cases hadd : o.secItemAdd with
  | false => simp
  | true =>
    cases hitem : st.get item with
    | none => simp [Slots.land]
    -- a duplicate item, so it is up to the update
    | some old => cases hupd : o.secItemUpdate <;> simp [hitem, Slots.land]

/-- The effect of `KeychainHelper.save`. -/
theorem save_eq (o : Outcomes) (data : String) (saveToCloud : Bool) (st : Store) :
    save o data saveToCloud st = st.land (landing o saveToCloud st) data := by
  cases saveToCloud <;>
    simp [save, saveToiCloudKeychain, saveToDeviceKeychain, saveToKeychain_eq, landing, target]

/-- The effect of a deletion of one item. -/
theorem secItemDelete_snd (o : Outcomes) (item : Slot) (st : Store) :
    (secItemDelete o item st).2 = if o.secItemDelete item then st.set item none else st := by
  obtain ⟨cloud, device⟩ := st
  unfold secItemDelete
  cases hdel : o.secItemDelete item with
  | false => rfl
  | true =>
    cases item with
    | cloud => cases cloud <;> rfl
    | device => cases device <;> rfl

/-- The effect of `KeychainHelper.delete`. -/
theorem delete_eq (o : Outcomes) (st : Store) :
    delete o st =
      (st.wipeDevice (o.secItemDelete .device)).wipeCloud (o.secItemDelete .cloud) := by
  unfold delete deleteFromiCloudKeychain deleteFromDeviceKeychain
  rw [secItemDelete_snd, secItemDelete_snd]
  cases o.secItemDelete .device <;> cases o.secItemDelete .cloud <;> rfl

/-- A read reports nil: no query matched, each by failure or for want of an item. -/
def ReadsAsEmpty (o : Outcomes) (st : Store) : Prop :=
  ∀ item, o.secItemCopyMatching item = false ∨ st.get item = none

theorem getMnemonic_eq_none_iff (o : Outcomes) (st : Store) :
    getMnemonic o st = none ↔ ReadsAsEmpty o st := by
  unfold getMnemonic read readFromiCloudKeychain readFromDeviceKeychain secItemCopyMatching
  constructor
  · intro h item
    -- a nil answer of the cloud query makes the device query the answer
    cases hc : o.secItemCopyMatching .cloud <;> cases hd : o.secItemCopyMatching .device <;>
      cases hcloud : st.get .cloud <;> cases item <;> simp_all
  · intro h
    have hc := h .cloud
    have hd := h .device
    rcases hc with hc | hc <;> rcases hd with hd | hd <;> simp [hc, hd]

/-- A generated phrase is valid exactly if there was randomness for it. -/
theorem mnemonicCheck_generateMnemonic_iff (c : Bip39C) (o : Outcomes) :
    c.mnemonicCheck (generateMnemonic c o) = true ↔ o.secRandomCopyBytes.isSome = true := by
  unfold generateMnemonic
  cases o.secRandomCopyBytes with
  | none => simp [c.mnemonicCheck_failure]
  | some data => simp [c.mnemonicCheck_mnemonicFromData data]

/-- A read reports only what one of the items holds. -/
theorem has_of_read {o : Outcomes} {st : Store} {m : String} (h : read o st = some m) :
    st.Has m := by
  unfold read readFromiCloudKeychain readFromDeviceKeychain secItemCopyMatching at h
  cases hc : o.secItemCopyMatching .cloud <;> cases hd : o.secItemCopyMatching .device <;>
    cases hcloud : st.cloud <;> simp_all [Slots.get, Slots.Has]

end RlyNetworkSdk.Ios
