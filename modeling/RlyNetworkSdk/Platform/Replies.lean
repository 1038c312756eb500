import RlyNetworkSdk.Platform.Backend

/-!
# How Often an Android Handler Replies

A method call is answered by one call of `result.success` or `result.error`: without one the
Dart future never completes, and a second one raises an exception. Here the replies that a
handler sends are counted, over its callbacks and listeners.

A handler of a call with a phrase checks it first and replies an error if the check fails,
but does not return. So a reply is sent for a failed check, and another one for the rest of
the handler, unless the encrypted preferences throw there.
-/

namespace RlyNetworkSdk.Android

open KeyStorage Channel Platform

variable (k : Kethereum)

/-! ## What a reply depends on -/

/-- The phrase of the call, if it has one, passes the check. -/
def verified : MethodCall → Bool
  | .saveMnemonic mnemonic _ _ => k.validate mnemonic
  | .getPrivateKeyFromMnemonic mnemonic => k.validate mnemonic
  | _ => true

/-- `readFromSharedPref` returns: the preferences open, and what they hold then can be
decrypted. -/
def sharedPrefReads (o : Outcomes) (st : Store) : Bool :=
  o.sharedPreferences.returns &&
    (o.getString || (st.slots.wipeDevice o.sharedPreferences.clears).device.isNone)

/-- The encrypted preferences do not throw where the handler turns to them. Where it does not
turn to them, they cannot throw. -/
def sharedPrefAnswers (o : Outcomes) (st : Store) : MethodCall → Bool
  | .getMnemonic | .mnemonicBackedUpToCloud => !readsSharedPref o st || sharedPrefReads o st
  | .saveMnemonic _ useBlockStore forceBlockStore =>
    !savesToSharedPref o useBlockStore forceBlockStore st || o.sharedPreferences.returns
  | .deleteMnemonic => o.sharedPreferences.returns
  | .deleteCloudMnemonic | .generateNewMnemonic | .getPrivateKeyFromMnemonic _ => true

/-! ## Counting replies -/

theorem readFromSharedPref_isSome (o : Outcomes) (st : Store) :
    (readFromSharedPref o st).1.isSome = sharedPrefReads o st := by
  unfold readFromSharedPref getSharedPreferences sharedPrefReads
  cases o.sharedPreferences.returns with
  | false => rfl
  | true =>
    cases hd : (st.slots.wipeDevice o.sharedPreferences.clears).device <;>
      cases o.getString <;> simp [hd]

/-- Whatever the callback of a read replies with, it runs once, or not at all. -/
theorem read_replies_length (o : Outcomes) (onSuccess : Option String → Bool → List Reply)
    (hone : ∀ mnemonic fromBlockstore, (onSuccess mnemonic fromBlockstore).length = 1)
    (st : Store) :
    (read o onSuccess st).1.replies.length =
      if !readsSharedPref o st || sharedPrefReads o st then 1 else 0 := by
  rw [← readFromSharedPref_isSome]
  obtain ⟨⟨cloud, device⟩, e, n⟩ := st
  cases hread : readFromSharedPref o ⟨⟨cloud, device⟩, e, n⟩ with
  | mk m st' =>
    -- whether the cloud copy answers, and if not, whether the preferences do
    cases hr : o.retrieveBytes <;> cases cloud <;> cases m <;>
      simp [read, hr, hread, blockstoreDataMap, readsSharedPref, Handled.replied,
        Handled.crashed, hone]

theorem save_replies_length (o : Outcomes) (mnemonic : String)
    (useBlockStore forceBlockStore : Bool) (onSuccess : List Reply)
    (onFailure : String → List Reply) (hsuccess : onSuccess.length = 1)
    (hfailure : ∀ message, (onFailure message).length = 1) (st : Store) :
    (save o mnemonic useBlockStore forceBlockStore onSuccess onFailure st).1.replies.length =
      if !savesToSharedPref o useBlockStore forceBlockStore st || o.sharedPreferences.returns
      then 1 else 0 := by
  unfold save savesToSharedPref
  -- one case for each branch of `save`
  cases hu : useBlockStore && st.isEndToEndEncryptionAvailable <;> cases hs : o.storeBytes <;>
    cases forceBlockStore <;> cases hp : o.sharedPreferences.returns <;>
    simp [saveToSharedPref_eq, hp, Handled.replied, Handled.crashed, Handled.thrown, hsuccess,
      hfailure]

theorem deleteMnemonic_replies_length (o : Outcomes) (st : Store) :
    (deleteMnemonic o st).1.replies.length = if o.sharedPreferences.returns then 1 else 0 := by
  unfold deleteMnemonic delete deleteFromSharedPref getSharedPreferences
  cases o.sharedPreferences.returns <;> rfl

/-- **The number of replies.** One for a failed check, and one for what the handler does
besides. -/
theorem replies_length (call : MethodCall) (o : Outcomes) (st : Store) :
    (onMethodCall k call o st).1.replies.length =
      (if verified k call then 0 else 1) + if sharedPrefAnswers o st call then 1 else 0 := by
  cases call with
  | generateNewMnemonic => rfl
  | getMnemonic =>
    exact (read_replies_length o _ (fun _ _ => rfl) st).trans (Nat.zero_add _).symm
  | mnemonicBackedUpToCloud =>
    exact (read_replies_length o _ (fun _ _ => rfl) st).trans (Nat.zero_add _).symm
  | deleteMnemonic => exact (deleteMnemonic_replies_length o st).trans (Nat.zero_add _).symm
  | deleteCloudMnemonic => rfl
  | saveMnemonic mnemonic useBlockStore forceBlockStore =>
    have hsaved := save_replies_length o mnemonic useBlockStore forceBlockStore
      [.success (.bool true)] (fun message => [.error "mnemonic_save_failure" message]) rfl
      (fun _ => rfl) st
    simp only [onMethodCall, saveMnemonic, List.length_append, hsaved, verified,
      sharedPrefAnswers]
    by_cases hv : k.validate mnemonic = true <;> simp [hv]
  | getPrivateKeyFromMnemonic mnemonic =>
    simp only [onMethodCall, getPrivateKeyFromMnemonic, Handled.replied, verified,
      sharedPrefAnswers]
    by_cases hv : k.validate mnemonic = true <;> simp [hv]

/-! ## Exactly one reply -/

/-- The encrypted preferences can be used. The outcomes of the Block Store tasks are open. -/
def Outcomes.PreferencesWork (o : Outcomes) : Prop :=
  o.sharedPreferences = .opened ∧ o.getString = true ∧ o.commit = true

/-- Every call is replied to exactly once, whatever becomes of its Block Store tasks, as long as
the preferences work. -/
def RepliesExactlyOnce : Prop :=
  ∀ (call : MethodCall) (o : Outcomes) (st : Store), o.PreferencesWork →
    (onMethodCall k call o st).1.replies.length = 1

/-- **When there is exactly one reply.** For every call and every outcome of the Block Store
tasks and of the encrypted preferences: the phrase of the call passes the check and the
preferences answer where they are needed, or neither. -/
theorem exactly_one_reply_iff (call : MethodCall) (o : Outcomes) (st : Store) :
    (onMethodCall k call o st).1.replies.length = 1 ↔
      (verified k call = true ↔ sharedPrefAnswers o st call = true) := by
  rw [replies_length]
  cases verified k call <;> cases sharedPrefAnswers o st call <;> simp

/-- **Two replies.** An invalid phrase is replied to with an error and then, all the same,
with the result of the save. -/
theorem not_repliesExactlyOnce : ¬ RepliesExactlyOnce Sample.kethereum := by
  intro h
  have hone := h (.saveMnemonic "not a phrase" true true) Sample.androidSuccess
    (Sample.androidStore none none) ⟨rfl, rfl, rfl⟩
  revert hone
  decide +kernel

end RlyNetworkSdk.Android
