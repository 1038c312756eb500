import RlyNetworkSdk.Wallet.Operations
import RlyNetworkSdk.Concurrency.Pool

/-!
# Interleaved Wallet Operations

How the channel serves the requests of a pool of calls when every native call succeeds and
completes at once, and the proof rules for the Dart functions that such pools are made of:
what a function follows, given what the protocol allows it to ask for.
-/

namespace RlyNetworkSdk.Platform.Backend

open KeyStorage Channel Concurrency Dart

variable {d : Backend} {ι : Type}

/-! ## Serving requests -/

/-- The calls of a process on the back end `d`. -/
abbrev WalletPool (d : Backend) (ι α : Type) : Type :=
  Pool ι Cache d.Store MethodCall Reply DartError α

/-- Serve a request of call `i`, with every deletion that it starts completed. -/
def serveAtomically (o : ι → d.Environment) (i : ι) (call : MethodCall) (st : d.Store) :
    Option Reply × d.Store :=
  ((d.invoke call (o i call.method) st).1, d.settle (d.invoke call (o i call.method) st).2)

section Serve

variable {o : ι → d.Environment} {i : ι} {st : d.Store}

theorem serveAtomically_of_invoke (call : MethodCall) {r : Option Reply} {st' : d.Store}
    (h : d.invoke call (o i call.method) st = (r, st')) :
    serveAtomically o i call st = (r, d.settle st') := by
  unfold serveAtomically
  rw [h]

theorem serve_generateNewMnemonic (hidle : d.running st = 0) :
    serveAtomically o i .generateNewMnemonic st =
      (some (.success (.string (d.generated (o i .generateNewMnemonic)))), st) := by
  have hserved := serveAtomically_of_invoke (o := o) (i := i) .generateNewMnemonic
    (invoke_generateNewMnemonic (o i .generateNewMnemonic) st)
  rw [hserved, settle_of_idle hidle]

theorem serve_getMnemonic (ho : d.ReadsSucceed (o i .getMnemonic)) (hidle : d.running st = 0) :
    serveAtomically o i .getMnemonic st =
      (some (.success (.ofString? (d.slots st).current)), st) := by
  have hinv := invoke_getMnemonic (o i .getMnemonic) st
  rw [seen_of_readsSucceed ho, afterRead_of_readsSucceed ho] at hinv
  have hserved := serveAtomically_of_invoke (o := o) (i := i) .getMnemonic hinv
  rw [hserved, settle_of_idle hidle]
  rfl

theorem serve_getPrivateKeyFromMnemonic (m : String) (hidle : d.running st = 0) :
    ∃ r, serveAtomically o i (.getPrivateKeyFromMnemonic m) st = (some r, st) ∧
      r.decode >>= Value.asList =
        if d.accepts m then .ok (some (d.privateKeyInts m)) else .error d.rejection := by
  obtain ⟨r, hinv, hr⟩ :=
    invoke_getPrivateKeyFromMnemonic m (o i .getPrivateKeyFromMnemonic) st
  have hserved := serveAtomically_of_invoke (o := o) (i := i) (.getPrivateKeyFromMnemonic m) hinv
  rw [settle_of_idle hidle] at hserved
  exact ⟨r, hserved, hr⟩

/-- A save that is refused changes no slot and is an error; any other fills its slot. -/
theorem serve_saveMnemonic (ho : d.Succeeds (o i .saveMnemonic)) {m : String}
    (hm : d.savable m = true) (cfg : KeyStorageConfig) (hidle : d.running st = 0) :
    ∃ r st', serveAtomically o i
        (.saveMnemonic m cfg.saveToCloud cfg.rejectOnCloudSaveFailure) st = (some r, st') ∧
      d.running st' = 0 ∧ d.cloudAvailable st' = d.cloudAvailable st ∧
      if d.refuses cfg st then (∃ e, r.decode = .error e) ∧ d.slots st' = d.slots st
      else (∃ v, r.decode = .ok v) ∧ d.slots st' = (d.slots st).land (some (d.target cfg st)) m := by
  have hreply := ho.completionOf_saveReply hm cfg st
  have hslots : d.slots (d.settle (d.afterSave (o i .saveMnemonic) m cfg st)) =
      (d.slots st).land (if d.refuses cfg st then none else some (d.target cfg st)) m := by
    rw [slots_settle, running_afterSave, hidle, slots_afterSave, ho.saveClears, ho.landing]
    simp
  cases hr : d.saveReply (o i .saveMnemonic) m cfg st with
  | none =>
    -- with every native call succeeding, a save is always answered
    rw [hr] at hreply
    change Completion.pending = _ at hreply
    split at hreply <;> cases hreply
  | some r =>
    rw [hr] at hreply
    refine ⟨r, d.settle (d.afterSave (o i .saveMnemonic) m cfg st), ?_, running_settle _, ?_, ?_⟩
    · have hinv := invoke_saveMnemonic (o i .saveMnemonic) m cfg st
      rw [hr] at hinv
      exact serveAtomically_of_invoke _ hinv
    · rw [cloudAvailable_settle, cloudAvailable_afterSave]
    · rw [hslots]
      cases hdecode : r.decode with
      | ok v =>
        simp only [completionOf, hdecode] at hreply
        cases hrefuses : d.refuses cfg st with
        | true => simp [hrefuses] at hreply
        | false => simp
      | error e =>
        simp only [completionOf, hdecode] at hreply
        cases hrefuses : d.refuses cfg st with
        | true => simp
        | false => simp [hrefuses] at hreply

theorem serve_deleteMnemonic (ho : d.Succeeds (o i .deleteMnemonic)) (st : d.Store) :
    ∃ st', serveAtomically o i .deleteMnemonic st = (some (.success (.bool true)), st') ∧
      d.running st' = 0 ∧ d.cloudAvailable st' = d.cloudAvailable st ∧
      d.slots st' = Slots.empty := by
  refine ⟨d.settle (d.afterDelete (o i .deleteMnemonic) st), ?_, running_settle _, ?_,
    ho.slots_deleted st⟩
  · have hinv := invoke_deleteMnemonic (o i .deleteMnemonic) st
    rw [ho.deletes.1] at hinv
    exact serveAtomically_of_invoke _ hinv
  · rw [cloudAvailable_settle, cloudAvailable_afterDelete]

/-- A generated phrase is valid, and nothing changes. -/
theorem servedWell_generateNewMnemonic [DecidableEq ι] {L : Type}
    {P : Protocol Cache MethodCall Reply L} {Inv : Cache → d.Store → (ι → L) → Prop} {c : Cache}
    {g : ι → L} (ho : d.Succeeds (o i .generateNewMnemonic)) (hidle : d.running st = 0)
    (h : Inv c st g)
    (hreply : ∀ m, d.accepts m = true →
      P.onReply (g i) .generateNewMnemonic (.success (.string m)) (g i)) :
    ServedWell P Inv (serveAtomically o) c st g i .generateNewMnemonic := by
  have hserved := serve_generateNewMnemonic (o := o) (i := i) hidle
  refine ⟨_, g i, congrArg Prod.fst hserved, hreply _ ho.accepts_generated, ?_⟩
  rw [hserved, Function.update_eq_self]
  exact h

end Serve

/-! ## Proof rules for the Dart functions -/

section Rules

variable {L : Type} {P : Protocol Cache MethodCall Reply L} {l : L}

theorem follows_invokeMethod {α : Type} {f : Value → Except DartError α} {call : MethodCall}
    {Post : L → Except DartError α → Prop} (hmay : P.mayInvoke l call)
    (hreply : ∀ r l', P.onReply l call r l' → Post l' (r.decode >>= f)) :
    Follows P Post l (invokeMethod f call) :=
  ⟨hmay, hreply⟩

theorem follows_generateMnemonic {Post : L → Except DartError String → Prop}
    (hmay : P.mayInvoke l .generateNewMnemonic)
    (hreply : ∀ r l', P.onReply l .generateNewMnemonic r l' →
      ∃ m, r = .success (.string m) ∧ Post l' (.ok m)) :
    Follows P Post l KeyManager.generateMnemonic := by
  -- the reply is cast to a text, and is one
  have hinvoked : Follows P (fun l' r => ∃ m, r = .ok (some m) ∧ Post l' (.ok m)) l
      (invokeMethod Value.asString .generateNewMnemonic) := by
    refine follows_invokeMethod hmay ?_
    intro r l' hr
    obtain ⟨m, rfl, hpost⟩ := hreply r l' hr
    exact ⟨m, rfl, hpost⟩
  refine hinvoked.await.bind ?_ ?_
  · rintro l' a ⟨m, ha, hpost⟩
    cases ha
    exact hpost
  · rintro l' e ⟨m, he, -⟩
    cases he

theorem follows_getMnemonic {Post : L → Except DartError (Option String) → Prop}
    (hmay : P.mayInvoke l .getMnemonic)
    (hreply : ∀ r l', P.onReply l .getMnemonic r l' →
      ∃ m, r = .success (.ofString? m) ∧ Post l' (.ok m)) :
    Follows P Post l KeyManager.getMnemonic := by
  have hinvoked : Follows P Post l (invokeMethod Value.asString .getMnemonic) := by
    refine follows_invokeMethod hmay ?_
    intro r l' hr
    obtain ⟨m, rfl, hpost⟩ := hreply r l' hr
    change Post l' (Value.ofString? m).asString
    rw [Value.asString_ofString?]
    exact hpost
  exact hinvoked.await

theorem follows_saveMnemonic {Post : L → Except DartError Unit → Prop} {m : String}
    {cfg : KeyStorageConfig}
    (hmay : P.mayInvoke l (.saveMnemonic m cfg.saveToCloud cfg.rejectOnCloudSaveFailure))
    (hreply : ∀ r l',
      P.onReply l (.saveMnemonic m cfg.saveToCloud cfg.rejectOnCloudSaveFailure) r l' →
        (∃ v, r.decode = .ok v ∧ Post l' (.ok ())) ∨
          ∃ e, r.decode = .error e ∧ ∀ e, Post l' (.error e)) :
    Follows P Post l (KeyManager.saveMnemonic m cfg) := by
  -- the value of the reply is dropped, an error is not
  have hinvoked : Follows P (fun l' (r : Except DartError Value) =>
        (∃ v, r = .ok v ∧ Post l' (.ok ())) ∨ ∃ e, r = .error e ∧ ∀ e, Post l' (.error e)) l
      (invokeMethod Value.asDynamic
        (.saveMnemonic m cfg.saveToCloud cfg.rejectOnCloudSaveFailure)) := by
    refine follows_invokeMethod hmay ?_
    intro r l' hr
    rcases hreply r l' hr with ⟨v, hv, hpost⟩ | ⟨e, he, hpost⟩
    · rw [hv]
      exact .inl ⟨v, rfl, hpost⟩
    · rw [he]
      exact .inr ⟨e, rfl, hpost⟩
  refine hinvoked.await.bind ?_ ?_
  · rintro l' v (⟨v', hv, hpost⟩ | ⟨e', he, hpost⟩)
    · exact hpost
    · cases he
  · rintro l' e (⟨v', hv, hpost⟩ | ⟨e', he, hpost⟩)
    · cases hv
    · exact hpost e

theorem follows_deleteMnemonic {Post : L → Except DartError Unit → Prop}
    (hmay : P.mayInvoke l .deleteMnemonic)
    (hreply : ∀ r l', P.onReply l .deleteMnemonic r l' →
      r = .success (.bool true) ∧ Post l' (.ok ())) :
    Follows P Post l KeyManager.deleteMnemonic := by
  -- the reply is `true` in any case, and nobody looks at it
  have hinvoked : Follows P (fun l' r => r = .ok (some true) ∧ Post l' (.ok ())) l
      (invokeMethod Value.asBool .deleteMnemonic) := by
    refine follows_invokeMethod hmay ?_
    intro r l' hr
    obtain ⟨rfl, hpost⟩ := hreply r l' hr
    exact ⟨rfl, hpost⟩
  refine hinvoked.await.bind (fun _ _ h => h.2) ?_
  rintro l' e ⟨he, -⟩
  cases he

/-- The reply to a derivation is the key of the phrase, or the rejection of it. -/
theorem follows_makeWalletFromMnemonic {Post : L → Except DartError Wallet → Prop} {m : String}
    (hmay : P.mayInvoke l (.getPrivateKeyFromMnemonic m))
    (hreply : ∀ r l', P.onReply l (.getPrivateKeyFromMnemonic m) r l' →
      (r.decode >>= Value.asList = .ok (some (d.privateKeyInts m)) ∧
          Post l' (.ok (d.walletOf m))) ∨
        (r.decode >>= Value.asList = .error d.rejection ∧ Post l' (.error d.rejection))) :
    Follows P Post l (WalletManager.makeWalletFromMnemonic m) := by
  have hinvoked : Follows P (fun l' r =>
        (r = .ok (some (d.privateKeyInts m)) ∧ Post l' (.ok (d.walletOf m))) ∨
          (r = .error d.rejection ∧ Post l' (.error d.rejection))) l
      (invokeMethod Value.asList (.getPrivateKeyFromMnemonic m)) :=
    follows_invokeMethod hmay hreply
  -- the integers are parsed from their texts, which loses none of them
  have hkey : Follows P (fun l' r =>
        (r = .ok (KeyManager.uint8List (d.privateKeyInts m)) ∧
            Post l' (.ok (d.walletOf m))) ∨
          (r = .error d.rejection ∧ Post l' (.error d.rejection))) l
      (KeyManager.getPrivateKeyFromMnemonic m) := by
    refine hinvoked.await.bind ?_ ?_
    · rintro l' a (⟨ha, hpost⟩ | ⟨ha, -⟩)
      · cases ha
        exact .inl ⟨intListToUint8List_privateKeyInts d m, hpost⟩
      · cases ha
    · rintro l' e (⟨he, -⟩ | ⟨he, hpost⟩)
      · cases he
      · cases he
        exact .inr ⟨rfl, hpost⟩
  refine hkey.await.bind ?_ ?_
  · rintro l' a (⟨ha, hpost⟩ | ⟨ha, -⟩)
    · cases ha
      exact hpost
    · cases ha
  · rintro l' e (⟨he, -⟩ | ⟨he, hpost⟩)
    · cases he
    · cases he
      exact hpost

/-- The derivation of a phrase and the publication of the wallet, which nothing comes between. -/
theorem follows_publication {α : Type} {Post : L → Except DartError α → Prop} {m : String}
    {answer : Wallet → α}
    (hmake : Follows P (fun l' r =>
      match r with
      | .ok wallet => ∃ l'', P.onWrite l' (some wallet) l'' ∧ Post l'' (.ok (answer wallet))
      | .error e => Post l' (.error e)) l (WalletManager.makeWalletFromMnemonic m)) :
    Follows P Post l (do
      let wallet ← (WalletManager.makeWalletFromMnemonic m).await
      .write (some wallet) (return answer wallet)) := by
  apply hmake.await.bind
  · rintro l' wallet ⟨l'', hwrite, hpost⟩
    exact ⟨l'', hwrite, hpost⟩
  · exact fun _ _ hpost => hpost

/-- `getWallet` answers from the cache; if that is empty it asks for the mnemonic, and publishes
the wallet of the one that it finds. -/
theorem follows_getWallet {Post : L → Except DartError (Option Wallet) → Prop}
    (hread : P.mayRead l)
    (hcached : ∀ wallet l', P.onRead l (some wallet) l' → Post l' (.ok (some wallet)))
    (hmay : ∀ l', P.onRead l none l' → P.mayInvoke l' .getMnemonic)
    (hreply : ∀ l', P.onRead l none l' → ∀ r l'', P.onReply l' .getMnemonic r l'' →
      (r = .success (.ofString? none) ∧ Post l'' (.ok none)) ∨
        ∃ m, r = .success (.ofString? (some m)) ∧ Follows P (fun l' r =>
          match r with
          | .ok wallet => ∃ l'', P.onWrite l' (some wallet) l'' ∧ Post l'' (.ok (some wallet))
          | .error e => Post l' (.error e)) l'' (WalletManager.makeWalletFromMnemonic m)) :
    Follows P Post l WalletManager.getWallet := by
  -- the look at the cache is a step of its own
  have hcache : Follows P (fun l' r => ∃ c, r = .ok c ∧ P.onRead l c l') l
      (Async.getMemory : Future Cache) := ⟨hread, fun c l' hc => ⟨c, rfl, hc⟩⟩
  unfold WalletManager.getWallet
  apply hcache.bind
  · rintro l' c ⟨c', hc', hc⟩
    cases hc'
    cases c with
    | some wallet => exact hcached wallet l' hc
    | none =>
      -- nothing is cached, so the mnemonic is asked for
      have hget : Follows P (fun l'' r => (r = .ok none ∧ Post l'' (.ok none)) ∨
          ∃ mnemonic, r = .ok (some mnemonic) ∧ Follows P Post l'' (do
            let wallet ← (WalletManager.makeWalletFromMnemonic mnemonic).await
            .write (some wallet) (return some wallet))) l' KeyManager.getMnemonic := by
        apply follows_getMnemonic (hmay l' hc)
        intro r l'' hr
        rcases hreply l' hc r l'' hr with ⟨rfl, hnone⟩ | ⟨m, rfl, hmake⟩
        · exact ⟨none, rfl, .inl ⟨rfl, hnone⟩⟩
        · exact ⟨some m, rfl, .inr ⟨m, rfl, follows_publication hmake⟩⟩
      apply hget.await.bind
      · rintro l'' m (⟨hm, hnone⟩ | ⟨mnemonic, hm, hrest⟩)
        · cases hm
          exact hnone
        · cases hm
          exact hrest
      · rintro l'' e (⟨he, -⟩ | ⟨mnemonic, he, -⟩)
        · cases he
        · cases he
  · rintro l' e ⟨c, he, -⟩
    cases he

/-- `createWallet` goes on as an import of the generated phrase. -/
theorem follows_createWallet {Post : L → Except DartError Wallet → Prop} {overwrite : Bool}
    {storageOptions : Option KeyStorageConfig} (hmay : P.mayInvoke l .generateNewMnemonic)
    (hreply : ∀ r l', P.onReply l .generateNewMnemonic r l' →
      ∃ m, r = .success (.string m) ∧
        Follows P Post l' (WalletManager.importExistingWallet m overwrite storageOptions)) :
    Follows P Post l (WalletManager.createWallet overwrite storageOptions) := by
  -- the phrase is handed on, with what the import of it needs
  have hgenerate : Follows P (fun l' r => ∃ m, r = .ok m ∧
      Follows P Post l' (WalletManager.importExistingWallet m overwrite storageOptions)) l
      KeyManager.generateMnemonic := by
    apply follows_generateMnemonic hmay
    intro r l' hr
    obtain ⟨m, rfl, himport⟩ := hreply r l' hr
    exact ⟨m, rfl, m, rfl, himport⟩
  unfold WalletManager.createWallet
  apply hgenerate.await.bind
  · rintro l' m ⟨m', hm', himport⟩
    cases hm'
    exact himport
  · rintro l' e ⟨m, he, -⟩
    cases he

end Rules

end RlyNetworkSdk.Platform.Backend
