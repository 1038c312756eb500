import RlyNetworkSdk.Wallet.Interleaving
import Mathlib.Data.Fintype.Basic

/-!
# Concurrent Creations

Any number of creations without `overwrite` run at once, on an empty store. The check for
an existing wallet and the save are separate requests, so two calls can both find nothing
before either has saved. The theorem says that this is all that can go wrong: as long as no
call is told that there is no wallet while another one is about to save, one wallet is kept
and at most one call returns.

## Proof outline

Each call has a `Phase`, and `protocol` says which requests and writes a phase allows and
where they lead. The invariant `OneWallet` speaks of the store, the cache and the phases
only: either nothing is stored and at most one call has passed the check, or exactly one
call has stored its phrase and no other one has passed.
-/

namespace RlyNetworkSdk.Platform.Backend

open KeyStorage Channel Concurrency Dart

variable {d : Backend} {cfg : KeyStorageConfig}

namespace ConcurrentCreation

/-! ## The protocol of a creation -/

/-- Where a creation stands. What it may ask for next, and what it may write, depends on nothing
else. -/
inductive Phase where
  /-- It has not been told whether there is a wallet. -/
  | fresh
  /-- It was told that there is none. -/
  | checked
  /-- It has stored `m`. -/
  | stored (m : String)
  /-- It has found `m` in the store, and derives the wallet. -/
  | finding (m : String)
  /-- It has found a wallet. -/
  | refused
  /-- Its save was refused. -/
  | failed
  deriving DecidableEq, Repr

open Phase

/-- What a creation may do in each phase: which requests it may make, which replies the platform
gives and where they lead, and when it reads or writes the cache. -/
def protocol (d : Backend) (cfg : KeyStorageConfig) : Protocol Cache MethodCall Reply Phase where
  mayInvoke
    | fresh, q => q = .generateNewMnemonic ∨ q = .getMnemonic
    | checked, q => ∃ m, d.accepts m = true ∧
        q = .saveMnemonic m cfg.saveToCloud cfg.rejectOnCloudSaveFailure
    | stored m, q => q = .getPrivateKeyFromMnemonic m
    | finding m, q => q = .getPrivateKeyFromMnemonic m
    | _, _ => False
  onReply
    | fresh, .generateNewMnemonic, r, l' =>
      l' = fresh ∧ ∃ m, d.accepts m = true ∧ r = .success (.string m)
    | fresh, .getMnemonic, r, l' =>
      (r = .success (.ofString? none) ∧ l' = checked) ∨
        ∃ m, r = .success (.ofString? (some m)) ∧ l' = finding m
    | checked, .saveMnemonic m _ _, r, l' =>
      (l' = stored m ∧ ∃ v, r.decode = .ok v) ∨ (l' = failed ∧ ∃ e, r.decode = .error e)
    | stored m, .getPrivateKeyFromMnemonic _, r, l' =>
      l' = stored m ∧ r.decode >>= Value.asList = .ok (some (d.privateKeyInts m))
    | finding m, .getPrivateKeyFromMnemonic _, r, l' =>
      l' = finding m ∧ r.decode >>= Value.asList = .ok (some (d.privateKeyInts m))
    | _, _, _, _ => False
  mayRead l := l = fresh
  onRead
    | fresh, none, l' => l' = fresh
    | fresh, some _, l' => l' = refused
    | _, _, _ => False
  onWrite
    | stored m, c, l' => c = some (d.walletOf m) ∧ l' = stored m
    | finding m, c, l' => c = some (d.walletOf m) ∧ l' = refused
    | _, _, _ => False

/-- A creation returns the wallet of the phrase that it has stored, or throws because it found a
wallet or because its save was refused. -/
def post (d : Backend) (l : Phase) : Except DartError Wallet → Prop
  | .ok wallet => ∃ m, l = stored m ∧ wallet = d.walletOf m
  | .error _ => l = refused ∨ l = failed

/-! ## The functions follow the protocol -/

/-- The derivation of a phrase that was found or stored stays in its phase and gives the wallet
of the phrase. -/
theorem follows_makeWallet {l : Phase} {m : String} (hl : l = finding m ∨ l = stored m) :
    Follows (protocol d cfg) (fun l' r => l' = l ∧ r = .ok (d.walletOf m)) l
      (WalletManager.makeWalletFromMnemonic m) := by
  -- the two phases differ in what the caller does with the wallet, not in the derivation
  rcases hl with rfl | rfl
  · apply follows_makeWalletFromMnemonic (d := d) rfl
    rintro r l' ⟨hl', hkey⟩
    exact .inl ⟨hkey, hl', rfl⟩
  · apply follows_makeWalletFromMnemonic (d := d) rfl
    rintro r l' ⟨hl', hkey⟩
    exact .inl ⟨hkey, hl', rfl⟩

/-- The check for an existing wallet: it answers that there is none, and the call is `checked`,
or it has found one. -/
theorem follows_getWallet :
    Follows (protocol d cfg) (fun l r =>
      match r with
      | .ok none => l = checked
      | .ok (some _) => l = refused
      | .error _ => False) fresh WalletManager.getWallet := by
  apply Backend.follows_getWallet rfl
  · -- with something cached, the cached wallet is the answer
    exact fun _ _ hl => hl
  · rintro l' rfl
    exact .inr rfl
  · rintro l' rfl r l'' hr
    rcases hr with ⟨rfl, rfl⟩ | ⟨m, rfl, rfl⟩
    · exact .inl ⟨rfl, rfl⟩
    · -- a phrase was found: its wallet is derived and written to the cache
      refine .inr ⟨m, rfl, (follows_makeWallet (.inl rfl)).mono ?_⟩
      rintro l' r ⟨rfl, rfl⟩
      exact ⟨refused, ⟨rfl, rfl⟩, rfl⟩

/-- The guarded save without `overwrite`: the phrase is stored, or the call throws because of
the guard or of the platform. -/
theorem follows_guardedSave {m : String} (hm : d.accepts m = true)
    (storageOptions : Option KeyStorageConfig) :
    Follows (protocol d (storageConfig storageOptions)) (fun l r =>
      match r with
      | .ok _ => l = stored m
      | .error _ => l = refused ∨ l = failed) fresh
      (WalletManager.saveMnemonic m false storageOptions) := by
  unfold WalletManager.saveMnemonic
  -- the guard: a failed read is no outcome here, as the native calls succeed
  refine follows_getWallet.await.bind ?_ (fun _ _ h => h.elim)
  rintro l (_ | wallet) hl
  · -- the guard was passed, so the phrase is saved
    obtain rfl : l = checked := hl
    have hsave : Follows (protocol d (storageConfig storageOptions)) (fun l r =>
        match r with
        | .ok _ => l = stored m
        | .error _ => l = refused ∨ l = failed) checked
        (KeyManager.saveMnemonic m (storageConfig storageOptions)) := by
      refine follows_saveMnemonic ⟨m, hm, rfl⟩ ?_
      rintro r l' (⟨rfl, v, hv⟩ | ⟨rfl, e, he⟩)
      · exact .inl ⟨v, hv, rfl⟩
      · exact .inr ⟨e, he, fun _ => .inr rfl⟩
    exact hsave.await
  · -- a wallet was found, and the guard throws
    exact .inl hl

/-- What is common to both creations: the guarded save, the derivation, the publication of the
wallet in the cache. -/
theorem follows_stored {m : String} (hm : d.accepts m = true)
    (storageOptions : Option KeyStorageConfig) :
    Follows (protocol d (storageConfig storageOptions)) (post d) fresh
      (WalletManager.importExistingWallet m false storageOptions) := by
  unfold WalletManager.importExistingWallet
  refine (follows_guardedSave hm storageOptions).await.bind ?_ (fun _ _ h => h)
  rintro l u hl
  obtain rfl : l = stored m := hl
  apply follows_publication ((follows_makeWallet (.inr rfl)).mono _)
  rintro l r ⟨rfl, rfl⟩
  exact ⟨stored m, ⟨rfl, rfl⟩, m, rfl, rfl⟩

/-- Every creation of a valid phrase follows the protocol, an import as well as a creation of a
new phrase. -/
theorem follows_creation {r : Creation}
    (hvalid : ∀ m, r = .importExistingWallet m → d.accepts m = true)
    (storageOptions : Option KeyStorageConfig) :
    Follows (protocol d (storageConfig storageOptions)) (post d) fresh
      (r.program false storageOptions) := by
  cases r with
  | importExistingWallet m => exact follows_stored (hvalid m rfl) storageOptions
  | createWallet =>
    apply follows_createWallet
    · exact .inl rfl
    · -- from here on, a creation is an import of the generated phrase
      rintro r l' ⟨rfl, m, hm, rfl⟩
      exact ⟨m, rfl, follows_stored hm storageOptions⟩

/-! ## The invariant -/

variable {ι : Type}

/-- Nothing is stored or cached, and at most one call is about to save, unless its save is
refused anyway. This is the first half of the invariant. -/
structure Untouched (d : Backend) (cfg : KeyStorageConfig) (c : Cache) (st : d.Store)
    (g : ι → Phase) : Prop where
  idle : d.running st = 0
  empty : (d.slots st).current = none
  cache : c = none
  unstored : ∀ i m, g i ≠ stored m ∧ g i ≠ finding m
  solo : d.refuses cfg st = false → ∀ i j, g i = checked → g j = checked → i = j

/-- Call `k` has stored `m`, and no other call has stored anything or is about to. This is the
second half of the invariant; once it holds, it holds with the same call and phrase. -/
structure KeptBy (d : Backend) (c : Cache) (st : d.Store) (g : ι → Phase) (k : ι) (m : String) :
    Prop where
  idle : d.running st = 0
  stored : g k = stored m
  valid : d.accepts m = true
  current : (d.slots st).current = some m
  cache : c = none ∨ c = some (d.walletOf m)
  others : ∀ j, j ≠ k → g j ≠ checked ∧ ∀ q, g j ≠ .stored q
  found : ∀ j q, g j = finding q → q = m

/-- The invariant: no wallet is stored yet, or exactly one. It speaks of the store, the cache
and the phases only. -/
def OneWallet (d : Backend) (cfg : KeyStorageConfig) (c : Cache) (st : d.Store)
    (g : ι → Phase) : Prop :=
  Untouched d cfg c st g ∨ ∃ k m, KeptBy d c st g k m

/-- No task of the platform is running in either case, as every request is served at once. -/
theorem OneWallet.idle {c : Cache} {st : d.Store} {g : ι → Phase}
    (h : OneWallet d cfg c st g) : d.running st = 0 := by
  rcases h with h | ⟨k, m, h⟩
  · exact h.idle
  · exact h.idle

section Updates

variable [DecidableEq ι] {c : Cache} {st : d.Store} {g : ι → Phase} {i k : ι} {m : String}

/-- A call goes to a phase in which it neither saves nor has stored anything: the store stays
empty and no rival appears. -/
theorem Untouched.update (h : Untouched d cfg c st g) {l : Phase} (hl : l ≠ checked)
    (hm : ∀ m, l ≠ stored m ∧ l ≠ finding m) :
    Untouched d cfg c st (Function.update g i l) := by
  refine ⟨h.idle, h.empty, h.cache, ?_, ?_⟩
  · intro j m
    by_cases hj : j = i
    · subst hj
      simpa using hm m
    · simpa [hj] using h.unstored j m
  · intro hrefuses j j' hj hj'
    -- nobody becomes `checked` by the update, so the two calls were `checked` before
    have hne : ∀ j, Function.update g i l j = checked → j ≠ i ∧ g j = checked := by
      intro j hj
      by_cases hji : j = i
      · subst hji
        exact absurd (by simpa using hj) hl
      · exact ⟨hji, by simpa [hji] using hj⟩
    exact h.solo hrefuses j j' (hne j hj).2 (hne j' hj').2

/-- A call is told that there is no wallet, with no other call about to save. -/
theorem Untouched.check (h : Untouched d cfg c st g)
    (hrivals : d.refuses cfg st = false → ∀ j, j ≠ i → g j ≠ checked) :
    Untouched d cfg c st (Function.update g i checked) := by
  refine ⟨h.idle, h.empty, h.cache, ?_, ?_⟩
  · intro j m
    by_cases hj : j = i
    · subst hj
      simp
    · simpa [hj] using h.unstored j m
  · intro hrefuses j j' hj hj'
    -- only the call that was told that there is no wallet is `checked` afterwards
    have hself : ∀ j, Function.update g i checked j = checked → j = i := by
      intro j hj
      by_contra hji
      exact hrivals hrefuses j hji (by simpa [hji] using hj)
    exact (hself j hj).trans (hself j' hj').symm

/-- A call other than the one that has stored its phrase goes on, without being about to save. -/
theorem KeptBy.update (h : KeptBy d c st g k m) (hi : i ≠ k) {l : Phase} (hl : l ≠ checked)
    (hstored : ∀ q, l ≠ .stored q) (hfound : ∀ q, l = finding q → q = m) :
    KeptBy d c st (Function.update g i l) k m := by
  refine ⟨h.idle, ?_, h.valid, h.current, h.cache, ?_, ?_⟩
  · -- the call that has stored the phrase is not the one that moves
    simpa [Ne.symm hi] using h.stored
  · intro j hj
    by_cases hji : j = i
    · subst hji
      simpa using ⟨hl, hstored⟩
    · simpa [hji] using h.others j hj
  · intro j q hq
    by_cases hji : j = i
    · subst hji
      exact hfound q (by simpa using hq)
    · exact h.found j q (by simpa [hji] using hq)

/-- The invariant is kept by what a call does between two requests: a look at the cache, and the
publication of a wallet. -/
theorem keptLocally : KeptLocally (ι := ι) (protocol d cfg) (OneWallet d cfg) where
  read := by
    intro c st g i hinv hread
    have hi : g i = fresh := hread
    cases c with
    | none =>
      -- nothing is cached, so the call stays where it is and asks the platform
      have hself : Function.update g i fresh = g := by rw [← hi, Function.update_eq_self]
      refine ⟨fresh, ?_, ?_⟩
      · rw [hi]
        rfl
      · rw [hself]
        exact hinv
    | some wallet =>
      -- a wallet is cached, so one is stored, by another call
      refine ⟨refused, ?_, ?_⟩
      · rw [hi]
        rfl
      · rcases hinv with h | ⟨k, m, h⟩
        · exact absurd h.cache (by simp)
        · have hk : i ≠ k := by
            rintro rfl
            exact absurd (hi.symm.trans h.stored) (by simp)
          exact .inr ⟨k, m, h.update hk (by simp) (by simp) (by simp)⟩
  write := by
    intro c st g i c' l' hinv hwrite
    rcases hinv with h | ⟨k, m, h⟩
    · -- nothing is stored, so nobody has anything to write
      have hi := h.unstored i
      cases hg : g i with
      | stored m => exact absurd hg (hi m).1
      | finding m => exact absurd hg (hi m).2
      | fresh => rw [hg] at hwrite; exact hwrite.elim
      | checked => rw [hg] at hwrite; exact hwrite.elim
      | refused => rw [hg] at hwrite; exact hwrite.elim
      | failed => rw [hg] at hwrite; exact hwrite.elim
    · cases hg : g i with
      | fresh => rw [hg] at hwrite; exact hwrite.elim
      | checked => rw [hg] at hwrite; exact hwrite.elim
      | refused => rw [hg] at hwrite; exact hwrite.elim
      | failed => rw [hg] at hwrite; exact hwrite.elim
      | stored q =>
        -- the call that has stored its phrase publishes its wallet
        rw [hg] at hwrite
        obtain ⟨rfl, rfl⟩ := hwrite
        have hk : i = k := by
          by_contra hne
          exact (h.others i hne).2 q hg
        subst hk
        obtain rfl : q = m := Phase.stored.inj (hg.symm.trans h.stored)
        have hself : Function.update g i (.stored q) = g := by rw [← hg, Function.update_eq_self]
        rw [hself]
        exact .inr ⟨i, q, { h with cache := .inr rfl }⟩
      | finding q =>
        -- another call publishes it, and throws afterwards
        rw [hg] at hwrite
        obtain ⟨rfl, rfl⟩ := hwrite
        obtain rfl := h.found i q hg
        have hk : i ≠ k := by
          rintro rfl
          exact absurd (hg.symm.trans h.stored) (by simp)
        have hupdated := h.update (l := refused) hk (by simp) (by simp) (by simp)
        exact .inr ⟨k, q, { hupdated with cache := .inr rfl }⟩

end Updates

/-! ## Served requests -/

/-- No call is told that there is no wallet while another one is about to save, unless the
platform refuses the saves. This is a condition on the state before the step: it names the
pending request, the slots and the next request of the other calls. -/
def NoRival (cfg : KeyStorageConfig) (i : ι) (σ : WalletPool d ι Wallet) : Prop :=
  (σ.calls i).request = some .getMnemonic → (d.slots σ.store).current = none →
    d.refuses cfg σ.store = false →
      ∀ j, j ≠ i → (σ.calls j).nextInvoke.map MethodCall.method ≠ some .saveMnemonic

instance [Fintype ι] [DecidableEq ι] (cfg : KeyStorageConfig) (i : ι)
    (σ : WalletPool d ι Wallet) : Decidable (NoRival cfg i σ) :=
  inferInstanceAs (Decidable ((σ.calls i).request = some .getMnemonic →
    (d.slots σ.store).current = none → d.refuses cfg σ.store = false →
      ∀ j, j ≠ i → (σ.calls j).nextInvoke.map MethodCall.method ≠ some .saveMnemonic))

/-- A call that has passed the check is about to save: this ties the phases to the condition,
which speaks of requests only. -/
theorem nextInvoke_of_checked {p : Future Wallet}
    (hp : Follows (protocol d cfg) (post d) checked p) :
    p.nextInvoke.map MethodCall.method = some .saveMnemonic := by
  -- in this phase a call neither reads the cache, nor writes it, nor ends
  obtain ⟨q, hq, m, hm, rfl⟩ := hp.nextInvoke (by simp [protocol]) (by simp [protocol]) (by
    rintro (e | wallet) hpost
    · exact absurd hpost (by simp [post])
    · exact absurd hpost (by simp [post]))
  rw [hq]
  rfl

section Served

variable [DecidableEq ι] {o : ι → d.Environment} {c : Cache} {st : d.Store} {g : ι → Phase}
  {i : ι}

/-- A new phrase is generated without a look at the store, so the invariant does not notice. -/
theorem served_generateNewMnemonic (ho : ∀ i method, d.Succeeds (o i method))
    (h : OneWallet d cfg c st g) (hi : g i = fresh) :
    ServedWell (protocol d cfg) (OneWallet d cfg) (serveAtomically o) c st g i
      .generateNewMnemonic := by
  refine servedWell_generateNewMnemonic (ho _ _) h.idle h ?_
  intro m hm
  rw [hi]
  exact ⟨rfl, m, hm, rfl⟩

/-- The check itself. On an empty store it needs that no other call has passed the check, since
both of them would go on to save. -/
theorem served_getMnemonic (ho : ∀ i method, d.Succeeds (o i method))
    (h : OneWallet d cfg c st g) (hi : g i = fresh)
    (hrivals : (d.slots st).current = none → d.refuses cfg st = false →
      ∀ j, j ≠ i → g j ≠ checked) :
    ServedWell (protocol d cfg) (OneWallet d cfg) (serveAtomically o) c st g i .getMnemonic := by
  unfold ServedWell
  rw [serve_getMnemonic (ho i .getMnemonic).reads h.idle, hi]
  rcases h with h | ⟨k, m, h⟩
  · -- here the condition is needed: no one else may be in `checked`
    refine ⟨_, checked, rfl, ?_, .inl (h.check (hrivals h.empty))⟩
    rw [h.empty]
    exact .inl ⟨rfl, rfl⟩
  · -- a phrase is stored already, and the call is given it
    have hk : i ≠ k := by
      rintro rfl
      exact absurd (hi.symm.trans h.stored) (by simp)
    refine ⟨_, finding m, rfl, ?_, .inr ⟨k, m, h.update hk (by simp) (by simp) ?_⟩⟩
    · rw [h.current]
      exact .inr ⟨m, rfl, rfl⟩
    · intro q hq
      exact (Phase.finding.inj hq).symm

/-- The save of a call that has passed the check. It is refused and nothing changes, or it lands
and the wallet is kept by this call. -/
theorem served_saveMnemonic (ho : ∀ i method, d.Succeeds (o i method))
    (h : OneWallet d cfg c st g) (hi : g i = checked) {m : String} (hm : d.accepts m = true) :
    ServedWell (protocol d cfg) (OneWallet d cfg) (serveAtomically o) c st g i
      (.saveMnemonic m cfg.saveToCloud cfg.rejectOnCloudSaveFailure) := by
  rcases h with h | ⟨k, q, h⟩
  · obtain ⟨r, st', hserved, hidle, hcloud, hsaved⟩ :=
      serve_saveMnemonic (ho i .saveMnemonic) (savable_of_accepts hm) cfg h.idle
    have hrefuses := refuses_congr cfg hcloud
    unfold ServedWell
    rw [hserved, hi]
    cases hcase : d.refuses cfg st with
    | true =>
      rw [hcase, if_pos rfl] at hsaved
      obtain ⟨he, hslots⟩ := hsaved
      -- a refused save leaves the slots as they were
      have hkept : Untouched d cfg c st' g := by
        refine ⟨hidle, ?_, h.cache, h.unstored, ?_⟩
        · rw [hslots]
          exact h.empty
        · rw [hrefuses]
          exact h.solo
      exact ⟨r, failed, rfl, .inr ⟨rfl, he⟩, .inl (hkept.update (by simp) (by simp))⟩
    | false =>
      rw [hcase, if_neg (by simp)] at hsaved
      obtain ⟨hv, hslots⟩ := hsaved
      -- the save lands, and this call becomes the one that keeps its phrase
      refine ⟨r, stored m, rfl, .inl ⟨rfl, hv⟩, .inr ⟨i, m, hidle, by simp, hm, ?_, ?_, ?_, ?_⟩⟩
      · -- the slots were empty, so the write is the one that is read
        obtain ⟨hnone, -⟩ := (Slots.current_eq_none_iff _).mp h.empty
        rw [hslots, Slots.current_land_eq_some_iff]
        cases d.target cfg st with
        | cloud => trivial
        | device => exact .inl hnone
      · exact .inl h.cache
      · intro j hj
        constructor
        · intro hchecked
          -- by the invariant no second call had passed the check
          exact hj (h.solo hcase j i (by simpa [hj] using hchecked) hi)
        · intro q hq
          exact (h.unstored j q).1 (by simpa [hj] using hq)
      · intro j q hq
        by_cases hj : j = i
        · subst hj
          simp at hq
        · exact absurd (by simpa [hj] using hq) (h.unstored j q).2
  · -- once a phrase is stored, no call is about to save
    have hk : i ≠ k := by
      rintro rfl
      exact absurd (hi.symm.trans h.stored) (by simp)
    exact absurd hi (h.others i hk).1

/-- A derivation is asked for by the call that has stored the phrase, or by one that has found
it. In both cases the phrase is the stored one. -/
theorem served_getPrivateKeyFromMnemonic (h : OneWallet d cfg c st g) {m : String}
    (hi : g i = stored m ∨ g i = finding m) :
    ServedWell (protocol d cfg) (OneWallet d cfg) (serveAtomically o) c st g i
      (.getPrivateKeyFromMnemonic m) := by
  -- the phrase of a call that derives is the stored one, which is valid
  have hvalid : d.accepts m = true := by
    rcases h with h | ⟨k, q, h⟩
    · rcases hi with hi | hi
      · exact absurd hi (h.unstored i m).1
      · exact absurd hi (h.unstored i m).2
    · have hq : m = q := by
        rcases hi with hi | hi
        · have hk : i = k := by
            by_contra hne
            exact (h.others i hne).2 m hi
          subst hk
          exact Phase.stored.inj (hi.symm.trans h.stored)
        · exact h.found i m hi
      rw [hq]
      exact h.valid
  obtain ⟨r, hserved, hr⟩ := serve_getPrivateKeyFromMnemonic (o := o) (i := i) m h.idle
  rw [hvalid, if_pos rfl] at hr
  unfold ServedWell
  rw [hserved]
  refine ⟨r, g i, rfl, ?_, ?_⟩
  · rcases hi with hi | hi
    · rw [hi]
      exact ⟨rfl, hr⟩
    · rw [hi]
      exact ⟨rfl, hr⟩
  · rw [Function.update_eq_self]
    exact h

/-- **One step.** A request that the protocol allows, served with no rival about to save,
keeps the invariant. -/
theorem served (ho : ∀ i method, d.Succeeds (o i method)) (h : OneWallet d cfg c st g)
    {call : MethodCall} (hmay : (protocol d cfg).mayInvoke (g i) call)
    (hrivals : call = .getMnemonic → (d.slots st).current = none → d.refuses cfg st = false →
      ∀ j, j ≠ i → g j ≠ checked) :
    ServedWell (protocol d cfg) (OneWallet d cfg) (serveAtomically o) c st g i call := by
  cases hi : g i with
  | fresh =>
    rw [hi] at hmay
    rcases hmay with rfl | rfl
    · exact served_generateNewMnemonic ho h hi
    · exact served_getMnemonic ho h hi (hrivals rfl)
  | checked =>
    rw [hi] at hmay
    obtain ⟨m, hm, rfl⟩ := hmay
    exact served_saveMnemonic ho h hi hm
  | stored m =>
    rw [hi] at hmay
    obtain rfl : call = _ := hmay
    exact served_getPrivateKeyFromMnemonic h (.inl hi)
  | finding m =>
    rw [hi] at hmay
    obtain rfl : call = _ := hmay
    exact served_getPrivateKeyFromMnemonic h (.inr hi)
  | refused => rw [hi] at hmay; exact hmay.elim
  | failed => rw [hi] at hmay; exact hmay.elim

end Served

end ConcurrentCreation

/-! ## Every interleaving -/

/-- The pool of creations without `overwrite`, all with the same configuration, before their
first step. -/
def creations {ι : Type} (r : ι → Creation) (storageOptions : Option KeyStorageConfig)
    (st : d.Store) : WalletPool d ι Wallet :=
  Pool.start none st fun i => (r i).program false storageOptions

/-- At most one call has returned, and what it returned is the wallet of the stored phrase,
which is what a later `getWallet` gives. -/
def KeepsOneWallet {ι : Type} (σ : WalletPool d ι Wallet) : Prop :=
  (∀ i j wallet wallet', σ.Returned i wallet → σ.Returned j wallet' → i = j) ∧
    ∀ i wallet, σ.Returned i wallet →
      ∃ m, (d.slots σ.store).current = some m ∧ d.derived m = .returned wallet

/-- Concurrent creations on an empty store keep one wallet, in every state of every schedule,
with every native call succeeding. -/
def ConcurrentCreationsSafe (d : Backend) : Prop :=
  ∀ (ι : Type) (_ : DecidableEq ι) (r : ι → Creation) (storageOptions : Option KeyStorageConfig)
    (o : ι → d.Environment) (st : d.Store) (schedule : List ι),
    (∀ i m, r i = .importExistingWallet m → d.accepts m = true) →
    (∀ i method, d.Succeeds (o i method)) → d.slots st = Slots.empty → d.running st = 0 →
    KeepsOneWallet (Transition.run (Pool.step (serveAtomically o)) schedule
      (creations r storageOptions st))

open ConcurrentCreation in
/-- **One wallet is kept.** On either platform, for any number of creations of valid phrases
without `overwrite`, on an empty store: in every state of every interleaving in which no
call is told that there is no wallet while another one is about to save, at most one call
has returned, and its wallet is the one of the stored phrase. -/
theorem concurrent_creations_keep_one_wallet (d : Backend) {ι : Type} [DecidableEq ι]
    (r : ι → Creation) (storageOptions : Option KeyStorageConfig) (o : ι → d.Environment)
    (st : d.Store) (schedule : List ι)
    (hvalid : ∀ i m, r i = .importExistingWallet m → d.accepts m = true)
    (ho : ∀ i method, d.Succeeds (o i method)) (hempty : d.slots st = Slots.empty)
    (hidle : d.running st = 0)
    (hrivals : Transition.StepsMeet (Pool.step (serveAtomically o))
      (NoRival (storageConfig storageOptions)) schedule (creations r storageOptions st)) :
    KeepsOneWallet (Transition.run (Pool.step (serveAtomically o)) schedule
      (creations r storageOptions st)) := by
  -- at the start every call is fresh and nothing is stored
  have hstart : Tracks (protocol d (storageConfig storageOptions)) (fun _ => post d)
      (OneWallet d (storageConfig storageOptions)) (creations r storageOptions st)
      (fun _ => Phase.fresh) := by
    refine ⟨fun i => follows_creation (hvalid i) storageOptions, .inl ⟨hidle, ?_, rfl, ?_, ?_⟩⟩
    · change (d.slots st).current = none
      rw [hempty]
      rfl
    · intro i m
      exact ⟨by simp, by simp⟩
    · intro _ i j hi
      cases hi
  -- step by step; the condition on the run says that no rival is `checked` when a call is told that
  -- there is nothing
  obtain ⟨g, hg⟩ := Tracks.run keptLocally (C := NoRival (storageConfig storageOptions)) (by
    intro i σ g ht hC call k hcall hmay
    refine served ho ht.inv hmay ?_
    rintro rfl hcur hrefuses j hj hchecked
    have hj' := ht.follows j
    rw [hchecked] at hj'
    refine hC ?_ hcur hrefuses j hj (nextInvoke_of_checked hj')
    rw [hcall]
    rfl) hstart hrivals
  generalize Transition.run (Pool.step (serveAtomically o)) schedule
    (creations r storageOptions st) = σ at hg
  -- a call that has returned is the one that has stored its phrase
  have hreturned : ∀ i wallet, σ.Returned i wallet →
      ∃ m, KeptBy d σ.memory σ.store g i m ∧ wallet = d.walletOf m := by
    intro i wallet hret
    obtain ⟨m, hi, hw⟩ := (hg.follows i).result hret
    rcases hg.inv with h | ⟨k, q, h⟩
    · exact absurd hi (h.unstored i m).1
    · have hk : i = k := by
        by_contra hne
        exact (h.others i hne).2 m hi
      subst hk
      obtain rfl : m = q := Phase.stored.inj (hi.symm.trans h.stored)
      exact ⟨m, h, hw⟩
  constructor
  · intro i j wallet wallet' hi hj
    obtain ⟨m, hkept, -⟩ := hreturned i wallet hi
    -- two calls that have returned would both have stored their phrases
    obtain ⟨m', hkept', -⟩ := hreturned j wallet' hj
    by_contra hne
    exact (hkept.others j (Ne.symm hne)).2 m' hkept'.stored
  · intro i wallet hi
    obtain ⟨m, hkept, rfl⟩ := hreturned i wallet hi
    exact ⟨m, hkept.current, by simp [derived, hkept.valid]⟩

/-- Two imports of different phrases. -/
def twoImports (second : Bool) : Creation :=
  .importExistingWallet (if second then Sample.legalPhrase else Sample.zeroPhrase)

/-- Every native call of every import succeeds. -/
def importsSucceed (_ : Bool) : Sample.android.Environment := fun _ => Sample.androidSuccess

/-- The two imports one after the other. -/
theorem concurrent_creations_keep_one_wallet_sample :
    KeepsOneWallet (Transition.run (Pool.step (serveAtomically importsSucceed))
      (List.replicate 16 false ++ List.replicate 16 true)
      (creations twoImports none (Sample.androidStore none none))) :=
  concurrent_creations_keep_one_wallet Sample.android twoImports none importsSucceed
    (Sample.androidStore none none) (List.replicate 16 false ++ List.replicate 16 true)
    (by
      intro i m hm
      cases hm
      cases i <;> decide +kernel)
    (fun _ _ => ⟨rfl, rfl, rfl, rfl, rfl⟩) rfl rfl (by decide +kernel)

/-- **Two creations both return.** Two imports take their steps in turn: both find nothing,
both save, both return, on either platform. -/
theorem not_concurrentCreationsSafe :
    ¬ ConcurrentCreationsSafe Sample.android ∧ ¬ ConcurrentCreationsSafe Sample.ios := by
  constructor
  · intro h
    have hkept := h Bool inferInstance twoImports none (fun _ _ => Sample.androidSuccess)
      (Sample.androidStore none none) ((List.replicate 16 [false, true]).flatten)
      (by
        intro i m hm
        cases hm
        cases i <;> decide +kernel)
      (fun _ _ => ⟨rfl, rfl, rfl, rfl, rfl⟩) rfl rfl
    -- both imports have returned, so they would be one and the same
    have hboth := hkept.1 false true (Sample.android.walletOf Sample.zeroPhrase)
      (Sample.android.walletOf Sample.legalPhrase) (by unfold Pool.Returned; decide +kernel)
      (by unfold Pool.Returned; decide +kernel)
    cases hboth
  · intro h
    have hkept := h Bool inferInstance twoImports none (fun _ _ => Sample.iosSuccess)
      (⟨none, none⟩ : Slots String) ((List.replicate 16 [false, true]).flatten)
      (by
        intro i m hm
        cases hm
        cases i <;> decide +kernel)
      (fun _ _ => ⟨rfl, rfl, rfl, fun _ => rfl, fun _ => rfl⟩) rfl rfl
    have hboth := hkept.1 false true (Sample.ios.walletOf Sample.zeroPhrase)
      (Sample.ios.walletOf Sample.legalPhrase) (by unfold Pool.Returned; decide +kernel)
      (by unfold Pool.Returned; decide +kernel)
    cases hboth

end RlyNetworkSdk.Platform.Backend
