import RlyNetworkSdk.Wallet.Interleaving
import Mathlib.Data.Fintype.Basic

/-!
# The Cached Wallet under Concurrency

Calls of `getWallet`, of creations with `overwrite` and of `permanentlyDeleteWallet` run at
once. Each of them reads or changes the store with one request and publishes its wallet to
the cache later; what it publishes is stale if the store changed in between. The theorem
says that the cache and the store agree in the end, as long as no request changes the stored
phrase while another call is in that window, and every saved phrase is one that is read back.

## Proof outline

As in `ConcurrentCreation`: a `Phase` for each call, a `protocol`, and an invariant of the
store, the cache and the phases. The cache may disagree with the store only while some call
is still to write it, after a save or a deletion of its own.
-/

namespace RlyNetworkSdk.Platform

open KeyStorage Channel Concurrency Dart

/-- The calls whose interleavings are considered. -/
inductive CacheCall where
  | getWallet
  | creation (r : Creation)
  | permanentlyDeleteWallet

/-- The Dart call, with its result dropped. -/
def CacheCall.program (storageOptions : Option KeyStorageConfig) : CacheCall → Future Unit
  | getWallet => do
    let _ ← WalletManager.getWallet
    return ()
  | creation r => do
    let _ ← r.program true storageOptions
    return ()
  | permanentlyDeleteWallet => WalletManager.permanentlyDeleteWallet

namespace Backend

variable {d : Backend} {cfg : KeyStorageConfig}

/-- The cached wallet, if any, is the wallet of the phrase that a read returns. -/
def Coherent (c : Cache) (st : d.Store) : Prop :=
  ∀ wallet ∈ c, ∃ m ∈ (d.slots st).current, d.derived m = .returned wallet

instance (c : Cache) (st : d.Store) : Decidable (Coherent c st) :=
  inferInstanceAs (Decidable (∀ wallet ∈ c, ∃ m ∈ (d.slots st).current,
    d.derived m = .returned wallet))

theorem coherent_none (st : d.Store) : Coherent none st := by
  intro wallet hwallet
  cases hwallet

namespace CacheCoherence

/-! ## The protocol -/

/-- Where a call stands. -/
inductive Phase where
  /-- It has nothing to publish. -/
  | idle
  /-- It derives the wallet of `m`, which it has read, or saved as its `own`. -/
  | derives (m : String) (own : Bool)
  /-- It is about to publish the wallet of `m`. -/
  | publishes (m : String) (own : Bool)
  /-- It has deleted the stored phrase, and is about to empty the cache. -/
  | deleted
  deriving DecidableEq, Repr

open Phase

/-- What a call may do in each phase. -/
def protocol (d : Backend) (cfg : KeyStorageConfig) : Protocol Cache MethodCall Reply Phase where
  mayInvoke
    | idle, q => q = .generateNewMnemonic ∨ q = .getMnemonic ∨ q = .deleteMnemonic ∨
        ∃ m, d.accepts m = true ∧ q = .saveMnemonic m cfg.saveToCloud cfg.rejectOnCloudSaveFailure
    | derives m _, q => q = .getPrivateKeyFromMnemonic m
    | _, _ => False
  onReply
    | idle, .generateNewMnemonic, r, l' =>
      l' = idle ∧ ∃ m, d.accepts m = true ∧ r = .success (.string m)
    | idle, .getMnemonic, r, l' =>
      (r = .success (.ofString? none) ∧ l' = idle) ∨
        ∃ m, r = .success (.ofString? (some m)) ∧ l' = derives m false
    | idle, .deleteMnemonic, r, l' => r = .success (.bool true) ∧ l' = deleted
    | idle, .saveMnemonic m _ _, r, l' =>
      (l' = derives m true ∧ ∃ v, r.decode = .ok v) ∨ (l' = idle ∧ ∃ e, r.decode = .error e)
    | derives m own, .getPrivateKeyFromMnemonic _, r, l' =>
      (l' = publishes m own ∧ r.decode >>= Value.asList = .ok (some (d.privateKeyInts m))) ∨
        (own = false ∧ l' = idle ∧ r.decode >>= Value.asList = .error d.rejection)
    | _, _, _, _ => False
  mayRead l := l = idle
  onRead
    | idle, _, l' => l' = idle
    | _, _, _ => False
  onWrite
    | publishes m _, c, l' => c = some (d.walletOf m) ∧ l' = idle
    | deleted, c, l' => c = none ∧ l' = idle
    | _, _, _ => False

/-- A call completes only when it has nothing left to publish. -/
def post (l : Phase) (_ : Except DartError Unit) : Prop := l = idle

/-! ## The functions follow the protocol -/

/-- The derivation of a phrase that was read; it may be rejected. -/
theorem follows_makeWallet_read (m : String) :
    Follows (protocol d cfg) (fun l r =>
      (l = publishes m false ∧ r = .ok (d.walletOf m)) ∨ (l = idle ∧ ∃ e, r = .error e))
      (derives m false) (WalletManager.makeWalletFromMnemonic m) := by
  refine follows_makeWalletFromMnemonic (d := d) rfl ?_
  intro r l' hr
  rcases hr with ⟨rfl, hkey⟩ | ⟨-, rfl, hkey⟩
  · exact .inl ⟨hkey, .inl ⟨rfl, rfl⟩⟩
  · exact .inr ⟨hkey, .inr ⟨rfl, _, rfl⟩⟩

/-- The derivation of a phrase that the call has saved. -/
theorem follows_makeWallet_own (m : String) :
    Follows (protocol d cfg) (fun l r => l = publishes m true ∧ r = .ok (d.walletOf m))
      (derives m true) (WalletManager.makeWalletFromMnemonic m) := by
  refine follows_makeWalletFromMnemonic (d := d) rfl ?_
  intro r l' hr
  rcases hr with ⟨rfl, hkey⟩ | ⟨hown, -, -⟩
  · exact .inl ⟨hkey, rfl, rfl⟩
  · cases hown

theorem follows_getWallet :
    Follows (protocol d cfg) (fun l (_ : Except DartError (Option Wallet)) => l = idle) idle
      WalletManager.getWallet := by
  apply Backend.follows_getWallet rfl
  · -- a cached wallet is returned as it is
    exact fun _ _ hl => hl
  · rintro l' rfl
    exact .inr (.inl rfl)
  · rintro l' rfl r l'' hr
    -- nothing found, or a phrase whose wallet is derived and published, if it is a valid one
    rcases hr with ⟨rfl, rfl⟩ | ⟨m, rfl, rfl⟩
    · exact .inl ⟨rfl, rfl⟩
    · refine .inr ⟨m, rfl, (follows_makeWallet_read m).mono ?_⟩
      rintro l' r (⟨rfl, rfl⟩ | ⟨rfl, e, rfl⟩)
      · exact ⟨idle, ⟨rfl, rfl⟩, rfl⟩
      · rfl

theorem follows_guardedSave {m : String} (hm : d.accepts m = true)
    (storageOptions : Option KeyStorageConfig) :
    Follows (protocol d (storageConfig storageOptions)) (fun l r =>
      match r with
      | .ok _ => l = derives m true
      | .error _ => l = idle) idle (WalletManager.saveMnemonic m true storageOptions) := by
  unfold WalletManager.saveMnemonic
  refine follows_getWallet.await.bind ?_ (fun _ _ hl => hl)
  intro l existingWallet hl
  subst hl
  have hsave : Follows (protocol d (storageConfig storageOptions)) (fun l r =>
      match r with
      | .ok _ => l = derives m true
      | .error _ => l = idle) idle
      (KeyManager.saveMnemonic m (storageConfig storageOptions)) := by
    refine follows_saveMnemonic (.inr (.inr (.inr ⟨m, hm, rfl⟩))) ?_
    intro r l' hr
    rcases hr with ⟨rfl, v, hv⟩ | ⟨rfl, e, he⟩
    · exact .inl ⟨v, hv, rfl⟩
    · exact .inr ⟨e, he, fun _ => rfl⟩
  -- with `overwrite` the guard never throws
  have hguard : ¬ (existingWallet ≠ none ∧ (!true) = true) := by simp
  rw [if_neg hguard]
  exact hsave.await

theorem follows_importExistingWallet {m : String} (hm : d.accepts m = true)
    (storageOptions : Option KeyStorageConfig) :
    Follows (protocol d (storageConfig storageOptions))
      (fun l (_ : Except DartError Wallet) => l = idle) idle
      (WalletManager.importExistingWallet m true storageOptions) := by
  unfold WalletManager.importExistingWallet
  refine (follows_guardedSave hm storageOptions).await.bind ?_ (fun _ _ hl => hl)
  intro l u hl
  obtain rfl : l = derives m true := hl
  apply follows_publication ((follows_makeWallet_own m).mono _)
  rintro l r ⟨rfl, rfl⟩
  exact ⟨idle, ⟨rfl, rfl⟩, rfl⟩

theorem follows_creation {r : Creation}
    (hvalid : ∀ m, r = .importExistingWallet m → d.accepts m = true)
    (storageOptions : Option KeyStorageConfig) :
    Follows (protocol d (storageConfig storageOptions))
      (fun l (_ : Except DartError Wallet) => l = idle) idle (r.program true storageOptions) := by
  cases r with
  | importExistingWallet m => exact follows_importExistingWallet (hvalid m rfl) storageOptions
  | createWallet =>
    apply follows_createWallet
    · exact .inl rfl
    · rintro r l' ⟨rfl, m, hm, rfl⟩
      exact ⟨m, rfl, follows_importExistingWallet hm storageOptions⟩

theorem follows_permanentlyDeleteWallet :
    Follows (protocol d cfg) post idle WalletManager.permanentlyDeleteWallet := by
  -- the platform is asked first, and the cache is cleared when the reply has come
  have hdelete : Follows (protocol d cfg) (fun l r => l = deleted ∧ r = .ok ()) idle
      KeyManager.deleteMnemonic := by
    refine follows_deleteMnemonic (.inr (.inr (.inl rfl))) ?_
    intro r l' hr
    exact ⟨hr.1, hr.2, rfl⟩
  unfold WalletManager.permanentlyDeleteWallet
  refine hdelete.await.bind ?_ ?_
  · intro l u hpost
    obtain ⟨rfl, -⟩ := hpost
    exact ⟨idle, ⟨rfl, rfl⟩, rfl⟩
  · intro l e hpost
    cases hpost.2

/-- Every call follows the protocol. -/
theorem follows_program {call : CacheCall}
    (hvalid : ∀ m, call = .creation (.importExistingWallet m) → d.accepts m = true)
    (storageOptions : Option KeyStorageConfig) :
    Follows (protocol d (storageConfig storageOptions)) post idle
      (call.program storageOptions) := by
  cases call with
  | getWallet => exact follows_getWallet.bind (fun _ _ hl => hl) (fun _ _ hl => hl)
  | creation r =>
    have hcreation := follows_creation (r := r) (fun m hr => hvalid m (by rw [hr])) storageOptions
    exact hcreation.bind (fun _ _ hl => hl) (fun _ _ hl => hl)
  | permanentlyDeleteWallet => exact follows_permanentlyDeleteWallet

/-! ## The invariant -/

variable {ι : Type}

/-- The call has changed the store and will write the cache accordingly. -/
def Phase.Owes : Phase → Prop
  | derives _ own => own = true
  | publishes _ own => own = true
  | deleted => True
  | idle => False

/-- The call holds a phrase that it will publish. -/
def Phase.Holds (m : String) : Phase → Prop
  | derives q _ => q = m
  | publishes q _ => q = m
  | _ => False

/-- What a call is to publish is what is stored, and valid if it is certain to publish; and
the cache is coherent, or some call still owes it a write. -/
structure Settled (d : Backend) (c : Cache) (st : d.Store) (g : ι → Phase) : Prop where
  idle : d.running st = 0
  holds : ∀ i m, (g i).Holds m → (d.slots st).current = some m
  own : ∀ i m, g i = derives m true → d.accepts m = true
  derived : ∀ i m own, g i = publishes m own → d.accepts m = true
  cache : Coherent c st ∨ ∃ i, (g i).Owes

variable {c : Cache} {st : d.Store} {g : ι → Phase} {i : ι}

/-- The debts of the other calls stay, if call `i` owes nothing. -/
theorem Settled.cache_of_not_owes (h : Settled d c st g) (hi : ¬ (g i).Owes) :
    Coherent c st ∨ ∃ j, j ≠ i ∧ (g j).Owes := by
  rcases h.cache with hcoh | ⟨j, hj⟩
  · exact .inl hcoh
  · refine .inr ⟨j, ?_, hj⟩
    rintro rfl
    exact hi hj

theorem Settled.congr (h : Settled d c st g) {st' : d.Store} (hidle : d.running st' = 0)
    (hslots : d.slots st' = d.slots st) : Settled d c st' g := by
  refine ⟨hidle, ?_, h.own, h.derived, ?_⟩
  · rw [hslots]
    exact h.holds
  · unfold Coherent
    rw [hslots]
    exact h.cache

section Updates

variable [DecidableEq ι]

/-- One call goes to another phase and the store changes to `st'`, such that the other calls
hold what is stored then. -/
theorem Settled.update (h : Settled d c st g) {c' : Cache} {st' : d.Store} {l : Phase}
    (hidle : d.running st' = 0)
    (hothers : ∀ j, j ≠ i → ∀ m, (g j).Holds m → (d.slots st').current = some m)
    (hholds : ∀ m, l.Holds m → (d.slots st').current = some m)
    (hown : ∀ m, l = derives m true → d.accepts m = true)
    (hderived : ∀ m own, l = publishes m own → d.accepts m = true)
    (hcache : Coherent c' st' ∨ l.Owes ∨ ∃ j, j ≠ i ∧ (g j).Owes) :
    Settled d c' st' (Function.update g i l) := by
  -- a property of phases that the new phase has, and that the others had
  have hupdate : ∀ {Q : Phase → Prop} (j : ι), Q (Function.update g i l j) →
      (j = i ∧ Q l) ∨ (j ≠ i ∧ Q (g j)) := by
    intro Q j hQ
    by_cases hj : j = i
    · subst hj
      exact .inl ⟨rfl, by simpa using hQ⟩
    · exact .inr ⟨hj, by simpa [hj] using hQ⟩
  refine ⟨hidle, ?_, ?_, ?_, ?_⟩
  · intro j m hm
    rcases hupdate (Q := fun l => l.Holds m) j hm with ⟨-, hl⟩ | ⟨hj, hg⟩
    · exact hholds m hl
    · exact hothers j hj m hg
  · intro j m hm
    rcases hupdate (Q := fun l => l = derives m true) j hm with ⟨-, hl⟩ | ⟨-, hg⟩
    · exact hown m hl
    · exact h.own j m hg
  · intro j m own hm
    rcases hupdate (Q := fun l => l = publishes m own) j hm with ⟨-, hl⟩ | ⟨-, hg⟩
    · exact hderived m own hl
    · exact h.derived j m own hg
  · rcases hcache with hcoh | hl | ⟨j, hj, hg⟩
    · exact .inl hcoh
    · exact .inr ⟨i, by simpa using hl⟩
    · exact .inr ⟨j, by simpa [hj] using hg⟩

/-- The invariant is kept by what a call does between two requests: a write publishes what
is stored, so it makes the cache coherent. -/
theorem keptLocally : KeptLocally (ι := ι) (protocol d cfg) (Settled d) where
  read := by
    intro c st g i hinv hread
    have hi : g i = idle := hread
    have hself : Function.update g i idle = g := by rw [← hi, Function.update_eq_self]
    refine ⟨idle, ?_, ?_⟩
    · rw [hi]
      rfl
    · rw [hself]
      exact hinv
  write := by
    intro c st g i c' l' hinv hwrite
    cases hg : g i with
    | idle => rw [hg] at hwrite; exact hwrite.elim
    | derives m own => rw [hg] at hwrite; exact hwrite.elim
    | publishes m own =>
      rw [hg] at hwrite
      obtain ⟨rfl, rfl⟩ := hwrite
      -- what is published is what is stored
      have hcur : (d.slots st).current = some m := hinv.holds i m (by rw [hg]; rfl)
      have hacc : d.accepts m = true := hinv.derived i m own hg
      refine hinv.update hinv.idle (fun j _ => hinv.holds j) (fun _ h => h.elim) (by simp)
        (by simp) (.inl ?_)
      intro wallet hwallet
      obtain rfl := Option.some.inj hwallet
      exact ⟨m, hcur, by simp [Backend.derived, hacc]⟩
    | deleted =>
      rw [hg] at hwrite
      obtain ⟨rfl, rfl⟩ := hwrite
      refine hinv.update hinv.idle (fun j _ => hinv.holds j) (fun _ h => h.elim) (by simp)
        (by simp) (.inl ?_)
      intro wallet hwallet
      cases hwallet

end Updates

/-! ## Served requests -/

/-- The call has read or saved a phrase, and has not published its wallet yet. -/
def InWindow (p : Future Unit) : Prop :=
  p.nextInvoke.map MethodCall.method = some .getPrivateKeyFromMnemonic ∨
    p.nextWrite.join.isSome = true

instance (p : Future Unit) : Decidable (InWindow p) :=
  inferInstanceAs (Decidable (_ ∨ _))

/-- A call whose phase holds a phrase is in its window. -/
theorem inWindow_of_holds {p : Future Unit} {l : Phase} {m : String} (hl : l.Holds m)
    (hp : Follows (protocol d cfg) post l p) : InWindow p := by
  cases l with
  | idle => exact hl.elim
  | deleted => exact hl.elim
  | derives q own =>
    -- the next request of a call that derives is the one for the key
    obtain ⟨call, hcall, hmay⟩ := hp.nextInvoke (by simp [protocol]) (by simp [protocol])
      (by simp [post])
    obtain rfl : call = .getPrivateKeyFromMnemonic q := hmay
    left
    rw [hcall]
    rfl
  | publishes q own =>
    -- the next step of a call that publishes is the write of its wallet
    obtain ⟨c, l', hc, hw⟩ := hp.nextWrite (by simp [protocol]) (by simp [protocol])
      (by simp [post])
    obtain ⟨rfl, -⟩ := hw
    right
    rw [hc]
    rfl

/-- The condition on a request: one that changes the stored phrase finds no other call in its
window (`free`), and a phrase that is saved is read back. -/
def Permits (d : Backend) (cfg : KeyStorageConfig) (st : d.Store) (free : Prop) :
    MethodCall → Prop
  | .saveMnemonic m _ _ => d.refuses cfg st = false →
      (d.target cfg st = .cloud ∨ (d.slots st).cloud = none ∨ (d.slots st).cloud = some m) ∧
        ((d.slots st).current ≠ some m → free)
  | .deleteMnemonic => (d.slots st).current ≠ none → free
  | _ => True

instance (cfg : KeyStorageConfig) (st : d.Store) (free : Prop) [Decidable free] :
    ∀ call, Decidable (Permits d cfg st free call)
  | .saveMnemonic m _ _ => inferInstanceAs (Decidable (d.refuses cfg st = false →
      (d.target cfg st = .cloud ∨ (d.slots st).cloud = none ∨ (d.slots st).cloud = some m) ∧
        ((d.slots st).current ≠ some m → free)))
  | .deleteMnemonic => inferInstanceAs (Decidable ((d.slots st).current ≠ none → free))
  | .generateNewMnemonic => isTrue trivial
  | .getMnemonic => isTrue trivial
  | .mnemonicBackedUpToCloud => isTrue trivial
  | .deleteCloudMnemonic => isTrue trivial
  | .getPrivateKeyFromMnemonic _ => isTrue trivial

/-- The request that call `i` waits for, if any, may be served now. -/
def Undisturbed (cfg : KeyStorageConfig) (i : ι) (σ : WalletPool d ι Unit) : Prop :=
  ∀ call ∈ (σ.calls i).request,
    Permits d cfg σ.store (∀ j, j ≠ i → ¬ InWindow (σ.calls j)) call

instance [Fintype ι] [DecidableEq ι] (cfg : KeyStorageConfig) (i : ι)
    (σ : WalletPool d ι Unit) : Decidable (Undisturbed cfg i σ) :=
  inferInstanceAs (Decidable (∀ call ∈ (σ.calls i).request,
    Permits d cfg σ.store (∀ j, j ≠ i → ¬ InWindow (σ.calls j)) call))

section Served

variable [DecidableEq ι] {o : ι → d.Environment}

theorem served_generateNewMnemonic (ho : ∀ i method, d.Succeeds (o i method))
    (h : Settled d c st g) (hi : g i = idle) :
    ServedWell (protocol d cfg) (Settled d) (serveAtomically o) c st g i .generateNewMnemonic := by
  refine servedWell_generateNewMnemonic (ho _ _) h.idle h ?_
  intro m hm
  rw [hi]
  exact ⟨rfl, m, hm, rfl⟩

theorem served_getMnemonic (ho : ∀ i method, d.Succeeds (o i method)) (h : Settled d c st g)
    (hi : g i = idle) :
    ServedWell (protocol d cfg) (Settled d) (serveAtomically o) c st g i .getMnemonic := by
  have howes := h.cache_of_not_owes (i := i) (by rw [hi]; exact id)
  unfold ServedWell
  rw [serve_getMnemonic (ho i .getMnemonic).reads h.idle, hi]
  cases hcur : (d.slots st).current with
  | none =>
    -- nothing is stored, so the call goes on as if it had not asked
    have hself : Function.update g i idle = g := by rw [← hi, Function.update_eq_self]
    refine ⟨_, idle, rfl, .inl ⟨rfl, rfl⟩, ?_⟩
    rw [hself]
    exact h
  | some m =>
    -- from here on the call holds a phrase that it has not stored itself
    refine ⟨_, derives m false, rfl, .inr ⟨m, rfl, rfl⟩, ?_⟩
    refine h.update h.idle (fun j _ => h.holds j) ?_ (by simp) (by simp) ?_
    · intro q hq
      obtain rfl : m = q := hq
      exact hcur
    · exact howes.imp_right .inr

theorem served_deleteMnemonic (ho : ∀ i method, d.Succeeds (o i method)) (h : Settled d c st g)
    (hi : g i = idle)
    (hfree : (d.slots st).current ≠ none → ∀ j, j ≠ i → ∀ m, ¬ (g j).Holds m) :
    ServedWell (protocol d cfg) (Settled d) (serveAtomically o) c st g i .deleteMnemonic := by
  obtain ⟨st', hserved, hidle, -, hslots⟩ := serve_deleteMnemonic (ho i .deleteMnemonic) st
  unfold ServedWell
  rw [hserved, hi]
  refine ⟨_, deleted, rfl, ⟨rfl, rfl⟩, ?_⟩
  refine h.update hidle ?_ (fun _ hm => hm.elim) (by simp) (by simp) (.inr (.inl trivial))
  intro j hj m hm
  -- another call holds a phrase only if one is stored
  have hcur := h.holds j m hm
  exact absurd hm (hfree (by simp [hcur]) j hj m)

theorem served_saveMnemonic (ho : ∀ i method, d.Succeeds (o i method)) (h : Settled d c st g)
    (hi : g i = idle) {m : String} (hm : d.accepts m = true)
    (hpermits : d.refuses cfg st = false →
      (d.target cfg st = .cloud ∨ (d.slots st).cloud = none ∨ (d.slots st).cloud = some m) ∧
        ((d.slots st).current ≠ some m → ∀ j, j ≠ i → ∀ q, ¬ (g j).Holds q)) :
    ServedWell (protocol d cfg) (Settled d) (serveAtomically o) c st g i
      (.saveMnemonic m cfg.saveToCloud cfg.rejectOnCloudSaveFailure) := by
  obtain ⟨r, st', hserved, hidle, -, hsaved⟩ :=
    serve_saveMnemonic (ho i .saveMnemonic) (savable_of_accepts hm) cfg h.idle
  unfold ServedWell
  rw [hserved, hi]
  cases hcase : d.refuses cfg st with
  | true =>
    rw [hcase, if_pos rfl] at hsaved
    obtain ⟨he, hslots⟩ := hsaved
    have hself : Function.update g i idle = g := by rw [← hi, Function.update_eq_self]
    refine ⟨r, idle, rfl, .inr ⟨rfl, he⟩, ?_⟩
    rw [hself]
    exact h.congr hidle hslots
  | false =>
    rw [hcase, if_neg (by simp)] at hsaved
    obtain ⟨hv, hslots⟩ := hsaved
    obtain ⟨hreadBack, hfree⟩ := hpermits hcase
    have hcur : (d.slots st').current = some m := by
      rw [hslots, Slots.current_land_eq_some_iff]
      cases htarget : d.target cfg st with
      | cloud => trivial
      | device => exact hreadBack.resolve_left (by simp [htarget])
    refine ⟨r, derives m true, rfl, .inl ⟨rfl, hv⟩, ?_⟩
    refine h.update hidle ?_ ?_ ?_ (by simp) (.inr (.inl rfl))
    · -- the others hold the old phrase, which is the new one or nobody's
      intro j hj q hq
      have hold := h.holds j q hq
      by_cases hsame : (d.slots st).current = some m
      · rw [hcur, ← hold, hsame]
      · exact absurd hq (hfree hsame j hj q)
    · intro q hq
      obtain rfl : m = q := hq
      exact hcur
    · intro q hq
      obtain ⟨rfl, -⟩ := Phase.derives.inj hq
      exact hm

theorem served_getPrivateKeyFromMnemonic (h : Settled d c st g) {m : String} {own : Bool}
    (hi : g i = derives m own) :
    ServedWell (protocol d cfg) (Settled d) (serveAtomically o) c st g i
      (.getPrivateKeyFromMnemonic m) := by
  obtain ⟨r, hserved, hr⟩ := serve_getPrivateKeyFromMnemonic (o := o) (i := i) m h.idle
  have hcur : (d.slots st).current = some m := h.holds i m (by rw [hi]; rfl)
  unfold ServedWell
  rw [hserved, hi]
  cases hacc : d.accepts m with
  | true =>
    rw [hacc, if_pos rfl] at hr
    refine ⟨r, publishes m own, rfl, .inl ⟨rfl, hr⟩, ?_⟩
    refine h.update h.idle (fun j _ => h.holds j) ?_ (by simp) ?_ ?_
    · intro q hq
      obtain rfl : m = q := hq
      exact hcur
    · intro q own' hq
      obtain ⟨rfl, -⟩ := Phase.publishes.inj hq
      exact hacc
    · -- what the call owed while it derived the wallet, it owes still
      cases own with
      | true => exact .inr (.inl rfl)
      | false =>
        have howes := h.cache_of_not_owes (i := i) (by rw [hi]; simp [Phase.Owes])
        exact howes.imp_right .inr
  | false =>
    -- rejected: a phrase of the call's own was checked before it was saved
    have hread : own = false := by
      by_contra hown
      have hvalid := h.own i m (by rw [hi, Bool.eq_true_of_not_eq_false hown])
      exact absurd hvalid (by simp [hacc])
    rw [hacc, if_neg (by simp)] at hr
    refine ⟨r, idle, rfl, .inr ⟨hread, rfl, hr⟩, ?_⟩
    have howes := h.cache_of_not_owes (i := i) (by rw [hi, hread]; simp [Phase.Owes])
    exact h.update h.idle (fun j _ => h.holds j) (fun _ hm => hm.elim) (by simp) (by simp)
      (howes.imp_right .inr)

/-- **One step.** A request that the protocol allows and the condition permits keeps the
invariant. -/
theorem served (ho : ∀ i method, d.Succeeds (o i method)) (h : Settled d c st g)
    {call : MethodCall} (hmay : (protocol d cfg).mayInvoke (g i) call)
    (hpermits : Permits d cfg st (∀ j, j ≠ i → ∀ m, ¬ (g j).Holds m) call) :
    ServedWell (protocol d cfg) (Settled d) (serveAtomically o) c st g i call := by
  cases hi : g i with
  | idle =>
    rw [hi] at hmay
    rcases hmay with rfl | rfl | rfl | ⟨m, hm, rfl⟩
    · exact served_generateNewMnemonic ho h hi
    · exact served_getMnemonic ho h hi
    · -- these two change the store, and need that no other call holds a phrase
      exact served_deleteMnemonic ho h hi hpermits
    · exact served_saveMnemonic ho h hi hm hpermits
  | derives m own =>
    rw [hi] at hmay
    obtain rfl : call = _ := hmay
    exact served_getPrivateKeyFromMnemonic h hi
  | publishes m own => rw [hi] at hmay; exact hmay.elim
  | deleted => rw [hi] at hmay; exact hmay.elim

theorem Permits.mono {free free' : Prop} (hfree : free → free') {call : MethodCall}
    (h : Permits d cfg st free call) : Permits d cfg st free' call := by
  cases call with
  | saveMnemonic m a b =>
    intro hrefuses
    exact ⟨(h hrefuses).1, fun hne => hfree ((h hrefuses).2 hne)⟩
  | deleteMnemonic => exact fun hne => hfree (h hne)
  | generateNewMnemonic => trivial
  | getMnemonic => trivial
  | mnemonicBackedUpToCloud => trivial
  | deleteCloudMnemonic => trivial
  | getPrivateKeyFromMnemonic m => trivial

end Served

end CacheCoherence

/-! ## Every interleaving -/

/-- The pool of calls, with one common configuration. -/
def cacheCalls {ι : Type} (calls : ι → CacheCall) (storageOptions : Option KeyStorageConfig)
    (c : Cache) (st : d.Store) : WalletPool d ι Unit :=
  Pool.start c st fun i => (calls i).program storageOptions

/-- Once concurrent calls have all completed, the cache is coherent. -/
def CacheCoherentWhenDone (d : Backend) : Prop :=
  ∀ (ι : Type) (_ : DecidableEq ι) (calls : ι → CacheCall)
    (storageOptions : Option KeyStorageConfig) (o : ι → d.Environment) (c : Cache)
    (st : d.Store) (schedule : List ι),
    (∀ i m, calls i = .creation (.importExistingWallet m) → d.accepts m = true) →
    (∀ i method, d.Succeeds (o i method)) → d.running st = 0 → Coherent c st →
    (Transition.run (Pool.step (serveAtomically o)) schedule
      (cacheCalls calls storageOptions c st)).Completed →
    Coherent
      (Transition.run (Pool.step (serveAtomically o)) schedule
        (cacheCalls calls storageOptions c st)).memory
      (Transition.run (Pool.step (serveAtomically o)) schedule
        (cacheCalls calls storageOptions c st)).store

open CacheCoherence in
/-- **The cache is coherent in the end.** On either platform, for any number of calls of
`getWallet`, of creations of valid phrases with `overwrite` and of
`permanentlyDeleteWallet`: in every interleaving in which no request changes the stored
phrase while another call is in its window, and every saved phrase is read back, the cache is
empty or holds the wallet of the stored phrase once all calls have completed. -/
theorem cache_coherent_when_done (d : Backend) {ι : Type} [DecidableEq ι]
    (calls : ι → CacheCall) (storageOptions : Option KeyStorageConfig)
    (o : ι → d.Environment) (c : Cache) (st : d.Store) (schedule : List ι)
    (hvalid : ∀ i m, calls i = .creation (.importExistingWallet m) → d.accepts m = true)
    (ho : ∀ i method, d.Succeeds (o i method)) (hidle : d.running st = 0)
    (hstart : Coherent c st)
    (hsteps : Transition.StepsMeet (Pool.step (serveAtomically o))
      (Undisturbed (storageConfig storageOptions)) schedule
      (cacheCalls calls storageOptions c st))
    (hdone : (Transition.run (Pool.step (serveAtomically o)) schedule
      (cacheCalls calls storageOptions c st)).Completed) :
    Coherent
      (Transition.run (Pool.step (serveAtomically o)) schedule
        (cacheCalls calls storageOptions c st)).memory
      (Transition.run (Pool.step (serveAtomically o)) schedule
        (cacheCalls calls storageOptions c st)).store := by
  have htracks : Tracks (protocol d (storageConfig storageOptions)) (fun _ => post) (Settled d)
      (cacheCalls calls storageOptions c st) (fun _ => Phase.idle) := by
    refine ⟨fun i => follows_program (hvalid i) storageOptions, hidle, ?_, ?_, ?_, .inl hstart⟩
    · intro i m hm
      exact hm.elim
    · intro i m hm
      cases hm
    · intro i m own hm
      cases hm
  obtain ⟨g, hg⟩ := Tracks.run keptLocally
    (C := Undisturbed (storageConfig storageOptions)) (by
      intro i σ g ht hC call k hcall hmay
      refine served ho ht.inv hmay ((hC call ?_).mono ?_)
      · rw [hcall]
        rfl
      · intro hfree j hj m hm
        exact hfree j hj (inWindow_of_holds hm (ht.follows j))) htracks hsteps
  generalize Transition.run (Pool.step (serveAtomically o)) schedule
    (cacheCalls calls storageOptions c st) = σ at hg hdone
  -- a call that has completed owes nothing
  rcases hg.inv.cache with hcoherent | ⟨i, hi⟩
  · exact hcoherent
  · obtain ⟨r, hr⟩ := Option.isSome_iff_exists.mp (hdone i)
    have hidle : g i = Phase.idle := (hg.follows i).result hr
    rw [hidle] at hi
    exact hi.elim

/-- A read of the wallet and its deletion. -/
def readAndDelete (second : Bool) : CacheCall :=
  if second then .permanentlyDeleteWallet else .getWallet

/-- Every native call of both calls succeeds, on Android. -/
def bothSucceed (_ : Bool) : Sample.android.Environment := fun _ => Sample.androidSuccess

/-- The deletion after the read has completed. -/
theorem cache_coherent_when_done_sample :
    Coherent
      (Transition.run (Pool.step (serveAtomically bothSucceed))
        (List.replicate 16 false ++ List.replicate 16 true)
        (cacheCalls readAndDelete none none
          (Sample.androidStore (some Sample.zeroPhrase) none))).memory
      (Transition.run (Pool.step (serveAtomically bothSucceed))
        (List.replicate 16 false ++ List.replicate 16 true)
        (cacheCalls readAndDelete none none
          (Sample.androidStore (some Sample.zeroPhrase) none))).store :=
  cache_coherent_when_done Sample.android readAndDelete none bothSucceed none
    (Sample.androidStore (some Sample.zeroPhrase) none)
    (List.replicate 16 false ++ List.replicate 16 true)
    (by
      intro i m hcall
      cases i <;> cases hcall)
    (fun _ _ => ⟨rfl, rfl, rfl, rfl, rfl⟩) rfl
    (coherent_none _) (by decide +kernel)
    (by
      intro i
      cases i <;> decide +kernel)

/-- The read is told the mnemonic; the store is emptied; the read asks for the key; the
deletion empties the cache and ends; the read goes on to its end. -/
def deletionBetween : List Bool :=
  List.replicate 2 false ++ List.replicate 2 true ++ List.replicate 3 false ++
    List.replicate 12 true ++ List.replicate 12 false

/-- **A deleted wallet is published.** A deletion runs while the read derives its wallet, and
the read then publishes it: the store is empty and the cache is not, on either platform. -/
theorem not_cacheCoherentWhenDone :
    ¬ CacheCoherentWhenDone Sample.android ∧ ¬ CacheCoherentWhenDone Sample.ios := by
  have hvalid : ∀ (d : Backend) (i : Bool) (m : String),
      readAndDelete i = .creation (.importExistingWallet m) → d.accepts m = true := by
    intro d i m hcall
    cases i <;> cases hcall
  constructor
  · intro h
    -- both calls are done, with the wallet of the deleted phrase in the cache
    have hcoherent := h Bool inferInstance readAndDelete none
      (fun _ _ => Sample.androidSuccess) none
      (Sample.androidStore (some Sample.zeroPhrase) none)
      deletionBetween
      (hvalid _) (fun _ _ => ⟨rfl, rfl, rfl, rfl, rfl⟩) rfl (coherent_none _)
      (by
        intro i
        cases i <;> decide +kernel)
    revert hcoherent
    decide +kernel
  · intro h
    have hcoherent := h Bool inferInstance readAndDelete none (fun _ _ => Sample.iosSuccess) none
      (⟨some Sample.zeroPhrase, none⟩ : Slots String)
      deletionBetween
      (hvalid _) (fun _ _ => ⟨rfl, rfl, rfl, fun _ => rfl, fun _ => rfl⟩) rfl (coherent_none _)
      (by
        intro i
        cases i <;> decide +kernel)
    revert hcoherent
    decide +kernel

end Backend

end RlyNetworkSdk.Platform
