import RlyNetworkSdk.Concurrency.Pool
import RlyNetworkSdk.Gsn.GsnClient

/-!
# Concurrent Relays

Any number of relays share one configuration, in which each of them overwrites the relay
worker between the awaits of the others. What a relay posts is consistent all the same: it
takes the relay worker out of the configuration once, and signs, queries and posts this one.

## Proof outline

A relay is followed with what it has learnt so far (`Knowledge`): the relay workers that it
has been told or has found in the configuration, and the transaction counts that it has been
told. The invariant says that all of this was answered, and that the configuration holds an
answered relay worker as soon as some relay has written it.
-/

namespace RlyNetworkSdk.Gsn

open Encoding Evm Dart Concurrency

/-! ## The environment -/

/-- The answers so far: to which relay, to which request. The order is the order in which they
were given, over all relays. -/
abbrev Log (ι : Type) := List (ι × Request × Reply)

/-- Every answer may depend on everything that was asked and answered before. -/
def serveRelay {ι : Type} (answer : ι → Request → Log ι → Reply) (i : ι) (q : Request)
    (log : Log ι) : Option Reply × Log ι :=
  (some (answer i q log), log ++ [(i, q, answer i q log)])

/-- The relay worker was in an answer of `/getaddr`, to this relay or to another one. -/
def AnsweredWorker {ι : Type} (log : Log ι) (relayWorker : String) : Prop :=
  ∃ i reply payload, (i, Request.getAddr, reply) ∈ log ∧ reply.serverConfig = some payload ∧
    payload.relayWorkerAddress = relayWorker

theorem AnsweredWorker.append {ι : Type} {log : Log ι} {w : String} (h : AnsweredWorker log w)
    (e : ι × Request × Reply) : AnsweredWorker (log ++ [e]) w := by
  obtain ⟨i, reply, payload, hmem, hpayload, hw⟩ := h
  exact ⟨i, reply, payload, List.mem_append_left _ hmem, hpayload, hw⟩

/-- The `relayWorker` entry of the relay data in a map. -/
def relayWorkerOf (map : Json) : Option Json :=
  (map.get? "relayData").bind (Json.get? "relayWorker")

/-- The message of a request that is signed for a network. It is the flattened forward request
with the relay data under its own key. -/
def signedMessage (network : NetworkConfig) (r : RelayRequest) : Json :=
  (signRequestData r network.gsn.domainSeparatorName network.gsn.chainId network).message

theorem relayWorkerOf_signedMessage (network : NetworkConfig) (r : RelayRequest) :
    relayWorkerOf (signedMessage network r) = some (.string r.relayData.relayWorker) := by
  simp [relayWorkerOf, signedMessage, signRequestData, messageData, Json.get?,
    Json.Entries.spread, Json.Entries.put, ForwardRequest.toMap, RelayData.toMap, List.lookup_cons]

theorem relayWorkerOf_toMap (r : RelayRequest) :
    relayWorkerOf r.toMap = some (.string r.relayData.relayWorker) := by
  simp [relayWorkerOf, RelayRequest.toMap, Json.get?, RelayData.toMap, List.lookup_cons]

/-- What relay `i` of the account posts, which renders the request `r`, is consistent with the
answers before it: the relay worker that is signed, the one that is posted and the one whose
transaction count is posted are the same, some relay was told this relay worker, and the
identifier is the one of the posted request and signature. -/
structure Consistent {w3 : Web3dart} {ι : Type} (lib : EthSigUtil w3) (network : NetworkConfig)
    (account : Wallet) (log : Log ι) (i : ι) (body : HttpRequest) (r : RelayRequest)
    (relayWorkerAddress : EthereumAddress) : Prop where
  relayRequest : body.relayRequest = r.toMap
  signature : signRequest lib r network.gsn.domainSeparatorName network.gsn.chainId account
    network = some body.metadata.signature
  signed : relayWorkerOf (signedMessage network r) = some (.string r.relayData.relayWorker)
  posted : relayWorkerOf body.relayRequest = some (.string r.relayData.relayWorker)
  parsed : w3.fromHex r.relayData.relayWorker = some relayWorkerAddress
  counted : (i, .getTransactionCount relayWorkerAddress,
    .number body.metadata.relayLastKnownNonce) ∈ log
  answered : AnsweredWorker log r.relayData.relayWorker
  relayRequestId : getRelayRequestID lib body.relayRequest body.metadata.signature =
    some body.metadata.relayRequestId

namespace ConcurrentRelays

variable {ι τ : Type} {w3 : Web3dart}

/-! ## The protocol of a relay -/

/-- The configuration of the network, with some relay worker. This is the only field of the
shared configuration that a relay writes. -/
def OnNetwork (network config : NetworkConfig) : Prop :=
  config = { network with
    gsn := { network.gsn with relayWorkerAddress := config.gsn.relayWorkerAddress } }

/-- What a relay has learnt: the relay workers it has been told or has read, and the transaction
counts it has been told. Its account belongs to the relay from the start. -/
structure Knowledge where
  account : Wallet
  /-- It has written the configuration. -/
  updated : Bool
  workers : List String
  counts : List (EthereumAddress × Int)

namespace Knowledge

/-- What the answer to a request adds. Only the address query and the query of the transaction
count matter to what is posted. -/
def learn (K : Knowledge) : Request → Reply → Knowledge
  | .getAddr, reply =>
    match reply.serverConfig with
    | some payload => { K with workers := payload.relayWorkerAddress :: K.workers }
    | none => K
  | .getTransactionCount address, .number n => { K with counts := (address, n) :: K.counts }
  | _, _ => K

/-- What a look at the configuration adds. Before the relay has written the configuration
itself, what it holds may be the relay worker of the caller, which nobody has answered. -/
def see (K : Knowledge) (relayWorker : String) : Knowledge :=
  if K.updated then { K with workers := relayWorker :: K.workers } else K

/-- The request, but for its identifier, carries what the relay has learnt: one relay worker, in
the posted map, under the signature and as the account whose transactions were counted. -/
structure Backs (K : Knowledge) (lib : EthSigUtil w3) (network : NetworkConfig)
    (body : HttpRequest) (r : RelayRequest) (relayWorkerAddress : EthereumAddress) : Prop where
  relayRequest : body.relayRequest = r.toMap
  signature : signRequest lib r network.gsn.domainSeparatorName network.gsn.chainId K.account
    network = some body.metadata.signature
  parsed : w3.fromHex r.relayData.relayWorker = some relayWorkerAddress
  counted : (relayWorkerAddress, body.metadata.relayLastKnownNonce) ∈ K.counts
  worker : r.relayData.relayWorker ∈ K.workers

/-- The request may be posted: the knowledge backs it, and its identifier is that of the posted
map and signature. -/
def Allows (K : Knowledge) (lib : EthSigUtil w3) (network : NetworkConfig)
    (body : HttpRequest) : Prop :=
  (∃ r relayWorkerAddress, K.Backs lib network body r relayWorkerAddress) ∧
    getRelayRequestID lib body.relayRequest body.metadata.signature =
      some body.metadata.relayRequestId

end Knowledge

/-- What a relay may do with its knowledge. Only a post has to be justified; a look at the
configuration finds the network's own, with some relay worker. -/
def protocol (τ : Type) (lib : EthSigUtil w3) (network : NetworkConfig) :
    Protocol (Heap τ) Request Reply Knowledge where
  mayInvoke K q := ∀ body, q = .post body → K.Allows lib network body
  onReply K q reply K' := K' = K.learn q reply
  mayRead _ := True
  onRead K m K' := OnNetwork network m.config ∧ K' = K.see m.config.gsn.relayWorkerAddress
  onWrite K m K' := OnNetwork network m.config ∧ m.config.gsn.relayWorkerAddress ∈ K.workers ∧
    K' = { K with updated := true }

/-- A postcondition on results only. -/
def OnResult {α : Type} (φ : Knowledge → α → Prop) : Knowledge → Except RelayError α → Prop
  | K, .ok a => φ K a
  | _, .error _ => True

section Rules

variable {lib : EthSigUtil w3} {network : NetworkConfig} {α β : Type}
  {φ : Knowledge → α → Prop} {ψ : Knowledge → β → Prop} {K : Knowledge}

theorem follows_bind {p : Relay τ α} {f : α → Relay τ β}
    (hp : Follows (protocol τ lib network) (OnResult φ) K p)
    (hf : ∀ K a, φ K a → Follows (protocol τ lib network) (OnResult ψ) K (f a)) :
    Follows (protocol τ lib network) (OnResult ψ) K (p >>= f) :=
  hp.bind hf fun _ _ _ => trivial

theorem follows_orThrow {o : Option α} {f : α → Relay τ β}
    (h : ∀ a, o = some a → Follows (protocol τ lib network) (OnResult ψ) K (f a)) :
    Follows (protocol τ lib network) (OnResult ψ) K (orThrow o >>= f) := by
  cases o with
  | none => trivial
  | some a => exact h a rfl

theorem follows_orThrow_await {o : Option α} {f : α → Relay τ β}
    (h : ∀ a, o = some a → Follows (protocol τ lib network) (OnResult ψ) K (f a)) :
    Follows (protocol τ lib network) (OnResult ψ) K ((orThrow o).await >>= f) := by
  cases o with
  | none => trivial
  | some a => exact h a rfl

theorem follows_orThrow_result {o : Option α} (h : ∀ a, o = some a → φ K a) :
    Follows (protocol τ lib network) (OnResult φ) K (orThrow o).await := by
  cases o with
  | none => trivial
  | some a => exact h a rfl

/-- An answer that cannot be decoded ends the relay. -/
theorem follows_ask {q : Request} {decode : Reply → Option α} {f : α → Relay τ β}
    (hmay : ∀ body, q = .post body → K.Allows lib network body)
    (h : ∀ reply a, decode reply = some a →
      Follows (protocol τ lib network) (OnResult ψ) (K.learn q reply) (f a)) :
    Follows (protocol τ lib network) (OnResult ψ) K (ask q decode >>= f) := by
  refine ⟨hmay, ?_⟩
  rintro reply _ rfl
  dsimp only
  split
  · next a hreply => exact h reply a hreply
  · trivial

theorem follows_getMemory {f : Heap τ → Relay τ β}
    (h : ∀ m, OnNetwork network m.config → Follows (protocol τ lib network) (OnResult ψ)
      (K.see m.config.gsn.relayWorkerAddress) (f m)) :
    Follows (protocol τ lib network) (OnResult ψ) K (Async.getMemory >>= f) := by
  refine ⟨trivial, ?_⟩
  rintro m _ ⟨hnetwork, rfl⟩
  exact h m hnetwork

theorem follows_write {m : Heap τ} {p : Relay τ β} (hnetwork : OnNetwork network m.config)
    (hworker : m.config.gsn.relayWorkerAddress ∈ K.workers)
    (hp : Follows (protocol τ lib network) (OnResult ψ) { K with updated := true } p) :
    Follows (protocol τ lib network) (OnResult ψ) K (.write m p) :=
  ⟨_, ⟨hnetwork, hworker, rfl⟩, hp⟩

end Rules

namespace Knowledge

@[simp] theorem account_learn (K : Knowledge) (q : Request) (reply : Reply) :
    (K.learn q reply).account = K.account := by
  unfold learn
  split
  · split <;> rfl
  · rfl
  · rfl

@[simp] theorem updated_learn (K : Knowledge) (q : Request) (reply : Reply) :
    (K.learn q reply).updated = K.updated := by
  unfold learn
  split
  · split <;> rfl
  · rfl
  · rfl

theorem workers_subset_learn (K : Knowledge) (q : Request) (reply : Reply) :
    K.workers ⊆ (K.learn q reply).workers := by
  unfold learn
  split
  · split
    · exact List.subset_cons_self _ _
    · exact List.Subset.refl _
  · exact List.Subset.refl _
  · exact List.Subset.refl _

@[simp] theorem account_see (K : Knowledge) (w : String) : (K.see w).account = K.account := by
  unfold see
  split <;> rfl

@[simp] theorem updated_see (K : Knowledge) (w : String) : (K.see w).updated = K.updated := by
  unfold see
  split <;> rfl

theorem workers_subset_see (K : Knowledge) (w : String) : K.workers ⊆ (K.see w).workers := by
  unfold see
  split
  · exact List.subset_cons_self _ _
  · exact List.Subset.refl _

/-- A relay that has written the configuration learns the relay worker that it finds there. -/
theorem mem_workers_see {K : Knowledge} (h : K.updated = true) (w : String) :
    w ∈ (K.see w).workers := by
  rw [see, if_pos h]
  exact List.mem_cons_self

/-- The identifier may be filled in. -/
theorem Backs.withId {K : Knowledge} {lib : EthSigUtil w3} {network : NetworkConfig}
    {body : HttpRequest} {r : RelayRequest} {relayWorkerAddress : EthereumAddress}
    (h : K.Backs lib network body r relayWorkerAddress) (relayRequestId : String) :
    K.Backs lib network
      { body with metadata := { body.metadata with relayRequestId := relayRequestId } } r
      relayWorkerAddress :=
  ⟨h.relayRequest, h.signature, h.parsed, h.counted, h.worker⟩

end Knowledge

/-! ## A relay follows its protocol -/

section Follows

variable {lib : EthSigUtil w3} {network : NetworkConfig} {K : Knowledge}

/-- Only the relay worker differs, which is not in the domain of the signature. -/
theorem signRequest_onNetwork {config : NetworkConfig} (h : OnNetwork network config)
    (r : RelayRequest) (account : Wallet) :
    signRequest lib r config.gsn.domainSeparatorName config.gsn.chainId account config =
      signRequest lib r network.gsn.domainSeparatorName network.gsn.chainId account network := by
  rw [h]
  rfl

/-- The relay worker of the answer is written into the configuration. -/
theorem follows_updateConfig :
    Follows (protocol τ lib network)
      (OnResult fun K' _ => K'.account = K.account ∧ K'.updated = true) K updateConfig := by
  refine follows_ask (fun body h => by cases h) fun reply payload hreply => ?_
  refine follows_getMemory fun heap hnetwork => ?_
  refine follows_write ?_ ?_ ⟨by simp, rfl⟩
  · rw [OnNetwork] at hnetwork ⊢
    simp only [Heap.setRelayWorkerAddress]
    rw [hnetwork]
  · refine Knowledge.workers_subset_see _ _ ?_
    simp only [Knowledge.learn, hreply]
    exact List.mem_cons_self

/-- The relay worker is the one that is in the configuration after the last await. -/
theorem follows_buildRelayRequest [DecidableEq τ] (hupdated : K.updated = true) (t : τ)
    (account : Wallet) (secondsNow : Nat) :
    Follows (protocol τ lib network)
      (OnResult fun K' r => K'.account = K.account ∧ r.relayData.relayWorker ∈ K'.workers) K
      (buildRelayRequest w3 t account secondsNow) := by
  refine follows_getMemory fun heap hnetwork => ?_
  refine follows_orThrow fun gas _ => ?_
  refine follows_write hnetwork (Knowledge.mem_workers_see hupdated _) ?_
  refine follows_orThrow fun sender _ => ?_
  refine follows_orThrow fun forwarder _ => ?_
  refine follows_bind (φ := fun K' _ => K'.account = K.account ∧ K'.updated = true) ?_
    fun K₁ senderNonce ⟨haccount, hupdated₁⟩ => ?_
  · refine Follows.await (follows_ask (fun body h => by cases h) fun reply nonce _ => ?_)
    exact ⟨by simp, by simp⟩
  -- this look decides on the relay worker
  refine follows_getMemory fun heap hnetwork => ?_
  refine follows_orThrow fun forwardRequest _ => ?_
  have hmem := Knowledge.mem_workers_see hupdated₁ heap.config.gsn.relayWorkerAddress
  refine follows_write hnetwork hmem ?_
  refine follows_orThrow_result fun relayRequest hrelayRequest => ?_
  obtain ⟨gasUsed, rfl⟩ := eq_of_fillCalldataGasUsed hrelayRequest
  exact ⟨by simp [haccount], hmem⟩

/-- What is signed, queried and put together is one request. -/
theorem follows_buildRelayHttpRequest {r : RelayRequest} (hmem : r.relayData.relayWorker ∈ K.workers) :
    Follows (protocol τ lib network)
      (OnResult fun K' http => ∃ relayWorkerAddress, K'.Backs lib network http r relayWorkerAddress)
      K (buildRelayHttpRequest lib r K.account) := by
  -- the shared configuration is read once more, and is still the one of the network
  refine follows_getMemory fun heap hnetwork => ?_
  refine follows_orThrow_await fun signature hsignature => ?_
  refine follows_orThrow fun relayWorkerAddress hparsed => ?_
  refine follows_ask (fun body h => by cases h) fun reply count hreply => ?_
  rw [signRequest_onNetwork hnetwork] at hsignature
  refine ⟨relayWorkerAddress, rfl, by simpa using hsignature, hparsed, ?_, ?_⟩
  · -- only a number makes a transaction count, and it is learnt as one
    cases reply with
    | number n =>
      obtain rfl := Option.some.inj hreply
      exact List.mem_cons_self
    | failure => cases hreply
    | response body => cases hreply
    | receipt => cases hreply
  · exact Knowledge.workers_subset_learn _ _ _ (Knowledge.workers_subset_see _ _ hmem)

theorem follows_handleGsnResponse (responseMap : Json) :
    Follows (protocol τ lib network) (OnResult fun _ _ => True) K
      (handleGsnResponse w3 responseMap) := by
  -- after the post nothing is asked that a later post could depend on
  have hhash : Follows (protocol τ lib network) (OnResult fun _ _ => True) K
      (do
        let txHash ← orThrow
          (((responseMap.get? "signedTx").bind textOf).bind (transactionHash w3))
        ask (.transactionReceipt txHash) Reply.isReceipt
        return txHash : Relay τ String) :=
    follows_orThrow fun txHash _ => follows_ask (fun body h => by cases h) fun _ _ _ => trivial
  unfold handleGsnResponse
  split
  · exact hhash
  · exact hhash
  · trivial

/-- **A relay posts only what its knowledge backs.** This is about one relay by itself: between
its steps the others may have overwritten the relay worker, and it has read it only once. -/
theorem follows_relayTransaction [DecidableEq τ] (t : τ) (secondsNow : Nat) :
    Follows (protocol τ lib network) (OnResult fun _ _ => True) K
      (relayTransaction lib t K.account secondsNow) := by
  refine follows_bind follows_updateConfig.await fun K₁ _ ⟨haccount₁, hupdated⟩ => ?_
  refine follows_bind (follows_buildRelayRequest hupdated t K.account secondsNow).await
    fun K₂ r ⟨haccount₂, hmem⟩ => ?_
  -- neither the update nor the request changes the account
  obtain haccount : K.account = K₂.account := (haccount₂.trans haccount₁).symm
  rw [haccount]
  refine follows_bind (follows_buildRelayHttpRequest hmem).await
    fun K₃ http ⟨relayWorkerAddress, hbacks⟩ => ?_
  refine follows_orThrow fun relayRequestId hid => ?_
  -- the only post, backed by what was learnt before it
  refine follows_ask (fun body hbody => ?_) fun reply responseMap _ =>
    (follows_handleGsnResponse responseMap).await
  obtain rfl := Request.post.inj hbody
  exact ⟨⟨r, relayWorkerAddress, hbacks.withId relayRequestId⟩, hid⟩

end Follows

/-! ## The invariant of all relays -/

section Invariant

variable {lib : EthSigUtil w3} {network : NetworkConfig} {accounts : ι → Wallet}

/-- Whatever was posted was consistent when it was posted, with the answers that had been given
by then. -/
def PostsConsistent (lib : EthSigUtil w3) (network : NetworkConfig) (accounts : ι → Wallet)
    (log : Log ι) : Prop :=
  ∀ before i body reply after, log = before ++ (i, .post body, reply) :: after →
    ∃ r relayWorkerAddress,
      Consistent lib network (accounts i) before i body r relayWorkerAddress

/-- What relay `i` of the account has learnt was answered. A relay worker may come from an
answer to another relay, through the shared configuration; a transaction count may not. -/
structure Known (account : Wallet) (log : Log ι) (i : ι) (K : Knowledge) : Prop where
  account : K.account = account
  workers : ∀ w ∈ K.workers, AnsweredWorker log w
  counts : ∀ c ∈ K.counts, (i, .getTransactionCount c.1, .number c.2) ∈ log

/-- What is true between any two steps of the relays. Once some relay has written the
configuration, the relay worker in it is one that was answered, whoever wrote it last. -/
structure Inv (lib : EthSigUtil w3) (network : NetworkConfig) (accounts : ι → Wallet)
    (m : Heap τ) (log : Log ι) (g : ι → Knowledge) : Prop where
  onNetwork : OnNetwork network m.config
  answered : (∃ i, (g i).updated = true) →
    AnsweredWorker log m.config.gsn.relayWorkerAddress
  known : ∀ i, Known (accounts i) log i (g i)
  posts : PostsConsistent lib network accounts log

theorem Known.append {account : Wallet} {log : Log ι} {i : ι} {K : Knowledge}
    (h : Known account log i K) (e : ι × Request × Reply) : Known account (log ++ [e]) i K :=
  ⟨h.account, fun w hw => (h.workers w hw).append e,
    fun c hc => List.mem_append_left _ (h.counts c hc)⟩

/-- What is found in the configuration was answered, once a relay has written it. -/
theorem Known.see {account : Wallet} {log : Log ι} {i : ι} {K : Knowledge} {w : String}
    (h : Known account log i K) (hw : K.updated = true → AnsweredWorker log w) :
    Known account log i (K.see w) := by
  unfold Knowledge.see
  split
  · next hupdated =>
    refine ⟨h.account, fun v hv => ?_, h.counts⟩
    rcases List.mem_cons.mp hv with rfl | hv
    · exact hw hupdated
    · exact h.workers v hv
  · exact h

/-- An answer is in the log when it is learnt. -/
theorem Known.learn {account : Wallet} {log : Log ι} {i : ι} {K : Knowledge}
    (h : Known account log i K) (q : Request) (reply : Reply) :
    Known account (log ++ [(i, q, reply)]) i (K.learn q reply) := by
  have hkept := h.append (i, q, reply)
  -- the new entry of the log is what the call has learnt from
  have hlast : (i, q, reply) ∈ log ++ [(i, q, reply)] := by simp
  unfold Knowledge.learn
  split
  · split
    · next payload hpayload =>
      refine ⟨hkept.account, fun w hw => ?_, hkept.counts⟩
      rcases List.mem_cons.mp hw with rfl | hw
      · exact ⟨i, reply, payload, hlast, hpayload, rfl⟩
      · exact hkept.workers w hw
    · exact hkept
  · refine ⟨hkept.account, hkept.workers, fun c hc => ?_⟩
    rcases List.mem_cons.mp hc with rfl | hc
    · exact hlast
    · exact hkept.counts c hc
  · exact hkept

/-- A request that the knowledge of its relay allows is consistent with the answers. -/
theorem Known.consistent {account : Wallet} {log : Log ι} {i : ι} {K : Knowledge}
    (h : Known account log i K) {body : HttpRequest} (hallows : K.Allows lib network body) :
    ∃ r relayWorkerAddress, Consistent lib network account log i body r relayWorkerAddress := by
  obtain ⟨⟨r, relayWorkerAddress, hbacks⟩, hid⟩ := hallows
  refine ⟨r, relayWorkerAddress, hbacks.relayRequest, ?_, relayWorkerOf_signedMessage _ r, ?_,
    hbacks.parsed, h.counts _ hbacks.counted, h.workers _ hbacks.worker, hid⟩
  · rw [← h.account]
    exact hbacks.signature
  · rw [hbacks.relayRequest, relayWorkerOf_toMap]

/-- One entry more: the ones before it are judged as before. -/
theorem PostsConsistent.append {log : Log ι} (h : PostsConsistent lib network accounts log)
    {i : ι} {q : Request} {reply : Reply}
    (hq : ∀ body, q = .post body → ∃ r relayWorkerAddress,
      Consistent lib network (accounts i) log i body r relayWorkerAddress) :
    PostsConsistent lib network accounts (log ++ [(i, q, reply)]) := by
  intro before j body reply' after hlog
  rcases List.eq_nil_or_concat after with rfl | ⟨after, e, rfl⟩
  · obtain ⟨rfl, hlast⟩ := List.append_inj' hlog rfl
    obtain ⟨rfl, hbody⟩ := Prod.mk.inj (List.singleton_inj.mp hlast)
    exact hq body (Prod.mk.inj hbody).1
  · rw [List.concat_eq_append, ← List.cons_append, ← List.append_assoc] at hlog
    exact h before j body reply' after (List.append_inj' hlog rfl).1

variable [DecidableEq ι]

/-- A relay learns something: what is known of the others stays. -/
theorem Known.update {log : Log ι} {g : ι → Knowledge}
    (h : ∀ j, Known (accounts j) log j (g j)) {i : ι} {K : Knowledge}
    (hK : Known (accounts i) log i K) (j : ι) :
    Known (accounts j) log j (Function.update g i K j) := by
  by_cases hj : j = i
  · subst hj
    simpa using hK
  · simpa [hj] using h j

/-- Looks and writes keep the invariant. -/
theorem keptLocally :
    KeptLocally (protocol τ lib network) (Inv (τ := τ) lib network accounts) where
  read {m log g i} h _ := by
    refine ⟨_, ⟨h.onNetwork, rfl⟩, h.onNetwork, ?_, ?_, h.posts⟩
    · rintro ⟨j, hj⟩
      -- what another call has looked at is not changed
      by_cases hji : j = i
      · subst hji
        exact h.answered ⟨j, by simpa using hj⟩
      · exact h.answered ⟨j, by simpa [hji] using hj⟩
    · exact Known.update h.known ((h.known i).see fun hi => h.answered ⟨i, hi⟩)
  write {m log g i m' K'} h hw := by
    obtain ⟨hnetwork, hmem, rfl⟩ := hw
    -- a call writes a worker that was in some answer
    have hworker := (h.known i).workers _ hmem
    exact ⟨hnetwork, fun _ => hworker, Known.update h.known
      ⟨(h.known i).account, (h.known i).workers, (h.known i).counts⟩, h.posts⟩

/-- An answered request keeps the invariant. -/
theorem servedWell (answer : ι → Request → Log ι → Reply) {m : Heap τ} {log : Log ι}
    {g : ι → Knowledge} (h : Inv lib network accounts m log g) {i : ι} {q : Request}
    (hmay : (protocol τ lib network).mayInvoke (g i) q) :
    ServedWell (protocol τ lib network) (Inv lib network accounts) (serveRelay answer) m log g i
      q := by
  refine ⟨answer i q log, _, rfl, rfl, h.onNetwork, ?_, ?_, ?_⟩
  · rintro ⟨j, hj⟩
    refine (h.answered ?_).append _
    by_cases hji : j = i
    · subst hji
      exact ⟨j, by simpa using hj⟩
    · exact ⟨j, by simpa [hji] using hj⟩
  · -- the log only grows, so what the others know remains true
    exact Known.update (fun j => (h.known j).append _) ((h.known i).learn q _)
  · -- a post is consistent with the log before it, as the protocol asks
    exact h.posts.append fun body hq => (h.known i).consistent (hmay body hq)

end Invariant

end ConcurrentRelays

open ConcurrentRelays in
/-- **Concurrent relays stay consistent.** For any number of relays over one configuration,
whatever they relay for whom, whatever the answers are and however the relays are
interleaved: whatever a relay has posted was consistent with the answers before it, and
whatever a relay is about to post is consistent with the answers so far. -/
theorem concurrent_relays_consistent {ι τ : Type} [DecidableEq ι] [DecidableEq τ]
    {w3 : Web3dart} (lib : EthSigUtil w3) (heap : Heap τ) (transactions : ι → τ)
    (accounts : ι → Wallet) (secondsNow : ι → Nat) (answer : ι → Request → Log ι → Reply)
    (schedule : List ι) :
    let relays i := relayTransaction lib (transactions i) (accounts i) (secondsNow i)
    let σ := Transition.run (Pool.step (serveRelay answer)) schedule (Pool.start heap [] relays)
    PostsConsistent lib heap.config accounts σ.store ∧
      ∀ i body, (σ.calls i).request = some (.post body) → ∃ r relayWorkerAddress,
        Consistent lib heap.config (accounts i) σ.store i body r relayWorkerAddress := by
  intro relays σ
  -- before the first step nobody knows anything, and nothing is posted
  have hstart : Tracks (protocol τ lib heap.config) (fun _ => OnResult fun _ _ => True)
      (Inv lib heap.config accounts) (Pool.start heap [] relays)
      fun i => ⟨accounts i, false, [], []⟩ := by
    refine ⟨fun i => follows_relayTransaction _ _, rfl, ?_, fun i => ⟨rfl, ?_, ?_⟩, ?_⟩
    · rintro ⟨i, hi⟩
      cases hi
    · exact fun w hw => absurd hw List.not_mem_nil
    · exact fun c hc => absurd hc List.not_mem_nil
    · intro before i body reply after hlog
      cases before <;> cases hlog
  -- no condition on the schedule is needed
  obtain ⟨g, hg⟩ := Tracks.run keptLocally (C := fun _ _ => True)
    (fun i σ g hg _ q k _ hmay => servedWell answer hg.inv hmay) hstart
    (Transition.stepsMeet_of_forall (fun _ _ => trivial) schedule _)
  refine ⟨hg.inv.posts, fun i body hbody => (hg.inv.known i).consistent ?_⟩
  exact (hg.follows i).request hbody body rfl

end RlyNetworkSdk.Gsn
