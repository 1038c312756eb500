import RlyNetworkSdk.Gsn.CalldataBound
import RlyNetworkSdk.Transition.Runs

/-!
# Repeated Relays

A caller may relay one transaction object several times, after a failure or on purpose. Each
attempt lowers the gas of the object by the cost of its calldata before anything is awaited,
and leaves it so.

## Main result

- `repeatable_iff`: the attempts of a run all build the same gas and leave the object alone
  when they fail, exactly when each of them meets a condition on the object before it and on
  the answers to it.
-/

namespace RlyNetworkSdk.Gsn

open Encoding Evm Dart Concurrency

/-! ## Attempts -/

/-- How the awaits of an attempt end. It waits for each of them at most once, so that an answer
for each kind of request describes everything the attempt can be told. -/
structure Answers where
  getAddr : Reply
  getNonce : Reply
  getTransactionCount : Reply
  post : Reply
  transactionReceipt : Reply

def Answers.reply (answers : Answers) : Request → Reply
  | .getAddr => answers.getAddr
  | .getNonce _ _ => answers.getNonce
  | .getTransactionCount _ => answers.getTransactionCount
  | .post _ => answers.post
  | .transactionReceipt _ => answers.transactionReceipt

/-- The environment of an attempt has no state of its own: the answer depends on the kind of
request only. -/
def Answers.serve (answers : Answers) (q : Request) (s : Unit) : Option Reply × Unit :=
  (some (answers.reply q), s)

/-- The function that the caller calls. `relayTransaction` asks for the addresses first and
posts the request at the end; `buildRelayRequest` can be called by itself, too. -/
inductive RelayCall where
  | relayTransaction
  | buildRelayRequest
  deriving DecidableEq

/-- An attempt to relay: the call with its arguments, but for the transaction object, and how
its awaits end. -/
structure Attempt where
  call : RelayCall
  config : NetworkConfig
  account : Wallet
  secondsNow : Nat
  answers : Answers

namespace Attempt

variable {τ : Type} [DecidableEq τ] {w3 : Web3dart} (lib : EthSigUtil w3) (t : τ) (a : Attempt)

def program : Relay τ Unit :=
  match a.call with
  | .relayTransaction => do
    let _ ← relayTransaction lib t a.account a.secondsNow
    return ()
  | .buildRelayRequest => do
    let _ ← buildRelayRequest w3 t a.account a.secondsNow
    return ()

/-- The call is handed its configuration. Two attempts with the same transaction object may well
be made for different networks. -/
def enter (heap : Heap τ) : Heap τ := { heap with config := a.config }

/-- How the attempt ends, alone, with the heap it leaves behind. -/
def run (heap : Heap τ) : Completion RelayError Unit × Heap τ × Unit :=
  (a.program lib t).run a.answers.serve (a.enter heap, ())

/-- The heap after the attempt. -/
def after (heap : Heap τ) : Heap τ := (a.run lib t heap).2.1

def Failed (heap : Heap τ) : Prop := ∃ e, (a.run lib t heap).1 = .threw e

end Attempt

/-! ## Repeatable runs -/

section Repeatable

variable {τ : Type} [DecidableEq τ] {w3 : Web3dart} (lib : EthSigUtil w3) (t : τ)

/-- All requests that were built from the object have the same gas. An attempt lowers the gas of
the object itself, so a second one starts from what the first one left. -/
def SameGas (heap : Heap τ) : Prop :=
  ∀ r r', (t, r) ∈ heap.forwardRequests → (t, r') ∈ heap.forwardRequests → r.gas = r'.gas

/-- The attempt leaves the object as it was if it fails, and all requests so far have the
same gas. -/
def Attempt.Repeats (a : Attempt) (heap : Heap τ) : Prop :=
  (a.Failed lib t heap → (a.after lib t heap).details t = heap.details t) ∧
    SameGas t (a.after lib t heap)

/-- Every attempt of the run repeats well, from the heap that the attempts before it have left. -/
def Repeatable (attempts : List Attempt) (heap : Heap τ) : Prop :=
  Transition.StepsMeet (Attempt.after lib t) (Attempt.Repeats lib t) attempts heap

end Repeatable

/-! ## What an attempt comes to -/

namespace Attempt

section Outcome

variable {w3 : Web3dart} (lib : EthSigUtil w3) (a : Attempt)

/-- The configuration after the address query; no value where the query fails.
`buildRelayRequest` makes no such query. -/
def network : Option NetworkConfig :=
  match a.call with
  | .relayTransaction => a.answers.getAddr.serverConfig.map fun payload =>
    { a.config with
      gsn := { a.config.gsn with relayWorkerAddress := payload.relayWorkerAddress } }
  | .buildRelayRequest => some a.config

/-- The forward request for an object of which the gas has been lowered; no value where an
address or the gas cannot be parsed, or the nonce is not told. -/
def forwardRequest (w3 : Web3dart) (config : NetworkConfig) (details : GsnTransactionDetails) :
    Option ForwardRequest := do
  let _ ← a.account.address w3
  let _ ← w3.fromHex config.gsn.forwarderAddress
  let senderNonce ← a.answers.getNonce.toNumber
  forwardRequestOf details (toRadixString 10 senderNonce)
    (toRadixString 10 (a.secondsNow + config.gsn.requestValidSeconds : Nat))

def relayRequest (w3 : Web3dart) (config : NetworkConfig) (details : GsnTransactionDetails) :
    Option RelayRequest :=
  (a.forwardRequest w3 config details).bind fun r =>
    fillCalldataGasUsed w3 ⟨r, relayDataOf details config.gsn⟩ config.gsn

/-- The relayer reports no error, and there is a receipt for the transaction it signed. An
`error` entry that is null is no error. -/
def Accepted (w3 : Web3dart) (responseMap : Json) : Prop :=
  (responseMap.get? "error" = none ∨ responseMap.get? "error" = some .null) ∧
    ∃ signedTx txHash, responseMap.get? "signedTx" = some (.string signedTx) ∧
      transactionHash w3 signedTx = some txHash ∧ a.answers.transactionReceipt = .receipt

/-- The request can be signed and identified, the transaction count is told, and the relayer
accepts what is posted. -/
def Relays (config : NetworkConfig) (r : RelayRequest) : Prop :=
  ∃ signature relayWorkerAddress relayLastKnownNonce relayRequestId responseMap,
    signRequest lib r config.gsn.domainSeparatorName config.gsn.chainId a.account config =
      some signature ∧
    w3.fromHex r.relayData.relayWorker = some relayWorkerAddress ∧
    a.answers.getTransactionCount = .number relayLastKnownNonce ∧
    getRelayRequestID lib r.toMap signature = some relayRequestId ∧
    a.answers.post = .response responseMap ∧ a.Accepted w3 responseMap

/-- With an object of which the gas has been lowered, nothing in the attempt fails: the request
is built, and `relayTransaction` also gets it signed, posted and accepted. -/
def GoesThrough (config : NetworkConfig) (details : GsnTransactionDetails) : Prop :=
  ∃ r, a.relayRequest w3 config details = some r ∧
    (a.call = .relayTransaction → a.Relays lib config r)

end Outcome

section Ends

variable {τ : Type} {w3 : Web3dart} {lib : EthSigUtil w3} {a : Attempt} {st : Heap τ × Unit}

theorem ends_orThrow {α : Type} (o : Option α) :
    (orThrow o : Relay τ α).Ends a.answers.serve st o st := by
  cases o with
  | none => exact ⟨.thrown, rfl⟩
  | some a => rfl

theorem orThrow_some_bind {α β : Type} (x : α) (f : α → Relay τ β) :
    orThrow (some x) >>= f = f x := rfl

theorem ends_ask {α : Type} (q : Request) (decode : Reply → Option α) :
    (ask q decode : Relay τ α).Ends a.answers.serve st (decode (a.answers.reply q)) st := by
  cases h : decode (a.answers.reply q) with
  | none => exact ⟨.awaited, by simp [ask, Async.run, Answers.serve, h]⟩
  | some b => simp [Async.Ends, ask, Async.run, Answers.serve, h]

/-! ### What follows the built request -/

/-- The posted request; no value where something fails before the post: the signature, the
address of the relay worker, or the query of its transaction count. -/
def httpRequest (lib : EthSigUtil w3) (a : Attempt) (config : NetworkConfig) (r : RelayRequest) :
    Option HttpRequest := do
  let gsn := config.gsn
  let signature ← signRequest lib r gsn.domainSeparatorName gsn.chainId a.account config
  let _ ← w3.fromHex r.relayData.relayWorker
  let relayLastKnownNonce ← a.answers.getTransactionCount.toNumber
  return {
    relayRequest := r.toMap
    metadata := {
      maxAcceptanceBudget := gsn.maxAcceptanceBudget
      relayHubAddress := gsn.relayHubAddress
      signature := signature
      approvalData := "0x"
      relayMaxNonce := relayLastKnownNonce + gsn.maxRelayNonceGap
      relayLastKnownNonce := relayLastKnownNonce
      domainSeparatorName := gsn.domainSeparatorName
      relayRequestId := "" } }

theorem ends_buildRelayHttpRequest (r : RelayRequest) :
    (buildRelayHttpRequest lib r a.account).Ends a.answers.serve st
      (httpRequest lib a st.1.config r) st := by
  apply Async.Ends.getMemory
  apply Async.Ends.bind (ends_orThrow _).await
  intro signature _
  apply Async.Ends.bind (ends_orThrow _)
  intro relayWorkerAddress _
  apply Async.Ends.bind (ends_ask _ _)
  intro relayLastKnownNonce _
  exact Async.Ends.pure _

/-- The hash of the relayed transaction; no value where something fails. -/
def signedTxHash (w3 : Web3dart) (a : Attempt) (responseMap : Json) : Option String := do
  let txHash ← ((responseMap.get? "signedTx").bind textOf).bind (transactionHash w3)
  let _ ← a.answers.transactionReceipt.isReceipt
  return txHash

/-- The same, where the relayer may report an error. -/
def responseHash (w3 : Web3dart) (a : Attempt) (responseMap : Json) : Option String :=
  match responseMap.get? "error" with
  | none | some .null => signedTxHash w3 a responseMap
  | some _ => none

theorem ends_handleGsnResponse (responseMap : Json) :
    (handleGsnResponse w3 responseMap).Ends a.answers.serve st (responseHash w3 a responseMap)
      st := by
  -- what is done with an answer without an error: the hash, then the receipt
  have hhash : (do
      let txHash ← orThrow
        (((responseMap.get? "signedTx").bind textOf).bind (transactionHash w3))
      ask (.transactionReceipt txHash) Reply.isReceipt
      return txHash : Relay τ String).Ends a.answers.serve st (signedTxHash w3 a responseMap)
      st := by
    apply Async.Ends.bind (ends_orThrow _)
    intro txHash _
    apply Async.Ends.bind (ends_ask _ _)
    intro _ _
    exact Async.Ends.pure _
  unfold handleGsnResponse responseHash
  generalize responseMap.get? "error" = error
  -- an error that is absent and one that is `null` are the same to the code
  cases error with
  | none => exact hhash
  | some details =>
    cases details with
    | null => exact hhash
    -- any other value of it throws, whatever its type
    | bool b => exact ⟨_, rfl⟩
    | int n => exact ⟨_, rfl⟩
    | string s => exact ⟨_, rfl⟩
    | list l => exact ⟨_, rfl⟩
    | object entries => exact ⟨_, rfl⟩

/-- What follows the built request in `relayTransaction`. Nothing of it writes to the object, so
that only whether it has a value matters. -/
def relayed (lib : EthSigUtil w3) (a : Attempt) (config : NetworkConfig) (r : RelayRequest) :
    Option String := do
  let http ← httpRequest lib a config r
  let _ ← getRelayRequestID lib http.relayRequest http.metadata.signature
  let responseMap ← a.answers.post.body
  responseHash w3 a responseMap

theorem signedTxHash_isSome_iff (responseMap : Json) :
    (signedTxHash w3 a responseMap).isSome = true ↔
      ∃ signedTx txHash, responseMap.get? "signedTx" = some (.string signedTx) ∧
        transactionHash w3 signedTx = some txHash ∧ a.answers.transactionReceipt = .receipt := by
  -- of all values only a text passes the cast
  have htext : ∀ json s, textOf json = some s ↔ json = .string s := by
    intro json s
    cases json <;> simp [textOf]
  have hreceipt : ∀ reply : Reply, reply.isReceipt = some () ↔ reply = .receipt := by
    intro reply
    cases reply <;> simp [Reply.isReceipt]
  constructor
  · intro h
    obtain ⟨hash, h⟩ := Option.isSome_iff_exists.mp h
    -- backwards through the steps, each of which has to succeed
    simp only [signedTxHash, Option.bind_eq_bind, Option.bind_eq_some_iff, htext] at h
    obtain ⟨txHash, ⟨signedTx, ⟨json, hjson, rfl⟩, htx⟩, ⟨⟩, hr, -⟩ := h
    exact ⟨signedTx, txHash, hjson, htx, (hreceipt _).mp hr⟩
  · rintro ⟨signedTx, txHash, hjson, htx, hr⟩
    simp [signedTxHash, hjson, textOf, htx, hr, Reply.isReceipt]

theorem responseHash_isSome_iff (responseMap : Json) :
    (responseHash w3 a responseMap).isSome = true ↔ a.Accepted w3 responseMap := by
  unfold responseHash Accepted
  rw [← signedTxHash_isSome_iff]
  generalize responseMap.get? "error" = error
  cases error with
  | none => simp
  | some details => cases details <;> simp

/-- The rest succeeds exactly when the request can be relayed. -/
theorem relayed_isSome_iff (config : NetworkConfig) (r : RelayRequest) :
    (relayed lib a config r).isSome = true ↔ a.Relays lib config r := by
  -- the replies of the two queries have to be numbers, the one of the post a body
  have hnumber : ∀ (reply : Reply) n, reply.toNumber = some n ↔ reply = .number n := by
    intro reply n
    cases reply <;> simp [Reply.toNumber]
  have hbody : ∀ (reply : Reply) json, reply.body = some json ↔ reply = .response json := by
    intro reply json
    cases reply <;> simp [Reply.body]
  constructor
  · intro h
    obtain ⟨hash, h⟩ := Option.isSome_iff_exists.mp h
    simp only [relayed, httpRequest, Option.bind_eq_bind, Option.bind_eq_some_iff, hnumber,
      hbody] at h
    obtain ⟨http, ⟨signature, hsignature, worker, hworker, count, hcount, hhttp⟩, id, hid,
      responseMap, hpost, hhash⟩ := h
    obtain rfl := Option.some.inj hhttp
    exact ⟨signature, worker, count, id, responseMap, hsignature, hworker, hcount, hid, hpost,
      (responseHash_isSome_iff _).mp (by rw [hhash]; rfl)⟩
  · rintro ⟨signature, worker, count, id, responseMap, hsignature, hworker, hcount, hid, hpost,
      haccepted⟩
    have hhash := (responseHash_isSome_iff _).mpr haccepted
    simpa [relayed, httpRequest, hsignature, hworker, hcount, Reply.toNumber, hid, hpost,
      Reply.body] using hhash

/-! ### Building the request -/

/-- The object with its gas lowered to this text, which is the one write of an attempt to it. -/
def lowered (details : GsnTransactionDetails) (gas : String) : GsnTransactionDetails :=
  { details with gas := some gas }

/-- The heap after `buildRelayRequest`, with the request that was made, if any. The gas is
lowered in both cases, since it is written before the first await. -/
def built [DecidableEq τ] (w3 : Web3dart) (a : Attempt) (t : τ) (gas : String) (heap : Heap τ) :
    Heap τ :=
  match a.forwardRequest w3 heap.config (lowered (heap.details t) gas) with
  | none => heap.setGas t gas
  | some r => (heap.setGas t gas).allocate t r

theorem ends_getSenderNonce (sender forwarder : EthereumAddress) :
    (getSenderNonce sender forwarder : Relay τ String).Ends a.answers.serve st
      (a.answers.getNonce.toNumber.map (toRadixString 10)) st := by
  rw [Option.map_eq_bind]
  apply Async.Ends.bind (ends_ask _ _)
  intro nonce _
  exact Async.Ends.pure _

/-- The gas is lowered whether or not the request can be built. By the time that the nonce is
asked for, the object has its new gas, and no path sets it back. -/
theorem ends_buildRelayRequest [DecidableEq τ] {t : τ} {heap : Heap τ} {gas : String}
    (hgas : estimateGasWithoutCallData (heap.details t) heap.config.gsn.gtxDataNonZero
      heap.config.gsn.gtxDataZero = some gas) :
    (buildRelayRequest w3 t a.account a.secondsNow).Ends a.answers.serve (heap, ())
      (a.relayRequest w3 heap.config (lowered (heap.details t) gas))
      (built w3 a t gas heap, ()) := by
  have hdetails : (heap.setGas t gas).details t = lowered (heap.details t) gas := by
    simp [Heap.setGas, lowered]
  apply Async.Ends.getMemory
  dsimp only
  rw [hgas, orThrow_some_bind]
  apply Async.Ends.write
  unfold relayRequest built forwardRequest
  -- up to the nonce, what fails leaves the heap with the lowered gas
  cases haddress : a.account.address w3 with
  | none => exact ⟨.thrown, rfl⟩
  | some sender =>
  rw [orThrow_some_bind]
  cases hforwarder : w3.fromHex heap.config.gsn.forwarderAddress with
  | none => exact ⟨.thrown, rfl⟩
  | some forwarder =>
  rw [orThrow_some_bind]
  have hnonce : (getSenderNonce sender forwarder : Relay τ String).Ends a.answers.serve
      (heap.setGas t gas, ()) (a.answers.getNonce.toNumber.map (toRadixString 10))
      (heap.setGas t gas, ()) := ends_getSenderNonce sender forwarder
  cases hn : a.answers.getNonce.toNumber with
  | none =>
    rw [hn] at hnonce
    exact Async.Ends.bind_none hnonce.await
  | some n =>
  rw [hn] at hnonce
  apply Async.Ends.bind_some hnonce.await
  apply Async.Ends.getMemory
  dsimp only
  rw [hdetails]
  -- the request is made before the cost of its call is estimated
  simp only [Option.bind_eq_bind, Option.bind_some]
  cases hr : forwardRequestOf (lowered (heap.details t) gas) (toRadixString 10 n)
      (toRadixString 10 (a.secondsNow + heap.config.gsn.requestValidSeconds : Nat)) with
  | none => exact ⟨.thrown, rfl⟩
  | some r =>
  rw [orThrow_some_bind]
  exact Async.Ends.write (ends_orThrow _).await

theorem ends_relayTransaction_rest [DecidableEq τ] (r : RelayRequest) :
    ((do
      let httpRequest ← (buildRelayHttpRequest lib r a.account).await
      let relayRequestId ← orThrow
        (getRelayRequestID lib httpRequest.relayRequest httpRequest.metadata.signature)
      let body := { httpRequest with
        metadata := { httpRequest.metadata with relayRequestId := relayRequestId } }
      let responseMap ← ask (.post body) Reply.body
      (handleGsnResponse w3 responseMap).await : Relay τ String)).Ends a.answers.serve st
      (relayed lib a st.1.config r) st := by
  -- one step of the source after the other; none of them touches the heap
  apply Async.Ends.bind (ends_buildRelayHttpRequest r).await
  intro http _
  apply Async.Ends.bind (ends_orThrow _)
  intro relayRequestId _
  apply Async.Ends.bind (ends_ask _ _)
  intro responseMap _
  exact (ends_handleGsnResponse responseMap).await

/-! ### The two calls -/

variable {t : τ} {heap : Heap τ} {config : NetworkConfig} {gas : String}

theorem ends_updateConfig_none (h : a.answers.getAddr.serverConfig = none) :
    (updateConfig : Relay τ Unit).Ends a.answers.serve (heap, ()) none (heap, ()) := by
  have hask : (ask .getAddr Reply.serverConfig : Relay τ _).Ends a.answers.serve (heap, ())
      a.answers.getAddr.serverConfig (heap, ()) := ends_ask .getAddr Reply.serverConfig
  rw [h] at hask
  exact Async.Ends.bind_none hask

theorem ends_updateConfig_some {payload : GsnServerConfigPayload}
    (h : a.answers.getAddr.serverConfig = some payload) :
    (updateConfig : Relay τ Unit).Ends a.answers.serve (heap, ()) (some ())
      (heap.setRelayWorkerAddress payload.relayWorkerAddress, ()) := by
  have hask : (ask .getAddr Reply.serverConfig : Relay τ _).Ends a.answers.serve (heap, ())
      a.answers.getAddr.serverConfig (heap, ()) := ends_ask .getAddr Reply.serverConfig
  rw [h] at hask
  apply Async.Ends.bind_some hask
  apply Async.Ends.getMemory
  exact Async.Ends.write (Async.Ends.pure ())

variable [DecidableEq τ]

theorem config_built : (built w3 a t gas heap).config = heap.config := by
  unfold built
  split <;> rfl

theorem ends_relayTransaction {payload : GsnServerConfigPayload}
    (hpayload : a.answers.getAddr.serverConfig = some payload)
    (hconfig : (heap.setRelayWorkerAddress payload.relayWorkerAddress).config = config)
    (hgas : estimateGasWithoutCallData (heap.details t) config.gsn.gtxDataNonZero
      config.gsn.gtxDataZero = some gas) :
    (relayTransaction lib t a.account a.secondsNow).Ends a.answers.serve (heap, ())
      ((a.relayRequest w3 config (lowered (heap.details t) gas)).bind (relayed lib a config))
      (built w3 a t gas { heap with config := config }, ()) := by
  subst hconfig
  apply Async.Ends.bind_some (ends_updateConfig_some hpayload).await
  -- nothing but the relay worker has changed
  have hsame : { heap with
      config := (heap.setRelayWorkerAddress payload.relayWorkerAddress).config } =
      heap.setRelayWorkerAddress payload.relayWorkerAddress := rfl
  have hdetails : (heap.setRelayWorkerAddress payload.relayWorkerAddress).details =
      heap.details := rfl
  generalize heap.setRelayWorkerAddress payload.relayWorkerAddress = heap' at *
  rw [← hdetails] at hgas
  have hbuild : (buildRelayRequest w3 t a.account a.secondsNow).Ends a.answers.serve (heap', ())
      (a.relayRequest w3 heap'.config (lowered (heap.details t) gas))
      (built w3 a t gas heap', ()) := hdetails ▸ ends_buildRelayRequest hgas
  rw [hsame]
  cases hr : a.relayRequest w3 heap'.config (lowered (heap.details t) gas) with
  | none =>
    rw [hr] at hbuild
    exact Async.Ends.bind_none hbuild.await
  | some r =>
    rw [hr] at hbuild
    apply Async.Ends.bind_some hbuild.await
    have hconfig : (built w3 a t gas heap').config = heap'.config := config_built
    rw [← hconfig]
    exact ends_relayTransaction_rest r

/-- An attempt whose address query fails does nothing. `updateConfig` is awaited before the
object is looked at. -/
theorem ends_program_of_network_none (hnetwork : a.network = none) :
    (a.program lib t).Ends a.answers.serve (a.enter heap, ()) none (a.enter heap, ()) := by
  unfold network at hnetwork
  unfold program
  cases hcall : a.call with
  | buildRelayRequest =>
    rw [hcall] at hnetwork
    cases hnetwork
  | relayTransaction =>
    rw [hcall] at hnetwork
    -- only `relayTransaction` asks for the addresses, and it asks first
    have hquery := Option.map_eq_none_iff.mp hnetwork
    exact Async.Ends.bind_none (Async.Ends.bind_none (ends_updateConfig_none hquery).await)

/-- Any other attempt lowers the gas, and succeeds exactly when it goes through. -/
theorem ends_program (hnetwork : a.network = some config)
    (hgas : estimateGasWithoutCallData (heap.details t) config.gsn.gtxDataNonZero
      config.gsn.gtxDataZero = some gas) :
    ∃ o, (a.program lib t).Ends a.answers.serve (a.enter heap, ()) o
        (built w3 a t gas { heap with config := config }, ()) ∧
      (o.isSome = true ↔ a.GoesThrough lib config (lowered (heap.details t) gas)) := by
  unfold network at hnetwork
  unfold program GoesThrough
  -- the two entry points differ in where the configuration comes from and in what follows the
  -- request
  cases hcall : a.call with
  | buildRelayRequest =>
    rw [hcall] at hnetwork
    obtain rfl := Option.some.inj hnetwork
    have hbuild : (buildRelayRequest w3 t a.account a.secondsNow).Ends a.answers.serve
        (a.enter heap, ()) (a.relayRequest w3 a.config (lowered (heap.details t) gas))
        (built w3 a t gas (a.enter heap), ()) := ends_buildRelayRequest hgas
    -- an attempt that only builds ends with the request
    refine ⟨(a.relayRequest w3 a.config (lowered (heap.details t) gas)).map fun _ => (), ?_, ?_⟩
    · exact Async.Ends.map hbuild _
    · simp [Option.isSome_iff_exists]
  | relayTransaction =>
    rw [hcall] at hnetwork
    obtain ⟨payload, hpayload, hconfig⟩ := Option.map_eq_some_iff.mp hnetwork
    -- an attempt that relays goes on to the signature, the worker and the post
    have hrelay : (relayTransaction lib t a.account a.secondsNow).Ends a.answers.serve
        (a.enter heap, ()) ((a.relayRequest w3 config (lowered (heap.details t) gas)).bind
          (relayed lib a config)) (built w3 a t gas { heap with config := config }, ()) :=
      ends_relayTransaction hpayload hconfig hgas
    refine ⟨((a.relayRequest w3 config (lowered (heap.details t) gas)).bind
      (relayed lib a config)).map fun _ => (), Async.Ends.map hrelay _, ?_⟩
    simp only [← relayed_isSome_iff, Option.isSome_map, true_imp_iff]
    rw [Option.isSome_bind, Option.any_eq_true]

end Ends

end Attempt

/-! ## The gas of the object -/

/-- The number that the gas of the object is read as: its text without the first two characters,
in radix 16. It has none without a gas, or with a text that is too short. -/
def parsedGas (details : GsnTransactionDetails) : Option Int :=
  details.gas.bind fun gas => (substring 2 gas).bind (bigIntParseRadix 16)

/-- The text of a gas, as `estimateGasWithoutCallData` writes it. A negative number is written
as `0x-…`, which is read back as the same number. -/
def gasText (n : Int) : String := "0x" ++ toRadixString 16 n

/-- What the calldata of the object costs on a network, by the code's own count and as an `int`. -/
def GsnTransactionDetails.calldataCost (details : GsnTransactionDetails)
    (config : NetworkConfig) : Int :=
  calculateCalldataCost details.data config.gsn.gtxDataNonZero config.gsn.gtxDataZero

theorem substring_prefixed (s : String) : substring 2 ("0x" ++ s) = some s := by
  have hlist : ("0x" ++ s).toList = '0' :: 'x' :: s.toList := String.toList_append
  have hlen : 2 ≤ ("0x" ++ s).toList.length := by
    rw [hlist, List.length_cons, List.length_cons]
    omega
  rw [substring, if_pos hlen, hlist]
  exact congrArg some String.ofList_toList

theorem parse_gasText (n : Int) : (substring 2 (gasText n)).bind (bigIntParseRadix 16) = some n := by
  rw [gasText, substring_prefixed, Option.bind_some]
  exact bigIntParseRadix_toRadixString (by decide) (by decide) n

theorem parsedGas_lowered (details : GsnTransactionDetails) (n : Int) :
    parsedGas (Attempt.lowered details (gasText n)) = some n := by
  rw [parsedGas, Attempt.lowered, Option.bind_some, parse_gasText]

/-- **Every attempt lowers the gas** by the cost of the calldata. The calldata is not part of
what an attempt writes, so each attempt takes off the same amount again. -/
theorem estimateGas_eq {details : GsnTransactionDetails} {n : Int}
    (h : parsedGas details = some n) (config : NetworkConfig) :
    estimateGasWithoutCallData details config.gsn.gtxDataNonZero config.gsn.gtxDataZero =
      some (gasText (n - details.calldataCost config)) := by
  obtain ⟨gas, hgas, h⟩ := Option.bind_eq_some_iff.mp h
  obtain ⟨digits, hdigits, h⟩ := Option.bind_eq_some_iff.mp h
  simp only [estimateGasWithoutCallData, hgas, hdigits, h, Option.bind_eq_bind, Option.bind_some]
  rfl

/-- A forward request has the gas of its object. -/
theorem gas_of_forwardRequestOf {details : GsnTransactionDetails} {n : Int} {nonce validUntilTime : String}
    {r : ForwardRequest} (hr : forwardRequestOf details nonce validUntilTime = some r)
    (h : parsedGas details = some n) : r.gas = toRadixString 10 n := by
  obtain ⟨gas, hgas, h⟩ := Option.bind_eq_some_iff.mp h
  obtain ⟨digits, hdigits, h⟩ := Option.bind_eq_some_iff.mp h
  simp only [forwardRequestOf, hgas, hdigits, Option.bind_eq_bind, Option.bind_some,
    Option.bind_eq_some_iff] at hr
  obtain ⟨k, hk, hr⟩ := hr
  obtain rfl := Option.some.inj hr
  -- the request repeats the text of the object, which was read as `n`
  have hread := (Option.filter_eq_some_iff.mp hk).1
  rw [h] at hread
  rw [Option.some.inj hread]

/-- A forward request of an attempt has the gas of its object. -/
theorem gas_of_forwardRequest {w3 : Web3dart} {a : Attempt} {config : NetworkConfig}
    {details : GsnTransactionDetails} {n : Int} {r : ForwardRequest}
    (hr : a.forwardRequest w3 config details = some r) (h : parsedGas details = some n) :
    r.gas = toRadixString 10 n := by
  simp only [Attempt.forwardRequest, Option.bind_eq_bind, Option.bind_eq_some_iff] at hr
  obtain ⟨sender, -, forwarder, -, nonce, -, hr⟩ := hr
  exact gas_of_forwardRequestOf hr h

theorem toString_injective {m n : Int} (h : toRadixString 10 m = toRadixString 10 n) : m = n := by
  have hparse := congrArg bigIntParse h
  rw [bigIntParse_toString, bigIntParse_toString] at hparse
  exact Option.some.inj hparse

/-! ## Exactly when attempts repeat well -/

section Exact

variable {τ : Type} {w3 : Web3dart} {lib : EthSigUtil w3} {t : τ} {a : Attempt} {heap : Heap τ}

/-- The condition on an attempt. If it gets past the address query, the gas is kept as it is
or nothing fails; and the calldata costs nothing, or no request was built from the object
before. -/
def Attempt.Harmless (lib : EthSigUtil w3) (t : τ) (a : Attempt) (heap : Heap τ) : Prop :=
  ∀ config gas, a.network = some config →
    estimateGasWithoutCallData (heap.details t) config.gsn.gtxDataNonZero
      config.gsn.gtxDataZero = some gas →
    ((heap.details t).gas = some gas ∨
      a.GoesThrough lib config (Attempt.lowered (heap.details t) gas)) ∧
    ((heap.details t).calldataCost config = 0 ∨ ∀ r, (t, r) ∉ heap.forwardRequests)

/-- The object has a gas, and so do all requests that were built from it, the same number. This
is the invariant between two attempts that repeat well. -/
def Settled (t : τ) (n : Int) (heap : Heap τ) : Prop :=
  parsedGas (heap.details t) = some n ∧
    ∀ r, (t, r) ∈ heap.forwardRequests → r.gas = toRadixString 10 n

theorem Settled.sameGas {n : Int} (h : Settled t n heap) : SameGas t heap := fun r r' hr hr' =>
  (h.2 r hr).trans (h.2 r' hr').symm

namespace Attempt

variable [DecidableEq τ]

/-- The heap of an attempt whose address query fails. -/
theorem after_of_network_none (hnetwork : a.network = none) :
    a.after lib t heap = a.enter heap := by
  have hends : (a.program lib t).Ends a.answers.serve (a.enter heap, ()) none (a.enter heap, ()) :=
    ends_program_of_network_none hnetwork
  obtain ⟨e, he⟩ := hends
  rw [after, run, he]

/-- The heap of any other attempt, and when it fails. -/
theorem after_of_network {config : NetworkConfig} {gas : String} (hnetwork : a.network = some config)
    (hgas : estimateGasWithoutCallData (heap.details t) config.gsn.gtxDataNonZero
      config.gsn.gtxDataZero = some gas) :
    a.after lib t heap = built w3 a t gas { heap with config := config } ∧
      (a.Failed lib t heap ↔ ¬ a.GoesThrough lib config (lowered (heap.details t) gas)) := by
  obtain ⟨o, ho, hgoes⟩ := ends_program hnetwork hgas
  rw [← hgoes]
  -- both ends leave the same heap: a failed attempt has lowered the gas as well
  cases o with
  | none =>
    obtain ⟨e, he⟩ := ho
    have hrun : a.run lib t heap = _ := he
    exact ⟨by rw [after, hrun], by simp [Failed, hrun]⟩
  | some _ =>
    have hrun : a.run lib t heap = _ := ho
    exact ⟨by rw [after, hrun], by simp [Failed, hrun]⟩

theorem details_built (gas : String) :
    (built w3 a t gas heap).details t = lowered (heap.details t) gas := by
  unfold built
  split <;> simp [Heap.setGas, Heap.allocate, lowered]

/-- At most one request is built, and it has the lowered gas. -/
theorem mem_built {config : NetworkConfig} {n : Int} {gas : String}
    (hgas : parsedGas (lowered (heap.details t) gas) = some n) {r : ForwardRequest}
    (hr : (t, r) ∈ (built w3 a t gas { heap with config := config }).forwardRequests) :
    r.gas = toRadixString 10 n ∨ (t, r) ∈ heap.forwardRequests := by
  unfold built at hr
  -- a request that could not be built adds nothing to the heap
  split at hr
  · exact .inr hr
  · next r' hr' =>
    rcases List.mem_cons.mp hr with heq | hr
    · obtain ⟨-, rfl⟩ := Prod.mk.inj heq
      exact .inl (gas_of_forwardRequest hr' hgas)
    · exact .inr hr

/-- Older requests are kept. -/
theorem mem_built_of_mem {config : NetworkConfig} {gas : String} {e : τ × ForwardRequest}
    (he : e ∈ heap.forwardRequests) :
    e ∈ (built w3 a t gas { heap with config := config }).forwardRequests := by
  unfold built
  split
  · exact he
  · exact List.mem_cons_of_mem _ he

/-- An attempt that goes through builds a request. -/
theorem exists_mem_built {config : NetworkConfig} {gas : String} {n : Int}
    (h : a.GoesThrough lib config (lowered (heap.details t) gas))
    (hgas : parsedGas (lowered (heap.details t) gas) = some n) :
    ∃ r, (t, r) ∈ (built w3 a t gas { heap with config := config }).forwardRequests ∧
      r.gas = toRadixString 10 n := by
  obtain ⟨relayRequest, hrelay, -⟩ := h
  obtain ⟨r, hr, -⟩ := Option.bind_eq_some_iff.mp hrelay
  have hmem : (t, r) ∈ (built w3 a t gas { heap with config := config }).forwardRequests := by
    rw [built, hr]
    exact List.mem_cons_self
  exact ⟨r, hmem, gas_of_forwardRequest hr hgas⟩

/-- An estimate that keeps the gas has nothing to subtract. -/
theorem calldataCost_of_kept {details : GsnTransactionDetails} {config : NetworkConfig} {n : Int}
    (hn : parsedGas details = some n)
    (hkept : details.gas = some (gasText (n - details.calldataCost config))) :
    details.calldataCost config = 0 := by
  have hparse : parsedGas details = some (n - details.calldataCost config) := by
    rw [parsedGas, hkept, Option.bind_some, parse_gasText]
  have heq := Option.some.inj (hn.symm.trans hparse)
  omega

/-- The old requests have the gas of the new one if the calldata costs nothing. -/
theorem settled_built {n : Int} {config : NetworkConfig} (hs : Settled t n heap)
    (hnext : parsedGas (lowered (heap.details t)
      (gasText (n - (heap.details t).calldataCost config))) =
        some (n - (heap.details t).calldataCost config))
    (hcost : (heap.details t).calldataCost config = 0 ∨ ∀ r, (t, r) ∉ heap.forwardRequests) :
    Settled t (n - (heap.details t).calldataCost config)
      (built w3 a t (gasText (n - (heap.details t).calldataCost config))
        { heap with config := config }) := by
  refine ⟨by rw [details_built, hnext], fun r hr => ?_⟩
  rcases mem_built hnext hr with hgas | hold
  · exact hgas
  · -- a cost of zero leaves the gas as it was; otherwise there was no request to disagree
    rcases hcost with hcost | hnone
    · rw [hs.2 r hold, hcost, sub_zero]
    · exact absurd hold (hnone r)

/-- **One attempt.** From a settled heap it repeats well exactly when it is harmless. An attempt
that gets past the address query has lowered the gas before anything else can fail, and a
failure does not undo it. -/
theorem repeats_iff {n : Int} (hs : Settled t n heap) :
    a.Repeats lib t heap ↔ a.Harmless lib t heap := by
  cases hnetwork : a.network with
  | none =>
    -- nothing has happened
    have hafter : a.after lib t heap = a.enter heap := after_of_network_none hnetwork
    constructor
    · rintro - config gas hsome
      rw [hnetwork] at hsome
      cases hsome
    · intro _
      rw [Repeats, hafter]
      exact ⟨fun _ => rfl, hs.sameGas⟩
  | some config =>
    have hestimate := estimateGas_eq hs.1 config
    obtain ⟨hafter, hfailed⟩ : a.after lib t heap = _ ∧ (a.Failed lib t heap ↔ _) :=
      after_of_network hnetwork hestimate
    have hnext := parsedGas_lowered (heap.details t) (n - (heap.details t).calldataCost config)
    constructor
    · rintro ⟨hunchanged, hsame⟩ config' gas hsome hgas
      obtain rfl := Option.some.inj (hnetwork.symm.trans hsome)
      obtain rfl := Option.some.inj (hestimate.symm.trans hgas)
      by_cases hgoes : a.GoesThrough lib config (lowered (heap.details t)
          (gasText (n - (heap.details t).calldataCost config)))
      · refine ⟨.inr hgoes, ?_⟩
        by_contra hnot
        push Not at hnot
        obtain ⟨hcost, r', hr'⟩ := hnot
        -- the new request has a lower gas than the old one
        obtain ⟨r, hr, hrgas⟩ := exists_mem_built hgoes hnext
        rw [hafter] at hsame
        have heq := hsame r r' hr (mem_built_of_mem hr')
        rw [hrgas, hs.2 r' hr'] at heq
        have := toString_injective heq
        omega
      · have hkept := hunchanged (hfailed.mpr hgoes)
        rw [hafter, details_built] at hkept
        have hgas : (heap.details t).gas =
            some (gasText (n - (heap.details t).calldataCost config)) :=
          (congrArg GsnTransactionDetails.gas hkept).symm
        exact ⟨.inl hgas, .inl (calldataCost_of_kept hs.1 hgas)⟩
    · intro hharmless
      obtain ⟨hkept, hcost⟩ := hharmless config _ hnetwork hestimate
      rw [Repeats, hafter]
      refine ⟨fun hfail => ?_, ?_⟩
      · have hgas := hkept.resolve_right (hfailed.mp hfail)
        rw [details_built, lowered, ← hgas]
      · exact (settled_built hs hnext hcost).sameGas

/-- What the next attempt finds. -/
theorem settled_after {n : Int} (hs : Settled t n heap) (h : a.Harmless lib t heap) :
    ∃ m, Settled t m (a.after lib t heap) := by
  cases hnetwork : a.network with
  | none =>
    rw [after_of_network_none hnetwork]
    exact ⟨n, hs⟩
  | some config =>
    have hestimate := estimateGas_eq hs.1 config
    rw [(after_of_network hnetwork hestimate).1]
    exact ⟨_, settled_built hs (parsedGas_lowered _ _) (h config _ hnetwork hestimate).2⟩

end Attempt

/-- **Repeated relays.** For every object with a hexadecimal gas and every run of attempts
with it: all attempts that build a request give it the same gas, and those that fail leave
the object unchanged, exactly when each attempt is harmless where it is made. -/
theorem repeatable_iff [DecidableEq τ] (lib : EthSigUtil w3) (t : τ) (attempts : List Attempt)
    (heap : Heap τ) (hgas : ∃ n, parsedGas (heap.details t) = some n)
    (hnew : ∀ r, (t, r) ∉ heap.forwardRequests) :
    Repeatable lib t attempts heap ↔
      Transition.StepsMeet (Attempt.after lib t) (Attempt.Harmless lib t) attempts heap := by
  obtain ⟨n, hn⟩ := hgas
  -- no request has been built yet, so any gas is the gas of all of them
  have hs : Settled t n heap := ⟨hn, fun r hr => absurd hr (hnew r)⟩
  -- the invariant `Settled` says at each attempt what the earlier ones have left
  refine Transition.stepsMeet_iff_of_simulation
    (R := fun s s' => s = s' ∧ ∃ n, Settled t n s) (U := fun _ _ => True) ?_ ?_ attempts
    ⟨rfl, n, hs⟩ (Transition.stepsMeet_of_forall (fun _ _ => trivial) attempts heap)
  · rintro a s _ ⟨rfl, n, hs⟩ -
    -- where it holds, an attempt repeats exactly when it is harmless
    exact Attempt.repeats_iff hs
  · rintro a s _ ⟨rfl, n, hs⟩ - hrepeats
    -- and a harmless attempt keeps it
    exact ⟨rfl, Attempt.settled_after hs ((Attempt.repeats_iff hs).mp hrepeats)⟩

end Exact

/-! ## A failed attempt -/

namespace Sample

/-- A transaction object with this calldata and the gas 21000. -/
def detailsWith (data : String) : GsnTransactionDetails where
  «from» := "0x197a1bee163923815ba58ead0f14b3fcd8c5926d"
  data := data
  «to» := "0x758641a1b566998CaC5Bc5fC8032F001e1CEBeEf"
  value := some "0"
  gas := some "0x5208"
  maxFeePerGas := "0x0"
  maxPriorityFeePerGas := "0x0"
  paymasterData := none
  clientId := none
  useGSN := none

def heapWith (data : String) : Heap Unit := ⟨config, fun _ => detailsWith data, []⟩

/-- A `buildRelayRequest` that is not told the nonce. -/
def offline : Attempt where
  call := .buildRelayRequest
  config := config
  account := ⟨"0x01"⟩
  secondsNow := 1700000000
  answers := ⟨.failure, .failure, .failure, .failure, .failure⟩

/-- A `buildRelayRequest` that is told a nonce. -/
def online : Attempt := { offline with answers := { offline.answers with getNonce := .number 0 } }

/-- A `relayTransaction` that is not told the addresses. -/
def dropped : Attempt := { offline with call := .relayTransaction }

theorem parsedGas_heapWith (data : String) :
    parsedGas ((heapWith data).details ()) = some 21000 := by
  have hparse : (substring 2 "0x5208").bind (bigIntParseRadix 16) = some 21000 := by decide +kernel
  exact hparse

theorem settled_heapWith (data : String) : Settled () 21000 (heapWith data) :=
  ⟨parsedGas_heapWith data, fun _ hr => absurd hr List.not_mem_nil⟩

/-- Nobody is told a nonce offline. -/
theorem not_goesThrough_offline (details : GsnTransactionDetails) :
    ¬ offline.GoesThrough lib config details := by
  rintro ⟨r, hr, -⟩
  obtain ⟨forwardRequest, hforward, -⟩ := Option.bind_eq_some_iff.mp hr
  simp only [Attempt.forwardRequest, Option.bind_eq_bind, Option.bind_eq_some_iff] at hforward
  obtain ⟨sender, -, forwarder, -, nonce, hnonce, -⟩ := hforward
  cases hnonce

/-- What the object with calldata is lowered to. -/
def callRequest : ForwardRequest where
  «from» := "0x197a1bee163923815ba58ead0f14b3fcd8c5926d"
  «to» := "0x758641a1b566998CaC5Bc5fC8032F001e1CEBeEf"
  value := "0"
  gas := "20872"
  nonce := "0"
  data := "0xa9059cbb"
  validUntilTime := toRadixString 10 (1700000000 + config.gsn.requestValidSeconds : Nat)

theorem goesThrough_online :
    online.GoesThrough lib config (Attempt.lowered (detailsWith "0xa9059cbb") "0x5188") := by
  -- the forward request and the fields of the typed data are computed; the length of the calldata
  -- is not
  have hforward : online.forwardRequest w3 config
      (Attempt.lowered (detailsWith "0xa9059cbb") "0x5188") = some callRequest := by decide +kernel
  let r : RelayRequest :=
    ⟨callRequest, relayDataOf (Attempt.lowered (detailsWith "0xa9059cbb") "0x5188") config.gsn⟩
  have hfields : ∀ f ∈ fields, (f.postedContent w3 (r.withCalldata "0" "0x")).isSome = true := by
    decide +kernel
  have hhub : (w3.fromHex config.gsn.relayHubAddress).isSome = true := by decide +kernel
  obtain ⟨hub, hhub⟩ := Option.isSome_iff_exists.mp hhub
  have hdata : w3.hexToBytes "0xa9059cbb" = some [0xa9, 0x05, 0x9c, 0xbb] := by decide +kernel
  -- the cost is found from the rendered fields alone
  have hfill : fillCalldataGasUsed w3 (r.withCalldata "0" "0x") config.gsn = some _ :=
    fillCalldataGasUsed_exists (fun f hf => Option.isSome_iff_exists.mp (hfields f hf)) hhub hdata
  rw [show "0x" = r.relayData.paymasterData from rfl, fillCalldataGasUsed_withCalldata] at hfill
  have hrequest : online.relayRequest w3 config
      (Attempt.lowered (detailsWith "0xa9059cbb") "0x5188") = fillCalldataGasUsed w3 r config.gsn := by
    rw [Attempt.relayRequest, hforward, Option.bind_some]
  refine ⟨_, hrequest.trans hfill, ?_⟩
  intro hcall
  cases hcall

end Sample

/-- The gas of an object with calldata is lower after an attempt that has failed. -/
theorem not_repeatable :
    parsedGas ((Sample.heapWith "0xa9059cbb").details ()) = some 21000 ∧
      ¬ Repeatable Sample.lib () [Sample.offline] (Sample.heapWith "0xa9059cbb") := by
  refine ⟨Sample.parsedGas_heapWith _, fun h => ?_⟩
  have hharmless := (Attempt.repeats_iff (Sample.settled_heapWith _)).mp h.1
  have hestimate := estimateGas_eq (Sample.parsedGas_heapWith "0xa9059cbb") Sample.config
  obtain ⟨hkept | hgoes, -⟩ := hharmless Sample.config _ rfl hestimate
  · -- eight characters at 16 each
    have hcost := Attempt.calldataCost_of_kept (Sample.parsedGas_heapWith _) hkept
    have hactual : (Sample.detailsWith "0xa9059cbb").calldataCost Sample.config = 128 := by
      decide +kernel
    exact absurd (hactual.symm.trans hcost) (by decide)
  · exact Sample.not_goesThrough_offline _ hgoes

/-- A call that is dropped before the gas is lowered can be repeated: the second attempt builds a
request. -/
theorem repeatable_dropped_online :
    Repeatable Sample.lib () [Sample.dropped, Sample.online] (Sample.heapWith "0xa9059cbb") := by
  -- the address query fails, so the first attempt leaves the heap as it was
  have hafter : Sample.dropped.after Sample.lib () (Sample.heapWith "0xa9059cbb") =
      Sample.heapWith "0xa9059cbb" := Attempt.after_of_network_none rfl
  have hdropped : Sample.dropped.Harmless Sample.lib () (Sample.heapWith "0xa9059cbb") := by
    intro config gas hnetwork
    cases hnetwork
  refine (repeatable_iff Sample.lib () [Sample.dropped, Sample.online]
    (Sample.heapWith "0xa9059cbb") ⟨21000, Sample.parsedGas_heapWith _⟩
    fun _ => List.not_mem_nil).mpr ⟨hdropped, ?_, trivial⟩
  rw [hafter]
  intro config gas hnetwork hgas
  obtain rfl := Option.some.inj hnetwork
  -- each of the eight digits of the selector counts, which makes 128 of the 21000
  have hestimate : estimateGasWithoutCallData (Sample.detailsWith "0xa9059cbb") 16 4 =
      some "0x5188" := by decide +kernel
  obtain rfl : gas = "0x5188" := Option.some.inj (hgas.symm.trans hestimate)
  exact ⟨.inr Sample.goesThrough_online, .inr fun _ => List.not_mem_nil⟩

end RlyNetworkSdk.Gsn
