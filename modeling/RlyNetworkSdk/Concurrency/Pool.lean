import RlyNetworkSdk.Concurrency.Async
import RlyNetworkSdk.Transition.Runs

/-!
# Interleavings of Asynchronous Calls

A `Pool` holds any number of calls of one process, each suspended somewhere. One step of
call `i` is either the service of the request it waits for, which is atomic for the store
and leaves the call ready to resume, or its resumption, which runs it up to its next
suspension point without interruption. A schedule is a list of calls to step, so a
property of all schedules is a property of all interleavings at the suspension points.

`Follows` and `Protocol` are the proof rule for such pools: each call is shown to follow a
protocol over a ghost value of its own, and the invariant of the pool then only speaks of
the memory, the store and the ghost values (`Tracks.step`).
-/

namespace RlyNetworkSdk.Concurrency

universe u

variable {ι M S Q R ε α β L : Type u}

namespace Async

/-! ## Resumption -/

/-- Run the synchronous part in front of the next suspension point, with the memory as it is and
as the part itself changes it. -/
def advance : Async M Q R ε α → M → Async M Q R ε α × M
  | .read k, m => (k m).advance m
  | .write m' p, _ => p.advance m'
  | .done r, m => (.done r, m)
  | .hung, m => (.hung, m)
  | .invoke q k, m => (.invoke q k, m)
  | .pause p, m => (.pause p, m)

/-- The result of a completed call. -/
def result : Async M Q R ε α → Option (Except ε α)
  | .done r => some r
  | _ => none

/-- The request a suspended call waits for. -/
def request : Async M Q R ε α → Option Q
  | .invoke q _ => some q
  | _ => none

/-- The request a suspended call issues next, if that does not depend on the memory. -/
def nextInvoke : Async M Q R ε α → Option Q
  | .invoke q _ => some q
  | .pause p => p.nextInvoke
  | .write _ p => p.nextInvoke
  | _ => none

/-- What a suspended call writes before it issues another request. -/
def nextWrite : Async M Q R ε α → Option M
  | .write m _ => some m
  | .pause p => p.nextWrite
  | _ => none

end Async

/-- The calls of a process, its shared memory and the store behind its requests. Only one call
runs at a time, from one suspension point to the next. -/
structure Pool (ι M S Q R ε α : Type u) where
  memory : M
  store : S
  calls : ι → Async M Q R ε α

namespace Pool

variable [DecidableEq ι]

/-- The pool in which no call has begun: each of them is ready to run its first part. -/
def start (m : M) (s : S) (calls : ι → Async M Q R ε α) : Pool ι M S Q R ε α :=
  ⟨m, s, fun i => .pause (calls i)⟩

/-- One step of call `i`. The handler may treat the requests of different calls
differently (each call has its own luck with the outside world). -/
def step (h : ι → Q → S → Option R × S) (i : ι) (σ : Pool ι M S Q R ε α) :
    Pool ι M S Q R ε α :=
  match σ.calls i with
  -- resumption
  | .pause p =>
    { σ with
      memory := (p.advance σ.memory).2
      calls := Function.update σ.calls i (p.advance σ.memory).1 }
  -- service of the request; the call is resumed in a later step
  | .invoke q k =>
    { σ with
      store := (h i q σ.store).2
      calls := Function.update σ.calls i
        (match (h i q σ.store).1 with
        | some r => .pause (k r)
        | none => .hung) }
  -- completed, or suspended for ever
  | _ => σ

/-- Call `i` has returned `a`. -/
def Returned (σ : Pool ι M S Q R ε α) (i : ι) (a : α) : Prop :=
  (σ.calls i).result = some (.ok a)

/-- Every call has completed. -/
def Completed (σ : Pool ι M S Q R ε α) : Prop :=
  ∀ i, (σ.calls i).result.isSome = true

end Pool

/-! ## Protocols -/

/-- A protocol over ghost values `L`: what a call may do in each ghost value, and where
that leads. -/
structure Protocol (M Q R L : Type u) where
  mayInvoke : L → Q → Prop
  onReply : L → Q → R → L → Prop
  mayRead : L → Prop
  onRead : L → M → L → Prop
  onWrite : L → M → L → Prop

/-- The program `p` keeps to the protocol from ghost value `l`, and completes only in a
ghost value and with a result that `Post` allows. -/
def Follows (P : Protocol M Q R L) (Post : L → Except ε α → Prop) : L → Async M Q R ε α → Prop
  | l, .done r => Post l r
  | _, .hung => False
  | l, .pause p => Follows P Post l p
  | l, .invoke q k => P.mayInvoke l q ∧ ∀ r l', P.onReply l q r l' → Follows P Post l' (k r)
  | l, .read k => P.mayRead l ∧ ∀ m l', P.onRead l m l' → Follows P Post l' (k m)
  | l, .write m p => ∃ l', P.onWrite l m l' ∧ Follows P Post l' p

namespace Follows

variable {P : Protocol M Q R L} {Post : L → Except ε α → Prop} {Post' : L → Except ε β → Prop}

/-- A completed call is in a ghost value and has a result that the postcondition allows. -/
theorem result {p : Async M Q R ε α} {l : L} (hp : Follows P Post l p) {r : Except ε α}
    (hr : p.result = some r) : Post l r := by
  cases p with
  | done r' =>
    obtain rfl := Option.some.inj hr
    exact hp
  | hung => exact hp.elim
  | invoke q k => cases hr
  | pause p => cases hr
  | read k => cases hr
  | write m p => cases hr

/-- A call waits only for what it may request. -/
theorem request {p : Async M Q R ε α} {l : L} (hp : Follows P Post l p) {q : Q}
    (hq : p.request = some q) : P.mayInvoke l q := by
  cases p with
  | invoke q' k =>
    obtain rfl := Option.some.inj hq
    exact hp.1
  | done r => cases hq
  | hung => exact hp.elim
  | pause p => cases hq
  | read k => cases hq
  | write m p => cases hq

/-- In a ghost value that allows nothing but requests, a call is about to issue one. -/
theorem nextInvoke {p : Async M Q R ε α} {l : L} (hp : Follows P Post l p)
    (hread : ¬ P.mayRead l) (hwrite : ∀ m l', ¬ P.onWrite l m l') (hdone : ∀ r, ¬ Post l r) :
    ∃ q, p.nextInvoke = some q ∧ P.mayInvoke l q := by
  induction p with
  | done r => exact absurd hp (hdone r)
  | hung => exact hp.elim
  | invoke q k => exact ⟨q, rfl, hp.1⟩
  | pause p ih => exact ih hp
  | read k => exact absurd hp.1 hread
  | write m p =>
    obtain ⟨l', hw, -⟩ := hp
    exact absurd hw (hwrite m l')

/-- In a ghost value that allows nothing but writes, a call is about to write. -/
theorem nextWrite {p : Async M Q R ε α} {l : L} (hp : Follows P Post l p)
    (hread : ¬ P.mayRead l) (hinvoke : ∀ q, ¬ P.mayInvoke l q) (hdone : ∀ r, ¬ Post l r) :
    ∃ m l', p.nextWrite = some m ∧ P.onWrite l m l' := by
  induction p with
  | done r => exact absurd hp (hdone r)
  | hung => exact hp.elim
  | invoke q k => exact absurd hp.1 (hinvoke q)
  | pause p ih => exact ih hp
  | read k => exact absurd hp.1 hread
  | write m p =>
    obtain ⟨l', hw, -⟩ := hp
    exact ⟨m, l', rfl, hw⟩

/-- The sequencing rule. -/
theorem bind {p : Async M Q R ε α} {f : α → Async M Q R ε β} {l : L} (hp : Follows P Post l p)
    (hok : ∀ l a, Post l (.ok a) → Follows P Post' l (f a))
    (herr : ∀ l e, Post l (.error e) → Post' l (.error e)) :
    Follows P Post' l (p >>= f) := by
  change Follows P Post' l (p.bind f)
  -- the ghost value moves with the tree, so it is generalized
  induction p generalizing l with
  | done r =>
    cases r with
    | ok a => exact hok l a hp
    | error e => exact herr l e hp
  | hung => exact hp.elim
  | invoke q k ih => exact ⟨hp.1, fun r l' hr => ih r (hp.2 r l' hr)⟩
  | pause p ih => exact ih hp
  | read k ih => exact ⟨hp.1, fun m l' hm => ih m (hp.2 m l' hm)⟩
  | write m p ih =>
    obtain ⟨l', hw, hp⟩ := hp
    exact ⟨l', hw, ih hp⟩

/-- The suspension of an `await` is invisible to the protocol. -/
theorem await {p : Async M Q R ε α} {l : L} (hp : Follows P Post l p) :
    Follows P Post l p.await := by
  induction p generalizing l with
  | done r => exact hp
  | hung => exact hp.elim
  | invoke q k ih => exact ⟨hp.1, fun r l' hr => ih r (hp.2 r l' hr)⟩
  | pause p ih => exact ih hp
  | read k ih => exact ⟨hp.1, fun m l' hm => ih m (hp.2 m l' hm)⟩
  | write m p ih =>
    obtain ⟨l', hw, hp⟩ := hp
    exact ⟨l', hw, ih hp⟩

/-- The rule of consequence for the postcondition. -/
theorem mono {Post₂ : L → Except ε α → Prop} {p : Async M Q R ε α} {l : L}
    (hp : Follows P Post l p) (hpost : ∀ l r, Post l r → Post₂ l r) : Follows P Post₂ l p := by
  induction p generalizing l with
  | done r => exact hpost l r hp
  | hung => exact hp.elim
  | invoke q k ih => exact ⟨hp.1, fun r l' hr => ih r (hp.2 r l' hr)⟩
  | pause p ih => exact ih hp
  | read k ih => exact ⟨hp.1, fun m l' hm => ih m (hp.2 m l' hm)⟩
  | write m p ih =>
    obtain ⟨l', hw, hp⟩ := hp
    exact ⟨l', hw, ih hp⟩

end Follows

/-! ## Invariants of a pool -/

/-- The pool is in step with the ghost values `g`: every call follows its protocol from
its ghost value, and `Inv` holds of the memory, the store and the ghost values. -/
structure Tracks (P : Protocol M Q R L) (Post : ι → L → Except ε α → Prop)
    (Inv : M → S → (ι → L) → Prop) (σ : Pool ι M S Q R ε α) (g : ι → L) : Prop where
  follows : ∀ i, Follows P (Post i) (g i) (σ.calls i)
  inv : Inv σ.memory σ.store g

variable [DecidableEq ι] {P : Protocol M Q R L} {Post : ι → L → Except ε α → Prop}
  {Inv : M → S → (ι → L) → Prop} {h : ι → Q → S → Option R × S}

/-- `Inv` is kept by the synchronous accesses that the protocol allows. With the same for the
requests, it holds in every state of every interleaving. -/
structure KeptLocally (P : Protocol M Q R L) (Inv : M → S → (ι → L) → Prop) : Prop where
  read : ∀ {m s g i}, Inv m s g → P.mayRead (g i) →
    ∃ l', P.onRead (g i) m l' ∧ Inv m s (Function.update g i l')
  write : ∀ {m s g i m' l'}, Inv m s g → P.onWrite (g i) m' l' →
    Inv m' s (Function.update g i l')

/-- Synchronous code in front of a suspension point keeps the invariant. -/
theorem Follows.advance (hloc : KeptLocally P Inv) {p : Async M Q R ε α} {m : M} {s : S}
    {g : ι → L} {i : ι} (hp : Follows P (Post i) (g i) p) (hinv : Inv m s g) :
    ∃ l', Follows P (Post i) l' (p.advance m).1 ∧
      Inv (p.advance m).2 s (Function.update g i l') := by
  -- along the reads and writes in front of the suspension point, each of which moves `g i`
  induction p generalizing m g with
  | read k ih =>
    obtain ⟨l', hr, hinv'⟩ := hloc.read hinv hp.1
    obtain ⟨l'', hf, hi⟩ := ih m (g := Function.update g i l')
      (by simpa using hp.2 m l' hr) hinv'
    exact ⟨l'', hf, by simpa [Async.advance] using hi⟩
  | write m' p ih =>
    obtain ⟨l', hw, hp'⟩ := hp
    obtain ⟨l'', hf, hi⟩ := ih (g := Function.update g i l') (by simpa using hp')
      (hloc.write hinv hw)
    exact ⟨l'', hf, by simpa [Async.advance] using hi⟩
  | done r => exact ⟨g i, hp, by simpa [Async.advance] using hinv⟩
  | hung => exact hp.elim
  | invoke q k => exact ⟨g i, hp, by simpa [Async.advance] using hinv⟩
  | pause p => exact ⟨g i, hp, by simpa [Async.advance] using hinv⟩

/-- The request `q` of call `i` is answered, the answer leads the call on in its protocol, and
`Inv` holds after it. -/
def ServedWell (P : Protocol M Q R L) (Inv : M → S → (ι → L) → Prop)
    (h : ι → Q → S → Option R × S) (m : M) (s : S) (g : ι → L) (i : ι) (q : Q) : Prop :=
  ∃ r l', (h i q s).1 = some r ∧ P.onReply (g i) q r l' ∧
    Inv m (h i q s).2 (Function.update g i l')

/-- **One step.** A pool that tracks ghost values still does after a step, if `Inv` is kept
by synchronous code and the request that the step serves, if any, is served well. -/
theorem Tracks.step (hloc : KeptLocally P Inv) {σ : Pool ι M S Q R ε α} {g : ι → L} {i : ι}
    (ht : Tracks P Post Inv σ g)
    (hcall : ∀ q k, σ.calls i = .invoke q k → P.mayInvoke (g i) q →
      ServedWell P Inv h σ.memory σ.store g i q) :
    ∃ g', Tracks P Post Inv (σ.step h i) g' := by
  have hfi := ht.follows i
  -- the other calls and their ghost values are untouched
  have hframe : ∀ {p l' m s}, Follows P (Post i) l' p → Inv m s (Function.update g i l') →
      Tracks P Post Inv ⟨m, s, Function.update σ.calls i p⟩ (Function.update g i l') := by
    intro p l' m s hp hi
    refine ⟨fun j => ?_, hi⟩
    by_cases hj : j = i
    · subst hj
      simpa using hp
    · simpa [hj] using ht.follows j
  cases hc : σ.calls i with
  -- nothing to step
  | done r => exact ⟨g, by simpa [Pool.step, hc] using ht⟩
  | hung => exact ⟨g, by simpa [Pool.step, hc] using ht⟩
  | read k => exact ⟨g, by simpa [Pool.step, hc] using ht⟩
  | write m p => exact ⟨g, by simpa [Pool.step, hc] using ht⟩
  | pause p =>
    rw [hc] at hfi
    obtain ⟨l', hf, hi⟩ := Follows.advance (p := p) hloc hfi ht.inv
    exact ⟨_, by simpa [Pool.step, hc] using hframe hf hi⟩
  | invoke q k =>
    rw [hc] at hfi
    obtain ⟨r, l', hr, hon, hi⟩ := hcall q k hc hfi.1
    have hf : Follows P (Post i) l' (.pause (k r)) := hfi.2 r l' hon
    exact ⟨_, by simpa [Pool.step, hc, hr] using hframe hf hi⟩

/-- **Every run.** A schedule whose requests are all served well leads only to pools that
track some ghost values. -/
theorem Tracks.run (hloc : KeptLocally P Inv) {C : ι → Pool ι M S Q R ε α → Prop}
    (hcall : ∀ i σ g, Tracks P Post Inv σ g → C i σ →
      ∀ q k, σ.calls i = .invoke q k → P.mayInvoke (g i) q →
        ServedWell P Inv h σ.memory σ.store g i q)
    {schedule : List ι} {σ : Pool ι M S Q R ε α} {g : ι → L} (ht : Tracks P Post Inv σ g)
    (hC : Transition.StepsMeet (Pool.step h) C schedule σ) :
    ∃ g', Tracks P Post Inv (Transition.run (Pool.step h) schedule σ) g' :=
  Transition.run_invariant (I := fun σ => ∃ g, Tracks P Post Inv σ g)
    (fun i σ ⟨g, hg⟩ hi => Tracks.step hloc hg (hcall i σ g hg hi)) ⟨g, ht⟩ hC

end RlyNetworkSdk.Concurrency
