import Mathlib.Logic.Function.Basic

/-!
# Asynchronous Programs over a Shared Memory

A cooperative `async` function runs without interruption until its next suspension
point. Between two suspension points it may read and write a memory that all calls of
the process share; at a suspension point it either waits for the answer to a request
that some other component serves, or merely gives way to the other calls.

`Async M Q R ε α` is the type of such functions: memory `M`, requests `Q`, replies `R`,
exceptions `ε`, result `α`. This module gives the monad, the operator `Async.await`
(which adds the suspension an `await` causes when the awaited call completes), and the
meaning of one call that runs alone (`Async.run`). Interleavings are in `Pool`.
-/

namespace RlyNetworkSdk.Concurrency

universe u

/-! ## Programs -/

/-- An asynchronous function body, as the tree of what it does next: it asks for something,
yields to the event loop, reads or writes the shared memory, or is done. Whatever lies between
two suspension points runs without interruption. -/
inductive Async (M Q R ε α : Type u) : Type u where
  /-- Completed, with a value or an exception. -/
  | done (r : Except ε α)
  /-- Suspended for ever: the reply it waits for is never sent. -/
  | hung
  /-- Suspended on request `q`. -/
  | invoke (q : Q) (k : R → Async M Q R ε α)
  /-- Suspended, ready to resume. -/
  | pause (p : Async M Q R ε α)
  /-- Read the shared memory and go on. -/
  | read (k : M → Async M Q R ε α)
  /-- Write the shared memory and go on. -/
  | write (m : M) (p : Async M Q R ε α)

namespace Async

variable {M Q R ε α β : Type u}

/-- Sequencing: an exception of the first part skips the second. -/
def bind (p : Async M Q R ε α) (f : α → Async M Q R ε β) : Async M Q R ε β :=
  match p with
  | .done (.ok a) => f a
  | .done (.error e) => .done (.error e)
  | .hung => .hung
  | .invoke q k => .invoke q fun r => (k r).bind f
  | .pause p => .pause (p.bind f)
  | .read k => .read fun m => (k m).bind f
  | .write m p => .write m (p.bind f)

instance : Monad (Async M Q R ε) where
  pure a := .done (.ok a)
  bind := Async.bind

/-- Complete with exception `e`. -/
def throw (e : ε) : Async M Q R ε α := .done (.error e)

/-- Complete with an already computed result. -/
def ofExcept (r : Except ε α) : Async M Q R ε α := .done r

/-- The current content of the shared memory. -/
def getMemory : Async M Q R ε M := .read pure

/-- Await the call `p`: the caller is suspended once more when `p` completes, however
it completes. -/
def await : Async M Q R ε α → Async M Q R ε α
  | .done r => .pause (.done r)
  | .hung => .hung
  | .invoke q k => .invoke q fun r => (k r).await
  | .pause p => .pause p.await
  | .read k => .read fun m => (k m).await
  | .write m p => .write m p.await

/-! ## Running one call alone -/

end Async

/-- How a call ends: with a value, with an exception, or not at all, which happens when the
reply to one of its requests is never sent. -/
inductive Completion (ε α : Type u) where
  | returned (a : α)
  | threw (e : ε)
  /-- The call never completes. -/
  | pending
  deriving DecidableEq, Repr

namespace Completion

variable {ε α β W : Type u}

/-- Go on with `f` when the first part returned. Otherwise its end is the end of the whole. -/
def andThen (r : Completion ε α × W) (f : α → W → Completion ε β × W) : Completion ε β × W :=
  match r with
  | (.returned a, w) => f a w
  | (.threw e, w) => (.threw e, w)
  | (.pending, w) => (.pending, w)

@[simp] theorem andThen_returned (a : α) (w : W) (f : α → W → Completion ε β × W) :
    andThen (.returned a, w) f = f a w := rfl

@[simp] theorem andThen_threw (e : ε) (w : W) (f : α → W → Completion ε β × W) :
    andThen (.threw e, w) f = (.threw e, w) := rfl

@[simp] theorem andThen_pending (w : W) (f : α → W → Completion ε β × W) :
    andThen (.pending, w) f = (.pending, w) := rfl

/-- The call returns. -/
def isReturned : Completion ε α → Bool
  | .returned _ => true
  | _ => false

/-- The completion of an already computed result. -/
def ofExcept : Except ε α → Completion ε α
  | .ok a => .returned a
  | .error e => .threw e

end Completion

namespace Async

variable {M Q R ε α β S : Type u}

/-- Run a call with nothing else going on. The handler `h` serves the requests over a
store `S`; it may fail to reply. -/
def run (h : Q → S → Option R × S) : Async M Q R ε α → M × S → Completion ε α × M × S
  | .done r, st => (.ofExcept r, st)
  | .hung, st => (.pending, st)
  | .invoke q k, st =>
    match h q st.2 with
    | (some r, s) => (k r).run h (st.1, s)
    | (none, s) => (.pending, st.1, s)
  | .pause p, st => p.run h st
  | .read k, st => (k st.1).run h st
  | .write m p, st => p.run h (m, st.2)

variable (h : Q → S → Option R × S)

@[simp] theorem run_pure (a : α) (st : M × S) :
    (pure a : Async M Q R ε α).run h st = (.returned a, st) := rfl

@[simp] theorem run_throw (e : ε) (st : M × S) :
    (throw e : Async M Q R ε α).run h st = (.threw e, st) := rfl

@[simp] theorem run_ofExcept (r : Except ε α) (st : M × S) :
    (ofExcept r : Async M Q R ε α).run h st = (.ofExcept r, st) := rfl

@[simp] theorem run_getMemory (st : M × S) :
    (getMemory : Async M Q R ε M).run h st = (.returned st.1, st) := rfl

@[simp] theorem run_write (m : M) (p : Async M Q R ε α) (st : M × S) :
    (write m p).run h st = p.run h (m, st.2) := rfl

/-- A request that is answered. -/
theorem run_invoke_some {q : Q} {k : R → Async M Q R ε α} {st : M × S} {r : R} {s : S}
    (hq : h q st.2 = (some r, s)) : (invoke q k).run h st = (k r).run h (st.1, s) := by
  simp only [run, hq]

/-- A request that is never answered. -/
theorem run_invoke_none {q : Q} {k : R → Async M Q R ε α} {st : M × S} {s : S}
    (hq : h q st.2 = (none, s)) : (invoke q k).run h st = (.pending, st.1, s) := by
  simp only [run, hq]

/-- Running a sequence is running its parts one after the other. -/
@[simp] theorem run_bind (p : Async M Q R ε α) (f : α → Async M Q R ε β) (st : M × S) :
    (p >>= f).run h st = Completion.andThen (p.run h st) fun a st' => (f a).run h st' := by
  change (p.bind f).run h st = _
  -- on the tree of `p`, for every state it may be resumed in
  induction p generalizing st with
  | done r => cases r <;> rfl
  | hung => rfl
  | invoke q k ih =>
    cases hq : h q st.2 with
    | mk r s =>
      cases r with
      -- without a reply neither part goes on
      | none => simp only [bind, run, hq, Completion.andThen_pending]
      | some r => simp only [bind, run, hq, ih]
  | pause p ih => exact ih st
  | read k ih => exact ih st.1 st
  | write m p ih => exact ih (m, st.2)

/-- Alone, the suspension of an `await` has no effect. -/
@[simp] theorem run_await (p : Async M Q R ε α) (st : M × S) : p.await.run h st = p.run h st := by
  -- only `done` differs, by a `pause` that `run` skips
  induction p generalizing st with
  | done r => rfl
  | hung => rfl
  | invoke q k ih =>
    cases hq : h q st.2 with
    | mk r s =>
      cases r with
      | none => simp only [await, run, hq]
      | some r => simp only [await, run, hq, ih]
  | pause p ih => exact ih st
  | read k ih => exact ih st.1 st
  | write m p ih => exact ih (m, st.2)

/-! ## How a call ends -/

/-- Alone from `st`, the call ends in `st'`, with this value or, if there is none, with an
exception. -/
def Ends (p : Async M Q R ε α) (st : M × S) (o : Option α) (st' : M × S) : Prop :=
  match o with
  | some a => p.run h st = (.returned a, st')
  | none => ∃ e, p.run h st = (.threw e, st')

namespace Ends

variable {h} {p : Async M Q R ε α} {f : α → Async M Q R ε β} {st st' st'' : M × S} {o : Option α}

/-- The first part returns, and the second one goes on. -/
theorem bind_some {a : α} {o : Option β} (hp : p.Ends h st (some a) st')
    (hf : (f a).Ends h st' o st'') : (p >>= f).Ends h st o st'' := by
  have hrun : (p >>= f).run h st = (f a).run h st' := by
    rw [run_bind, show p.run h st = (.returned a, st') from hp, Completion.andThen_returned]
  unfold Ends
  rw [hrun]
  exact hf

/-- The first part throws. -/
theorem bind_none (hp : p.Ends h st none st') : (p >>= f).Ends h st none st' := by
  obtain ⟨e, he⟩ := hp
  exact ⟨e, by rw [run_bind, he, Completion.andThen_threw]⟩

/-- A sequence of parts that change nothing. -/
theorem bind {g : α → Option β} (hp : p.Ends h st o st)
    (hf : ∀ a, o = some a → (f a).Ends h st (g a) st) : (p >>= f).Ends h st (o.bind g) st := by
  cases o with
  | none => exact bind_none hp
  | some a => exact bind_some hp (hf a rfl)

/-- A result that is only transformed. -/
theorem map (hp : p.Ends h st o st') (g : α → β) :
    (p >>= fun a => Pure.pure (g a)).Ends h st (o.map g) st' := by
  cases o with
  | none => exact bind_none hp
  | some a =>
    apply bind_some hp
    rfl

theorem await (hp : p.Ends h st o st') : p.await.Ends h st o st' := by
  unfold Ends
  rw [run_await]
  exact hp

theorem write {m : M} (hp : p.Ends h (m, st.2) o st') : (Async.write m p).Ends h st o st' := hp

theorem getMemory {f : M → Async M Q R ε β} {o : Option β} (hf : (f st.1).Ends h st o st') :
    (Async.getMemory >>= f).Ends h st o st' := hf

theorem pure (a : α) : (Pure.pure a : Async M Q R ε α).Ends h st (some a) st := rfl

end Ends

end Async

end RlyNetworkSdk.Concurrency
