import Mathlib.Data.List.Basic

/-!
# Caches with Round-Robin Replacement

A fixed number of entries, the oldest of which gives way to a new one. A caller looks a key up,
and computes and stores the value only if it is not there. Such a cache cannot be seen from
outside: as long as its entries are right, a call gives what the computation gives, and leaves
only right entries (`Coherent.call`).
-/

namespace RlyNetworkSdk.Transition

variable {κ ν : Type*} [DecidableEq κ] {size : Nat}

/-- The entries, and the place of the next one to be replaced. When all places are taken, the
oldest entry goes first. -/
structure RoundRobin (κ ν : Type*) (size : Nat) where
  entries : Vector (Option (κ × ν)) size
  index : Nat

namespace RoundRobin

def empty : RoundRobin κ ν size := ⟨.replicate size none, 0⟩

/-- The value of an entry, if it is the key's. -/
def entryFor (key : κ) : Option (κ × ν) → Option ν
  | some (k, v) => if k = key then some v else none
  | none => none

/-- The first entry of the key. Others behind it are never found. -/
def lookup (c : RoundRobin κ ν size) (key : κ) : Option ν :=
  c.entries.toList.findSome? (entryFor key)

def store (c : RoundRobin κ ν size) (key : κ) (v : ν) : RoundRobin κ ν size :=
  ⟨c.entries.setIfInBounds c.index (some (key, v)), (c.index + 1) % size⟩

/-- Every entry holds a value that is right for its key, whatever the keys are and whichever
entries have been replaced. -/
def Coherent (R : κ → ν → Prop) (c : RoundRobin κ ν size) : Prop :=
  ∀ key v, some (key, v) ∈ c.entries.toList → R key v

variable {R : κ → ν → Prop} {c : RoundRobin κ ν size}

omit [DecidableEq κ] in
theorem coherent_empty : Coherent R (empty : RoundRobin κ ν size) := by
  intro key v hmem
  simp [empty] at hmem

theorem Coherent.lookup (h : Coherent R c) {key : κ} {v : ν} (hlookup : c.lookup key = some v) :
    R key v := by
  obtain ⟨entry, hmem, hentry⟩ := List.exists_of_findSome?_eq_some hlookup
  cases entry with
  | none => exact nomatch hentry
  | some kv =>
    obtain ⟨k, u⟩ := kv
    rw [entryFor] at hentry
    split at hentry
    case isTrue hk =>
      rw [← Option.some.inj hentry, ← hk]
      exact h k u hmem
    case isFalse => exact nomatch hentry

omit [DecidableEq κ] in
theorem Coherent.store (h : Coherent R c) {key : κ} {v : ν} (hv : R key v) :
    Coherent R (c.store key v) := by
  intro k u hmem
  rw [RoundRobin.store, Vector.toList_setIfInBounds] at hmem
  rcases List.mem_or_eq_of_mem_set hmem with hold | hnew
  · exact h k u hold
  · rw [Option.some.injEq, Prod.mk.injEq] at hnew
    rw [hnew.1, hnew.2]
    exact hv

/-- The answer to a call, and the cache after it. Calls that are not cacheable leave it alone;
the others look first, and store what they had to compute. -/
def call (key : κ) (cacheable : Bool) (computed : ν) (c : RoundRobin κ ν size) :
    ν × RoundRobin κ ν size :=
  if cacheable then
    match c.lookup key with
    | some v => (v, c)
    | none => (computed, c.store key computed)
  else (computed, c)

/-- **A coherent cache answers as the computation does**, and stays coherent. -/
theorem Coherent.call {f : κ → ν} (h : Coherent (fun key v => v = f key) c) (key : κ)
    (cacheable : Bool) :
    (c.call key cacheable (f key)).1 = f key ∧
      Coherent (fun key v => v = f key) (c.call key cacheable (f key)).2 := by
  rw [RoundRobin.call]
  split
  case isTrue =>
    cases hlookup : c.lookup key with
    | some v => exact ⟨h.lookup hlookup, h⟩
    | none => exact ⟨rfl, h.store rfl⟩
  case isFalse => exact ⟨rfl, h⟩

end RoundRobin

end RlyNetworkSdk.Transition
