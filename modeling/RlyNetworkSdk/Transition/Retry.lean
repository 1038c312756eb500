import Mathlib.Data.List.Basic

/-!
# Loops that Retry

A loop that replaces a candidate by the next one until a candidate is good. `Settles` says what
such a loop returns, without a bound on its rounds; `retry` runs it with such a bound. What it
returns is what the loop settles on (`settles_of_retry`), and a loop that settles returns it under
every bound from some number of rounds on (`Settles.retry`).
-/

namespace RlyNetworkSdk.Transition

variable {α : Type*} (good : α → Bool) (next : α → α)

/-- From the first candidate the loop comes to the second, which is the first good one. Nothing
is said of a loop that never comes to one. -/
inductive Settles : α → α → Prop where
  | stop {x : α} : good x = true → Settles x x
  | again {x y : α} : good x = false → Settles (next x) y → Settles x y

/-- The loop, for at most so many rounds. It gives a candidate exactly if the loop settles on it
within them. -/
def retry : Nat → α → Option α
  | 0, _ => none
  | fuel + 1, x => if good x then some x else retry fuel (next x)

variable {good next} {x y z : α}

theorem Settles.good_of (h : Settles good next x y) : good y = true := by
  induction h with
  | stop hx => exact hx
  | again _ _ ih => exact ih

/-- The loop has one result. -/
theorem Settles.unique (hy : Settles good next x y) (hz : Settles good next x z) : y = z := by
  induction hy with
  | stop hx =>
    cases hz with
    | stop => rfl
    | again hx' => rw [hx] at hx'; exact absurd hx' (by simp)
  | again hx _ ih =>
    cases hz with
    | stop hx' => rw [hx] at hx'; exact absurd hx' (by simp)
    | again _ hrest => exact ih hrest

/-- What every round keeps holds of the result. -/
theorem Settles.invariant {I : α → Prop} (hnext : ∀ x, I x → I (next x))
    (h : Settles good next x y) (hx : I x) : I y := by
  induction h with
  | stop _ => exact hx
  | again _ _ ih => exact ih (hnext _ hx)

/-- Loops that agree on what every round keeps have the same result. -/
theorem Settles.congr {good' : α → Bool} {next' : α → α} {I : α → Prop}
    (hgood : ∀ x, I x → good x = good' x) (hnext : ∀ x, I x → next x = next' x)
    (hkeep : ∀ x, I x → I (next x)) (h : Settles good next x y) (hx : I x) :
    Settles good' next' x y := by
  induction h with
  | stop hstop => exact .stop (by rwa [← hgood _ hx])
  | again hagain _ ih =>
    apply Settles.again
    · rwa [← hgood _ hx]
    · rw [← hnext _ hx]
      exact ih (hkeep _ hx)

/-- A bounded loop that returns has settled. -/
theorem settles_of_retry {fuel : Nat} (h : retry good next fuel x = some y) :
    Settles good next x y := by
  induction fuel generalizing x with
  | zero => simp [retry] at h
  | succ fuel ih =>
    rw [retry] at h
    split at h
    case isTrue hx =>
      rw [← Option.some.inj h]
      exact .stop hx
    case isFalse hx => exact .again (by simpa using hx) (ih h)

/-- The bound may be as large as one likes, so that several loops can be given the same one. -/
theorem Settles.retry (h : Settles good next x y) :
    ∃ rounds, ∀ fuel ≥ rounds, retry good next fuel x = some y := by
  induction h with
  | stop hx =>
    refine ⟨1, fun fuel hfuel => ?_⟩
    obtain ⟨fuel, rfl⟩ : ∃ n, fuel = n + 1 := ⟨fuel - 1, by omega⟩
    rw [Transition.retry, if_pos hx]
  | again hx _ ih =>
    obtain ⟨rounds, hrounds⟩ := ih
    refine ⟨rounds + 1, fun fuel hfuel => ?_⟩
    obtain ⟨fuel, rfl⟩ : ∃ n, fuel = n + 1 := ⟨fuel - 1, by omega⟩
    rw [Transition.retry, if_neg (by simp [hx]), hrounds fuel (by omega)]

end RlyNetworkSdk.Transition
