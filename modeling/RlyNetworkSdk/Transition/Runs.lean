import Mathlib.Data.List.Basic

/-!
# Runs of a Labelled Machine

A deterministic machine takes a label and a state to the next state. A run is a list of
labels; the label carries everything the environment decides (which operation is called,
how the calls it makes end, which thread moves), so that quantifying over runs is
quantifying over every behaviour of the environment.

Two readings of "always" are kept apart:
- `StepsMeet C`: every step of the run is taken in a state where `C` holds of it;
- `Along G`: every state the run passes through satisfies `G`.

`along_iff_stepsMeet` turns an exact one-step condition into an exact run condition;
`stepsMeet_iff_of_simulation` and `trace_eq_iff_stepsMeet` do the same for the conditions and
for the outputs of two machines related by a simulation.
-/

namespace RlyNetworkSdk.Transition

variable {L S T O P : Type*}

/-! ## State machines -/

/-- The state after a run, which is a list of labels: the steps are total, and a label that does
not apply leaves the state as it is. -/
def run (step : L → S → S) : List L → S → S
  | [], s => s
  | l :: ls, s => run step ls (step l s)

/-- Every step of the run meets the condition `C` on its label and the state before it. This is
how a theorem about runs names the runs that it is about. -/
def StepsMeet (step : L → S → S) (C : L → S → Prop) : List L → S → Prop
  | [], _ => True
  | l :: ls, s => C l s ∧ StepsMeet step C ls (step l s)

/-- Every state of the run, the first and the last included, satisfies `G`. -/
def Along (step : L → S → S) (G : S → Prop) : List L → S → Prop
  | [], s => G s
  | l :: ls, s => G s ∧ Along step G ls (step l s)

/-- A condition that can be decided at a step can be decided along a run. -/
def StepsMeet.decidable (step : L → S → S) (C : L → S → Prop) [∀ l s, Decidable (C l s)] :
    ∀ (ls : List L) (s : S), Decidable (StepsMeet step C ls s)
  | [], _ => isTrue trivial
  | l :: ls, s =>
    have : Decidable (StepsMeet step C ls (step l s)) := decidable step C ls (step l s)
    inferInstanceAs (Decidable (C l s ∧ StepsMeet step C ls (step l s)))

instance (step : L → S → S) (C : L → S → Prop) [∀ l s, Decidable (C l s)] (ls : List L) (s : S) :
    Decidable (StepsMeet step C ls s) := StepsMeet.decidable step C ls s

variable {step : L → S → S} {C : L → S → Prop} {G I : S → Prop}

/-- What every allowed step preserves, every allowed run preserves. -/
theorem run_invariant (hstep : ∀ l s, I s → C l s → I (step l s)) {ls : List L} {s : S}
    (hs : I s) (hls : StepsMeet step C ls s) : I (run step ls s) := by
  induction ls generalizing s with
  | nil => exact hs
  | cons l ls ih => exact ih (hstep l s hs hls.1) hls.2

/-- States related by a simulation stay related. -/
theorem run_related {step' : L → T → T} {R : S → T → Prop}
    (hstep : ∀ l s t, R s t → R (step l s) (step' l t)) (ls : List L) {s : S} {t : T}
    (hst : R s t) : R (run step ls s) (run step' ls t) := by
  induction ls generalizing s t with
  | nil => exact hst
  | cons l ls ih => exact ih (hstep l s t hst)

/-- A run stays in `G` exactly when each of its steps meets the condition that is exact for
one step. -/
theorem along_iff_stepsMeet (hstep : ∀ l s, G s → (G (step l s) ↔ C l s)) (ls : List L) {s : S}
    (hs : G s) : Along step G ls s ↔ StepsMeet step C ls s := by
  induction ls generalizing s with
  | nil => exact ⟨fun _ => trivial, fun _ => hs⟩
  | cons l ls ih =>
    constructor
    · rintro ⟨-, hrest⟩
      -- the rest of the run begins in the next state
      have hnext : G (step l s) := by
        cases ls with
        | nil => exact hrest
        | cons _ _ => exact hrest.1
      exact ⟨(hstep l s hs).mp hnext, (ih hnext).mp hrest⟩
    · rintro ⟨hl, hrest⟩
      have hnext := (hstep l s hs).mpr hl
      exact ⟨hs, (ih hnext).mpr hrest⟩

/-- **Conditions on two machines related by a simulation.** `U` is what the runs of the first
machine are known to meet. If the two conditions agree in related states, and a step that
meets them leads to related states again, then they agree on every run. -/
theorem stepsMeet_iff_of_simulation {step' : L → T → T} {D : L → T → Prop} {U : L → S → Prop}
    {R : S → T → Prop} (hiff : ∀ l s t, R s t → U l s → (C l s ↔ D l t))
    (hnext : ∀ l s t, R s t → U l s → C l s → R (step l s) (step' l t)) (ls : List L) {s : S}
    {t : T} (hst : R s t) (hU : StepsMeet step U ls s) :
    StepsMeet step C ls s ↔ StepsMeet step' D ls t := by
  induction ls generalizing s t with
  | nil => exact Iff.rfl
  | cons l ls ih =>
    -- either condition at `l` gives the other, and so the relation after it
    constructor
    · rintro ⟨hC, hrest⟩
      have hrel := hnext l s t hst hU.1 hC
      exact ⟨(hiff l s t hst hU.1).mp hC, (ih hrel hU.2).mp hrest⟩
    · rintro ⟨hD, hrest⟩
      have hC := (hiff l s t hst hU.1).mpr hD
      have hrel := hnext l s t hst hU.1 hC
      exact ⟨hC, (ih hrel hU.2).mpr hrest⟩

theorem stepsMeet_of_forall (h : ∀ l s, C l s) (ls : List L) (s : S) : StepsMeet step C ls s := by
  induction ls generalizing s with
  | nil => trivial
  | cons l ls ih => exact ⟨h l s, ih (step l s)⟩

/-- Two conditions that agree under an invariant agree on every run. -/
theorem stepsMeet_iff_of_invariant {D : L → S → Prop} (hI : ∀ l s, I s → I (step l s))
    (hiff : ∀ l s, I s → (C l s ↔ D l s)) (ls : List L) {s : S} (hs : I s) :
    StepsMeet step C ls s ↔ StepsMeet step D ls s := by
  refine stepsMeet_iff_of_simulation (R := fun s t => s = t ∧ I s) (U := fun _ _ => True)
    ?_ ?_ ls ⟨rfl, hs⟩ (stepsMeet_of_forall (fun _ _ => trivial) ls s)
  · rintro l s t ⟨rfl, hinv⟩ -
    exact hiff l s hinv
  · rintro l s t ⟨rfl, hinv⟩ - -
    exact ⟨rfl, hI l s hinv⟩

/-! ## Machines with outputs -/

/-- The outputs of a run, one for each step, for a step that has an output beside the next
state. -/
def trace (next : L → S → O × S) : List L → S → List O
  | [], _ => []
  | l :: ls, s => (next l s).1 :: trace next ls (next l s).2

/-- A machine whose answers depend on nothing but the labels, as long as an invariant holds that
every step preserves. -/
theorem trace_eq_map {next : L → S → O × S} {g : L → O}
    (hstep : ∀ l s, I s → (next l s).1 = g l ∧ I (next l s).2) (ls : List L) {s : S} (hs : I s) :
    trace next ls s = ls.map g := by
  induction ls generalizing s with
  | nil => rfl
  | cons l ls ih =>
    obtain ⟨hanswer, hnext⟩ := hstep l s hs
    rw [trace, List.map_cons, hanswer, ih hnext]

/-- **Traces of a simulation.** If related states answer a label with related outputs and stay
related, then the outputs of two runs from related states are related one by one. -/
theorem trace_forall₂ {next : L → S → O × S} {next' : L → T → P × T} {R : S → T → Prop}
    {Q : O → P → Prop}
    (hstep : ∀ l s t, R s t → Q (next l s).1 (next' l t).1 ∧ R (next l s).2 (next' l t).2)
    (ls : List L) {s : S} {t : T} (hst : R s t) :
    List.Forall₂ Q (trace next ls s) (trace next' ls t) := by
  induction ls generalizing s t with
  | nil => exact .nil
  | cons l ls ih =>
    obtain ⟨houtput, hnext⟩ := hstep l s t hst
    exact .cons houtput (ih hnext)

/-- **Trace equality over a ghost machine.** `R` relates the states of two machines and of a
third one that the labels alone drive. If related states answer a label alike exactly when
it is good in the third state, and a good label leads to related states again, then two runs
have the same outputs exactly when each of their labels is good where it is met. -/
theorem trace_eq_iff_stepsMeet {next : L → S → O × S} {next' : L → T → O × T} {after : L → P → P}
    {Good : L → P → Prop} {R : S → T → P → Prop}
    (hout : ∀ l s t p, R s t p → ((next l s).1 = (next' l t).1 ↔ Good l p))
    (hnext : ∀ l s t p, R s t p → Good l p → R (next l s).2 (next' l t).2 (after l p))
    (ls : List L) {s : S} {t : T} {p : P} (hR : R s t p) :
    trace next ls s = trace next' ls t ↔ StepsMeet after Good ls p := by
  induction ls generalizing s t p with
  | nil => simp [trace, StepsMeet]
  | cons l ls ih =>
    simp only [trace, List.cons.injEq]
    constructor
    · rintro ⟨hl, hrest⟩
      have hgood := (hout l s t p hR).mp hl
      exact ⟨hgood, (ih (hnext l s t p hR hgood)).mp hrest⟩
    · rintro ⟨hgood, hrest⟩
      exact ⟨(hout l s t p hR).mpr hgood, (ih (hnext l s t p hR hgood)).mpr hrest⟩

end RlyNetworkSdk.Transition
