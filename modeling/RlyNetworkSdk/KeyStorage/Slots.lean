import Mathlib.Data.Option.Basic

/-!
# Two-Slot Storage with a Fixed Read Priority

A store of one secret that keeps it in one of two places: a *cloud* slot, which the
operating system may synchronise, and a *device* slot. A reader takes the cloud slot if it
is filled and the device slot otherwise. A writer fills one slot and leaves the other alone.

For its users the store is meant to be a single cell: `Slots.current` is the content of
that cell. The lemmas here say exactly when writing one slot really writes the cell, which
is where all the results about stale copies come from.
-/

namespace RlyNetworkSdk.KeyStorage

universe u

/-- The two places a secret can be kept in: one that is synchronized with the cloud, and one on
the device. -/
inductive Slot where
  | cloud
  | device
  deriving DecidableEq, Repr

/-- The contents of the two places. They are independent of each other: a write to one leaves
the other as it is. -/
@[ext]
structure Slots (P : Type u) where
  cloud : Option P
  device : Option P
  deriving DecidableEq, Repr

namespace Slots

variable {P : Type u}

/-- Both slots empty. -/
def empty : Slots P := ⟨none, none⟩

/-- The content of a slot. -/
def get (s : Slots P) : Slot → Option P
  | .cloud => s.cloud
  | .device => s.device

/-- Replace the content of a slot. -/
def set (s : Slots P) : Slot → Option P → Slots P
  | .cloud, o => { s with cloud := o }
  | .device, o => { s with device := o }

/-- What a reader finds: the cell that the two slots stand for. The cloud slot hides the other
one while it is filled. -/
def current (s : Slots P) : Option P := s.cloud.or s.device

/-- The effect of a write that reached slot `l`, or no slot at all. It is the same whatever kept
the write from the slot. -/
def land (s : Slots P) (l : Option Slot) (p : P) : Slots P :=
  match l with
  | some l => s.set l (some p)
  | none => s

/-- Empty the device slot if `w`. -/
def wipeDevice (s : Slots P) (w : Bool) : Slots P :=
  if w then { s with device := none } else s

/-- Empty the cloud slot if `w`. -/
def wipeCloud (s : Slots P) (w : Bool) : Slots P :=
  if w then { s with cloud := none } else s

/-- Some slot holds `p`, whether or not a reader finds it. -/
def Has (s : Slots P) (p : P) : Prop := s.cloud = some p ∨ s.device = some p

/-- Every phrase held satisfies `Q`. -/
def All (Q : P → Prop) (s : Slots P) : Prop := ∀ p, s.Has p → Q p

/-! ## Reading back -/

@[simp] theorem land_none (s : Slots P) (p : P) : s.land none p = s := rfl

@[simp] theorem land_cloud (s : Slots P) (p : P) :
    s.land (some .cloud) p = ⟨some p, s.device⟩ := rfl

@[simp] theorem land_device (s : Slots P) (p : P) :
    s.land (some .device) p = ⟨s.cloud, some p⟩ := rfl

@[simp] theorem wipeDevice_false (s : Slots P) : s.wipeDevice false = s := rfl

@[simp] theorem wipeDevice_true (s : Slots P) : s.wipeDevice true = ⟨s.cloud, none⟩ := rfl

@[simp] theorem wipeDevice_cloud (s : Slots P) (w : Bool) : (s.wipeDevice w).cloud = s.cloud := by
  cases w <;> rfl

theorem wipeDevice_wipeDevice (s : Slots P) (w₁ w₂ : Bool) :
    (s.wipeDevice w₁).wipeDevice w₂ = s.wipeDevice (w₁ || w₂) := by
  cases w₁ <;> cases w₂ <;> rfl

@[simp] theorem wipeCloud_false (s : Slots P) : s.wipeCloud false = s := rfl

@[simp] theorem wipeCloud_true (s : Slots P) : s.wipeCloud true = ⟨none, s.device⟩ := rfl

theorem wipeCloud_wipeCloud (s : Slots P) (w₁ w₂ : Bool) :
    (s.wipeCloud w₁).wipeCloud w₂ = s.wipeCloud (w₁ || w₂) := by
  cases w₁ <;> cases w₂ <;> rfl

@[simp] theorem wipeCloud_device (s : Slots P) (w : Bool) :
    (s.wipeCloud w).device = s.device := by
  cases w <;> rfl

theorem wipeDevice_device_eq_none_iff (s : Slots P) (w : Bool) :
    (s.wipeDevice w).device = none ↔ s.device = none ∨ w = true := by
  cases w <;> simp

theorem wipeCloud_cloud_eq_none_iff (s : Slots P) (w : Bool) :
    (s.wipeCloud w).cloud = none ↔ s.cloud = none ∨ w = true := by
  cases w <;> simp

@[simp] theorem current_mk_some (p : P) (d : Option P) :
    (⟨some p, d⟩ : Slots P).current = some p := rfl

@[simp] theorem current_mk_none (d : Option P) : (⟨none, d⟩ : Slots P).current = d := by
  cases d <;> rfl

theorem current_eq_none_iff (s : Slots P) :
    s.current = none ↔ s.cloud = none ∧ s.device = none := by
  obtain ⟨c, d⟩ := s
  cases c <;> simp

theorem current_eq_some_iff (s : Slots P) (p : P) :
    s.current = some p ↔ s.cloud = some p ∨ s.cloud = none ∧ s.device = some p := by
  obtain ⟨c, d⟩ := s
  cases c <;> simp

/-! ## Writing the cell -/

/-- **When a write is read back.** A write that reached the cloud slot is; one that reached
the device slot is hidden by any other cloud copy; one that reached no slot is only if the
phrase was there before. -/
theorem current_land_eq_some_iff (s : Slots P) (l : Option Slot) (p : P) :
    (s.land l p).current = some p ↔
      match l with
      | some .cloud => True
      | some .device => s.cloud = none ∨ s.cloud = some p
      | none => s.current = some p := by
  obtain ⟨c, d⟩ := s
  match l with
  | none => rfl
  | some .cloud => simp
  -- a filled cloud slot hides the device slot
  | some .device => cases c <;> simp

/-- The same for a property of phrases that the written phrase has. -/
theorem current_land_iff {Q : P → Prop} (s : Slots P) (l : Option Slot) {p : P} (hp : Q p) :
    (∃ q, (s.land l p).current = some q ∧ Q q) ↔
      match l with
      | some .cloud => True
      | some .device => ∀ q, s.cloud = some q → Q q
      | none => ∃ q, s.current = some q ∧ Q q := by
  obtain ⟨c, d⟩ := s
  match l with
  | none => rfl
  | some .cloud => simpa using hp
  | some .device => cases c <;> simp [hp]

/-- **When a write leaves the cell as it was.** A write to the device goes unseen behind a
filled cloud slot; one that was lost is noticed if it has cleared the device slot before. -/
theorem current_land_wipeDevice_eq_iff (s : Slots P) (w : Bool) (l : Option Slot) (p : P) :
    ((s.wipeDevice w).land l p).current = s.current ↔
      match l with
      | some .cloud => s.current = some p
      | some .device => s.cloud ≠ none ∨ s.device = some p
      | none => s.cloud ≠ none ∨ s.device = none ∨ w = false := by
  obtain ⟨c, d⟩ := s
  match l with
  | none => cases c <;> cases w <;> simp [eq_comm]
  | some .cloud => simp [eq_comm]
  | some .device => cases c <;> cases w <;> simp [eq_comm]

/-- **When a move keeps the phrase.** A phrase that is read is written again, and the cloud
slot may then be emptied: it is still read if it reached the device slot, or reached the
cloud slot and stays there, or if the copy that was there before stays. -/
theorem current_move_eq_some_iff {s : Slots P} {p : P} (hs : s.current = some p) (w : Bool)
    (l : Option Slot) (v : Bool) :
    (((s.wipeDevice w).land l p).wipeCloud v).current = some p ↔
      match l with
      | some .cloud => v = false ∨ (s.device = some p ∧ w = false)
      | some .device => True
      | none => (s.cloud = some p ∧ v = false) ∨ (s.device = some p ∧ w = false) := by
  obtain ⟨c, d⟩ := s
  match l with
  | some .cloud => cases v <;> cases w <;> simp
  | some .device =>
    cases c with
    | none => cases v <;> simp
    -- what was read is the cloud copy, so a copy that stays there is the same phrase
    | some q => cases v <;> simp_all
  | none => cases c <;> cases v <;> cases w <;> simp_all

/-! ## What the slots hold -/

theorem has_land {s : Slots P} {l : Option Slot} {p q : P} (h : (s.land l p).Has q) :
    s.Has q ∨ (l ≠ none ∧ q = p) := by
  match l with
  | none => exact .inl h
  | some .cloud =>
    rcases h with h | h
    · exact .inr ⟨by simp, by simpa [eq_comm] using h⟩
    · exact .inl (.inr h)
  | some .device =>
    rcases h with h | h
    · exact .inl (.inl h)
    · exact .inr ⟨by simp, by simpa [eq_comm] using h⟩

theorem land_has {s : Slots P} {l : Slot} {p : P} : (s.land (some l) p).Has p := by
  cases l <;> simp [Has]

theorem has_wipeDevice {s : Slots P} {w : Bool} {p : P} (h : (s.wipeDevice w).Has p) :
    s.Has p := by
  cases w with
  | false => exact h
  | true => exact h.imp id (by simp)

theorem has_wipeCloud {s : Slots P} {w : Bool} {p : P} (h : (s.wipeCloud w).Has p) :
    s.Has p := by
  cases w with
  | false => exact h
  | true => exact h.imp (by simp) id

theorem All.wipeDevice {Q : P → Prop} {s : Slots P} (h : s.All Q) (w : Bool) :
    (s.wipeDevice w).All Q := fun p hp => h p (has_wipeDevice hp)

theorem All.wipeCloud {Q : P → Prop} {s : Slots P} (h : s.All Q) (w : Bool) :
    (s.wipeCloud w).All Q := fun p hp => h p (has_wipeCloud hp)

/-- **When a write keeps every phrase held in `Q`**, from slots that hold only such phrases: the
write was lost, or its phrase is one of them. -/
theorem all_land_iff {Q : P → Prop} {s : Slots P} (hs : s.All Q) (l : Option Slot) (p : P) :
    (s.land l p).All Q ↔ (l ≠ none → Q p) := by
  constructor
  · intro h hl
    obtain ⟨l, rfl⟩ := Option.ne_none_iff_exists'.mp hl
    exact h p land_has
  · intro h q hq
    rcases has_land hq with hq | ⟨hl, rfl⟩
    · exact hs q hq
    · exact h hl

/-- **When a write keeps what the slots hold.** The slot that it reaches has been empty, or has
held the same phrase. -/
theorem land_keeps_iff (s : Slots P) (l : Option Slot) (p : P) :
    (∀ i q, s.get i = some q → (s.land l p).get i = some q) ↔
      ∀ i, l = some i → s.get i = none ∨ s.get i = some p := by
  obtain ⟨c, d⟩ := s
  match l with
  | none => simp
  | some .cloud =>
    constructor
    · rintro h i ⟨rfl⟩
      cases c with
      | none => exact .inl rfl
      | some q => exact .inr (by simpa [get, eq_comm] using h .cloud q rfl)
    · intro h i q hq
      cases i with
      | device => exact hq
      | cloud =>
        rcases h .cloud rfl with h | h <;> simp_all [get]
  | some .device =>
    constructor
    · rintro h i ⟨rfl⟩
      cases d with
      | none => exact .inl rfl
      | some q => exact .inr (by simpa [get, eq_comm] using h .device q rfl)
    · intro h i q hq
      cases i with
      | cloud => exact hq
      | device =>
        rcases h .device rfl with h | h <;> simp_all [get]

end Slots

end RlyNetworkSdk.KeyStorage
