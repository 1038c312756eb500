import Mathlib.Data.List.Induction
import Mathlib.Tactic.Ring

/-!
# Numerals

Numbers as texts of digits, in any radix up to sixteen. `Nat.toDigits` writes a number;
`numeral` reads a text, with digits of either case, and gives no number for anything else.
-/

namespace RlyNetworkSdk.Encoding

/-! ## Digits -/

/-- The value of a digit or letter, of either case. -/
def digitValue (c : Char) : Option Nat :=
  if c.isDigit then some (c.toNat - 48)
  else if c.isLower then some (c.toNat - 87)
  else if c.isUpper then some (c.toNat - 55)
  else none

/-- The value of a digit of the radix. -/
def readDigit (radix : Nat) (c : Char) : Option Nat := (digitValue c).filter (· < radix)

theorem digitValue_digitChar : ∀ d < 16, digitValue (Nat.digitChar d) = some d := by decide

theorem readDigit_digitChar {radix d : Nat} (hradix : radix ≤ 16) (hd : d < radix) :
    readDigit radix (Nat.digitChar d) = some d := by
  rw [readDigit, digitValue_digitChar d (by omega)]
  simp [hd]

theorem lt_of_readDigit {radix : Nat} {c : Char} {d : Nat} (h : readDigit radix c = some d) :
    d < radix := by
  simpa using (Option.filter_eq_some_iff.mp h).2

theorem readDigit_of_le {radix radix' : Nat} (hle : radix ≤ radix') {c : Char} {d : Nat}
    (h : readDigit radix c = some d) : readDigit radix' c = some d := by
  obtain ⟨hvalue, hd⟩ := Option.filter_eq_some_iff.mp h
  rw [readDigit, hvalue, Option.filter_some, if_pos]
  simp only [decide_eq_true_eq] at hd ⊢
  omega

/-! ## Texts of digits -/

/-- The value of a text of digits, an empty text being zero. One character that is no digit is
enough for it to have no value. -/
def readDigits (radix : Nat) (cs : List Char) : Option Nat :=
  cs.foldlM (fun n c => (readDigit radix c).map (radix * n + ·)) 0

/-- The value of a numeral, which has at least one digit. -/
def numeral (radix : Nat) (cs : List Char) : Option Nat :=
  if cs = [] then none else readDigits radix cs

@[simp] theorem readDigits_nil (radix : Nat) : readDigits radix [] = some 0 := rfl

theorem readDigits_append_singleton (radix : Nat) (cs : List Char) (c : Char) :
    readDigits radix (cs ++ [c]) =
      (readDigits radix cs).bind fun n => (readDigit radix c).map (radix * n + ·) := by
  simp [readDigits, List.foldlM_append]

theorem readDigits_append (radix : Nat) (cs ds : List Char) :
    readDigits radix (cs ++ ds) =
      (readDigits radix cs).bind fun n =>
        (readDigits radix ds).map (radix ^ ds.length * n + ·) := by
  induction ds using List.reverseRecOn with
  | nil => cases h : readDigits radix cs <;> simp [h]
  | append_singleton ds d ih =>
    rw [← List.append_assoc, readDigits_append_singleton, ih, readDigits_append_singleton]
    -- a part that cannot be read spoils the whole, on either side
    cases readDigits radix cs with
    | none => rfl
    | some n =>
      cases readDigits radix ds with
      | none => rfl
      | some m =>
        cases readDigit radix d with
        | none => rfl
        | some k =>
          simp only [Option.bind_some, Option.map_some, List.length_append, List.length_singleton,
            Option.some.injEq]
          ring

theorem readDigits_eq_none_of_mem {radix : Nat} {cs : List Char} {c : Char} (hc : c ∈ cs)
    (hdigit : readDigit radix c = none) : readDigits radix cs = none := by
  obtain ⟨ds, es, rfl⟩ := List.append_of_mem hc
  rw [List.append_cons, readDigits_append, readDigits_append_singleton, hdigit]
  cases readDigits radix ds <;> rfl

theorem numeral_eq_none_of_mem {radix : Nat} {cs : List Char} {c : Char} (hc : c ∈ cs)
    (hdigit : readDigit radix c = none) : numeral radix cs = none := by
  unfold numeral
  split
  · rfl
  · exact readDigits_eq_none_of_mem hc hdigit

theorem numeral_of_ne_nil {radix : Nat} {cs : List Char} (h : cs ≠ []) :
    numeral radix cs = readDigits radix cs := if_neg h

/-- **What is written is read back**, in any radix up to sixteen, for which there are digits and
letters. -/
theorem numeral_toDigits {radix : Nat} (hlo : 1 < radix) (hhi : radix ≤ 16) (n : Nat) :
    numeral radix (Nat.toDigits radix n) = some n := by
  rw [numeral_of_ne_nil Nat.toDigits_ne_nil]
  induction n using Nat.strongRecOn with
  | ind n ih =>
    rw [Nat.toDigits_eq_if hlo]
    by_cases hn : n < radix
    · rw [if_pos hn, ← List.nil_append [_], readDigits_append_singleton,
        readDigit_digitChar hhi hn]
      simp
    · -- the last digit is the remainder
      have hpos : 0 < n := by omega
      rw [if_neg hn, readDigits_append_singleton, ih _ (Nat.div_lt_self hpos hlo),
        readDigit_digitChar hhi (Nat.mod_lt n (by omega))]
      simp [Nat.div_add_mod]

/-- Leading zeros do not count. -/
theorem readDigits_replicate_zero_append {radix : Nat} (h : 0 < radix) (k : Nat)
    (cs : List Char) : readDigits radix (List.replicate k '0' ++ cs) = readDigits radix cs := by
  have hzero : readDigit radix '0' = some 0 := by
    have hd : digitValue '0' = some 0 := by decide
    simp [readDigit, hd, h]
  induction k with
  | zero => rfl
  | succ k ih =>
    rw [List.replicate_succ, List.cons_append, ← ih]
    simp [readDigits, hzero]

/-- **A text of digits in two radices.** The number is larger in the larger radix, but for a
number that is a single digit behind zeros. -/
theorem readDigits_eq_iff {radix radix' : Nat} (hpos : 0 < radix) (hlt : radix < radix') {cs : List Char} {m n : Nat}
    (hm : readDigits radix cs = some m) (hn : readDigits radix' cs = some n) :
    m ≤ n ∧ (m = n ↔ m < radix) := by
  induction cs using List.reverseRecOn generalizing m n with
  | nil =>
    cases hm
    cases hn
    exact ⟨le_rfl, iff_of_true rfl hpos⟩
  | append_singleton cs c ih =>
    rw [readDigits_append_singleton] at hm hn
    obtain ⟨m', hm', hm⟩ := Option.bind_eq_some_iff.mp hm
    obtain ⟨d, hd, rfl⟩ := Option.map_eq_some_iff.mp hm
    obtain ⟨n', hn', hn⟩ := Option.bind_eq_some_iff.mp hn
    obtain ⟨d', hd', rfl⟩ := Option.map_eq_some_iff.mp hn
    obtain rfl := Option.some.inj ((readDigit_of_le (le_of_lt hlt) hd).symm.trans hd')
    have hdigit := lt_of_readDigit hd
    obtain ⟨hle, hiff⟩ := ih hm' hn'
    have hmul : radix * m' ≤ radix' * n' := Nat.mul_le_mul (le_of_lt hlt) hle
    refine ⟨by omega, ?_⟩
    -- the digits before the last one are zero, or they differ in weight
    rcases Nat.eq_zero_or_pos m' with hzero | hm'pos
    · obtain rfl : n' = 0 := by rw [← hiff.mpr (by omega), hzero]
      rw [hzero, Nat.mul_zero, Nat.mul_zero]
      omega
    · have hweight : radix * m' < radix' * n' :=
        lt_of_lt_of_le (Nat.mul_lt_mul_of_pos_right hlt hm'pos) (Nat.mul_le_mul_left radix' hle)
      have hlarge : radix ≤ radix * m' := Nat.le_mul_of_pos_right radix hm'pos
      omega

/-! ## Printed numerals -/

/-- Nothing but digits and lower-case letters is printed. -/
theorem mem_toDigits {radix n : Nat} (hlo : 1 < radix) {c : Char}
    (hc : c ∈ Nat.toDigits radix n) : ∃ d < radix, c = Nat.digitChar d := by
  induction n using Nat.strongRecOn with
  | ind n ih =>
    rw [Nat.toDigits_eq_if hlo] at hc
    by_cases hn : n < radix
    · rw [if_pos hn, List.mem_singleton] at hc
      exact ⟨n, hn, hc⟩
    · rw [if_neg hn, List.mem_append, List.mem_singleton] at hc
      rcases hc with hc | hc
      · exact ih _ (Nat.div_lt_self (by omega) hlo) hc
      · exact ⟨n % radix, Nat.mod_lt n (by omega), hc⟩

end RlyNetworkSdk.Encoding
