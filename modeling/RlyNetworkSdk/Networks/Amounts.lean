import Mathlib.Algebra.Order.Field.Basic
import Mathlib.Tactic.FieldSimp
import Mathlib.Tactic.Linarith
import RlyNetworkSdk.Networks.CoveredTransfers

/-!
# Amounts as Texts

What `parseUnits` makes of a text, against the number that the text stands for. A text of
digits, with no more behind the point than the token has, is read exactly. The text of a
`double` may have a sign, more digits or an exponent, and is then read as another number or not
at all.

## Main results

- `parseUnits_exact`: exactness and order on texts of digits.
- `faithful_iff`: which texts of a `double` are read within one unit.
-/

namespace RlyNetworkSdk.Networks

open Encoding Dart Gsn DoubleText

/-! ## Texts of digits -/

/-- A text of at least one digit. It is kept as its digits, so that a text with any other
character in it cannot be built. -/
structure DigitString where
  digits : List (Fin 10)
  nonempty : digits ≠ []

namespace DigitString

def text (s : DigitString) : String := String.ofList (fractionDigits s.digits)

def length (s : DigitString) : Nat := s.digits.length

/-- The number that the digits stand for. -/
def value (s : DigitString) : Nat := fractionValue s.digits

/-- The text with `k` more zeros, which stands for another number before the point, and for the
same one behind it. -/
def appendZeros (s : DigitString) (k : Nat) : DigitString :=
  ⟨s.digits ++ List.replicate k 0, List.append_ne_nil_of_left_ne_nil s.nonempty _⟩

end DigitString

theorem fractionValue_append_zeros (ds : List (Fin 10)) (k : Nat) :
    fractionValue (ds ++ List.replicate k 0) = fractionValue ds * 10 ^ k := by
  induction k with
  | zero => simp
  | succ k ih =>
    have hlast : ∀ es : List (Fin 10), fractionValue (es ++ [0]) = 10 * fractionValue es := by
      intro es
      rw [fractionValue, List.foldl_append]
      rfl
    rw [List.replicate_succ', ← List.append_assoc, hlast, ih, pow_succ]
    ring

@[simp] theorem DigitString.value_appendZeros (s : DigitString) (k : Nat) :
    (s.appendZeros k).value = s.value * 10 ^ k := fractionValue_append_zeros s.digits k

@[simp] theorem DigitString.length_appendZeros (s : DigitString) (k : Nat) :
    (s.appendZeros k).length = s.length + k := by
  rw [length, length, appendZeros, List.length_append, List.length_replicate]

/-- A text of digits is parsed as its value. -/
theorem bigIntParse_text (s : DigitString) : bigIntParse s.text = some (s.value : Int) := by
  have hparse := bigIntParse_fractionalPart s.nonempty 0
  have hunits : fractionUnits s.digits 0 = s.value := by simp [fractionUnits, DigitString.value]
  rw [padRight, Nat.zero_sub, List.replicate_zero, List.append_nil, String.ofList_toList,
    hunits] at hparse
  exact hparse

/-- A text of an amount, with or without digits behind a point. There is neither a sign nor an
exponent, and at least one digit on either side. -/
inductive AmountText where
  | whole (w : DigitString)
  | decimal (w f : DigitString)

namespace AmountText

def text : AmountText → String
  | whole w => w.text
  | decimal w f => w.text ++ "." ++ f.text

/-- The number that the text stands for. -/
def value : AmountText → ℚ
  | whole w => w.value
  | decimal w f => w.value + f.value / 10 ^ f.length

/-- The token has enough decimals, or the digits behind the point are a zero. The latter is how
Dart writes a `double` without a fraction. -/
def Representable (decimals : Nat) : AmountText → Prop
  | whole _ => True
  | decimal _ f => f.length ≤ decimals ∨ f.text = "0"

/-- What the text comes to in units, when it is parsed by `parseUnits`. -/
def units (decimals : Nat) : AmountText → Nat
  | whole w => w.value * 10 ^ decimals
  | decimal w f => w.value * 10 ^ decimals + fractionUnits f.digits decimals

theorem split_decimal (w f : DigitString) :
    split '.' (decimal w f).text = [w.text, f.text] := by
  have hpoint : ∀ s : DigitString, '.' ∉ fractionDigits s.digits := by
    intro s hmem
    exact (mem_fractionDigits hmem).1 rfl
  have hlist : (decimal w f).text.toList =
      fractionDigits w.digits ++ '.' :: fractionDigits f.digits := by
    simp [text, DigitString.text, String.toList_append]
  rw [split, hlist, List.splitOn_append_cons_self_of_not_mem (hpoint w),
    List.splitOn_eq_singleton (hpoint f)]
  rfl

/-- Any digits are parsed, whether or not they are too many. -/
theorem parseUnits_text (s : AmountText) (decimals : Nat) :
    parseUnits s.text decimals = some (s.units decimals : Int) := by
  cases s with
  | whole w =>
    -- without a point the text is a single part
    have hsplit : split '.' (whole w).text = [w.text] := by
      have hpoint : '.' ∉ w.text.toList := by
        intro hmem
        rw [DigitString.text, String.toList_ofList] at hmem
        exact (mem_fractionDigits hmem).1 rfl
      show (w.text.toList.splitOn '.').map String.ofList = [w.text]
      rw [List.splitOn_eq_singleton hpoint, List.map_singleton, String.ofList_toList]
    rw [parseUnits_whole hsplit, bigIntParse_text, Option.map_some, units]
    push_cast
    rfl
  | decimal w f =>
    -- the part behind the point is padded, never cut
    have hfraction : bigIntParse (padRight decimals f.text) =
        some (fractionUnits f.digits decimals : Int) :=
      bigIntParse_fractionalPart f.nonempty decimals
    rw [parseUnits_fraction (split_decimal w f), bigIntParse_text, hfraction, Option.bind_some,
      Option.map_some, units]
    push_cast
    rfl

end AmountText

/-! ## Exactness -/

/-- Digits that the token has are taken for what they stand for. -/
theorem fractionUnits_of_le {fraction : List (Fin 10)} {decimals : Nat}
    (hlen : fraction.length ≤ decimals) :
    (fractionUnits fraction decimals : ℚ) =
      fractionValue fraction / 10 ^ fraction.length * 10 ^ decimals := by
  have hpow : (10 : ℚ) ^ decimals = 10 ^ (decimals - fraction.length) * 10 ^ fraction.length := by
    rw [← pow_add, Nat.sub_add_cancel hlen]
  rw [fractionUnits, hpow]
  push_cast
  field_simp

theorem fractionUnits_of_value_zero {fraction : List (Fin 10)} (hzero : fractionValue fraction = 0)
    (decimals : Nat) : fractionUnits fraction decimals = 0 := by
  rw [fractionUnits, hzero, Nat.zero_mul]

theorem value_of_text_zero {f : DigitString} (h : f.text = "0") : fractionValue f.digits = 0 := by
  have hread := readDigits_fractionDigits f.digits
  have hlist : fractionDigits f.digits = f.text.toList := String.toList_ofList.symm
  have hzero : fractionDigits f.digits = ['0'] := by
    rw [hlist, h]
    rfl
  rw [hzero] at hread
  exact (Option.some.inj hread).symm

namespace AmountText

/-- A representable text comes to what it stands for. -/
theorem units_of_representable {s : AmountText} {decimals : Nat} (h : s.Representable decimals) :
    (s.units decimals : ℚ) = s.value * 10 ^ decimals := by
  cases s with
  | whole w =>
    rw [units, value]
    push_cast
    rfl
  | decimal w f =>
    rw [units, value]
    push_cast
    -- a zero behind the point is a zero for any number of decimals
    rcases h with hlen | hzero
    · rw [fractionUnits_of_le hlen, DigitString.value, DigitString.value, DigitString.length]
      ring
    · rw [fractionUnits_of_value_zero (value_of_text_zero hzero), DigitString.value,
        DigitString.value, value_of_text_zero hzero]
      simp

/-- Zeros at the end do not count. -/
theorem value_appendZeros (w f : DigitString) (k : Nat) :
    (decimal w (f.appendZeros k)).value = (decimal w f).value := by
  rw [value, value, DigitString.value_appendZeros, DigitString.length_appendZeros, pow_add]
  push_cast
  rw [mul_div_mul_right _ _ (pow_ne_zero k (by norm_num))]

/-- Two representable texts of one number come to the same. -/
theorem parseUnits_congr {s₁ s₂ : AmountText} {decimals : Nat} (h₁ : s₁.Representable decimals)
    (h₂ : s₂.Representable decimals) (hvalue : s₁.value = s₂.value) :
    parseUnits s₁.text decimals = parseUnits s₂.text decimals := by
  have hunits : (s₁.units decimals : ℚ) = s₂.units decimals := by
    rw [units_of_representable h₁, hvalue, units_of_representable h₂]
  have hsame : s₁.units decimals = s₂.units decimals := by exact_mod_cast hunits
  rw [parseUnits_text, parseUnits_text, hsame]

/-- A larger number comes to more units. -/
theorem units_lt_units {s₁ s₂ : AmountText} {decimals : Nat} (h₁ : s₁.Representable decimals)
    (h₂ : s₂.Representable decimals) (hlt : s₁.value < s₂.value) :
    s₁.units decimals < s₂.units decimals := by
  have hunits : (s₁.units decimals : ℚ) < s₂.units decimals := by
    rw [units_of_representable h₁, units_of_representable h₂]
    exact mul_lt_mul_of_pos_right hlt (by positivity)
  exact_mod_cast hunits

end AmountText

/-- **Exact amounts.** For every number of decimals: a text of digits that is representable with
them is read as the very number that it stands for, zeros may be appended within the decimals,
and a larger number is read as a larger one. -/
theorem parseUnits_exact (decimals : Nat) :
    (∀ w : DigitString, parseUnits w.text decimals = some (w.value * 10 ^ decimals : Int)) ∧
    (∀ w f : DigitString, f.length ≤ decimals ∨ f.text = "0" →
      ∃ n : Int, parseUnits (w.text ++ "." ++ f.text) decimals = some n ∧
        (n : ℚ) = (w.value + f.value / 10 ^ f.length) * 10 ^ decimals) ∧
    (∀ (w f : DigitString) (k : Nat), f.length + k ≤ decimals →
      parseUnits (w.text ++ "." ++ (f.appendZeros k).text) decimals =
        parseUnits (w.text ++ "." ++ f.text) decimals) ∧
    (∀ s₁ s₂ : AmountText, s₁.Representable decimals → s₂.Representable decimals →
      s₁.value < s₂.value → ∃ n₁ n₂ : Int, parseUnits s₁.text decimals = some n₁ ∧
        parseUnits s₂.text decimals = some n₂ ∧ n₁ < n₂) := by
  refine ⟨?_, ?_, ?_, ?_⟩
  · intro w
    -- whole numbers
    have hparse := (AmountText.whole w).parseUnits_text decimals
    rw [AmountText.units] at hparse
    push_cast at hparse
    exact hparse
  · intro w f hrep
    -- numbers with a point: the integer is the rational number in units
    refine ⟨_, (AmountText.decimal w f).parseUnits_text decimals, ?_⟩
    rw [Int.cast_natCast]
    exact AmountText.units_of_representable hrep
  · intro w f k hlen
    -- zeros at the end change neither the length condition nor the value
    have hshort : (AmountText.decimal w f).Representable decimals := .inl (by omega)
    have hlong : (AmountText.decimal w (f.appendZeros k)).Representable decimals :=
      .inl (by rwa [DigitString.length_appendZeros])
    have hsame : parseUnits (AmountText.decimal w (f.appendZeros k)).text decimals =
        parseUnits (AmountText.decimal w f).text decimals :=
      AmountText.parseUnits_congr hlong hshort (AmountText.value_appendZeros w f k)
    exact hsame
  · intro s₁ s₂ h₁ h₂ hlt
    -- the order follows, as both texts come to exactly what they stand for
    refine ⟨_, _, s₁.parseUnits_text decimals, s₂.parseUnits_text decimals, ?_⟩
    exact_mod_cast AmountText.units_lt_units h₁ h₂ hlt

namespace Sample

/-- The digits 1 and 5. -/
def one : DigitString := ⟨[1], by decide⟩
def five : DigitString := ⟨[5], by decide⟩

/-- The texts 1.5 and 5 of a token with eighteen decimals. -/
theorem representable_texts : (AmountText.decimal one five).Representable 18 ∧
    (AmountText.whole five).Representable 18 :=
  ⟨.inl (by decide), trivial⟩

theorem value_lt : (AmountText.decimal one five).value < (AmountText.whole five).value := by
  have hone : one.value = 1 := by decide
  have hfive : five.value = 5 := by decide
  have hlen : five.length = 1 := by decide
  rw [AmountText.value, AmountText.value, hone, hfive, hlen]
  norm_num

end Sample

/-- One and a half of a token is less than five. -/
theorem parseUnits_exact_eighteen :
    (∃ n : Int, parseUnits (Sample.one.text ++ "." ++ Sample.five.text) 18 = some n ∧
      (n : ℚ) = (Sample.one.value + Sample.five.value / 10 ^ Sample.five.length) * 10 ^ 18) ∧
    parseUnits (Sample.one.text ++ "." ++ (Sample.five.appendZeros 17).text) 18 =
      parseUnits (Sample.one.text ++ "." ++ Sample.five.text) 18 ∧
    ∃ n₁ n₂ : Int, parseUnits (AmountText.decimal Sample.one Sample.five).text 18 = some n₁ ∧
      parseUnits (AmountText.whole Sample.five).text 18 = some n₂ ∧ n₁ < n₂ :=
  ⟨(parseUnits_exact 18).2.1 _ _ (.inl (by decide)),
    (parseUnits_exact 18).2.2.1 _ _ 17 (by decide),
    (parseUnits_exact 18).2.2.2 _ _ Sample.representable_texts.1 Sample.representable_texts.2
      Sample.value_lt⟩

/-! ## Texts of a double -/

/-- The number that the text of a finite `double` stands for, with its sign, its digits and its
power of ten. -/
def finiteValue (negative : Bool) (whole : Nat) (fraction : List (Fin 10)) (exponent : Option Int) :
    ℚ :=
  (if negative then -1 else 1) * (whole + fractionValue fraction / 10 ^ fraction.length) *
    10 ^ exponent.getD 0

/-- If the text is parsed at all, the units are less than one off, and of the same sign. A text
that is refused moves no tokens, so nothing is asked of it. -/
def Faithful (decimals : Nat) (negative : Bool) (whole : Nat) (fraction : List (Fin 10))
    (exponent : Option Int) : Prop :=
  ∀ n : Int, parseUnits (finite negative whole fraction exponent).toString decimals = some n →
    |(n : ℚ) - finiteValue negative whole fraction exponent * 10 ^ decimals| < 1 ∧
    (0 ≤ finiteValue negative whole fraction exponent → 0 ≤ n) ∧
    (finiteValue negative whole fraction exponent ≤ 0 → n ≤ 0)

/-- An integer less than one off has the same sign. -/
theorem sign_of_close {n : Int} {v base : ℚ} (hbase : 0 < base) (hclose : |(n : ℚ) - v * base| < 1) :
    (0 ≤ v → 0 ≤ n) ∧ (v ≤ 0 → n ≤ 0) := by
  obtain ⟨hlo, hhi⟩ := abs_lt.mp hclose
  constructor
  · intro hv
    -- an integer above minus one is not negative
    have hpos : 0 ≤ v * base := mul_nonneg hv hbase.le
    have hn : (-1 : ℚ) < n := by linarith
    have hn' : -1 < n := by exact_mod_cast hn
    omega
  · intro hv
    have hneg : v * base ≤ 0 := mul_nonpos_of_nonpos_of_nonneg hv hbase.le
    have hn : (n : ℚ) < 1 := by linarith
    have hn' : n < 1 := by exact_mod_cast hn
    omega

section Distance

variable {fraction : List (Fin 10)} {decimals : Nat}

/-- What the digits behind the point stand for, in units. It need not be a whole number of them. -/
def exactUnits (fraction : List (Fin 10)) (decimals : Nat) : ℚ :=
  fractionValue fraction / 10 ^ fraction.length * 10 ^ decimals

theorem exactUnits_nonneg : 0 ≤ exactUnits fraction decimals := by
  unfold exactUnits
  positivity

theorem exactUnits_pos (h : 0 < fractionValue fraction) : 0 < exactUnits fraction decimals := by
  have hcast : (0 : ℚ) < fractionValue fraction := by exact_mod_cast h
  unfold exactUnits
  positivity

theorem exactUnits_of_value_zero (h : fractionValue fraction = 0) :
    exactUnits fraction decimals = 0 := by
  rw [exactUnits, h, Nat.cast_zero, zero_div, zero_mul]

/-- Digits that the token does not have stand for less than a tenth of what they are taken for. -/
theorem exactUnits_of_lt (hlen : decimals < fraction.length) :
    10 * exactUnits fraction decimals ≤ fractionValue fraction ∧
      (fractionUnits fraction decimals : ℚ) = fractionValue fraction := by
  have hpow : (10 : ℚ) ^ fraction.length =
      10 ^ decimals * 10 * 10 ^ (fraction.length - decimals - 1) := by
    rw [← pow_succ, ← pow_add]
    congr 1
    omega
  have hone : (1 : ℚ) ≤ 10 ^ (fraction.length - decimals - 1) := one_le_pow₀ (by norm_num)
  constructor
  · rw [exactUnits, hpow]
    have hsame : (10 : ℚ) * (fractionValue fraction /
        (10 ^ decimals * 10 * 10 ^ (fraction.length - decimals - 1)) * 10 ^ decimals) =
          fractionValue fraction / 10 ^ (fraction.length - decimals - 1) := by
      field_simp
    rw [hsame]
    exact div_le_self (Nat.cast_nonneg _) hone
  · -- nothing is padded, and nothing is cut off
    rw [fractionUnits, Nat.sub_eq_zero_of_le hlen.le, pow_zero, Nat.mul_one]

/-- **Without a sign**, only digits that the token does not have are read wrong, unless they are
zeros before at most a one. -/
theorem close_iff : |(fractionUnits fraction decimals : ℚ) - exactUnits fraction decimals| < 1 ↔
    fraction.length ≤ decimals ∨ fractionValue fraction ≤ 1 := by
  -- too many digits behind the point are read as that many units
  rcases Nat.lt_or_ge decimals fraction.length with hlen | hlen
  · obtain ⟨hexact, hunits⟩ := exactUnits_of_lt hlen
    have hnonneg : 0 ≤ exactUnits fraction decimals := exactUnits_nonneg
    rw [hunits]
    constructor
    · intro hclose
      right
      by_contra hlarge
      -- two or more of them are over one unit off, as what they stand for is at most a tenth of
      -- them
      have hcast : (2 : ℚ) ≤ fractionValue fraction := by exact_mod_cast not_le.mp hlarge
      have := (abs_lt.mp hclose).2
      linarith
    · rintro (hle | hsmall)
      · omega
      · have hcast : (fractionValue fraction : ℚ) ≤ 1 := by exact_mod_cast hsmall
        rw [abs_lt]
        refine ⟨by linarith, ?_⟩
        rcases Nat.eq_zero_or_pos (fractionValue fraction) with hzero | hpos
        · rw [hzero, Nat.cast_zero]
          linarith
        · have : 0 < exactUnits fraction decimals := exactUnits_pos hpos
          linarith
  · -- with enough decimals there is no difference at all
    rw [fractionUnits_of_le hlen, exactUnits, sub_self, abs_zero]
    exact iff_of_true one_pos (.inl hlen)

/-- **With a sign**, digits behind the point count in the wrong direction: the source adds them
to a negative number. They are close to what is meant only if they are all zero. -/
theorem close_neg_iff :
    |(fractionUnits fraction decimals : ℚ) + exactUnits fraction decimals| < 1 ↔
      fractionValue fraction = 0 := by
  constructor
  · intro hclose
    by_contra hne
    -- any digit that is not zero is a whole unit, and both terms have the same sign
    have hunits : 1 ≤ fractionUnits fraction decimals :=
      Nat.mul_pos (Nat.pos_of_ne_zero hne) (Nat.pow_pos (by decide))
    have hcast : (1 : ℚ) ≤ fractionUnits fraction decimals := by exact_mod_cast hunits
    have hnonneg : 0 ≤ exactUnits fraction decimals := exactUnits_nonneg
    have := (abs_lt.mp hclose).2
    linarith
  · intro hzero
    rw [fractionUnits_of_value_zero hzero, exactUnits_of_value_zero hzero]
    norm_num

/-- Only the digits behind the point are read wrong: those before it have the sign. -/
theorem distance_eq (negative : Bool) (whole : Nat) :
    (((if negative then -(whole : Int) else whole) * 10 ^ decimals +
        fractionUnits fraction decimals : Int) : ℚ) -
          finiteValue negative whole fraction none * 10 ^ decimals =
      fractionUnits fraction decimals -
        (if negative then -1 else 1) * exactUnits fraction decimals := by
  rw [finiteValue, exactUnits]
  cases negative with
  | false =>
    simp
    ring
  | true =>
    simp
    ring

/-- Without an exponent the text is parsed, and the sign follows from the distance. -/
theorem faithful_none_iff (negative : Bool) (whole : Nat) :
    Faithful decimals negative whole fraction none ↔
      |(fractionUnits fraction decimals : ℚ) -
        (if negative then -1 else 1) * exactUnits fraction decimals| < 1 := by
  have hbase : (0 : ℚ) < 10 ^ decimals := by positivity
  rw [Faithful, parseUnits_finite, ← distance_eq negative whole]
  constructor
  · intro h
    exact (h _ rfl).1
  · intro hclose n hn
    obtain rfl := Option.some.inj hn
    exact ⟨hclose, sign_of_close hbase hclose⟩

end Distance

/-- **Which amounts are not distorted.** For every text of a finite `double` and every number of
decimals: the text is parsed within one unit, with its sign, or not at all, exactly when it
has an exponent, or nothing but zeros behind the point, or no sign and either no more digits than
the token or, read as a number, a one behind the point. -/
theorem faithful_iff (decimals : Nat) (negative : Bool) (whole : Nat) (fraction : List (Fin 10))
    (exponent : Option Int) :
    Faithful decimals negative whole fraction exponent ↔
      exponent.isSome = true ∨ fractionValue fraction = 0 ∨
        negative = false ∧ (fraction.length ≤ decimals ∨ fractionValue fraction = 1) := by
  cases exponent with
  | some e =>
    -- `BigInt.parse` throws at the letter
    rw [Faithful, parseUnits_exponent]
    simp
  | none =>
    rw [faithful_none_iff]
    cases negative with
    | false =>
      rw [if_neg Bool.false_ne_true, one_mul, close_iff]
      simp
      omega
    | true =>
      rw [if_pos rfl, neg_one_mul, sub_neg_eq_add, close_neg_iff]
      simp

/-- Minus one and a half of a token with eighteen decimals is taken for minus a half, and digits
that a token with six decimals does not have move the point. -/
theorem not_faithful :
    (parseUnits "-1.5" 18 = some (-500000000000000000) ∧ ¬ Faithful 18 true 1 [5] none) ∧
    (parseUnits "1.23456789" 6 = some 24456789 ∧
      ¬ Faithful 6 false 1 [2, 3, 4, 5, 6, 7, 8, 9] none) := by
  have hsigned : (finite true 1 [5] none).toString = "-1.5" := by decide
  have hlong : (finite false 1 [2, 3, 4, 5, 6, 7, 8, 9] none).toString = "1.23456789" := by decide
  have hunits : parseUnits "-1.5" 18 = some (-500000000000000000) := by
    rw [← hsigned, parseUnits_finite]
    decide
  have hlongUnits : parseUnits "1.23456789" 6 = some 24456789 := by
    rw [← hlong, parseUnits_finite]
    decide
  refine ⟨⟨hunits, fun h => ?_⟩, hlongUnits, fun h => ?_⟩
  · -- one whole token off
    have hclose := (h _ (by rw [hsigned, hunits])).1
    have hdigits : fractionValue [5] = 5 := by decide
    rw [finiteValue, hdigits] at hclose
    norm_num at hclose
  · -- the digits count as `23456789` units instead of less than one million
    have hclose := (h _ (by rw [hlong, hlongUnits])).1
    have hdigits : fractionValue [2, 3, 4, 5, 6, 7, 8, 9] = 23456789 := by decide
    rw [finiteValue, hdigits] at hclose
    norm_num [abs_lt] at hclose

end RlyNetworkSdk.Networks
