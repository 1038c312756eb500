import RlyNetworkSdk.Dart.Numbers

/-!
# Doubles in Dart

An amount for display is a `double`, which becomes a number of units through its text. What
is fixed here is how such a text looks; the arithmetic is a parameter, of which only signs are
known.
-/

namespace RlyNetworkSdk.Dart

open Encoding

/-! ## Texts -/

/-- What `toString()` prints for a `double`: digits before and behind the point, and behind
`e` a power of ten where the number is very large or very small. -/
inductive DoubleText where
  | nan
  | infinity (negative : Bool)
  | finite (negative : Bool) (whole : Nat) (fraction : List (Fin 10)) (exponent : Option Int)

namespace DoubleText

def sign (negative : Bool) : List Char := if negative then ['-'] else []

/-- The digits behind the point. -/
def fractionDigits (fraction : List (Fin 10)) : List Char :=
  fraction.map fun d : Fin 10 => Nat.digitChar d

def exponentPart : Option Int → List Char
  | none => []
  | some e => 'e' :: (if e < 0 then '-' else '+') :: Nat.toDigits 10 e.natAbs

/-- `toString()`. There is no point without digits behind it, and an exponent is written with
its sign. -/
def toString : DoubleText → String
  | nan => "NaN"
  | infinity negative => String.ofList (sign negative ++ "Infinity".toList)
  | finite negative whole fraction exponent =>
    String.ofList (sign negative ++ Nat.toDigits 10 whole ++
      (if fraction = [] then [] else '.' :: fractionDigits fraction) ++ exponentPart exponent)

/-- The number is printed with a sign. Zero may be, too. -/
def isNegative : DoubleText → Bool
  | nan => false
  | infinity negative => negative
  | finite negative _ _ _ => negative

/-- The value of the digits behind the point, as a whole number. -/
def fractionValue (fraction : List (Fin 10)) : Nat :=
  fraction.foldl (fun n (d : Fin 10) => 10 * n + d) 0

/-- No digit is a sign, a point or an `x`. -/
theorem digitChar_ne_point : ∀ d < 10, Nat.digitChar d ≠ '.' := by decide

theorem mem_toDigits_ten {n : Nat} {c : Char} (hc : c ∈ Nat.toDigits 10 n) :
    c ≠ '.' ∧ c ≠ 'x' ∧ c ≠ 'X' := by
  obtain ⟨d, hd, rfl⟩ := mem_toDigits (by decide) hc
  obtain ⟨-, -, hx, hX⟩ := digitChar_ne d (by omega)
  exact ⟨digitChar_ne_point d hd, hx, hX⟩

theorem mem_fractionDigits {fraction : List (Fin 10)} {c : Char}
    (hc : c ∈ fractionDigits fraction) : c ≠ '.' ∧ c ≠ 'x' ∧ c ≠ 'X' := by
  obtain ⟨d, -, rfl⟩ := List.mem_map.mp hc
  obtain ⟨-, -, hx, hX⟩ := digitChar_ne d (by omega)
  exact ⟨digitChar_ne_point d d.isLt, hx, hX⟩

theorem mem_sign {negative : Bool} {c : Char} (hc : c ∈ sign negative) :
    c ≠ '.' ∧ c ≠ 'x' ∧ c ≠ 'X' := by
  cases negative with
  | false => cases hc
  | true =>
    obtain rfl := List.mem_singleton.mp hc
    decide

theorem mem_exponentPart {exponent : Option Int} {c : Char} (hc : c ∈ exponentPart exponent) :
    c ≠ '.' ∧ c ≠ 'x' ∧ c ≠ 'X' := by
  cases exponent with
  | none => cases hc
  | some e =>
    simp only [exponentPart, List.mem_cons] at hc
    rcases hc with rfl | rfl | hc
    · decide
    · split <;> decide
    · exact mem_toDigits_ten hc

theorem readDigits_fractionDigits (fraction : List (Fin 10)) :
    readDigits 10 (fractionDigits fraction) = some (fractionValue fraction) := by
  induction fraction using List.reverseRecOn with
  | nil => rfl
  | append_singleton fraction d ih =>
    have hdigit : readDigit 10 (Nat.digitChar d) = some (d : Nat) :=
      readDigit_digitChar (by decide) d.isLt
    rw [fractionDigits, List.map_append, List.map_singleton, readDigits_append_singleton]
    rw [fractionDigits] at ih
    rw [ih, Option.bind_some, hdigit, Option.map_some, fractionValue, fractionValue,
      List.foldl_append]
    rfl

/-- The digits behind the point are split off. -/
theorem split_toString (negative : Bool) (whole : Nat) (fraction : List (Fin 10))
    (exponent : Option Int) :
    split '.' (finite negative whole fraction exponent).toString =
      if fraction = [] then
        [String.ofList (sign negative ++ Nat.toDigits 10 whole ++ exponentPart exponent)]
      else [String.ofList (sign negative ++ Nat.toDigits 10 whole),
        String.ofList (fractionDigits fraction ++ exponentPart exponent)] := by
  have hwhole : '.' ∉ sign negative ++ Nat.toDigits 10 whole := by
    intro hmem
    rcases List.mem_append.mp hmem with hmem | hmem
    · exact (mem_sign hmem).1 rfl
    · exact (mem_toDigits_ten hmem).1 rfl
  have hexponent : '.' ∉ exponentPart exponent := fun hmem => (mem_exponentPart hmem).1 rfl
  rw [split, toString, String.toList_ofList]
  by_cases hfraction : fraction = []
  · have hnone : '.' ∉ sign negative ++ Nat.toDigits 10 whole ++ exponentPart exponent := by
      intro hmem
      rcases List.mem_append.mp hmem with hmem | hmem
      · exact hwhole hmem
      · exact hexponent hmem
    rw [if_pos hfraction, if_pos hfraction, List.append_nil, List.splitOn_eq_singleton hnone]
    rfl
  · have hrest : '.' ∉ fractionDigits fraction ++ exponentPart exponent := by
      intro hmem
      rcases List.mem_append.mp hmem with hmem | hmem
      · exact (mem_fractionDigits hmem).1 rfl
      · exact hexponent hmem
    rw [if_neg hfraction, if_neg hfraction, List.append_assoc _ ('.' :: _), List.cons_append,
      List.splitOn_append_cons_self_of_not_mem hwhole, List.splitOn_eq_singleton hrest]
    rfl

end DoubleText

/-! ## Arithmetic -/

/-- What the code uses of doubles. Their arithmetic is left open, but for two facts about signs. -/
structure Doubles where
  Double : Type
  /-- What `toString()` prints. -/
  text : Double → DoubleText
  /-- `toDouble()` of a `BigInt` -/
  ofBigInt : Int → Double
  div : Double → Double → Double
  sub : Double → Double → Double
  /-- `x < 0` -/
  isNegative : Double → Bool
  /-- A quotient of numbers that are not negative is not negative, nor is it where it is not a
  number. -/
  isNegative_div : ∀ m n : Nat, isNegative (div (ofBigInt m) (ofBigInt n)) = false
  /-- A difference does not become negative by taking a negative number away. -/
  isNegative_sub : ∀ x y, isNegative x = false → (text y).isNegative = true →
    isNegative (sub x y) = false

/-! ## An instance -/

namespace Sample

/-- Numbers with one digit behind the point. -/
def tenths : Doubles where
  Double := Int
  text n := .finite (decide (n < 0)) (n.natAbs / 10) [⟨n.natAbs % 10, Nat.mod_lt _ (by decide)⟩] none
  ofBigInt n := 10 * n
  div m n := 10 * m / n
  sub m n := m - n
  isNegative n := decide (n < 0)
  isNegative_div m n := by
    apply decide_eq_false
    apply not_lt.mpr
    apply Int.ediv_nonneg <;> omega
  isNegative_sub x y hx hy := by
    have hx : ¬ x < 0 := of_decide_eq_false hx
    have hy : y < 0 := of_decide_eq_true hy
    apply decide_eq_false
    omega

end Sample

end RlyNetworkSdk.Dart
