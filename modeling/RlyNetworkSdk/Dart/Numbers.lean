import RlyNetworkSdk.Encoding.Hex

/-!
# Numbers and Texts in Dart

`int.parse`, `BigInt.parse`, `toRadixString`, `split` and padding of the core library, on the
texts that the package gives them. White space around a numeral, which Dart ignores, does not
occur there.
-/

namespace RlyNetworkSdk.Dart

open Encoding

/-! ## Writing -/

/-- `toRadixString(radix)` of an `int` or a `BigInt`; in radix 10 also `toString()`. -/
def toRadixString (radix : Nat) (n : Int) : String :=
  String.ofList ((if n < 0 then ['-'] else []) ++ Nat.toDigits radix n.natAbs)

/-- `padLeft(width, '0')` -/
def padLeft (width : Nat) (s : String) : String :=
  String.ofList (List.replicate (width - s.toList.length) '0' ++ s.toList)

/-- `padRight(width, '0')` -/
def padRight (width : Nat) (s : String) : String :=
  String.ofList (s.toList ++ List.replicate (width - s.toList.length) '0')

/-- `split(separator)`, of one character. -/
def split (separator : Char) (s : String) : List String :=
  (s.toList.splitOn separator).map String.ofList

/-- `bytesToHex`, which `web3dart` and `eth_sig_util` document alike: two lower-case digits for each
byte. -/
def bytesToHex (bytes : List UInt8) : String := String.ofList (Hex.encode bytes)

/-- `"0x${bytesToHex(bytes)}"`, and `"0x${hex.encode(bytes)}"` -/
def prefixedHex (bs : List UInt8) : String := String.ofList ('0' :: 'x' :: Hex.encode bs)

/-- `utf8.encode` -/
def utf8 (s : String) : List UInt8 := s.toUTF8.data.toList

theorem utf8_injective : Function.Injective utf8 := by
  intro s t h
  apply String.toByteArray_inj.mp
  apply ByteArray.ext
  exact Array.toList_inj.mp h

/-- No character takes less than a byte. -/
theorem length_le_utf8 (s : String) : s.toList.length ≤ (utf8 s).length := by
  have hbytes : utf8 s = s.toList.flatMap String.utf8EncodeChar := by
    rw [utf8, String.toUTF8_eq_toByteArray, ← String.utf8Encode_toList, List.utf8Encode,
      List.data_toByteArray]
  have hpos : ∀ c : Char, 1 ≤ (String.utf8EncodeChar c).length := fun c =>
    List.length_pos_iff.mpr String.utf8EncodeChar_ne_nil
  rw [hbytes]
  induction s.toList with
  | nil => exact Nat.le_refl 0
  | cons c cs ih =>
    have hc := hpos c
    rw [List.flatMap_cons, List.length_append, List.length_cons]
    omega

/-! ## Reading -/

/-- A numeral with an optional sign. -/
def readSigned (magnitude : List Char → Option Nat) : List Char → Option Int
  | '-' :: cs => (magnitude cs).map fun n : Nat => -(n : Int)
  | '+' :: cs => (magnitude cs).map fun n : Nat => (n : Int)
  | cs => (magnitude cs).map fun n : Nat => (n : Int)

/-- Without a radix a numeral is decimal, or hexadecimal behind `0x`. -/
def magnitude : List Char → Option Nat
  | '0' :: 'x' :: cs => numeral 16 cs
  | '0' :: 'X' :: cs => numeral 16 cs
  | cs => numeral 10 cs

/-- `BigInt.parse(source)`; no value where it throws a `FormatException`. -/
def bigIntParse (source : String) : Option Int := readSigned magnitude source.toList

/-- `BigInt.parse(source, radix: radix)` -/
def bigIntParseRadix (radix : Nat) (source : String) : Option Int :=
  readSigned (numeral radix) source.toList

/-- An `int` has 64 bits. -/
def fitsInt (n : Int) : Bool := -(2 ^ 63) ≤ n && n < 2 ^ 63

theorem fitsInt_iff (n : Int) : fitsInt n = true ↔ -(2 ^ 63) ≤ n ∧ n < 2 ^ 63 := by
  simp [fitsInt]

/-- What `+` and `*` of `int`s give: a result that does not fit is taken modulo 2^64, back into
the range. -/
def wrapInt (n : Int) : Int := n.bmod (2 ^ 64)

theorem fitsInt_wrapInt (n : Int) : fitsInt (wrapInt n) = true := by
  have hlo : -((2 ^ 64 : Nat) / 2) ≤ n.bmod (2 ^ 64) := Int.le_bmod (by decide)
  have hhi : n.bmod (2 ^ 64) < ((2 ^ 64 : Nat) + 1) / 2 := Int.bmod_lt (by decide)
  rw [fitsInt_iff, wrapInt]
  omega

/-- In the range nothing is lost. -/
theorem wrapInt_of_fits {n : Int} (h : fitsInt n = true) : wrapInt n = n := by
  rw [fitsInt_iff] at h
  exact Int.bmod_eq_of_le_mul_two (by omega) (by omega)

/-- Wrapping twice is wrapping once, so it does not matter where in a sum it is done. -/
theorem wrapInt_add (m n : Int) : wrapInt (wrapInt m + wrapInt n) = wrapInt (m + n) := by
  rw [wrapInt, wrapInt, wrapInt, Int.bmod_add_bmod, Int.add_bmod_bmod, wrapInt]

/-- `int.parse(source)` for a decimal `source`. -/
def intParse (source : String) : Option Int := (bigIntParseRadix 10 source).filter fitsInt

/-- `int.parse(source, radix: radix)` -/
def intParseRadix (radix : Nat) (source : String) : Option Int :=
  (bigIntParseRadix radix source).filter fitsInt

/-- `toInt()` of a `BigInt`: a number that does not fit becomes the nearest `int`. -/
def bigIntToInt (n : Int) : Int := max (-(2 ^ 63)) (min n (2 ^ 63 - 1))

/-- A natural number that an `int` holds is not clamped. -/
theorem bigIntToInt_natCast {n : Nat} (hn : n < 2 ^ 63) : bigIntToInt n = n := by
  unfold bigIntToInt
  omega

/-- What an `int` holds, a word of the chain holds. -/
theorem lt_word_of_lt_int {n : Nat} (hn : n < 2 ^ 63) : n < 2 ^ 256 :=
  lt_trans hn (Nat.pow_lt_pow_right (by decide) (by decide))

theorem readSigned_cons {c : Char} (hminus : c ≠ '-') (hplus : c ≠ '+')
    (f : List Char → Option Nat) (cs : List Char) :
    readSigned f (c :: cs) = (f (c :: cs)).map fun n : Nat => (n : Int) := by
  unfold readSigned
  split
  · next h => exact absurd (List.cons.inj h).1 hminus
  · next h => exact absurd (List.cons.inj h).1 hplus
  · rfl

/-- A numeral without an `x` is decimal. -/
theorem magnitude_eq_numeral {cs : List Char} (hx : ∀ c ∈ cs, c ≠ 'x' ∧ c ≠ 'X') :
    magnitude cs = numeral 10 cs := by
  unfold magnitude
  split
  · exact absurd rfl (hx 'x' (by simp)).1
  · exact absurd rfl (hx 'X' (by simp)).2
  · rfl

/-- A character that is neither a digit nor a sign is not parsed. -/
theorem readSigned_magnitude_eq_none {cs : List Char} (hx : ∀ c ∈ cs, c ≠ 'x' ∧ c ≠ 'X')
    {c : Char} (hc : c ∈ cs) (hdigit : readDigit 10 c = none) (hminus : c ≠ '-') (hplus : c ≠ '+') :
    readSigned magnitude cs = none := by
  -- with or without a sign in front, the character is among the rest
  have hnone : ∀ ds : List Char, (∀ d ∈ ds, d ∈ cs) → c ∈ ds → magnitude ds = none := by
    intro ds hds hc
    rw [magnitude_eq_numeral fun d hd => hx d (hds d hd)]
    exact numeral_eq_none_of_mem hc hdigit
  unfold readSigned
  split
  · next ds =>
    rcases List.mem_cons.mp hc with hc | hc
    · exact absurd hc hminus
    · rw [hnone ds (fun d hd => List.mem_cons_of_mem _ hd) hc, Option.map_none]
  · next ds =>
    rcases List.mem_cons.mp hc with hc | hc
    · exact absurd hc hplus
    · rw [hnone ds (fun d hd => List.mem_cons_of_mem _ hd) hc, Option.map_none]
  · rw [hnone _ (fun _ hd => hd) hc, Option.map_none]

/-! ## Round trips -/

/-- The characters that a numeral is printed with are no signs and no `x`. -/
theorem digitChar_ne : ∀ d < 16, Nat.digitChar d ≠ '-' ∧ Nat.digitChar d ≠ '+' ∧
    Nat.digitChar d ≠ 'x' ∧ Nat.digitChar d ≠ 'X' := by decide

/-- A printed numeral without a sign is read as its magnitude. -/
theorem readSigned_toDigits (f : List Char → Option Nat) {radix : Nat} (hlo : 1 < radix)
    (hhi : radix ≤ 16) (n : Nat) :
    readSigned f (Nat.toDigits radix n) =
      (f (Nat.toDigits radix n)).map fun n : Nat => (n : Int) := by
  cases hcs : Nat.toDigits radix n with
  | nil => exact absurd hcs Nat.toDigits_ne_nil
  | cons c cs =>
    obtain ⟨d, hd, rfl⟩ := mem_toDigits (n := n) hlo (c := c) (by rw [hcs]; exact List.mem_cons_self)
    obtain ⟨hminus, hplus, -, -⟩ := digitChar_ne d (by omega)
    exact readSigned_cons hminus hplus f cs

theorem magnitude_toDigits (n : Nat) : magnitude (Nat.toDigits 10 n) = some n := by
  have hx : ∀ c ∈ Nat.toDigits 10 n, c ≠ 'x' ∧ c ≠ 'X' := by
    intro c hc
    obtain ⟨d, hd, rfl⟩ := mem_toDigits (by decide) hc
    exact ⟨(digitChar_ne d (by omega)).2.2.1, (digitChar_ne d (by omega)).2.2.2⟩
  rw [magnitude_eq_numeral hx, numeral_toDigits (by decide) (by decide)]

theorem readSigned_toRadixString (f : List Char → Option Nat) {radix : Nat} (hlo : 1 < radix)
    (hhi : radix ≤ 16) (hf : ∀ n, f (Nat.toDigits radix n) = some n) (n : Int) :
    readSigned f (toRadixString radix n).toList = some n := by
  rw [toRadixString, String.toList_ofList]
  by_cases hn : n < 0
  · rw [if_pos hn]
    change (f (Nat.toDigits radix n.natAbs)).map (fun m : Nat => -(m : Int)) = some n
    rw [hf, Option.map_some]
    congr 1
    omega
  · rw [if_neg hn, List.nil_append, readSigned_toDigits f hlo hhi, hf, Option.map_some]
    congr 1
    omega

/-- **What is printed is parsed back.** -/
theorem bigIntParseRadix_toRadixString {radix : Nat} (hlo : 1 < radix) (hhi : radix ≤ 16)
    (n : Int) : bigIntParseRadix radix (toRadixString radix n) = some n :=
  readSigned_toRadixString _ hlo hhi (numeral_toDigits hlo hhi) n

@[simp] theorem bigIntParse_toString (n : Int) : bigIntParse (toRadixString 10 n) = some n :=
  readSigned_toRadixString _ (by decide) (by decide) magnitude_toDigits n

theorem intParse_toString {n : Int} (hn : fitsInt n = true) :
    intParse (toRadixString 10 n) = some n := by
  rw [intParse, bigIntParseRadix_toRadixString (by decide) (by decide)]
  simp [hn]

theorem intParseRadix_toRadixString {radix : Nat} (hlo : 1 < radix) (hhi : radix ≤ 16) (n : Int) :
    intParseRadix radix (toRadixString radix n) = if fitsInt n then some n else none := by
  rw [intParseRadix, bigIntParseRadix_toRadixString hlo hhi, Option.filter_some]

/-- Bytes behind `0x` are parsed as their big-endian value. -/
theorem bigIntParse_prefixedHex {bs : List UInt8} (hbs : bs ≠ []) :
    bigIntParse (prefixedHex bs) = some (BigEndian.value bs : Int) := by
  rw [bigIntParse, prefixedHex, String.toList_ofList]
  change (numeral 16 (Hex.encode bs)).map (fun n : Nat => (n : Int)) = _
  rw [Hex.numeral_encode hbs]
  rfl

/-- A padded hexadecimal numeral is the number in that many bytes. -/
theorem decode_padLeft {len n : Nat} (hpos : 0 < len) (hn : n < 256 ^ len) :
    Hex.decode (padLeft (2 * len) (toRadixString 16 n)).toList =
      some (BigEndian.ofNat len n) := by
  have hdigits : (toRadixString 16 n).toList = Nat.toDigits 16 n := by
    rw [toRadixString, if_neg (by omega), String.toList_ofList]
    rfl
  -- the padding makes it twice as many digits as bytes
  have hlen : (Nat.toDigits 16 n).length ≤ 2 * len := by
    rw [Nat.length_toDigits_le_iff (by decide) (by omega), pow_mul]
    exact hn
  rw [padLeft, String.toList_ofList, hdigits]
  apply Hex.decode_of_readDigits
  · rw [readDigits_replicate_zero_append (by decide), ← numeral_of_ne_nil Nat.toDigits_ne_nil,
      numeral_toDigits (by decide) (by decide)]
  · rw [List.length_append, List.length_replicate]
    omega

end RlyNetworkSdk.Dart
