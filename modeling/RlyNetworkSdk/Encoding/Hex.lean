import RlyNetworkSdk.Encoding.BigEndian
import RlyNetworkSdk.Encoding.Numeral

/-!
# Hexadecimal Text

Bytes as texts of two digits each. Such a text can be read in two ways, as bytes and as one
number in radix 16, and the two agree on the big-endian value.
-/

namespace RlyNetworkSdk.Encoding.Hex

/-- The two lower-case digits of a byte. -/
def ofByte (b : UInt8) : List Char :=
  [Nat.digitChar (b.toNat / 16), Nat.digitChar (b.toNat % 16)]

/-- The digits of a list of bytes. -/
def encode (bs : List UInt8) : List Char := bs.flatMap ofByte

/-- The bytes that a text of digits, of either case, stands for. There is no value for an odd
number of digits, and none for any other character. -/
def decode : List Char → Option (List UInt8)
  | [] => some []
  | [_] => none
  | c :: d :: cs => do
    let hi ← readDigit 16 c
    let lo ← readDigit 16 d
    let bs ← decode cs
    return UInt8.ofNat (16 * hi + lo) :: bs

@[simp] theorem encode_nil : encode [] = [] := rfl

@[simp] theorem encode_cons (b : UInt8) (bs : List UInt8) :
    encode (b :: bs) = ofByte b ++ encode bs := rfl

@[simp] theorem encode_append (as bs : List UInt8) :
    encode (as ++ bs) = encode as ++ encode bs := List.flatMap_append

@[simp] theorem length_encode (bs : List UInt8) : (encode bs).length = 2 * bs.length := by
  induction bs with
  | nil => rfl
  | cons b bs ih =>
    rw [encode_cons, List.length_append, ih, List.length_cons]
    change 2 + 2 * bs.length = _
    ring

/-- An encoding consists of lower-case digits. -/
theorem mem_encode {bs : List UInt8} {c : Char} (hc : c ∈ encode bs) :
    ∃ d < 16, c = Nat.digitChar d := by
  obtain ⟨b, -, hc⟩ := List.mem_flatMap.mp hc
  have hb := b.toNat_lt
  simp only [ofByte, List.mem_cons, List.not_mem_nil, or_false] at hc
  rcases hc with rfl | rfl
  · exact ⟨b.toNat / 16, by omega, rfl⟩
  · exact ⟨b.toNat % 16, by omega, rfl⟩

/-- A successful reading, taken apart. -/
theorem decode_cons_cons {c d : Char} {cs : List Char} {bs : List UInt8}
    (h : decode (c :: d :: cs) = some bs) :
    ∃ hi lo bs', readDigit 16 c = some hi ∧ readDigit 16 d = some lo ∧ decode cs = some bs' ∧
      bs = UInt8.ofNat (16 * hi + lo) :: bs' := by
  simp only [decode, Option.bind_eq_bind, Option.bind_eq_some_iff] at h
  obtain ⟨hi, hhi, lo, hlo, bs', hbs', h⟩ := h
  exact ⟨hi, lo, bs', hhi, hlo, hbs', (Option.some.inj h).symm⟩

/-- **Bytes survive the round trip through text.** The other way round, only the case of the
digits may change. -/
@[simp] theorem decode_encode (bs : List UInt8) : decode (encode bs) = some bs := by
  induction bs with
  | nil => rfl
  | cons b bs ih =>
    have hb := b.toNat_lt
    have hhi := readDigit_digitChar (d := b.toNat / 16) (Nat.le_refl 16) (by omega)
    have hlo := readDigit_digitChar (d := b.toNat % 16) (Nat.le_refl 16) (by omega)
    have hsame : UInt8.ofNat (16 * (b.toNat / 16) + b.toNat % 16) = b := by
      rw [Nat.div_add_mod, UInt8.ofNat_toNat]
    rw [encode_cons, ofByte, List.cons_append, List.cons_append, List.nil_append, decode, hhi, hlo,
      ih]
    exact congrArg (fun b => some (b :: bs)) hsame

/-- Bytes are appended digit by digit. -/
theorem decode_append {cs ds : List Char} {as bs : List UInt8} (hcs : decode cs = some as)
    (hds : decode ds = some bs) : decode (cs ++ ds) = some (as ++ bs) := by
  induction cs using decode.induct generalizing as with
  | case1 =>
    obtain rfl := Option.some.inj hcs
    exact hds
  | case2 => cases hcs
  | case3 c d cs ih =>
    obtain ⟨hi, lo, as', hhi, hlo, has', rfl⟩ := decode_cons_cons hcs
    rw [List.cons_append, List.cons_append, decode, hhi, hlo, ih has']
    rfl

theorem length_of_decode {cs : List Char} {bs : List UInt8} (h : decode cs = some bs) :
    cs.length = 2 * bs.length := by
  induction cs using decode.induct generalizing bs with
  | case1 =>
    obtain rfl := Option.some.inj h
    rfl
  | case2 => cases h
  | case3 c d cs ih =>
    obtain ⟨hi, lo, bs', -, -, hbs', rfl⟩ := decode_cons_cons h
    rw [List.length_cons, List.length_cons, ih hbs', List.length_cons]
    ring

/-- **Two readings of one text.** Read as a number, it is the value of the bytes. This is how an
address and its number hang together. -/
theorem readDigits_of_decode {cs : List Char} {bs : List UInt8} (h : decode cs = some bs) :
    readDigits 16 cs = some (BigEndian.value bs) := by
  induction cs using decode.induct generalizing bs with
  | case1 =>
    obtain rfl := Option.some.inj h
    rfl
  | case2 => cases h
  | case3 c d cs ih =>
    obtain ⟨hi, lo, bs', hhi, hlo, hbs', rfl⟩ := decode_cons_cons h
    have hlen := length_of_decode hbs'
    have hpair : readDigits 16 [c, d] = some (16 * hi + lo) := by
      simp [readDigits, hhi, hlo]
    -- the pair is one byte, so it is not cut off
    have hbyte : (UInt8.ofNat (16 * hi + lo)).toNat = 16 * hi + lo := by
      have := lt_of_readDigit hhi
      have := lt_of_readDigit hlo
      rw [UInt8.toNat_ofNat']
      omega
    have hsplit : c :: d :: cs = [c, d] ++ cs := rfl
    rw [hsplit, readDigits_append, hpair, ih hbs', BigEndian.value_cons, hbyte, hlen, pow_mul]
    rfl

/-- Every character of a readable text is a digit. -/
theorem readDigit_of_decode {cs : List Char} {bs : List UInt8} (h : decode cs = some bs) {c : Char}
    (hc : c ∈ cs) : readDigit 16 c ≠ none := by
  intro hnone
  have hread := readDigits_of_decode h
  rw [readDigits_eq_none_of_mem hc hnone] at hread
  cases hread

/-- Digits in pairs are bytes. -/
theorem exists_decode {cs : List Char} {n : Nat} (hread : readDigits 16 cs = some n) {len : Nat}
    (hlen : cs.length = 2 * len) : ∃ bs, decode cs = some bs := by
  induction cs using decode.induct generalizing n len with
  | case1 => exact ⟨[], rfl⟩
  | case2 c =>
    rw [List.length_singleton] at hlen
    omega
  | case3 c d cs ih =>
    have hsplit : c :: d :: cs = [c] ++ ([d] ++ cs) := rfl
    rw [hsplit, readDigits_append, readDigits_append] at hread
    simp only [Option.bind_eq_some_iff, Option.map_eq_some_iff] at hread
    obtain ⟨hi, hhi, -, ⟨lo, hlo, m, hm, -⟩, -⟩ := hread
    have hrest : cs.length = 2 * (len - 1) := by
      simp only [List.length_cons] at hlen
      omega
    obtain ⟨bs, hbs⟩ := ih hm hrest
    simp only [readDigits, List.foldlM_cons, List.foldlM_nil, Option.bind_eq_bind,
      Option.bind_eq_some_iff, Option.map_eq_some_iff] at hhi hlo
    obtain ⟨_, ⟨x, hx, -⟩, -⟩ := hhi
    obtain ⟨_, ⟨y, hy, -⟩, -⟩ := hlo
    exact ⟨UInt8.ofNat (16 * x + y) :: bs, by simp [decode, hx, hy, hbs]⟩

/-- A numeral of twice `len` digits is the number in `len` bytes. -/
theorem decode_of_readDigits {cs : List Char} {n len : Nat} (hread : readDigits 16 cs = some n)
    (hlen : cs.length = 2 * len) : decode cs = some (BigEndian.ofNat len n) := by
  obtain ⟨bs, hbs⟩ := exists_decode hread hlen
  have hvalue := Option.some.inj ((readDigits_of_decode hbs).symm.trans hread)
  have hbytes : bs.length = len := by
    have := length_of_decode hbs
    omega
  rw [hbs, ← hvalue, ← hbytes, BigEndian.ofNat_value]

theorem numeral_of_decode {cs : List Char} {bs : List UInt8} (h : decode cs = some bs)
    (hne : bs ≠ []) : numeral 16 cs = some (BigEndian.value bs) := by
  rw [numeral_of_ne_nil, readDigits_of_decode h]
  rintro rfl
  exact hne (Option.some.inj h).symm

theorem numeral_encode {bs : List UInt8} (hne : bs ≠ []) :
    numeral 16 (encode bs) = some (BigEndian.value bs) :=
  numeral_of_decode (decode_encode bs) hne

end RlyNetworkSdk.Encoding.Hex
