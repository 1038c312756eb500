import RlyNetworkSdk.Crypto.Bip39Reader

/-!
# Valid Mnemonics

The reader of `bip39.c` is the inverse of its writer. It accepts the mnemonics of 16, 24 and 32
bytes, and gives these bytes back. It rejects every other text, among them what the writer makes
of 20 and 28 bytes, and it never leaves its arrays.
-/

namespace RlyNetworkSdk.Crypto.Bip39

open Encoding Sha2

/-! ## Checksums -/

theorem testBit_checksumMask {n : Nat} (hn : n / 3 ≤ 8) (j : Nat) :
    (checksumMask n).testBit j = decide (j ≤ 7 ∧ 7 - j < n / 3) := by
  -- each turn of the loop sets the next lower bit
  have hfold : ∀ k ≤ 8, ((List.range k).foldl (fun mask i => mask ||| 0x80 >>> i) 0).testBit j =
      decide (j ≤ 7 ∧ 7 - j < k) := by
    intro k hk
    induction k with
    | zero => simp
    | succ k ih =>
      have hbit : (0x80 >>> k).testBit j = decide (7 = k + j) := by
        have hpow : 0x80 = 2 ^ 7 := rfl
        rw [hpow, Nat.testBit_shiftRight, Nat.testBit_two_pow]
      rw [List.range_succ, List.foldl_append, List.foldl_cons, List.foldl_nil, Nat.testBit_or,
        ih (by omega), hbit, ← Bool.decide_or]
      apply decide_eq_decide.mpr
      omega
  exact hfold _ hn

/-- Bytes agree under the mask if and only if their first bits are the same. -/
theorem and_checksumMask_eq_iff {n : Nat} (hn : n / 3 ≤ 8) (x y : UInt8) :
    x.toNat &&& checksumMask n = y.toNat &&& checksumMask n ↔
      (Bits.ofNat 8 x.toNat).take (n / 3) = (Bits.ofNat 8 y.toNat).take (n / 3) := by
  constructor
  · intro h
    apply List.ext_getElem
    · simp
    · intro i h₁ h₂
      have hi : i < n / 3 := by
        rw [List.length_take] at h₁
        omega
      -- under the mask the bits can be compared one by one
      have hbit := congrArg (Nat.testBit · (8 - 1 - i)) h
      simp only [Nat.testBit_and, testBit_checksumMask hn] at hbit
      have hmask : decide (8 - 1 - i ≤ 7 ∧ 7 - (8 - 1 - i) < n / 3) = true := by
        rw [decide_eq_true_eq]
        omega
      rw [hmask, Bool.and_true, Bool.and_true] at hbit
      rw [List.getElem_take, List.getElem_take, Bits.getElem_ofNat, Bits.getElem_ofNat, hbit]
  · intro h
    apply Nat.eq_of_testBit_eq
    intro j
    rw [Nat.testBit_and, Nat.testBit_and, testBit_checksumMask hn]
    -- a bit that the mask leaves is among the first ones of the list
    by_cases hmask : j ≤ 7 ∧ 7 - j < n / 3
    case pos =>
      have hget : ∀ z : UInt8, ((Bits.ofNat 8 z.toNat).take (n / 3))[7 - j]? =
          some (z.toNat.testBit j) := by
        intro z
        have hlt : 7 - j < (Bits.ofNat 8 z.toNat).length := by
          rw [Bits.length_ofNat]
          omega
        have hback : 8 - 1 - (7 - j) = j := by omega
        rw [List.getElem?_take_of_lt hmask.2, List.getElem?_eq_getElem hlt, Bits.getElem_ofNat, hback]
      have hbit := congrArg (·[7 - j]?) h
      simp only [hget, Option.some.injEq] at hbit
      rw [hbit]
    case neg => rw [decide_eq_false hmask, Bool.and_false, Bool.and_false]

variable {b : Buffer} {written : List Bool} {k : Nat}

/-- The data are the bits that were written first. -/
theorem Buffer.Holds.take_data (h : b.Holds written) (hlen : written.length = 11 * (3 * k)) :
    Bits.ofBytes (b.data.take (4 * k)) = written.take (32 * k) := by
  have hle : 8 * (4 * k) ≤ written.length := by omega
  rw [Bits.ofBytes_take, h.bits, List.take_append_of_le_length hle, ← Nat.mul_assoc]

/-- The byte behind the data begins with the other bits. -/
theorem Buffer.Holds.checksum_data (h : b.Holds written) (hlen : written.length = 11 * (3 * k))
    (hk : k ≤ 8) (hlt : 4 * k < b.data.length) :
    (Bits.ofNat 8 (b.data[4 * k]).toNat).take k = written.drop (32 * k) := by
  have hbyte := take_drop_flatMap (fun c : UInt8 => Bits.length_ofNat 8 c.toNat) b.data hlt
  have hbits : b.data.flatMap (fun c => Bits.ofNat 8 c.toNat) = written ++
      List.replicate (8 * maximumDataLength - written.length) false := h.bits
  have height : 8 * (4 * k) = 32 * k := by omega
  have hrest : (written.drop (32 * k)).length = k := by
    rw [List.length_drop]
    omega
  rw [← hbyte, hbits, height, List.drop_append_of_le_length (by omega), List.take_take,
    Nat.min_eq_left hk, List.take_append_of_le_length (Nat.le_of_eq hrest.symm),
    List.take_of_length_le (Nat.le_of_eq hrest)]

/-- The comparison of a mnemonic's checksum with that of its data. -/
theorem Buffer.Holds.compareChecksum (h : b.Holds written)
    (hlen : written.length = 11 * (3 * k)) (hk : k ≤ 8) :
    compareChecksum (3 * k) b =
      if (Bits.ofNat 8 (checksumByte (b.data.take (4 * k))).toNat).take k = written.drop (32 * k)
      then .ok (4 * k, b.data) else .error .reject := by
  have hfour : 3 * k * 4 / 3 = 4 * k := by omega
  have hthird : 3 * k / 3 = k := by omega
  -- the byte behind the data is in the buffer, so the read is in bounds
  have hlt : 4 * k < b.data.length := by
    rw [h.length, maximumDataLength]
    omega
  have hmask := and_checksumMask_eq_iff (n := 3 * k) (by omega)
    (checksumByte (b.data.take (4 * k))) b.data[4 * k]
  rw [hthird, h.checksum_data hlen hk hlt] at hmask
  rw [Bip39.compareChecksum]
  simp only [hfour, dif_pos hlt, sha256Raw_eq]
  change (if (checksumByte (b.data.take (4 * k))).toNat &&& checksumMask (3 * k) ≠
    (b.data[4 * k]).toNat &&& checksumMask (3 * k) then _ else _) = _
  -- the two ways to compare agree, by the lemma about the mask
  by_cases hsame : (Bits.ofNat 8 (checksumByte (b.data.take (4 * k))).toNat).take k =
      written.drop (32 * k)
  case pos => rw [if_pos hsame, if_neg (fun hne => hne (hmask.mpr hsame))]
  case neg => rw [if_neg hsame, if_pos (mt hmask.mp hsame)]

/-! ## Both Directions -/

/-- The lengths whose mnemonics are accepted: 12, 18 or 24 words. Data of 20 and 28 bytes are
written, but not read. -/
def ReadableLength (len : Nat) : Prop := len = 16 ∨ len = 24 ∨ len = 32

theorem ReadableLength.exists_eq {len : Nat} (h : ReadableLength len) :
    ∃ k, len = 4 * k ∧ k ≤ 8 ∧ (3 * k = 12 ∨ 3 * k = 18 ∨ 3 * k = 24) := by
  rcases h with rfl | rfl | rfl
  · exact ⟨4, rfl, by decide, .inl rfl⟩
  · exact ⟨6, rfl, by decide, .inr (.inl rfl)⟩
  · exact ⟨8, rfl, by decide, .inr (.inr rfl)⟩

theorem ReadableLength.badLength {len : Nat} (h : ReadableLength len) : badLength len = false := by
  rcases h with rfl | rfl | rfl <;> rfl

variable {data : List UInt8}

/-- The words of a mnemonic stand for the data and its checksum. -/
theorem flatMap_wordBits_mnemonicWords (hdata : data.length = 4 * k) (hk : k ≤ 8) :
    (mnemonicWords data).flatMap wordBits = entropy data := by
  have hbits : (mnemonicWords data).flatMap wordBits = (indices data).flatMap (Bits.ofNat 11) := by
    rw [mnemonicWords, List.flatMap_map]
    refine List.flatMap_congr fun index hindex => ?_
    rw [wordBits, idxOf_wordAt (lt_of_mem_indices hindex)]
  have hcount : data.length * 3 / 4 = 3 * k := by omega
  rw [hbits, indices]
  apply bytes_words (fun bits hlen => Bits.ofNat_toNat hlen)
  rw [length_entropy hdata hk, hcount]

/-- A reading of the words begins with the array of zeros. -/
theorem readWords_zeros {words : List (List UInt8)} {text : List UInt8} (hs : Splits text words)
    (hwords : ∀ word ∈ words, word ∈ wordlist) (hcount : words.length ≤ 24) :
    ∃ b, readWords (text.length + 1) text ⟨.replicate maximumDataLength 0, 0⟩ = .ok b ∧
      b.Holds (words.flatMap wordBits) := by
  have hroom : ([] : List Bool).length + 11 * words.length ≤ 8 * maximumDataLength := by
    rw [List.length_nil, maximumDataLength]
    omega
  simpa using readWords_known hs hwords (Nat.lt_succ_self _) holds_zeros hroom

/-- What the reader does once it has found the right number of known words. -/
theorem dataFromMnemonic_of_words {words : List (List UInt8)} {text : List UInt8}
    (hs : Splits text words) (hwords : ∀ word ∈ words, word ∈ wordlist)
    (hcount : words.length = text.count 0x20 + 1) (hn : words.length = 3 * k) (hk : k ≤ 8)
    (hvalid : 3 * k = 12 ∨ 3 * k = 18 ∨ 3 * k = 24) :
    ∃ b : Buffer, b.Holds (words.flatMap wordBits) ∧
      dataFromMnemonic text = compareChecksum (3 * k) b := by
  obtain ⟨b, hrun, hb⟩ := readWords_zeros hs hwords (by omega)
  refine ⟨b, hb, ?_⟩
  have hspaces : text.count 0x20 + 1 = 3 * k := by omega
  -- each word has left eleven bits, so the count of bits is right
  have hbi : b.bi = 3 * k * 11 := by
    rw [hb.bi, length_flatMap_wordBits, hn, Nat.mul_comm]
  have hguard : ¬ (3 * k ≠ 12 ∧ 3 * k ≠ 18 ∧ 3 * k ≠ 24) := by omega
  rw [dataFromMnemonic, hspaces]
  simp only [if_neg hguard, hrun]
  change (if b.bi ≠ 3 * k * 11 then _ else compareChecksum (3 * k) b) = _
  rw [if_neg (fun hne => hne hbi)]

/-- **What was written is read back.** The array has more bits than the data; those behind them
are the checksum, and not part of the result. -/
theorem dataFromMnemonic_mnemonicWords (h : ReadableLength data.length) :
    ∃ tail, dataFromMnemonic (joinWords (mnemonicWords data)) = .ok (data.length, data ++ tail) := by
  obtain ⟨k, hdata, hk, hvalid⟩ := h.exists_eq
  have hwords : ∀ word ∈ mnemonicWords data, word ∈ wordlist := fun _ => mem_wordlist_of_mem
  have hspace : ∀ word ∈ mnemonicWords data, (0x20 : UInt8) ∉ word := fun word hmem =>
    not_mem_of_lt (hwords word hmem) (by decide)
  have hlen : (mnemonicWords data).length = 3 * k := by
    rw [mnemonicWords, List.length_map, length_indices]
    omega
  have hne : mnemonicWords data ≠ [] := List.ne_nil_of_length_pos (by omega)
  have hs := splits_joinWords fun word hmem =>
    ⟨(wellFormedWord_of_mem (hwords word hmem)).1, hspace word hmem⟩
  obtain ⟨b, hb, hrun⟩ := dataFromMnemonic_of_words hs hwords
    (count_joinWords hne hspace).symm hlen hk hvalid
  rw [flatMap_wordBits_mnemonicWords hdata hk] at hb
  have hentropy := length_entropy hdata hk
  have h32 : (Bits.ofBytes data).length = 32 * k := by
    rw [Bits.length_ofBytes]
    omega
  -- the first bits are the data, and the others their checksum
  have htake : b.data.take (4 * k) = data := by
    apply Bits.ofBytes_inj
    rw [hb.take_data hentropy, entropy, ← h32, List.take_left]
  have hchecksum : (entropy data).drop (32 * k) =
      (Bits.ofNat 8 (checksumByte data).toNat).take k := by
    have hquarter : data.length / 4 = k := by omega
    rw [entropy, ← h32, List.drop_left, hquarter]
  refine ⟨b.data.drop (4 * k), ?_⟩
  rw [hrun, hb.compareChecksum hentropy hk, htake, if_pos hchecksum.symm, hdata]
  conv_rhs => rw [← htake, List.take_append_drop]

/-- Words whose checksum is right are those of the data. -/
theorem mnemonicWords_of_checksum {words : List (List UInt8)}
    (hwords : ∀ word ∈ words, word ∈ wordlist) (hn : words.length = 3 * k) (hk : k ≤ 8)
    {b : Buffer} (hb : b.Holds (words.flatMap wordBits)) (hdata : data = b.data.take (4 * k))
    (hchecksum : (Bits.ofNat 8 (checksumByte data).toNat).take k =
      (words.flatMap wordBits).drop (32 * k)) :
    data.length = 4 * k ∧ mnemonicWords data = words := by
  have hlen : (words.flatMap wordBits).length = 11 * (3 * k) := by
    rw [length_flatMap_wordBits, hn]
  have hfour : data.length = 4 * k := by
    rw [hdata, List.length_take, hb.length, maximumDataLength]
    omega
  have hquarter : data.length / 4 = k := by omega
  have hbits : (mnemonicWords data).flatMap wordBits = words.flatMap wordBits := by
    rw [flatMap_wordBits_mnemonicWords hfour hk, entropy, hquarter, hchecksum, hdata,
      hb.take_data hlen, List.take_append_drop]
  -- the bits tell the indices, and the indices tell the words
  have hindices : (mnemonicWords data).map wordlist.idxOf = words.map wordlist.idxOf := by
    have hlt : ∀ ws : List (List UInt8), (∀ word ∈ ws, word ∈ wordlist) →
        ∀ index ∈ ws.map wordlist.idxOf, index < 2 ^ 11 := by
      intro ws hws index hindex
      obtain ⟨word, hmem, rfl⟩ := List.mem_map.mp hindex
      have hidx := List.idxOf_lt_length_of_mem (hws word hmem)
      rwa [length_wordlist] at hidx
    apply Bits.flatMap_ofNat_inj (by decide) (hlt _ fun _ => mem_wordlist_of_mem) (hlt _ hwords)
    rwa [List.flatMap_map, List.flatMap_map]
  have hback : ∀ ws : List (List UInt8), (∀ word ∈ ws, word ∈ wordlist) →
      (ws.map wordlist.idxOf).map wordAt = ws := by
    intro ws hws
    rw [List.map_map]
    conv_rhs => rw [← List.map_id ws]
    exact List.map_congr_left fun word hmem => wordAt_idxOf (hws word hmem)
  refine ⟨hfour, ?_⟩
  rw [← hback _ fun _ => mem_wordlist_of_mem, hindices, hback _ hwords]

/-- **A text is rejected, or it is the mnemonic of the data that are read.** No two texts stand
for the same data, as there is just one way to write them. -/
theorem reject_or_written (text : List UInt8) :
    dataFromMnemonic text = .error .reject ∨
      ∃ data tail, ReadableLength data.length ∧ mnemonicFromData data = some text ∧
        dataFromMnemonic text = .ok (data.length, data ++ tail) := by
  by_cases hguard : text.count 0x20 + 1 ≠ 12 ∧ text.count 0x20 + 1 ≠ 18 ∧ text.count 0x20 + 1 ≠ 24
  case pos => exact .inl (if_pos hguard)
  obtain ⟨words, hs⟩ := exists_splits text
  have hle := hs.length_le
  by_cases hwords : ∀ word ∈ words, word ∈ wordlist
  case neg =>
    push Not at hwords
    have hroom : ([] : List Bool).length + 11 * words.length ≤ 8 * maximumDataLength := by
      rw [List.length_nil, maximumDataLength]
      omega
    have hrun := readWords_reject hs hwords (Nat.lt_succ_self text.length) holds_zeros hroom
    left
    rw [dataFromMnemonic]
    simp only [if_neg hguard, hrun]
    rfl
  by_cases hcount : words.length = text.count 0x20 + 1
  case neg =>
    -- a trailing space announces a word that is not there
    obtain ⟨b, hrun, hb⟩ := readWords_zeros hs hwords (by omega)
    left
    rw [dataFromMnemonic]
    simp only [if_neg hguard, hrun]
    change (if b.bi ≠ (text.count 0x20 + 1) * 11 then _ else _) = _
    rw [if_pos]
    rw [hb.bi, length_flatMap_wordBits]
    omega
  obtain ⟨k, hn, hk, hvalid⟩ : ∃ k, words.length = 3 * k ∧ k ≤ 8 ∧
      (3 * k = 12 ∨ 3 * k = 18 ∨ 3 * k = 24) := ⟨words.length / 3, by omega, by omega, by omega⟩
  obtain ⟨b, hb, hrun⟩ := dataFromMnemonic_of_words hs hwords hcount hn hk hvalid
  have hlen : (words.flatMap wordBits).length = 11 * (3 * k) := by
    rw [length_flatMap_wordBits, hn]
  rw [hrun, hb.compareChecksum hlen hk]
  split
  case isFalse => exact .inl rfl
  case isTrue hchecksum =>
    obtain ⟨hdata, hsame⟩ := mnemonicWords_of_checksum hwords hn hk hb rfl hchecksum
    have hreadable : ReadableLength (b.data.take (4 * k)).length := by
      rw [hdata, ReadableLength]
      omega
    refine .inr ⟨b.data.take (4 * k), b.data.drop (4 * k), hreadable, ?_, ?_⟩
    · rw [mnemonicFromData_eq hreadable.badLength, hsame, ← hs.eq_joinWords hcount]
    · rw [hdata, List.take_append_drop]

/-- **The reader never leaves its arrays**, whatever text it is given: neither the buffer of a
word, nor the data. -/
theorem dataFromMnemonic_ne_fault (text : List UInt8) : dataFromMnemonic text ≠ .error .fault := by
  rcases reject_or_written text with hreject | ⟨data, tail, -, -, hok⟩
  · rw [hreject]
    decide
  · rw [hok]
    simp

theorem dataFromMnemonic_of_written {text : List UInt8} (h : ReadableLength data.length)
    (hwritten : mnemonicFromData data = some text) :
    ∃ tail, dataFromMnemonic text = .ok (data.length, data ++ tail) := by
  rw [mnemonicFromData_eq h.badLength, Option.some.injEq] at hwritten
  rw [← hwritten]
  exact dataFromMnemonic_mnemonicWords h

/-- The data of a mnemonic are determined by it. -/
theorem written_inj {data' text : List UInt8} (h : ReadableLength data.length)
    (h' : ReadableLength data'.length) (hwritten : mnemonicFromData data = some text)
    (hwritten' : mnemonicFromData data' = some text) : data = data' := by
  obtain ⟨tail, hread⟩ := dataFromMnemonic_of_written h hwritten
  obtain ⟨tail', hread'⟩ := dataFromMnemonic_of_written h' hwritten'
  rw [hread', Except.ok.injEq, Prod.mk.injEq] at hread
  exact (List.append_inj hread.2 hread.1).1.symm

theorem mnemonicCheck_iff_written (text : List UInt8) :
    mnemonicCheck text = true ↔
      ∃ data, ReadableLength data.length ∧ mnemonicFromData data = some text := by
  constructor
  · intro hcheck
    -- the reader rejects, or has found data that are written as this text
    rcases reject_or_written text with hreject | ⟨data, tail, hlen, hwritten, -⟩
    · rw [mnemonicCheck, hreject] at hcheck
      exact absurd hcheck Bool.false_ne_true
    · exact ⟨data, hlen, hwritten⟩
  · rintro ⟨data, hlen, hwritten⟩
    obtain ⟨tail, hread⟩ := dataFromMnemonic_of_written hlen hwritten
    have hpos : 0 < data.length := by
      rcases hlen with h | h | h <;> omega
    rw [mnemonicCheck, hread]
    exact decide_eq_true hpos

/-- **A text passes the check if and only if it is the mnemonic of some data**, and then of no
other. -/
theorem mnemonicCheck_iff (text : List UInt8) :
    mnemonicCheck text = true ↔
      ∃! data, ReadableLength data.length ∧ mnemonicFromData data = some text := by
  rw [mnemonicCheck_iff_written]
  constructor
  · rintro ⟨data, hlen, hwritten⟩
    exact ⟨data, ⟨hlen, hwritten⟩, fun data' h => written_inj h.1 hlen h.2 hwritten⟩
  · rintro ⟨data, h, -⟩
    exact ⟨data, h⟩

/-- Only data of an allowed length are written. -/
theorem badLength_of_written {text : List UInt8} (h : mnemonicFromData data = some text) :
    badLength data.length = false := by
  cases hbad : badLength data.length with
  | false => rfl
  | true =>
    rw [mnemonicFromData, hbad, if_pos rfl] at h
    simp at h

/-- The spaces of a mnemonic tell the length of its data. -/
theorem count_of_written {text : List UInt8} (h : mnemonicFromData data = some text) :
    text.count 0x20 + 1 = data.length * 3 / 4 := by
  have hbad := badLength_of_written h
  obtain ⟨k, hdata, hmin, -⟩ := badLength_eq_false_iff.mp hbad
  rw [mnemonicFromData_eq hbad, Option.some.injEq] at h
  have hlen : (mnemonicWords data).length = data.length * 3 / 4 := by
    rw [mnemonicWords, List.length_map, length_indices]
  have hne : mnemonicWords data ≠ [] := List.ne_nil_of_length_pos (by omega)
  rw [← h, count_joinWords hne fun word hmem =>
    not_mem_of_lt (mem_wordlist_of_mem hmem) (by decide), hlen]

/-- **Data of 16, 24 and 32 bytes are read back from their mnemonic**, while the mnemonics of the
other lengths that can be written do not pass the check. -/
theorem written_then_read (data text : List UInt8) (h : mnemonicFromData data = some text) :
    (ReadableLength data.length →
      ∃ tail, dataFromMnemonic text = .ok (data.length, data ++ tail)) ∧
    (mnemonicCheck text = true ↔ ReadableLength data.length) := by
  refine ⟨fun hlen => dataFromMnemonic_of_written hlen h, ?_, ?_⟩
  · intro hcheck
    obtain ⟨data', hlen', hwritten'⟩ := (mnemonicCheck_iff_written text).mp hcheck
    obtain ⟨k, hdata, -, -⟩ := badLength_eq_false_iff.mp (badLength_of_written h)
    have hcount := count_of_written h
    have hcount' := count_of_written hwritten'
    -- as many words as the other data, so as many bytes
    have hsame : data.length = data'.length := by
      rcases hlen' with h16 | h24 | h32 <;> omega
    rwa [hsame]
  · intro hlen
    exact (mnemonicCheck_iff_written text).mpr ⟨data, hlen, h⟩

theorem written_then_read_zeros :
    ∃ text tail, mnemonicFromData (List.replicate 16 0) = some text ∧
      dataFromMnemonic text = .ok (16, List.replicate 16 0 ++ tail) := by
  obtain ⟨text, htext⟩ : ∃ text, mnemonicFromData (List.replicate 16 0) = some text :=
    ⟨_, rfl⟩
  obtain ⟨tail, htail⟩ := (written_then_read (List.replicate 16 0) text htext).1 (Or.inl rfl)
  exact ⟨text, tail, htext, htail⟩

end RlyNetworkSdk.Crypto.Bip39
