import RlyNetworkSdk.Crypto.Bip39

/-!
# Mnemonics and Data

The two directions of `bip39.c` are inverse to each other. The writer's mnemonic is a list of
words whose indices are the data and its checksum, eleven bits at a time. The reader is followed
word by word over any text.
-/

namespace RlyNetworkSdk.Crypto.Bip39

open Encoding Sha2

/-! ## Words with Single Spaces -/

/-- The words with one space between each two. There is none at either end. -/
def joinWords : List (List UInt8) → List UInt8
  | [] => []
  | [word] => word
  | word :: words => word ++ 0x20 :: joinWords words

theorem joinWords_cons (word : List UInt8) {words : List (List UInt8)} (h : words ≠ []) :
    joinWords (word :: words) = word ++ 0x20 :: joinWords words := by
  cases words with
  | nil => exact absurd rfl h
  | cons => rfl

/-- The last word is not followed by a space. -/
theorem joinWords_append_singleton (words : List (List UInt8)) (word : List UInt8) :
    joinWords (words ++ [word]) = words.flatMap (· ++ [0x20]) ++ word := by
  induction words with
  | nil => rfl
  | cons first words ih =>
    rw [List.cons_append, joinWords_cons _ (by simp), ih]
    simp

theorem mem_joinWords {words : List (List UInt8)} {c : UInt8} (h : c ∈ joinWords words) :
    c = 0x20 ∨ ∃ word ∈ words, c ∈ word := by
  induction words with
  | nil => simp [joinWords] at h
  | cons word words ih =>
    -- one word alone is joined with nothing
    by_cases hnil : words = []
    case pos =>
      subst hnil
      exact .inr ⟨word, List.mem_singleton_self word, h⟩
    case neg =>
      rw [joinWords_cons word hnil, List.mem_append, List.mem_cons] at h
      rcases h with h | rfl | h
      · exact .inr ⟨word, List.mem_cons_self, h⟩
      · exact .inl rfl
      · rcases ih h with rfl | ⟨other, hmem, hc⟩
        · exact .inl rfl
        · exact .inr ⟨other, List.mem_cons_of_mem _ hmem, hc⟩

/-- A word of the list has neither spaces nor zeros. -/
theorem not_mem_of_lt {word : List UInt8} (hword : word ∈ wordlist) {c : UInt8} (hc : c < 97) :
    c ∉ word := by
  intro hmem
  have hle := ((wellFormedWord_of_mem hword).2.2 c hmem).1
  exact absurd hc (UInt8.not_lt.mpr hle)

/-! ## Writing -/

/-- The word at an index. -/
def wordAt (k : Nat) : List UInt8 := wordlist.getD k []

theorem wordAt_mem {k : Nat} (hk : k < 2048) : wordAt k ∈ wordlist := by
  have hlen : k < wordlist.length := by rwa [length_wordlist]
  rw [wordAt, List.getD_eq_getElem _ _ hlen]
  exact List.getElem_mem hlen

theorem idxOf_wordAt {k : Nat} (hk : k < 2048) : wordlist.idxOf (wordAt k) = k := by
  have hlen : k < wordlist.length := by rwa [length_wordlist]
  rw [wordAt, List.getD_eq_getElem _ _ hlen]
  exact nodup_wordlist.idxOf_getElem k hlen

theorem wordAt_idxOf {word : List UInt8} (h : word ∈ wordlist) :
    wordAt (wordlist.idxOf word) = word := by
  rw [wordAt, List.getD_eq_getElem _ _ (List.idxOf_lt_length_of_mem h)]
  exact List.getElem_idxOf (List.idxOf_lt_length_of_mem h)

/-- The first byte of the hash of the data, from which the checksum is taken. -/
def checksumByte (data : List UInt8) : UInt8 := (sha256 data).getD 0 0

/-- The bits of the data and those of the checksum, one for every four bytes, so that their
number is a multiple of eleven. -/
def entropy (data : List UInt8) : List Bool :=
  Bits.ofBytes data ++ (Bits.ofNat 8 (checksumByte data).toNat).take (data.length / 4)

/-- The bits in groups of eleven, each as the place of a word in the list. -/
def indices (data : List UInt8) : List Nat :=
  (words Bits.toNat 11 (data.length * 3 / 4) (entropy data)).toList

theorem bitSet_eq (bits : List UInt8) (n : Nat) :
    bitSet bits n = (Bits.ofBytes bits).getD n false := by
  rw [bitSet, Bits.getD_ofBytes, Nat.one_shiftLeft, Nat.and_two_pow]
  cases h : ((bits.getD (n / 8) 0).toNat.testBit (7 - n % 8)) <;> simp

/-- A word's index is the number of its eleven bits. -/
theorem wordIndex_eq {bits : List UInt8} {i : Nat} (h : 11 * (i + 1) ≤ 8 * bits.length) :
    wordIndex bits i = Bits.toNat (((Bits.ofBytes bits).drop (11 * i)).take 11) := by
  -- the loop looks at eleven bits, one after the other
  have hmap : ((Bits.ofBytes bits).drop (11 * i)).take 11 =
      (List.range 11).map fun j => bitSet bits (i * 11 + j) := by
    apply List.ext_getElem
    · simp only [List.length_take, List.length_drop, Bits.length_ofBytes, List.length_map,
        List.length_range]
      omega
    · intro j h₁ h₂
      have hj : j < 11 := by simpa using h₂
      have hlt : i * 11 + j < (Bits.ofBytes bits).length := by
        rw [Bits.length_ofBytes]
        omega
      rw [List.getElem_take, List.getElem_drop, List.getElem_map, List.getElem_range, bitSet_eq,
        List.getD_eq_getElem _ _ hlt]
      simp only [Nat.mul_comm 11 i]
  rw [hmap, Bits.toNat, List.foldl_map, wordIndex]
  simp only [Nat.shiftLeft_eq, pow_one, Nat.mul_comm]

/-- Behind the data stands the first byte of its hash. -/
theorem checksummed_eq {data : List UInt8} (h : data.length ≤ 32) :
    ∃ tail, checksummed data = data ++ checksumByte data :: tail := by
  -- the digest and one more byte leave room for up to thirty-two bytes of data
  have hlen : (sha256 data ++ [0]).length = 33 := by
    rw [List.length_append, sha256, length_hash]
    rfl
  have hfirst : (sha256 data ++ [0]).getD 0 0 = checksumByte data := by
    have hpos : 0 < (sha256 data).length := by
      rw [sha256, length_hash]
      decide
    rw [List.getD_append _ _ _ _ hpos, checksumByte]
  have hset : data.length < ((sha256 data ++ [0]).set data.length (checksumByte data)).length := by
    rw [List.length_set, hlen]
    omega
  refine ⟨((sha256 data ++ [0]).set data.length (checksumByte data)).drop (data.length + 1), ?_⟩
  -- the byte is moved behind the data before the data are copied over it
  rw [checksummed, sha256Raw_eq]
  simp only [hfirst]
  rw [memcpy, List.take_zero, List.nil_append, Nat.zero_add, List.drop_eq_getElem_cons hset,
    List.getElem_set_self]

theorem badLength_eq_false_iff {len : Nat} :
    badLength len = false ↔ ∃ k, len = 4 * k ∧ 4 ≤ k ∧ k ≤ 8 := by
  simp only [badLength, Bool.or_eq_false_iff, decide_eq_false_iff_not, not_not, not_lt]
  constructor
  · rintro ⟨⟨hmod, hmin⟩, hmax⟩
    exact ⟨len / 4, by omega, by omega, by omega⟩
  · rintro ⟨k, rfl, hmin, hmax⟩
    omega

variable {data : List UInt8} {k : Nat}

theorem length_entropy (hdata : data.length = 4 * k) (hk : k ≤ 8) :
    (entropy data).length = 11 * (3 * k) := by
  have hquarter : data.length / 4 = k := by omega
  rw [entropy, List.length_append, Bits.length_ofBytes, List.length_take, Bits.length_ofNat,
    hquarter, Nat.min_eq_left hk]
  omega

/-- The words are cut from the data and its checksum. -/
theorem entropy_eq_take (hdata : data.length = 4 * k) (hk : k ≤ 8) :
    entropy data = (Bits.ofBytes (checksummed data)).take (11 * (3 * k)) := by
  have hle : data.length ≤ 32 := by omega
  obtain ⟨tail, htail⟩ := checksummed_eq hle
  have hquarter : data.length / 4 = k := by omega
  have hsplit : 11 * (3 * k) = (Bits.ofBytes data).length + k := by
    rw [Bits.length_ofBytes]
    omega
  rw [htail, Bits.ofBytes_append, Bits.ofBytes_cons, hsplit, List.take_length_add_append, entropy,
    hquarter, List.take_append_of_le_length (by rwa [Bits.length_ofNat])]

theorem wordIndex_checksummed (hdata : data.length = 4 * k) (hk : k ≤ 8) {i : Nat}
    (hi : i < 3 * k) : wordIndex (checksummed data) i =
      Bits.toNat (((entropy data).drop (11 * i)).take 11) := by
  have hle : 11 * (i + 1) ≤ 11 * (3 * k) := Nat.mul_le_mul_left 11 hi
  have hbits : 11 * (3 * k) ≤ (Bits.ofBytes (checksummed data)).length := by
    rw [← length_entropy hdata hk, entropy_eq_take hdata hk, List.length_take]
    exact Nat.min_le_right _ _
  rw [wordIndex_eq (by rw [Bits.length_ofBytes] at hbits; omega), entropy_eq_take hdata hk,
    List.drop_take, List.take_take, Nat.min_eq_left (by omega)]

theorem map_wordIndex (hdata : data.length = 4 * k) (hk : k ≤ 8) :
    (List.range (data.length * 3 / 4)).map (wordIndex (checksummed data)) = indices data := by
  have hcount : data.length * 3 / 4 = 3 * k := by omega
  rw [indices, hcount, words, Vector.toList_ofFn]
  apply List.ext_getElem
  · simp
  · intro i h₁ h₂
    have hi : i < 3 * k := by simpa using h₁
    rw [List.getElem_map, List.getElem_range, wordIndex_checksummed hdata hk hi, List.getElem_ofFn]

theorem length_indices : (indices data).length = data.length * 3 / 4 := by simp [indices]

theorem lt_of_mem_indices {index : Nat} (h : index ∈ indices data) : index < 2048 := by
  rw [indices, words, Vector.toList_ofFn, List.mem_ofFn] at h
  obtain ⟨i, rfl⟩ := h
  have hlen : (((entropy data).drop (11 * i.val)).take 11).length ≤ 11 := by
    rw [List.length_take]
    exact Nat.min_le_left _ _
  exact Nat.lt_of_lt_of_le (Bits.toNat_lt _) (Nat.pow_le_pow_right (by decide) hlen)

/-- The words of a mnemonic. -/
def mnemonicWords (data : List UInt8) : List (List UInt8) := (indices data).map wordAt

theorem mem_wordlist_of_mem {word : List UInt8} (h : word ∈ mnemonicWords data) :
    word ∈ wordlist := by
  obtain ⟨index, hindex, rfl⟩ := List.mem_map.mp h
  exact wordAt_mem (lt_of_mem_indices hindex)

/-- All words but the last are followed by a space. -/
theorem foldl_appendWord (bits : List UInt8) {n m : Nat} (hm : m ≤ n) :
    (List.range m).foldl (appendWord bits (n + 1)) [] =
      ((List.range m).map fun i => wordAt (wordIndex bits i)).flatMap (· ++ [0x20]) := by
  induction m with
  | zero => rfl
  | succ m ih =>
    have hlt : m < n + 1 - 1 := by omega
    rw [List.range_succ, List.foldl_append, ih (by omega), List.map_append, List.flatMap_append,
      List.foldl_cons, List.foldl_nil, appendWord, if_pos hlt, List.append_assoc]
    simp [wordAt]

/-- **The mnemonic is the list of these words.** The C code builds it character by character;
here it is a list of words, which the reader's side can be compared with. -/
theorem mnemonicFromData_eq (h : badLength data.length = false) :
    mnemonicFromData data = some (joinWords (mnemonicWords data)) := by
  obtain ⟨k, hdata, hmin, hk⟩ := badLength_eq_false_iff.mp h
  obtain ⟨n, hn⟩ : ∃ n, data.length * 3 / 4 = n + 1 := ⟨data.length * 3 / 4 - 1, by omega⟩
  have hwords : mnemonicWords data =
      (List.range (n + 1)).map fun i => wordAt (wordIndex (checksummed data) i) := by
    rw [mnemonicWords, ← map_wordIndex hdata hk, hn, List.map_map]
    rfl
  have hfold : (List.range (n + 1)).foldl (appendWord (checksummed data) (n + 1)) [] =
      joinWords (mnemonicWords data) ++ [0] := by
    rw [List.range_succ, List.foldl_append, foldl_appendWord _ (Nat.le_refl n), List.foldl_cons,
      List.foldl_nil, appendWord, if_neg (by omega), hwords, List.range_succ, List.map_append,
      List.map_singleton, joinWords_append_singleton]
    rfl
  -- the text ends at its first zero, and no word contains one
  have hnonzero : ∀ c ∈ joinWords (mnemonicWords data), decide (c ≠ 0) = true := by
    intro c hc
    rw [decide_eq_true_eq]
    rintro rfl
    rcases mem_joinWords hc with h0 | ⟨word, hmem, hc⟩
    · exact absurd h0 (by decide)
    · exact not_mem_of_lt (mem_wordlist_of_mem hmem) (by decide) hc
  rw [mnemonicFromData, h, if_neg Bool.false_ne_true]
  simp only [hn]
  rw [hfold, List.takeWhile_append_of_pos hnonzero]
  simp

end RlyNetworkSdk.Crypto.Bip39
