import RlyNetworkSdk.Crypto.Bip39Codec

/-!
# Reading Mnemonics

What the loops of `data_from_mnemonic` do on any text. The text is followed word by word, as the
reader's loop takes it apart, and the array of the data is followed bit by bit. The array is
long enough for every text that passes the count of its spaces, so that the reader never leaves
it.
-/

namespace RlyNetworkSdk.Crypto.Bip39

open Encoding Sha2

/-! ## Words of a Text -/

/-- The words that the reader finds in a text. A space ends a word, and nothing follows a space at
the very end. -/
inductive Splits : List UInt8 → List (List UInt8) → Prop where
  | nil : Splits [] []
  | last {word : List UInt8} (hne : word ≠ []) (hspace : 0x20 ∉ word) : Splits word [word]
  | cons {word rest : List UInt8} {words : List (List UInt8)} (hspace : 0x20 ∉ word)
      (h : Splits rest words) : Splits (word ++ 0x20 :: rest) (word :: words)

/-- Every text has its words. -/
theorem exists_splits (text : List UInt8) : ∃ words, Splits text words := by
  -- by the length of the text: the rest behind a space is shorter
  induction hlen : text.length using Nat.strongRecOn generalizing text with
  | _ n ih =>
    by_cases hspace : (0x20 : UInt8) ∈ text
    case pos =>
      obtain ⟨word, rest, rfl, hword⟩ := List.eq_append_cons_of_mem hspace
      have hlt : rest.length < n := by
        rw [← hlen, List.length_append, List.length_cons]
        omega
      obtain ⟨words, hwords⟩ := ih _ hlt rest rfl
      exact ⟨word :: words, .cons hword hwords⟩
    case neg =>
      -- no space is left: nothing, or one last word
      by_cases hnil : text = []
      case pos => exact ⟨[], hnil ▸ .nil⟩
      case neg => exact ⟨[text], .last hnil hspace⟩

/-- There are at most as many words as the spaces announce. -/
theorem Splits.length_le {text : List UInt8} {words : List (List UInt8)} (h : Splits text words) :
    words.length ≤ text.count 0x20 + 1 := by
  induction h with
  | nil => simp
  | last => simp
  | cons hspace _ ih =>
    rw [List.count_append, List.count_cons_self, List.length_cons]
    omega

/-- If there are as many, single spaces stand between them. -/
theorem Splits.eq_joinWords {text : List UInt8} {words : List (List UInt8)} (h : Splits text words)
    (hcount : words.length = text.count 0x20 + 1) : text = joinWords words := by
  induction h with
  | nil => simp at hcount
  | last => rfl
  | @cons word rest words hspace _ ih =>
    rw [List.count_append, List.count_eq_zero_of_not_mem hspace, List.count_cons_self,
      List.length_cons] at hcount
    have hne : words ≠ [] := by
      rintro rfl
      simp at hcount
    rw [joinWords_cons word hne, ← ih (by omega)]

theorem splits_joinWords {words : List (List UInt8)}
    (hwords : ∀ word ∈ words, word ≠ [] ∧ 0x20 ∉ word) : Splits (joinWords words) words := by
  induction words with
  | nil => exact .nil
  | cons word words ih =>
    obtain ⟨hne, hspace⟩ := hwords word List.mem_cons_self
    by_cases hnil : words = []
    case pos =>
      subst hnil
      exact .last hne hspace
    case neg =>
      rw [joinWords_cons word hnil]
      exact .cons hspace (ih fun other hmem => hwords other (List.mem_cons_of_mem _ hmem))

theorem count_joinWords {words : List (List UInt8)} (hne : words ≠ [])
    (hwords : ∀ word ∈ words, 0x20 ∉ word) : (joinWords words).count 0x20 + 1 = words.length := by
  induction words with
  | nil => exact absurd rfl hne
  | cons word words ih =>
    have hspace := hwords word List.mem_cons_self
    -- the last word is followed by no space
    by_cases hnil : words = []
    case pos =>
      subst hnil
      rw [joinWords, List.count_eq_zero_of_not_mem hspace]
      rfl
    case neg =>
      rw [joinWords_cons word hnil, List.count_append, List.count_eq_zero_of_not_mem hspace,
        List.count_cons_self, Nat.zero_add, List.length_cons,
        ih hnil fun other hmem => hwords other (List.mem_cons_of_mem _ hmem)]

/-! ## One Word -/

/-- What may follow a word in the text: nothing, or a space. -/
def WordEnd (tail : List UInt8) : Prop := tail = [] ∨ ∃ rest, tail = 0x20 :: rest

/-- A word of up to nine characters is copied, and a longer one is rejected. -/
theorem readWord_eq {word : List UInt8} (hspace : 0x20 ∉ word) {tail : List UInt8}
    (htail : WordEnd tail) {read : List UInt8} (hread : read.length ≤ 9) :
    readWord read (word ++ tail) =
      if read.length + word.length ≤ 9 then .ok (read ++ word, tail) else .error .reject := by
  -- `read` is what the buffer holds; the tenth byte of it is for the terminator
  induction word generalizing read with
  | nil =>
    have hlt : read.length < 10 := by omega
    rw [List.length_nil, Nat.add_zero, if_pos hread, List.append_nil, List.nil_append]
    -- the word ends at a space or with the text
    rcases htail with rfl | ⟨rest, rfl⟩
    · rw [readWord, terminate, if_pos hlt]
    · rw [readWord, if_pos rfl, terminate, if_pos hlt]
  | cons c word ih =>
    obtain ⟨hc, hspace⟩ := not_or.mp (mt List.mem_cons.mpr hspace)
    rw [List.cons_append, readWord, if_neg (Ne.symm hc)]
    by_cases hfull : 10 - 1 ≤ read.length
    case pos =>
      -- the buffer is full and the word goes on
      have hlong : ¬ read.length + (c :: word).length ≤ 9 := by
        rw [List.length_cons]
        omega
      rw [if_pos hfull, if_neg hlong]
    case neg =>
      have hnext : (read ++ [c]).length ≤ 9 := by
        rw [List.length_append, List.length_singleton]
        omega
      have hlen : (read ++ [c]).length + word.length = read.length + (c :: word).length := by
        simp only [List.length_append, List.length_cons, List.length_nil]
        omega
      rw [if_neg hfull, if_pos (by omega), ih hspace hnext, hlen, List.append_assoc]
      rfl

/-- The search finds the word's place, if it has one. -/
theorem findWord_eq (word : List UInt8) (entries : List (List UInt8)) (k : Nat) :
    findWord word entries k =
      if word ∈ entries then .ok (k + entries.idxOf word) else .error .reject := by
  induction entries generalizing k with
  | nil => rfl
  | cons entry entries ih =>
    rw [findWord]
    -- the first entry that equals the word is at its index
    by_cases heq : word = entry
    case pos =>
      subst heq
      rw [if_pos rfl, if_pos List.mem_cons_self, List.idxOf_cons_self, Nat.add_zero]
    case neg =>
      have hmem : word ∈ entry :: entries ↔ word ∈ entries := by
        rw [List.mem_cons]
        exact or_iff_right heq
      rw [if_neg heq, ih]
      simp only [hmem, List.idxOf_cons_ne entries (Ne.symm heq)]
      split
      case isTrue => rw [Nat.succ_eq_add_one, Nat.add_assoc, Nat.add_comm 1]
      case isFalse => rfl

/-! ## Bits of the Data -/

/-- The array begins with the bits that were written, and has zeros behind them. The source
clears it first, and only ever sets bits. -/
structure Buffer.Holds (b : Buffer) (written : List Bool) : Prop where
  length : b.data.length = maximumDataLength
  bi : b.bi = written.length
  bits : Bits.ofBytes b.data = written ++ List.replicate (8 * maximumDataLength - written.length) false

theorem holds_zeros : (Buffer.mk (.replicate maximumDataLength 0) 0).Holds [] := by
  refine ⟨List.length_replicate, rfl, ?_⟩
  rw [Bits.ofBytes_replicate_zero]
  rfl

variable {b : Buffer} {written : List Bool}

/-- One bit is written behind the others. -/
theorem Buffer.Holds.writeBit (h : b.Holds written)
    (hfree : written.length < 8 * maximumDataLength) (k ki : Nat) :
    ∃ b', writeBit k b ki = .ok b' ∧ b'.Holds (written ++ [k.testBit (10 - ki)]) := by
  have hlt : b.bi / 8 < b.data.length := by
    rw [h.bi, h.length]
    omega
  -- the zeros behind the bits begin with the place of the next one
  obtain ⟨free, hzeros⟩ : ∃ free, 8 * maximumDataLength - written.length = free + 1 :=
    ⟨8 * maximumDataLength - written.length - 1, by omega⟩
  have hrest : ∀ bit, 8 * maximumDataLength - (written ++ [bit]).length = free := by
    intro bit
    rw [List.length_append, List.length_singleton]
    omega
  have hbi : ∀ bit, b.bi + 1 = (written ++ [bit]).length := by
    intro bit
    rw [h.bi, List.length_append, List.length_singleton]
  have hbits := h.bits
  rw [hzeros, List.replicate_succ] at hbits
  rw [Bip39.writeBit, Nat.one_shiftLeft, Nat.and_two_pow]
  cases hbit : k.testBit (10 - ki) with
  | false =>
    refine ⟨⟨b.data, b.bi + 1⟩, by simp, h.length, hbi _, ?_⟩
    rw [hbits, hrest, List.append_assoc]
    rfl
  | true =>
    refine ⟨⟨b.data.set (b.bi / 8) (Bits.setBit b.data[b.bi / 8] (7 - b.bi % 8)), b.bi + 1⟩,
      by simp [hlt], ?_, hbi _, ?_⟩
    · rw [List.length_set, h.length]
    · rw [Bits.ofBytes_set hlt, hbits, h.bi, hrest, List.append_assoc,
        List.set_append_right _ _ (Nat.le_refl _), Nat.sub_self]
      rfl

/-- The eleven bits of an index are written behind the others. -/
theorem Buffer.Holds.writeWord (h : b.Holds written)
    (hfree : written.length + 11 ≤ 8 * maximumDataLength) (k : Nat) :
    ∃ b', writeWord k b = .ok b' ∧ b'.Holds (written ++ Bits.ofNat 11 k) := by
  -- bit by bit, the most significant one first
  have hprefix : ∀ n ≤ 11, ∃ b', (List.range n).foldlM (Bip39.writeBit k) b = .ok b' ∧
      b'.Holds (written ++ (List.range n).map fun i => k.testBit (11 - 1 - i)) := by
    intro n hn
    induction n with
    | zero => exact ⟨b, rfl, by simpa using h⟩
    | succ n ih =>
      obtain ⟨b₁, hrun, hb₁⟩ := ih (by omega)
      obtain ⟨b₂, hbit, hb₂⟩ := hb₁.writeBit
        (by rw [List.length_append, List.length_map, List.length_range]; omega) k n
      refine ⟨b₂, ?_, ?_⟩
      · rw [List.range_succ, List.foldlM_append, hrun]
        exact (bind_pure _).trans hbit
      · rw [List.range_succ, List.map_append, ← List.append_assoc]
        exact hb₂
  exact hprefix 11 (Nat.le_refl _)

/-! ## All Words -/

/-- The bits that a word of the list stands for, which are those of its place. -/
def wordBits (word : List UInt8) : List Bool := Bits.ofNat 11 (wordlist.idxOf word)

theorem length_flatMap_wordBits (words : List (List UInt8)) :
    (words.flatMap wordBits).length = 11 * words.length :=
  length_flatMap_store (fun _ => Bits.length_ofNat _ _) words

/-- A word of the list is read and written as its bits. -/
theorem readWords_word {word : List UInt8} (hword : word ∈ wordlist) {tail : List UInt8}
    (htail : WordEnd tail) (h : b.Holds written)
    (hfree : written.length + 11 ≤ 8 * maximumDataLength) (turns : Nat) :
    ∃ b', readWords (turns + 1) (word ++ tail) b = readWords turns tail.tail b' ∧
      b'.Holds (written ++ wordBits word) := by
  obtain ⟨hne, hlen, -⟩ := wellFormedWord_of_mem hword
  have hempty : ([] : List UInt8).length ≤ 9 := Nat.zero_le 9
  -- no word of the list has a space, and none is longer than nine
  have hread := readWord_eq (not_mem_of_lt hword (by decide)) htail hempty
  have hshort : ([] : List UInt8).length + word.length ≤ 9 := by
    rw [List.length_nil]
    omega
  rw [if_pos hshort, List.nil_append] at hread
  obtain ⟨b', hwrite, hb'⟩ := h.writeWord hfree (wordlist.idxOf word)
  refine ⟨b', ?_, hb'⟩
  have hsome : word ++ tail ≠ [] := by simp [hne]
  rw [readWords, if_neg hsome, hread]
  change (findWord word wordlist 0 >>= fun k => Bip39.writeWord k b >>= fun b =>
    readWords turns tail.tail b) = _
  -- the search cannot fail for a word of the list
  rw [findWord_eq, if_pos hword, Nat.zero_add]
  change (Bip39.writeWord (wordlist.idxOf word) b >>= fun b => readWords turns tail.tail b) = _
  rw [hwrite]
  rfl

/-- A word that is not in the list ends the reading, however long it is. -/
theorem readWords_unknown {word : List UInt8} (hword : word ∉ wordlist) (hspace : 0x20 ∉ word)
    {tail : List UInt8} (htail : WordEnd tail) (hsome : word ++ tail ≠ []) (b : Buffer)
    (turns : Nat) : readWords (turns + 1) (word ++ tail) b = .error .reject := by
  have hempty : ([] : List UInt8).length ≤ 9 := Nat.zero_le 9
  rw [readWords, if_neg hsome, readWord_eq hspace htail hempty]
  split
  case isTrue =>
    rw [List.nil_append]
    change (findWord word wordlist 0 >>= fun k => writeWord k b >>= fun b =>
      readWords turns tail.tail b) = _
    rw [findWord_eq, if_neg hword]
    rfl
  case isFalse => rfl

/-- The number of bits that a text needs. -/
theorem room_of_cons {words : List (List UInt8)} {word : List UInt8}
    (h : written.length + 11 * (word :: words).length ≤ 8 * maximumDataLength) :
    written.length + 11 ≤ 8 * maximumDataLength ∧
      (written ++ wordBits word).length + 11 * words.length ≤ 8 * maximumDataLength := by
  rw [List.length_cons] at h
  rw [List.length_append, wordBits, Bits.length_ofNat]
  omega

/-- **A text of known words is read as their bits.** The array has room for 24 words and more,
which is what keeps every write inside. -/
theorem readWords_known {text : List UInt8} {words : List (List UInt8)} (hs : Splits text words)
    (hwords : ∀ word ∈ words, word ∈ wordlist) {turns : Nat} (hturns : text.length < turns)
    (h : b.Holds written)
    (hroom : written.length + 11 * words.length ≤ 8 * maximumDataLength) :
    ∃ b', readWords turns text b = .ok b' ∧ b'.Holds (written ++ words.flatMap wordBits) := by
  -- word by word; the buffer has room for the bits of all that are left
  induction hs generalizing turns b written with
  | nil =>
    obtain ⟨turns, rfl⟩ : ∃ n, turns = n + 1 := ⟨turns - 1, by omega⟩
    exact ⟨b, rfl, by simpa using h⟩
  | @last word hne hspace =>
    obtain ⟨turns, rfl⟩ : ∃ n, turns = n + 1 := ⟨turns - 1, by omega⟩
    obtain ⟨b', hrun, hb'⟩ := readWords_word (hwords word (List.mem_singleton_self word))
      (.inl rfl) h (room_of_cons hroom).1 turns
    rw [List.append_nil] at hrun
    refine ⟨b', ?_, by simpa using hb'⟩
    rw [hrun]
    cases turns <;> rfl
  | @cons word rest words hspace _ ih =>
    obtain ⟨turns, rfl⟩ : ∃ n, turns = n + 1 := ⟨turns - 1, by omega⟩
    -- a word and its space shorten the text, so the turns last
    have hrest : rest.length < turns := by
      rw [List.length_append, List.length_cons] at hturns
      omega
    obtain ⟨hfree, hroom'⟩ := room_of_cons hroom
    obtain ⟨b₁, hrun, hb₁⟩ := readWords_word (hwords word List.mem_cons_self)
      (.inr ⟨rest, rfl⟩) h hfree turns
    obtain ⟨b₂, hrun₂, hb₂⟩ := ih (fun other hmem => hwords other (List.mem_cons_of_mem _ hmem))
      hrest hb₁ hroom'
    refine ⟨b₂, by rw [hrun, List.tail_cons, hrun₂], ?_⟩
    rwa [List.append_assoc] at hb₂

/-- **A text with an unknown word is rejected.** The known words in front of it are written
first, so they need the room. -/
theorem readWords_reject {text : List UInt8} {words : List (List UInt8)} (hs : Splits text words)
    (hwords : ∃ word ∈ words, word ∉ wordlist) {turns : Nat} (hturns : text.length < turns)
    (h : b.Holds written)
    (hroom : written.length + 11 * words.length ≤ 8 * maximumDataLength) :
    readWords turns text b = .error .reject := by
  induction hs generalizing turns b written with
  | nil => simp at hwords
  | @last word hne hspace =>
    obtain ⟨turns, rfl⟩ : ∃ n, turns = n + 1 := ⟨turns - 1, by omega⟩
    have hunknown : word ∉ wordlist := by simpa using hwords
    have hrun := readWords_unknown hunknown hspace (.inl rfl) (by simpa using hne) b turns
    rwa [List.append_nil] at hrun
  | @cons word rest words hspace _ ih =>
    obtain ⟨turns, rfl⟩ : ∃ n, turns = n + 1 := ⟨turns - 1, by omega⟩
    by_cases hknown : word ∈ wordlist
    case pos =>
      -- the unknown word is one of the rest
      have hrest : rest.length < turns := by
        rw [List.length_append, List.length_cons] at hturns
        omega
      obtain ⟨hfree, hroom'⟩ := room_of_cons hroom
      obtain ⟨b₁, hrun, hb₁⟩ := readWords_word hknown (.inr ⟨rest, rfl⟩) h hfree turns
      have hothers : ∃ other ∈ words, other ∉ wordlist := by
        obtain ⟨other, hmem, hother⟩ := hwords
        rcases List.mem_cons.mp hmem with rfl | hmem
        · exact absurd hknown hother
        · exact ⟨other, hmem, hother⟩
      rw [hrun, List.tail_cons, ih hothers hrest hb₁ hroom']
    case neg =>
      exact readWords_unknown hknown hspace (.inr ⟨rest, rfl⟩) (by simp) b turns

end RlyNetworkSdk.Crypto.Bip39
