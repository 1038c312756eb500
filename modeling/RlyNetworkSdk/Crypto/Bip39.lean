import RlyNetworkSdk.Crypto.Bip39English
import RlyNetworkSdk.Crypto.Sha2
import RlyNetworkSdk.Encoding.Bits

/-!
# Mnemonics

`bip39.c` writes random data as words of eleven bits each, with a checksum in the last one, and
reads such a mnemonic back. The reader walks over a C string of any content with fixed arrays
behind it. It stays within them, and it accepts exactly the mnemonics that the writer makes of
16, 24 or 32 bytes.
-/

namespace RlyNetworkSdk.Crypto.Bip39

open Encoding Sha2

/-! ## Writing -/

/-- `(bits[n / 8] & (1 << (7 - (n % 8)))) > 0`, the bits of a byte being counted from the
highest one. -/
def bitSet (bits : List UInt8) (n : Nat) : Bool :=
  0 < (bits.getD (n / 8) 0).toNat &&& 1 <<< (7 - n % 8)

/-- Word `i` of the mnemonic: eleven bits of the data, as a number below 2048. -/
def wordIndex (bits : List UInt8) (i : Nat) : Nat :=
  (List.range 11).foldl (fun idx j => idx <<< 1 + (bitSet bits (i * 11 + j)).toNat) 0

/-- The array `bits`: the hash of the data, whose first byte is kept behind the data that is
copied over it. The array has one byte more than the hash. -/
def checksummed (data : List UInt8) : List UInt8 :=
  let bits := sha256Raw data ++ [0]
  memcpy (bits.set data.length (bits.getD 0 0)) 0 data

/-- The lengths that are refused. The others are 16, 20, 24, 28 and 32 bytes. -/
def badLength (len : Nat) : Bool := len % 4 ≠ 0 || len < 16 || len > 32

/-- One word is copied to the end of the text, with a space behind it, or the terminating zero
behind the last one. -/
def appendWord (bits : List UInt8) (mlen : Nat) (mnemo : List UInt8) (i : Nat) : List UInt8 :=
  mnemo ++ wordlist.getD (wordIndex bits i) [] ++ [if i < mlen - 1 then 0x20 else 0]

/-- The text of the mnemonic, up to the first zero; no value where the length is refused. The
first byte of the hash stands behind the data, and the last word uses its upper bits. -/
def mnemonicFromData (data : List UInt8) : Option (List UInt8) :=
  if badLength data.length then none
  else
    let bits := checksummed data
    let mlen := data.length * 3 / 4
    some (((List.range mlen).foldl (appendWord bits mlen) []).takeWhile (· ≠ 0))

/-! ## Reading -/

/-- Why the reader stops early: it may reject the text, or fall into what C leaves undefined. -/
inductive Stop where
  /-- An access outside an array, which is undefined. -/
  | fault
  /-- `return 0` -/
  | reject
  deriving DecidableEq

/-- `current_word[j] = 0`, in an array of ten. The source checks the length while it copies, so
that the zero has a place. -/
def terminate (word rest : List UInt8) : Except Stop (List UInt8 × List UInt8) :=
  if word.length < 10 then .ok (word, rest) else .error .fault

/-- The characters up to a space or the end are copied to `current_word`. A word of more than
nine characters is rejected on the way. -/
def readWord (word : List UInt8) : List UInt8 → Except Stop (List UInt8 × List UInt8)
  | [] => terminate word []
  | c :: rest =>
    if c = 0x20 then terminate word (c :: rest)
    else if 10 - 1 ≤ word.length then .error .reject
    else if word.length < 10 then readWord (word ++ [c]) rest
    else .error .fault

/-- The search through the word list, which ends at its zero. A word that is not found rejects
the text. -/
def findWord (word : List UInt8) : List (List UInt8) → Nat → Except Stop Nat
  | [], _ => .error .reject
  | entry :: entries, k => if word = entry then .ok k else findWord word entries (k + 1)

/-- The array `data` and the number of bits in it. The two are one state, which every word of
the text extends. -/
structure Buffer where
  data : List UInt8
  bi : Nat

/-- Bit `ki` of the index `k` is written. Only a bit that is set touches the array, and a place
outside of it is a fault. -/
def writeBit (k : Nat) (b : Buffer) (ki : Nat) : Except Stop Buffer :=
  if k &&& 1 <<< (10 - ki) ≠ 0 then
    if h : b.bi / 8 < b.data.length then
      .ok ⟨b.data.set (b.bi / 8) (Bits.setBit b.data[b.bi / 8] (7 - b.bi % 8)), b.bi + 1⟩
    else .error .fault
  else .ok ⟨b.data, b.bi + 1⟩

def writeWord (k : Nat) (b : Buffer) : Except Stop Buffer := (List.range 11).foldlM (writeBit k) b

/-- The loop over the words. Every turn takes at least one character, so the length of the text
bounds the number of turns. -/
def readWords : Nat → List UInt8 → Buffer → Except Stop Buffer
  | 0, _, b => .ok b
  | turns + 1, mnemonic, b =>
    if mnemonic = [] then .ok b
    else do
      let (word, rest) ← readWord [] mnemonic
      let k ← findWord word wordlist 0
      let b ← writeWord k b
      readWords turns rest.tail b

/-- The first bits of a byte: `mask |= (0x80 >> i)`, one for every three words. -/
def checksumMask (n : Nat) : Nat := (List.range (n / 3)).foldl (fun mask i => mask ||| 0x80 >>> i) 0

/-- `MAXIMUM_BIP39_DATA_LENGTH` -/
def maximumDataLength : Nat := 1 + 512 / 8

/-- The first bits of the hash are compared with those behind the data. The array is read at the
place behind the data, which must exist. -/
def compareChecksum (n : Nat) (b : Buffer) : Except Stop (Nat × List UInt8) :=
  if h : n * 4 / 3 < b.data.length then
    let expectedChecksum := b.data[n * 4 / 3]
    let computedChecksum := sha256Raw (b.data.take (n * 4 / 3))
    let mask := checksumMask n
    if (computedChecksum.getD 0 0).toNat &&& mask ≠ expectedChecksum.toNat &&& mask then
      .error .reject
    else .ok (n * 4 / 3, b.data)
  else .error .fault

/-- `data_from_mnemonic`: the length and the array of the data, for a text without zeros. It
accepts 12, 18 or 24 words, fewer lengths than are written. -/
def dataFromMnemonic (mnemonic : List UInt8) : Except Stop (Nat × List UInt8) :=
  let n := mnemonic.count 0x20 + 1
  if n ≠ 12 ∧ n ≠ 18 ∧ n ≠ 24 then .error .reject
  else do
    let b ← readWords (mnemonic.length + 1) mnemonic ⟨.replicate maximumDataLength 0, 0⟩
    if b.bi ≠ n * 11 then .error .reject else compareChecksum n b

def mnemonicCheck (mnemonic : List UInt8) : Bool :=
  match dataFromMnemonic mnemonic with
  | .ok (length, _) => 0 < length
  | .error _ => false

end RlyNetworkSdk.Crypto.Bip39
