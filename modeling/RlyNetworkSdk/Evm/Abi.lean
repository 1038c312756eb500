import RlyNetworkSdk.Encoding.BigEndian

/-!
# The Contract ABI

The standard encoding of call arguments: a tuple is laid out as one head for each component
followed by the tails. A static component is its own head; the head of a dynamic component
is the offset of its tail, counted from the start of the tuple.

Types are kept to what decides the layout: a 32-byte word, a byte string, a tuple.

## Results

- `decode_encode`: a value is read back from its encoding, whatever bytes follow it.
- `length_encode_le`: an encoding does not get shorter when byte strings in it get longer.
-/

namespace RlyNetworkSdk.Evm.Abi

open Encoding

/-! ## Words -/

/-- A 32-byte word. -/
abbrev Word := BitVec 256

/-- The bytes of a word. -/
@[irreducible] def Word.bytes (w : Word) : List UInt8 := BigEndian.ofNat 32 w.toNat

/-- The word at the start of some data. -/
def readWord (data : List UInt8) : Option Word :=
  if 32 ≤ data.length then some (BitVec.ofNat 256 (BigEndian.value (data.take 32))) else none

@[simp] theorem Word.length_bytes (w : Word) : w.bytes.length = 32 := by
  rw [Word.bytes, BigEndian.length_ofNat]

@[simp] theorem Word.value_bytes (w : Word) : BigEndian.value w.bytes = w.toNat := by
  rw [Word.bytes, BigEndian.value_ofNat_of_lt (by simpa using w.isLt)]

theorem Word.bytes_injective : Function.Injective Word.bytes := by
  intro v w h
  have hvalue := congrArg BigEndian.value h
  rw [value_bytes, value_bytes] at hvalue
  exact BitVec.eq_of_toNat_eq hvalue

@[simp] theorem readWord_append (w : Word) (rest : List UInt8) :
    readWord (w.bytes ++ rest) = some w := by
  have hlen : 32 ≤ (w.bytes ++ rest).length := by simp
  rw [readWord, if_pos hlen, List.take_left' w.length_bytes, Word.value_bytes]
  simp

/-! ## Values and types -/

/-- A value that is encoded: numbers and addresses are words, texts and byte strings are bytes. -/
inductive Value where
  | word (w : Word)
  | bytes (bs : List UInt8)
  | tuple (vs : List Value)

/-- What a decoder has to know of a type to find its way. -/
inductive Ty where
  | word
  | bytes
  | tuple (ts : List Ty)

mutual

/-- The value is of the type. -/
def Value.HasType : Value → Ty → Prop
  | .word _, .word => True
  | .bytes _, .bytes => True
  | .tuple vs, .tuple ts => HasTypes vs ts
  | _, _ => False

def HasTypes : List Value → List Ty → Prop
  | [], [] => True
  | v :: vs, t :: ts => v.HasType t ∧ HasTypes vs ts
  | _, _ => False

end

mutual

/-- A dynamic type is encoded in the tail. A tuple is dynamic if one of its components is. -/
def Ty.isDynamic : Ty → Bool
  | .word => false
  | .bytes => true
  | .tuple ts => anyDynamic ts

def anyDynamic : List Ty → Bool
  | [] => false
  | t :: ts => t.isDynamic || anyDynamic ts

end

mutual

/-- The bytes that a static component takes in the head. -/
def Ty.staticSize : Ty → Nat
  | .word => 32
  | .bytes => 32
  | .tuple ts => staticSizes ts

def staticSizes : List Ty → Nat
  | [] => 0
  | t :: ts => t.staticSize + staticSizes ts

end

/-! ## Encoding -/

/-- The encoding of one component, and where it goes. A static one is its own head, a dynamic
one is in the tail, with its offset in the head. -/
structure Part where
  isDynamic : Bool
  body : List UInt8

/-- The bytes that a component takes in the head. -/
def Part.headSize (p : Part) : Nat := if p.isDynamic then 32 else p.body.length

/-- The bytes that a component takes in the tail. -/
def Part.tail (p : Part) : List UInt8 := if p.isDynamic then p.body else []

/-- The head of a component whose tail, if it has one, is at `offset`. -/
def Part.head (offset : Nat) (p : Part) : List UInt8 :=
  if p.isDynamic then Word.bytes (BitVec.ofNat 256 offset) else p.body

def headSizes (ps : List Part) : Nat := (ps.map Part.headSize).sum

def tails (ps : List Part) : List UInt8 := ps.flatMap Part.tail

/-- The heads, with the next tail at `offset`. -/
def heads (offset : Nat) : List Part → List UInt8
  | [] => []
  | p :: ps => p.head offset ++ heads (offset + p.tail.length) ps

/-- The layout of a tuple: all heads first, then the tails in the same order. -/
def layout (ps : List Part) : List UInt8 := heads (headSizes ps) ps ++ tails ps

/-- Zero bytes up to a multiple of 32. -/
def padding (n : Nat) : List UInt8 := List.replicate ((32 - n % 32) % 32) 0

mutual

def Value.part : Value → Part
  | .word w => ⟨false, w.bytes⟩
  | .bytes bs => ⟨true, Word.bytes (BitVec.ofNat 256 bs.length) ++ bs ++ padding bs.length⟩
  | .tuple vs => ⟨(parts vs).any Part.isDynamic, layout (parts vs)⟩

def parts : List Value → List Part
  | [] => []
  | v :: vs => v.part :: parts vs

end

/-- The encoding of a value. -/
def Value.encode (v : Value) : List UInt8 := v.part.body

/-! ## Decoding -/

mutual

/-- Read a value of the type at the start of some data. -/
def decode : Ty → List UInt8 → Option Value
  | .word, data => (readWord data).map .word
  | .bytes, data => do
    let len ← readWord data
    let bs := (data.drop 32).take len.toNat
    if bs.length = len.toNat then some (.bytes bs) else none
  | .tuple ts, data => (decodeAll ts data data).map .tuple

/-- Read the components of a tuple that starts at `base`, with their heads at `cursor`. Offsets
are counted from the start of the tuple. -/
def decodeAll : List Ty → List UInt8 → List UInt8 → Option (List Value)
  | [], _, _ => some []
  | t :: ts, base, cursor => do
    if t.isDynamic then
      let offset ← readWord cursor
      let v ← decode t (base.drop offset.toNat)
      let vs ← decodeAll ts base (cursor.drop 32)
      return v :: vs
    else
      let v ← decode t cursor
      let vs ← decodeAll ts base (cursor.drop t.staticSize)
      return v :: vs

end

/-! ## The layout of a tuple -/

@[simp] theorem headSizes_cons (p : Part) (ps : List Part) :
    headSizes (p :: ps) = p.headSize + headSizes ps := rfl

@[simp] theorem tails_cons (p : Part) (ps : List Part) :
    tails (p :: ps) = p.tail ++ tails ps := rfl

theorem Part.length_head (p : Part) (offset : Nat) : (p.head offset).length = p.headSize := by
  unfold Part.head Part.headSize
  cases p.isDynamic <;> simp

theorem length_heads (ps : List Part) (offset : Nat) :
    (heads offset ps).length = headSizes ps := by
  induction ps generalizing offset with
  | nil => rfl
  | cons p ps ih => rw [heads, List.length_append, p.length_head, ih, headSizes_cons]

theorem length_layout (ps : List Part) :
    (layout ps).length = headSizes ps + (tails ps).length := by
  rw [layout, List.length_append, length_heads]

/-! ## Types tell the layout -/

mutual

theorem isDynamic_part : ∀ (v : Value) (t : Ty), v.HasType t → v.part.isDynamic = t.isDynamic
  | .word _, .word, _ => rfl
  | .bytes _, .bytes, _ => rfl
  | .tuple vs, .tuple ts, h => any_isDynamic_parts vs ts h

theorem any_isDynamic_parts : ∀ (vs : List Value) (ts : List Ty), HasTypes vs ts →
    (parts vs).any Part.isDynamic = anyDynamic ts
  | [], [], _ => rfl
  | v :: vs, t :: ts, h => by
    rw [parts, List.any_cons, isDynamic_part v t h.1, any_isDynamic_parts vs ts h.2, anyDynamic]

end

mutual

/-- A static component takes the bytes that its type says. -/
theorem length_encode_static : ∀ (v : Value) (t : Ty), v.HasType t → t.isDynamic = false →
    v.encode.length = t.staticSize
  | .word w, .word, _, _ => w.length_bytes
  | .bytes _, .bytes, _, hs => nomatch hs
  | .tuple vs, .tuple ts, h, hs => by
    obtain ⟨hheads, htails⟩ := sizes_static vs ts h hs
    change (layout (parts vs)).length = staticSizes ts
    rw [length_layout, hheads, htails]
    rfl

theorem sizes_static : ∀ (vs : List Value) (ts : List Ty), HasTypes vs ts →
    anyDynamic ts = false → headSizes (parts vs) = staticSizes ts ∧ tails (parts vs) = []
  | [], [], _, _ => ⟨rfl, rfl⟩
  | v :: vs, t :: ts, h, hs => by
    obtain ⟨ht, hts⟩ := Bool.or_eq_false_iff.mp hs
    obtain ⟨hheads, htails⟩ := sizes_static vs ts h.2 hts
    have hstatic : v.part.isDynamic = false := by rw [isDynamic_part v t h.1, ht]
    have hlen : v.part.body.length = t.staticSize := length_encode_static v t h.1 ht
    constructor
    · rw [parts, headSizes_cons, hheads, Part.headSize, hstatic, staticSizes, ← hlen]
      rfl
    · rw [parts, tails_cons, htails, Part.tail, hstatic]
      rfl

end

/-! ## Reading back -/

theorem readWord_ofNat {n : Nat} (hn : n < 2 ^ 256) (rest : List UInt8) :
    readWord (Word.bytes (BitVec.ofNat 256 n) ++ rest) = some (BitVec.ofNat 256 n) ∧
      (BitVec.ofNat 256 n).toNat = n :=
  ⟨readWord_append _ _, by rw [BitVec.toNat_ofNat, Nat.mod_eq_of_lt hn]⟩

/-- A value of the type is read back from its encoding, whatever follows it. -/
def Reads (t : Ty) (v : Value) : Prop :=
  v.encode.length < 2 ^ 256 → ∀ rest, decode t (v.encode ++ rest) = some v

/-- The same for the components of a tuple: `offset` is where the next tail is, counted from
`base`, and the heads are at `cursor`. -/
def ReadsAll (ts : List Ty) (vs : List Value) : Prop :=
  ∀ (offset : Nat) (base cursor : List UInt8) {x y : List UInt8},
    cursor = heads offset (parts vs) ++ x → base.drop offset = tails (parts vs) ++ y →
    headSizes (parts vs) < 2 ^ 256 → offset + (tails (parts vs)).length < 2 ^ 256 →
    decodeAll ts base cursor = some vs

theorem reads_word (w : Word) : Reads .word (.word w) := by
  intro _ rest
  rw [decode, Value.encode, Value.part, readWord_append, Option.map_some]

theorem reads_bytes (bs : List UInt8) : Reads .bytes (.bytes bs) := by
  intro hlen rest
  have hbs : bs.length < 2 ^ 256 := by
    refine lt_of_le_of_lt ?_ hlen
    simp only [Value.encode, Value.part, List.length_append]
    omega
  obtain ⟨hread, hnat⟩ := readWord_ofNat hbs (bs ++ (padding bs.length ++ rest))
  have hdata : Value.encode (.bytes bs) ++ rest =
      Word.bytes (BitVec.ofNat 256 bs.length) ++ (bs ++ (padding bs.length ++ rest)) := by
    simp only [Value.encode, Value.part, List.append_assoc]
  rw [hdata, decode, hread, Option.bind_eq_bind, Option.bind_some, hnat,
    List.drop_left' (Word.length_bytes _), List.take_left' rfl, if_pos rfl]

theorem reads_tuple {ts : List Ty} {vs : List Value} (h : ReadsAll ts vs) :
    Reads (.tuple ts) (.tuple vs) := by
  intro hlen rest
  have hbound : headSizes (parts vs) + (tails (parts vs)).length < 2 ^ 256 := by
    rw [← length_layout]
    exact hlen
  have hdata : Value.encode (.tuple vs) ++ rest =
      heads (headSizes (parts vs)) (parts vs) ++ (tails (parts vs) ++ rest) := by
    simp only [Value.encode, Value.part, layout, List.append_assoc]
  -- the heads end where the tails begin
  have htails : (Value.encode (.tuple vs) ++ rest).drop (headSizes (parts vs)) =
      tails (parts vs) ++ rest := by
    rw [hdata, List.drop_left' (length_heads _ _)]
  rw [decode, h _ _ _ hdata htails (by omega) hbound]
  rfl

/-- A dynamic component: the head is the offset of the tail. -/
theorem readsAll_cons_dynamic {t : Ty} {v : Value} {ts : List Ty} {vs : List Value}
    (hdyn : v.part.isDynamic = true) (ht : t.isDynamic = true) (hv : Reads t v)
    (hvs : ReadsAll ts vs) : ReadsAll (t :: ts) (v :: vs) := by
  intro offset base cursor x y hcursor hbase hheads htails
  have hhead : v.part.head offset = Word.bytes (BitVec.ofNat 256 offset) := by
    rw [Part.head, hdyn, if_pos rfl]
  have htail : v.part.tail = v.encode := by
    rw [Part.tail, hdyn, if_pos rfl]
    rfl
  rw [parts, heads, List.append_assoc, hhead, htail] at hcursor
  rw [parts, tails_cons, htail, List.append_assoc] at hbase
  rw [parts, tails_cons, htail, List.length_append] at htails
  rw [parts, headSizes_cons] at hheads
  -- the offset is read from the head, as it fits in a word
  obtain ⟨hread, hnat⟩ := readWord_ofNat (n := offset) (by omega)
    (heads (offset + v.encode.length) (parts vs) ++ x)
  have hfirst : decode t (base.drop offset) = some v := by
    rw [hbase]
    exact hv (by omega) _
  -- the other tails stand behind this one
  have hnext : base.drop (offset + v.encode.length) = tails (parts vs) ++ y := by
    rw [← List.drop_drop, hbase, List.drop_left' rfl]
  have hrest := hvs (offset + v.encode.length) base (cursor.drop 32)
    (by rw [hcursor, List.drop_left' (Word.length_bytes _)]) hnext (by omega) (by omega)
  rw [decodeAll, if_pos ht, hrest, hcursor, hread, Option.bind_eq_bind, Option.bind_some, hnat,
    hfirst]
  rfl

/-- A static component is its own head. -/
theorem readsAll_cons_static {t : Ty} {v : Value} {ts : List Ty} {vs : List Value}
    (hdyn : v.part.isDynamic = false) (ht : t.isDynamic = false)
    (hsize : v.encode.length = t.staticSize) (hv : Reads t v) (hvs : ReadsAll ts vs) :
    ReadsAll (t :: ts) (v :: vs) := by
  intro offset base cursor x y hcursor hbase hheads htails
  -- it has no tail, so the other tails stay where they are
  have hhead : v.part.head offset = v.encode := by
    rw [Part.head, hdyn, if_neg (by simp)]
    rfl
  have htail : v.part.tail = [] := by
    rw [Part.tail, hdyn, if_neg (by simp)]
  have hheadSize : v.part.headSize = v.encode.length := by
    rw [Part.headSize, hdyn, if_neg (by simp)]
    rfl
  rw [parts, heads, List.append_assoc, hhead, htail, List.length_nil, Nat.add_zero] at hcursor
  rw [parts, tails_cons, htail, List.nil_append] at hbase htails
  rw [parts, headSizes_cons, hheadSize] at hheads
  have hfirst : decode t cursor = some v := by
    rw [hcursor]
    exact hv (by omega) _
  have hrest := hvs offset base (cursor.drop t.staticSize)
    (by rw [hcursor, List.drop_left' hsize]) hbase (by omega) htails
  rw [decodeAll, if_neg (by simp [ht]), hrest, hfirst]
  rfl

mutual

/-- **Round trip.** Every value of a type is read back from its encoding, by induction on the
value, with the components of a tuple in a mutual recursion. -/
theorem decode_encode : ∀ (v : Value) (t : Ty), v.HasType t → Reads t v
  | .word w, .word, _ => reads_word w
  | .bytes bs, .bytes, _ => reads_bytes bs
  | .tuple vs, .tuple ts, h => reads_tuple (decodeAll_layout vs ts h)

theorem decodeAll_layout : ∀ (vs : List Value) (ts : List Ty), HasTypes vs ts → ReadsAll ts vs
  | [], [], _ => fun _ _ _ _ _ _ _ _ _ => rfl
  | v :: vs, t :: ts, h => by
    have hdyn := isDynamic_part v t h.1
    have hv := decode_encode v t h.1
    have hvs := decodeAll_layout vs ts h.2
    cases ht : t.isDynamic with
    | true => exact readsAll_cons_dynamic (hdyn.trans ht) ht hv hvs
    | false =>
      exact readsAll_cons_static (hdyn.trans ht) ht (length_encode_static v t h.1 ht) hv hvs

end

/-! ## Lengths -/

mutual

/-- The value has the shape of the other one, and no byte string in it is longer. Nothing is
said of what is in the words. -/
def Value.NoLonger : Value → Value → Prop
  | .word _, .word _ => True
  | .bytes bs, .bytes cs => bs.length ≤ cs.length
  | .tuple vs, .tuple ws => NoneLonger vs ws
  | _, _ => False

def NoneLonger : List Value → List Value → Prop
  | [], [] => True
  | v :: vs, w :: ws => v.NoLonger w ∧ NoneLonger vs ws
  | _, _ => False

end

theorem length_padded_le {m n : Nat} (h : m ≤ n) :
    m + (padding m).length ≤ n + (padding n).length := by
  unfold padding
  rw [List.length_replicate, List.length_replicate]
  omega

/-- What a longer byte string means for the part it is in. -/
structure Part.NoLonger (p q : Part) : Prop where
  isDynamic : p.isDynamic = q.isDynamic
  length_body : p.body.length ≤ q.body.length

theorem Part.NoLonger.sizes {p q : Part} (h : p.NoLonger q) :
    p.headSize ≤ q.headSize ∧ p.tail.length ≤ q.tail.length := by
  have hlen := h.length_body
  unfold Part.headSize Part.tail
  rw [h.isDynamic]
  cases q.isDynamic with
  | true => exact ⟨Nat.le_refl _, hlen⟩
  | false => exact ⟨hlen, Nat.le_refl _⟩

mutual

theorem part_noLonger : ∀ v w : Value, v.NoLonger w → v.part.NoLonger w.part
  | .word v, .word w, _ => ⟨rfl, by rw [Value.part, Value.part]; simp⟩
  | .bytes bs, .bytes cs, h => by
    refine ⟨rfl, ?_⟩
    -- the padding depends on the length alone, and grows with it
    have hpadded := length_padded_le h
    simp only [Value.part, List.length_append, Word.length_bytes]
    omega
  | .tuple vs, .tuple ws, h => by
    obtain ⟨hdyn, hheads, htails⟩ := parts_noLonger vs ws h
    refine ⟨hdyn, ?_⟩
    have hv := length_layout (parts vs)
    have hw := length_layout (parts ws)
    simp only [Value.part]
    omega

theorem parts_noLonger : ∀ vs ws : List Value, NoneLonger vs ws →
    (parts vs).any Part.isDynamic = (parts ws).any Part.isDynamic ∧
      headSizes (parts vs) ≤ headSizes (parts ws) ∧
      (tails (parts vs)).length ≤ (tails (parts ws)).length
  | [], [], _ => ⟨rfl, Nat.le_refl _, Nat.le_refl _⟩
  | v :: vs, w :: ws, h => by
    have hfirst := part_noLonger v w h.1
    obtain ⟨hhead, htail⟩ := hfirst.sizes
    obtain ⟨hdyn, hheads, htails⟩ := parts_noLonger vs ws h.2
    -- the heads and the tails are added up apart
    refine ⟨?_, ?_, ?_⟩
    · rw [parts, parts, List.any_cons, List.any_cons, hfirst.isDynamic, hdyn]
    · rw [parts, parts, headSizes_cons, headSizes_cons]
      omega
    · rw [parts, parts, tails_cons, tails_cons, List.length_append, List.length_append]
      omega

end

mutual

/-- The length of the encoding, without the encoding. -/
def Value.size : Value → Nat
  | .word _ => 32
  | .bytes bs => 32 + bs.length + (32 - bs.length % 32) % 32
  | .tuple vs => sizes vs

def sizes : List Value → Nat
  | [] => 0
  | v :: vs => (if v.part.isDynamic then 32 + v.size else v.size) + sizes vs

end

mutual

theorem length_encode_eq_size : ∀ v : Value, v.encode.length = v.size
  | .word w => w.length_bytes
  | .bytes bs => by
    simp only [Value.encode, Value.part, padding, Value.size, List.length_append,
      Word.length_bytes, List.length_replicate]
  | .tuple vs => (length_layout (parts vs)).trans (sizes_eq vs)

theorem sizes_eq : ∀ vs : List Value, headSizes (parts vs) + (tails (parts vs)).length = sizes vs
  | [] => rfl
  | v :: vs => by
    have hv : v.part.body.length = v.size := length_encode_eq_size v
    have hvs := sizes_eq vs
    rw [parts, headSizes_cons, tails_cons, List.length_append, sizes, Part.headSize, Part.tail]
    -- a dynamic part has its body in the tails, a static one in the heads
    cases v.part.isDynamic with
    | true =>
      simp only [if_true]
      omega
    | false =>
      simp only [Bool.false_eq_true, if_false, List.length_nil]
      omega

end

end RlyNetworkSdk.Evm.Abi
