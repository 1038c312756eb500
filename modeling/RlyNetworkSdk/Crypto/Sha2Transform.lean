import RlyNetworkSdk.Encoding.Words

/-!
# The SHA-2 Compression Function

`sha256_Transform` and `sha512_Transform` run the same rounds on words of different width. The
source keeps only the last sixteen words of the message schedule, in a ring that each round
overwrites. The schedule itself is defined by a recurrence over all earlier words, and the
transform computes the rounds of that schedule (`transform_eq_compress`).
-/

namespace RlyNetworkSdk.Crypto.Sha2

/-! ## Logical Functions -/

section Words

variable {w : Nat}

/-- A shift to the right. -/
def R (b : Nat) (x : BitVec w) : BitVec w := x >>> b

/-- A rotation to the right. -/
def S (b : Nat) (x : BitVec w) : BitVec w := x >>> b ||| x <<< (w - b)

def Ch (x y z : BitVec w) : BitVec w := x &&& y ^^^ ~~~x &&& z

def Maj (x y z : BitVec w) : BitVec w := x &&& y ^^^ x &&& z ^^^ y &&& z

end Words

def S32 (b : Nat) (x : BitVec 32) : BitVec 32 := S b x
def S64 (b : Nat) (x : BitVec 64) : BitVec 64 := S b x

def Sigma0_256 (x : BitVec 32) : BitVec 32 := S32 2 x ^^^ S32 13 x ^^^ S32 22 x
def Sigma1_256 (x : BitVec 32) : BitVec 32 := S32 6 x ^^^ S32 11 x ^^^ S32 25 x
def sigma0_256 (x : BitVec 32) : BitVec 32 := S32 7 x ^^^ S32 18 x ^^^ R 3 x
def sigma1_256 (x : BitVec 32) : BitVec 32 := S32 17 x ^^^ S32 19 x ^^^ R 10 x

def Sigma0_512 (x : BitVec 64) : BitVec 64 := S64 28 x ^^^ S64 34 x ^^^ S64 39 x
def Sigma1_512 (x : BitVec 64) : BitVec 64 := S64 14 x ^^^ S64 18 x ^^^ S64 41 x
def sigma0_512 (x : BitVec 64) : BitVec 64 := S64 1 x ^^^ S64 8 x ^^^ R 7 x
def sigma1_512 (x : BitVec 64) : BitVec 64 := S64 19 x ^^^ S64 61 x ^^^ R 6 x

/-! ## Constants -/

def K256 : Vector (BitVec 32) 64 :=
  #v[0x428a2f98, 0x71374491, 0xb5c0fbcf, 0xe9b5dba5, 0x3956c25b, 0x59f111f1,
    0x923f82a4, 0xab1c5ed5, 0xd807aa98, 0x12835b01, 0x243185be, 0x550c7dc3,
    0x72be5d74, 0x80deb1fe, 0x9bdc06a7, 0xc19bf174, 0xe49b69c1, 0xefbe4786,
    0x0fc19dc6, 0x240ca1cc, 0x2de92c6f, 0x4a7484aa, 0x5cb0a9dc, 0x76f988da,
    0x983e5152, 0xa831c66d, 0xb00327c8, 0xbf597fc7, 0xc6e00bf3, 0xd5a79147,
    0x06ca6351, 0x14292967, 0x27b70a85, 0x2e1b2138, 0x4d2c6dfc, 0x53380d13,
    0x650a7354, 0x766a0abb, 0x81c2c92e, 0x92722c85, 0xa2bfe8a1, 0xa81a664b,
    0xc24b8b70, 0xc76c51a3, 0xd192e819, 0xd6990624, 0xf40e3585, 0x106aa070,
    0x19a4c116, 0x1e376c08, 0x2748774c, 0x34b0bcb5, 0x391c0cb3, 0x4ed8aa4a,
    0x5b9cca4f, 0x682e6ff3, 0x748f82ee, 0x78a5636f, 0x84c87814, 0x8cc70208,
    0x90befffa, 0xa4506ceb, 0xbef9a3f7, 0xc67178f2]

def sha256InitialHashValue : Vector (BitVec 32) 8 :=
  #v[0x6a09e667, 0xbb67ae85, 0x3c6ef372, 0xa54ff53a,
    0x510e527f, 0x9b05688c, 0x1f83d9ab, 0x5be0cd19]

def K512 : Vector (BitVec 64) 80 :=
  #v[0x428a2f98d728ae22, 0x7137449123ef65cd, 0xb5c0fbcfec4d3b2f, 0xe9b5dba58189dbbc,
    0x3956c25bf348b538, 0x59f111f1b605d019, 0x923f82a4af194f9b, 0xab1c5ed5da6d8118,
    0xd807aa98a3030242, 0x12835b0145706fbe, 0x243185be4ee4b28c, 0x550c7dc3d5ffb4e2,
    0x72be5d74f27b896f, 0x80deb1fe3b1696b1, 0x9bdc06a725c71235, 0xc19bf174cf692694,
    0xe49b69c19ef14ad2, 0xefbe4786384f25e3, 0x0fc19dc68b8cd5b5, 0x240ca1cc77ac9c65,
    0x2de92c6f592b0275, 0x4a7484aa6ea6e483, 0x5cb0a9dcbd41fbd4, 0x76f988da831153b5,
    0x983e5152ee66dfab, 0xa831c66d2db43210, 0xb00327c898fb213f, 0xbf597fc7beef0ee4,
    0xc6e00bf33da88fc2, 0xd5a79147930aa725, 0x06ca6351e003826f, 0x142929670a0e6e70,
    0x27b70a8546d22ffc, 0x2e1b21385c26c926, 0x4d2c6dfc5ac42aed, 0x53380d139d95b3df,
    0x650a73548baf63de, 0x766a0abb3c77b2a8, 0x81c2c92e47edaee6, 0x92722c851482353b,
    0xa2bfe8a14cf10364, 0xa81a664bbc423001, 0xc24b8b70d0f89791, 0xc76c51a30654be30,
    0xd192e819d6ef5218, 0xd69906245565a910, 0xf40e35855771202a, 0x106aa07032bbd1b8,
    0x19a4c116b8d2d0c8, 0x1e376c085141ab53, 0x2748774cdf8eeb99, 0x34b0bcb5e19b48a8,
    0x391c0cb3c5c95a63, 0x4ed8aa4ae3418acb, 0x5b9cca4f7763e373, 0x682e6ff3d6b2b8a3,
    0x748f82ee5defb2fc, 0x78a5636f43172f60, 0x84c87814a1f0ab72, 0x8cc702081a6439ec,
    0x90befffa23631e28, 0xa4506cebde82bde9, 0xbef9a3f7b2c67915, 0xc67178f2e372532b,
    0xca273eceea26619c, 0xd186b8c721c0c207, 0xeada7dd6cde0eb1e, 0xf57d4f7fee6ed178,
    0x06f067aa72176fba, 0x0a637dc5a2c898a6, 0x113f9804bef90dae, 0x1b710b35131c471b,
    0x28db77f523047d84, 0x32caab7b40c72493, 0x3c9ebe0a15c9bebc, 0x431d67c49c100d4c,
    0x4cc5d4becb3e42b6, 0x597f299cfc657e2a, 0x5fcb6fab3ad6faec, 0x6c44198c4a475817]

def sha512InitialHashValue : Vector (BitVec 64) 8 :=
  #v[0x6a09e667f3bcc908, 0xbb67ae8584caa73b, 0x3c6ef372fe94f82b, 0xa54ff53a5f1d36f1,
    0x510e527fade682d1, 0x9b05688c2b3e6c1f, 0x1f83d9abfb41bd6b, 0x5be0cd19137e2179]

/-! ## Rounds -/

/-- What the two transforms differ in: the number of rounds, the constants, and the four
functions of a word. -/
structure Params (w : Nat) where
  rounds : Nat
  K : Vector (BitVec w) rounds
  Sigma0 : BitVec w → BitVec w
  Sigma1 : BitVec w → BitVec w
  sigma0 : BitVec w → BitVec w
  sigma1 : BitVec w → BitVec w

def params256 : Params 32 :=
  ⟨64, K256, Sigma0_256, Sigma1_256, sigma0_256, sigma1_256⟩

def params512 : Params 64 :=
  ⟨80, K512, Sigma0_512, Sigma1_512, sigma0_512, sigma1_512⟩

/-- The eight words of a hash value. -/
abbrev State (w : Nat) := Vector (BitVec w) 8

/-- The registers `a` to `h`. -/
structure Registers (w : Nat) where
  a : BitVec w
  b : BitVec w
  c : BitVec w
  d : BitVec w
  e : BitVec w
  f : BitVec w
  g : BitVec w
  h : BitVec w

variable {w : Nat}

/-- The registers take the previous hash value. -/
def Registers.load (s : State w) : Registers w := ⟨s[0], s[1], s[2], s[3], s[4], s[5], s[6], s[7]⟩

/-- The registers are added to the previous hash value. -/
def Registers.addTo (s : State w) (r : Registers w) : State w :=
  #v[s[0] + r.a, s[1] + r.b, s[2] + r.c, s[3] + r.d, s[4] + r.e, s[5] + r.f, s[6] + r.g, s[7] + r.h]

variable (p : Params w)

/-- Round `j` with the word `x` of the schedule. -/
def round (j : Nat) (x : BitVec w) (r : Registers w) : Registers w :=
  let t1 := r.h + p.Sigma1 r.e + Ch r.e r.f r.g + p.K[j]! + x
  let t2 := p.Sigma0 r.a + Maj r.a r.b r.c
  { h := r.g, g := r.f, f := r.e, e := r.d + t1, d := r.c, c := r.b, b := r.a, a := t1 + t2 }

/-- The local variables of a transform: the registers, and the ring of sixteen words for the
schedule. -/
structure Locals (w : Nat) where
  regs : Registers w
  W : Vector (BitVec w) 16

/-- One of the first sixteen rounds, which also copies its word to the ring. -/
def roundCopy (data : Vector (BitVec w) 16) (l : Locals w) (j : Nat) : Locals w :=
  let x := data[j]!
  { regs := round p j x l.regs, W := l.W.setIfInBounds j x }

/-- One of the later rounds, which expands the schedule in place. -/
def roundExpand (l : Locals w) (j : Nat) : Locals w :=
  let s0 := p.sigma0 l.W[(j + 1) % 16]
  let s1 := p.sigma1 l.W[(j + 14) % 16]
  let x := l.W[j % 16] + (s1 + l.W[(j + 9) % 16] + s0)
  { regs := round p j x l.regs, W := l.W.setIfInBounds (j % 16) x }

/-- The hash value after one more block. -/
def transform (stateIn : State w) (data : Vector (BitVec w) 16) : State w :=
  -- the ring is not initialised, and its sixteen words are written before they are read
  let l₀ : Locals w := ⟨.load stateIn, .replicate 16 0⟩
  let l₁ := (List.range 16).foldl (roundCopy p data) l₀
  let l₂ := (List.range' 16 (p.rounds - 16)).foldl (roundExpand p) l₁
  l₂.regs.addTo stateIn

def sha256Transform : State 32 → Vector (BitVec 32) 16 → State 32 := transform params256

def sha512Transform : State 64 → Vector (BitVec 64) 16 → State 64 := transform params512

/-! ## The Message Schedule -/

/-- Word `j` of the message schedule, by the recurrence of the standard and without any memory. -/
def schedule (data : Vector (BitVec w) 16) (j : Nat) : BitVec w :=
  if h : j < 16 then data[j]
  else p.sigma1 (schedule data (j - 2)) + schedule data (j - 7) +
    p.sigma0 (schedule data (j - 15)) + schedule data (j - 16)

/-- The first `n` rounds over the schedule. -/
def runRounds (data : Vector (BitVec w) 16) (n : Nat) (r : Registers w) : Registers w :=
  (List.range n).foldl (fun r j => round p j (schedule p data j) r) r

/-- The compression function over the whole schedule, as the standard has it. -/
def compress (stateIn : State w) (data : Vector (BitVec w) 16) : State w :=
  (runRounds p data p.rounds (.load stateIn)).addTo stateIn

theorem runRounds_succ (data : Vector (BitVec w) 16) (n : Nat) (r : Registers w) :
    runRounds p data (n + 1) r = round p n (schedule p data n) (runRounds p data n r) := by
  rw [runRounds, List.range_succ, List.foldl_append]
  rfl

/-- The ring holds the last sixteen words of a schedule that has reached `n`. -/
def Ring (W : Vector (BitVec w) 16) (s : Nat → BitVec w) (n : Nat) : Prop :=
  ∀ i, i < n → n ≤ i + 16 → W[i % 16] = s i

variable {p}

/-- The word that enters the ring replaces the oldest one, which no later round looks at. -/
theorem Ring.push {W : Vector (BitVec w) 16} {s : Nat → BitVec w} {n : Nat} (h : Ring W s n) :
    Ring (W.setIfInBounds (n % 16) (s n)) s (n + 1) := by
  intro i hi hn
  have hlt : n % 16 < 16 := Nat.mod_lt _ (by omega)
  rw [Vector.getElem_setIfInBounds]
  by_cases heq : i = n
  case pos => simp [heq]
  case neg =>
    -- no other index among the last sixteen has the same place
    have hne : n % 16 ≠ i % 16 := by omega
    rw [if_neg hne]
    exact h i (by omega) (by omega)

/-- The state of the loops after `n` rounds. It is the same for both loops, the one that copies
and the one that expands. -/
structure LoopInv (p : Params w) (data : Vector (BitVec w) 16) (r : Registers w) (n : Nat)
    (l : Locals w) : Prop where
  regs : l.regs = runRounds p data n r
  ring : Ring l.W (schedule p data) n

variable {data : Vector (BitVec w) 16} {r : Registers w} {n : Nat} {l : Locals w}

theorem LoopInv.copy_step (h : LoopInv p data r n l) (hn : n < 16) :
    LoopInv p data r (n + 1) (roundCopy p data l n) := by
  have hx : data[n]! = schedule p data n := by
    rw [schedule, dif_pos hn, getElem!_pos data n hn]
  constructor
  · rw [runRounds_succ, ← h.regs, roundCopy, hx]
  · have hring := h.ring.push
    rw [Nat.mod_eq_of_lt hn] at hring
    rw [roundCopy, hx]
    exact hring

theorem LoopInv.expand_step (h : LoopInv p data r n l) (hn : 16 ≤ n) :
    LoopInv p data r (n + 1) (roundExpand p l n) := by
  -- the four places that are read hold the words the recurrence asks for
  have h16 : l.W[n % 16] = schedule p data (n - 16) := by
    rw [← h.ring (n - 16) (by omega) (by omega)]
    congr 1; omega
  have h15 : l.W[(n + 1) % 16] = schedule p data (n - 15) := by
    rw [← h.ring (n - 15) (by omega) (by omega)]
    congr 1; omega
  have h7 : l.W[(n + 9) % 16] = schedule p data (n - 7) := by
    rw [← h.ring (n - 7) (by omega) (by omega)]
    congr 1; omega
  have h2 : l.W[(n + 14) % 16] = schedule p data (n - 2) := by
    rw [← h.ring (n - 2) (by omega) (by omega)]
    congr 1; omega
  have hx : l.W[n % 16] + (p.sigma1 l.W[(n + 14) % 16] + l.W[(n + 9) % 16] +
      p.sigma0 l.W[(n + 1) % 16]) = schedule p data n := by
    rw [h16, h15, h7, h2, schedule.eq_def p data n, dif_neg (by omega), BitVec.add_comm]
  constructor
  · rw [runRounds_succ, ← h.regs, roundExpand]
    simp only [hx]
  · rw [roundExpand]
    simp only [hx]
    exact h.ring.push

theorem loopInv_copy (data : Vector (BitVec w) 16) (r : Registers w) (W : Vector (BitVec w) 16)
    (hn : n ≤ 16) :
    LoopInv p data r n ((List.range n).foldl (roundCopy p data) ⟨r, W⟩) := by
  induction n with
  | zero => exact ⟨rfl, fun i hi => absurd hi (Nat.not_lt_zero i)⟩
  | succ n ih =>
    rw [List.range_succ, List.foldl_append]
    exact (ih (by omega)).copy_step (by omega)

theorem LoopInv.expand (h : LoopInv p data r 16 l) (n : Nat) :
    LoopInv p data r (16 + n) ((List.range' 16 n).foldl (roundExpand p) l) := by
  induction n with
  | zero => exact h
  | succ n ih =>
    rw [List.range'_concat, List.foldl_append, Nat.one_mul]
    exact ih.expand_step (by omega)

/-- **The ring of sixteen words computes the whole message schedule.** Each word depends on
words that are at most sixteen rounds old. -/
theorem transform_eq_compress (hp : 16 ≤ p.rounds) (stateIn : State w)
    (data : Vector (BitVec w) 16) : transform p stateIn data = compress p stateIn data := by
  have h := (loopInv_copy (p := p) data (.load stateIn) (.replicate 16 0) (Nat.le_refl 16)).expand
    (p.rounds - 16)
  rw [Nat.add_sub_cancel' hp] at h
  rw [transform, compress]
  simp only [h.regs]

/-- **Both transforms compute the standard's compression functions**, whose schedules are as long
as the rounds, with sixteen words of memory. -/
theorem transforms_follow_schedule (state256 : State 32) (data256 : Vector (BitVec 32) 16)
    (state512 : State 64) (data512 : Vector (BitVec 64) 16) :
    sha256Transform state256 data256 = compress params256 state256 data256 ∧
      sha512Transform state512 data512 = compress params512 state512 data512 := by
  constructor
  · exact transform_eq_compress (by decide) state256 data256
  · exact transform_eq_compress (by decide) state512 data512

end RlyNetworkSdk.Crypto.Sha2
