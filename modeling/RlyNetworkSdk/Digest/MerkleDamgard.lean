import Mathlib.Data.List.Basic
import Mathlib.Algebra.Order.Group.Nat

/-!
# Iterated Hash Functions

A hash function that compresses a message block by block: the padded message is cut into
blocks of one length, and every block updates a state. An implementation reads its message in
pieces and keeps an unfinished block, so the library says when such a context has absorbed a
message (`Absorbed`), which steps extend that message, and that the padded rest of a context
gives the hash of everything it absorbed.
-/

namespace RlyNetworkSdk.Digest

/-- An iterated hash function over messages of type `List α` with states in `σ`. Its padding
depends on the length of the message only, and fills it up to whole blocks. -/
structure MerkleDamgard (σ α : Type*) where
  blockLength : Nat
  blockLength_pos : 0 < blockLength
  /-- The state after one more block. -/
  compress : σ → List α → σ
  /-- The state before the first block. -/
  initial : σ
  /-- What follows a message of the given length, up to the end of its last block. -/
  padding : Nat → List α
  dvd_length_padding : ∀ n, blockLength ∣ n + (padding n).length
  /-- The digest that is read off the last state. -/
  output : σ → List α

namespace MerkleDamgard

variable {σ α : Type*} (H : MerkleDamgard σ α)

/-- The state after the first `n` blocks of a message, one compression for each. -/
def absorbBlocks : Nat → σ → List α → σ
  | 0, s, _ => s
  | n + 1, s, m => absorbBlocks n (H.compress s (m.take H.blockLength)) (m.drop H.blockLength)

/-- The state after all complete blocks of a message. What is left behind them is not looked at. -/
def absorb (s : σ) (m : List α) : σ := H.absorbBlocks (m.length / H.blockLength) s m

/-- The hash of a message, which is padded as a whole and then absorbed. -/
def hash (m : List α) : List α := H.output (H.absorb H.initial (m ++ H.padding m.length))

/-! ## Blocks -/

theorem absorb_of_length_lt {m : List α} (h : m.length < H.blockLength) (s : σ) :
    H.absorb s m = s := by
  rw [absorb, Nat.div_eq_of_lt h, absorbBlocks]

@[simp] theorem absorb_nil (s : σ) : H.absorb s [] = s :=
  H.absorb_of_length_lt (m := []) H.blockLength_pos s

/-- The first block is compressed first. -/
theorem absorb_block_append {b : List α} (hb : b.length = H.blockLength) (s : σ) (m : List α) :
    H.absorb s (b ++ m) = H.absorb (H.compress s b) m := by
  have hcount : (b ++ m).length / H.blockLength = m.length / H.blockLength + 1 := by
    rw [List.length_append, hb, Nat.add_comm, Nat.add_div_right _ H.blockLength_pos]
  have htake : (b ++ m).take H.blockLength = b := by rw [← hb, List.take_left]
  have hdrop : (b ++ m).drop H.blockLength = m := by rw [← hb, List.drop_left]
  rw [absorb, hcount, absorbBlocks, htake, hdrop, absorb]

theorem absorb_block {b : List α} (hb : b.length = H.blockLength) (s : σ) :
    H.absorb s b = H.compress s b := by
  simpa using H.absorb_block_append hb s []

/-- Complete blocks are absorbed before what follows them. -/
theorem absorb_append {as : List α} (has : H.blockLength ∣ as.length) (s : σ) (bs : List α) :
    H.absorb s (as ++ bs) = H.absorb (H.absorb s as) bs := by
  obtain ⟨n, hn⟩ := has
  induction n generalizing s as with
  | zero => simp [List.eq_nil_of_length_eq_zero (by simpa using hn : as.length = 0)]
  | succ n ih =>
    -- the first block is split off on both sides
    have hlen : H.blockLength ≤ as.length := by
      rw [hn, Nat.mul_succ]
      exact Nat.le_add_left _ _
    have hblock : (as.take H.blockLength).length = H.blockLength := by simp [hlen]
    have hrest : (as.drop H.blockLength).length = H.blockLength * n := by
      rw [List.length_drop, hn, Nat.mul_succ, Nat.add_sub_cancel]
    rw [← List.take_append_drop H.blockLength as, List.append_assoc,
      H.absorb_block_append hblock, H.absorb_block_append hblock, ih _ hrest]

/-! ## Contexts -/

/-- The state `s` and the unfinished block `pending` are what is left of the message `m`. This
is what a streaming context keeps of all that it was updated with. -/
structure Absorbed (m : List α) (s : σ) (pending : List α) : Prop where
  length_lt : pending.length < H.blockLength
  split : ∃ done, m = done ++ pending ∧ H.blockLength ∣ done.length ∧
    s = H.absorb H.initial done

theorem absorbed_nil : H.Absorbed [] H.initial [] :=
  ⟨H.blockLength_pos, [], rfl, by simp, by simp⟩

variable {H} {m : List α} {s : σ} {pending : List α}

/-- How much of a block is unfinished. -/
theorem Absorbed.length_pending (h : H.Absorbed m s pending) :
    pending.length = m.length % H.blockLength := by
  obtain ⟨hlt, done, rfl, hdvd, -⟩ := h
  rw [List.length_append, Nat.add_mod, Nat.mod_eq_zero_of_dvd hdvd, Nat.zero_add, Nat.mod_mod,
    Nat.mod_eq_of_lt hlt]

/-- Data that does not fill the block is kept. -/
theorem Absorbed.append (h : H.Absorbed m s pending) {data : List α}
    (hdata : pending.length + data.length < H.blockLength) :
    H.Absorbed (m ++ data) s (pending ++ data) := by
  obtain ⟨-, done, rfl, hdvd, rfl⟩ := h
  exact ⟨by simpa using hdata, done, List.append_assoc _ _ _, hdvd, rfl⟩

/-- Data that fills the block is compressed with it. -/
theorem Absorbed.complete (h : H.Absorbed m s pending) {data : List α}
    (hdata : pending.length + data.length = H.blockLength) :
    H.Absorbed (m ++ data) (H.compress s (pending ++ data)) [] := by
  obtain ⟨-, done, rfl, hdvd, rfl⟩ := h
  have hblock : (pending ++ data).length = H.blockLength := by simpa using hdata
  refine ⟨H.blockLength_pos, done ++ (pending ++ data), by simp, ?_, ?_⟩
  · rw [List.length_append, hblock]
    exact Nat.dvd_add hdvd (Nat.dvd_refl _)
  · rw [H.absorb_append hdvd, H.absorb_block hblock]

/-- A whole block that begins at a block boundary is compressed by itself. -/
theorem Absorbed.block (h : H.Absorbed m s []) {b : List α} (hb : b.length = H.blockLength) :
    H.Absorbed (m ++ b) (H.compress s b) [] :=
  h.complete (by simpa using hb)

/-- **The rest of a context, padded, gives the hash of all that it absorbed.** Only the length
of the message is needed for it, not the message itself. -/
theorem Absorbed.hash_eq (h : H.Absorbed m s pending) :
    H.hash m = H.output (H.absorb s (pending ++ H.padding m.length)) := by
  obtain ⟨-, done, rfl, hdvd, rfl⟩ := h
  rw [hash, List.append_assoc, H.absorb_append hdvd]

/-- The rest is one block. -/
theorem Absorbed.hash_eq_of_block (h : H.Absorbed m s pending) {b : List α}
    (hb : b.length = H.blockLength) (heq : pending ++ H.padding m.length = b) :
    H.hash m = H.output (H.compress s b) := by
  rw [h.hash_eq, heq, H.absorb_block hb]

/-- The rest is two blocks. -/
theorem Absorbed.hash_eq_of_blocks (h : H.Absorbed m s pending) {b c : List α}
    (hb : b.length = H.blockLength) (hc : c.length = H.blockLength)
    (heq : pending ++ H.padding m.length = b ++ c) :
    H.hash m = H.output (H.compress (H.compress s b) c) := by
  rw [h.hash_eq, heq, H.absorb_block_append hb, H.absorb_block hc]

end MerkleDamgard

end RlyNetworkSdk.Digest
