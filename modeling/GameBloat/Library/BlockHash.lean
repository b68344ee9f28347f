import Mathlib.Data.List.Basic
import Mathlib.Data.Nat.Notation

/-!
# Hashing block by block

A hash function for messages of any length, from a compression function for blocks of a fixed
size: `chain` compresses one block after the other.  `push` does the same for a stream, of which
it keeps what there is of the next block; it does not matter in which pieces the stream comes
(`foldl_push`).

Implementations work on the stream: they are called any number of times with some more bytes, keep
a buffer for a block that is not complete, and compress when it is.  Specifications work on the
message: it is cut into blocks from the front.  `foldl_push` connects the two.  The state after a
stream is the hash of the whole blocks, and the buffer holds what is left over.  Since the stream
is a fold over single bytes, how they were grouped into calls has disappeared by the time this
lemma is used: a call with several bytes is several steps of the fold.

The proof is an induction on the number of blocks.  A prefix that does not complete a block
changes the buffer only (`foldl_push_of_lt`), and one that just completes it is compressed
(`foldl_push_block`).

Nothing is assumed about the compression function, or about the type of its state.
-/

set_option autoImplicit false

namespace BlockHash

variable {S α : Type*} (compress : S → List α → S) (size : ℕ)

/-- The state after `n` blocks.  If the message is too short, the last blocks are short as well;
`hash` does not ask for more than there are. -/
def chain : ℕ → S → List α → S
  | 0, h, _ => h
  | n + 1, h, message => chain n (compress h (message.take size)) (message.drop size)

/-- The state after a message that consists of whole blocks. -/
def hash (h : S) (message : List α) : S := chain compress size (message.length / size) h message

/-- One byte more on a stream: the state after the whole blocks, and what there is of the next. -/
def push (s : S × List α) (byte : α) : S × List α :=
  if s.2.length + 1 = size then (compress s.1 (s.2 ++ [byte]), []) else (s.1, s.2 ++ [byte])

variable {compress size} {h : S} {pending message : List α}

/-- As long as no block is complete, nothing is compressed: the message goes to the buffer. -/
theorem foldl_push_of_lt (hlt : (pending ++ message).length < size) :
    message.foldl (push compress size) (h, pending) = (h, pending ++ message) := by
  induction message generalizing pending with
  | nil => rw [List.append_nil, List.foldl_nil]
  | cons byte message ih =>
    have hmore : pending.length + 1 ≠ size := by
      rw [List.length_append, List.length_cons] at hlt
      omega
    rw [List.append_cons] at hlt ⊢
    rw [List.foldl_cons, push, if_neg hmore, ih hlt]

/-- When the block is complete, it is compressed. -/
theorem foldl_push_block (hne : message ≠ []) (heq : (pending ++ message).length = size) :
    message.foldl (push compress size) (h, pending) = (compress h (pending ++ message), []) := by
  obtain ⟨message, byte, rfl⟩ : ∃ front byte, message = front ++ [byte] :=
    ⟨_, _, (List.dropLast_concat_getLast hne).symm⟩
  rw [List.length_append, List.length_append, List.length_singleton] at heq
  have hlt : (pending ++ message).length < size := by
    rw [List.length_append]
    omega
  have hfull : (pending ++ message).length + 1 = size := by
    rw [List.length_append]
    omega
  rw [List.foldl_append, foldl_push_of_lt hlt, List.foldl_cons, List.foldl_nil, push, if_pos hfull,
    List.append_assoc]

/-- **A stream is hashed block by block**, and what is left over is kept. -/
theorem foldl_push (hsize : 0 < size) (h : S) (message : List α) :
    message.foldl (push compress size) (h, []) =
      (hash compress size h message, message.drop (size * (message.length / size))) := by
  rw [hash]
  generalize hn : message.length / size = n
  induction n generalizing h message with
  | zero =>
    have hlt : message.length < size := (Nat.div_eq_zero_iff_lt hsize).1 hn
    rw [foldl_push_of_lt (by exact hlt), chain, Nat.mul_zero, List.drop_zero, List.nil_append]
  | succ n ih =>
    have hle : size ≤ message.length := by
      by_contra hlt
      rw [Nat.div_eq_of_lt (by omega)] at hn
      cases hn
    have htake : (message.take size).length = size := List.length_take_of_le hle
    have hne : message.take size ≠ [] := List.length_pos_iff.1 (htake.symm ▸ hsize)
    have hrest : (message.drop size).length / size = n := by
      rw [Nat.div_eq_sub_div hsize hle] at hn
      rw [List.length_drop]
      exact Nat.succ.inj hn
    have hblock : (message.take size).foldl (push compress size) (h, []) =
        (compress h (message.take size), []) := foldl_push_block hne htake
    calc message.foldl (push compress size) (h, [])
        = (message.take size ++ message.drop size).foldl (push compress size) (h, []) := by
          rw [List.take_append_drop]
      _ = (message.drop size).foldl (push compress size) (compress h (message.take size), []) := by
          rw [List.foldl_append, hblock]
      _ = _ := by
          rw [ih _ _ hrest, chain, List.drop_drop, Nat.mul_succ, Nat.add_comm]

/-- A message of whole blocks leaves nothing over. -/
theorem foldl_push_whole (hsize : 0 < size) (h : S) (hwhole : message.length % size = 0) :
    message.foldl (push compress size) (h, []) = (hash compress size h message, []) := by
  have hlength : size * (message.length / size) = message.length :=
    Nat.mul_div_cancel' (Nat.dvd_of_mod_eq_zero hwhole)
  rw [foldl_push hsize, hlength, List.drop_length]

end BlockHash
