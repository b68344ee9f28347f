import GameBloat.Library.BlockHash
import GameBloat.Library.Framing
import Mathlib.Data.List.GetD

/-!
# SHA-1

The hash function of FIPS 180-1, for messages of whole bytes.  A message is padded to whole blocks
of 64 bytes (`pad`); a block is expanded to eighty words (`schedule`), one for each round; and the
digest is the state after the last block.

The definition follows the text of the standard and no implementation.  The words of the schedule
are a list that grows from sixteen to eighty, each new word from four of the last sixteen; the
rounds are a fold over their numbers, with the function and the constant of each by its number.
Programs do it differently: they keep sixteen words in a ring, unroll the rounds with the
registers renamed, or expand the schedule while they go.  What they have in common with this
definition is then a matter of proof.

* `length_iterate_extend`, `getD_extend_of_lt` and `getD_extend_length` say what the words of the
  schedule are, by their numbers.
* `length_pad_mod`: a padded message consists of whole blocks, whatever its length.
* `length_digest`: the digest has twenty bytes.

A message of 2⁶¹ bytes or more has a length in bits that does not fit into the eight bytes for it;
the standard does not allow it, and `bigEndian` keeps the lowest bytes.
-/

set_option autoImplicit false

namespace Sha1

open Framing BlockHash

/-- The five words of the state, or of the buffer. -/
structure State where
  a : BitVec 32
  b : BitVec 32
  c : BitVec 32
  d : BitVec 32
  e : BitVec 32
  deriving DecidableEq

/-- The state before the first block. -/
def initial : State := ⟨0x67452301, 0xEFCDAB89, 0x98BADCFE, 0x10325476, 0xC3D2E1F0⟩

/-- The function of round `t`. -/
def f (t : ℕ) (b c d : BitVec 32) : BitVec 32 :=
  if t < 20 then b &&& c ||| ~~~b &&& d
  else if t < 40 then b ^^^ c ^^^ d
  else if t < 60 then b &&& c ||| b &&& d ||| c &&& d
  else b ^^^ c ^^^ d

/-- The constant of round `t`. -/
def k (t : ℕ) : BitVec 32 :=
  if t < 20 then 0x5A827999
  else if t < 40 then 0x6ED9EBA1
  else if t < 60 then 0x8F1BBCDC
  else 0xCA62C1D6

/-- Round `t`, with its word: the new first word is a sum, one word is rotated, and the others
move along. -/
def round (w : ℕ → BitVec 32) (s : State) (t : ℕ) : State :=
  ⟨s.a.rotateLeft 5 + f t s.b s.c s.d + s.e + w t + k t, s.a, s.b.rotateLeft 30, s.c, s.d⟩

/-- Word `t` of a block. -/
def word (block : List (BitVec 8)) (t : ℕ) : BitVec 32 :=
  .ofNat 32 (ofBigEndian ((block.drop (4 * t)).take 4))

/-- One word more, from the last sixteen. -/
def extend (ws : List (BitVec 32)) : List (BitVec 32) :=
  let t := ws.length
  ws ++ [(ws.getD (t - 3) 0 ^^^ ws.getD (t - 8) 0 ^^^ ws.getD (t - 14) 0 ^^^
    ws.getD (t - 16) 0).rotateLeft 1]

/-- The words of the rounds: those of the block and 64 more. -/
def schedule (block : List (BitVec 8)) : List (BitVec 32) :=
  extend^[64] ((List.range 16).map (word block))

theorem length_iterate_extend (n : ℕ) (ws : List (BitVec 32)) :
    (extend^[n] ws).length = ws.length + n := by
  induction n generalizing ws with
  | zero => rfl
  | succ n ih =>
    rw [Function.iterate_succ_apply, ih, extend, List.length_append, List.length_singleton,
      Nat.add_right_comm, Nat.add_assoc]

/-- The words that there are stay. -/
theorem getD_extend_of_lt {ws : List (BitVec 32)} {t : ℕ} (h : t < ws.length) :
    (extend ws).getD t 0 = ws.getD t 0 := List.getD_append _ _ _ _ h

theorem getD_extend_length (ws : List (BitVec 32)) :
    (extend ws).getD ws.length 0 = (ws.getD (ws.length - 3) 0 ^^^ ws.getD (ws.length - 8) 0 ^^^
      ws.getD (ws.length - 14) 0 ^^^ ws.getD (ws.length - 16) 0).rotateLeft 1 := by
  rw [extend, List.getD_append_right _ _ _ _ (Nat.le_refl _), Nat.sub_self]
  rfl

/-- The state after a block. -/
def compress (h : State) (block : List (BitVec 8)) : State :=
  let s := (List.range 80).foldl (round fun t ↦ (schedule block).getD t 0) h
  ⟨h.a + s.a, h.b + s.b, h.c + s.c, h.d + s.d, h.e + s.e⟩

/-- How many bytes of zero are needed, so that with the bit of one and the length the last block
is full. -/
def zeros (length : ℕ) : ℕ := (119 - length % 64) % 64

/-- A message with its padding: a bit of one, bits of zero, and the number of bits. -/
def pad (message : List (BitVec 8)) : List (BitVec 8) :=
  message ++ 0x80 :: (List.replicate (zeros message.length) 0 ++ bigEndian 8 (8 * message.length))

theorem length_pad_mod (message : List (BitVec 8)) : (pad message).length % 64 = 0 := by
  rw [pad, List.length_append, List.length_cons, List.length_append, List.length_replicate,
    length_bigEndian, zeros]
  omega

/-- The five words as bytes. -/
def State.bytes (s : State) : List (BitVec 8) :=
  [s.a, s.b, s.c, s.d, s.e].flatMap fun w ↦ bigEndian 4 w.toNat

theorem State.length_bytes (s : State) : s.bytes.length = 20 := by
  simp only [State.bytes, List.flatMap_cons, List.flatMap_nil, List.length_append,
    length_bigEndian, List.length_nil]

/-- The digest of a message. -/
def digest (message : List (BitVec 8)) : List (BitVec 8) :=
  (hash compress 64 initial (pad message)).bytes

example : digest [0x61, 0x62, 0x63] = [0xA9, 0x99, 0x3E, 0x36, 0x47, 0x06, 0x81, 0x6A, 0xBA, 0x3E,
    0x25, 0x71, 0x78, 0x50, 0xC2, 0x6C, 0x9C, 0xD0, 0xD8, 0x9D] := by
  decide +kernel

theorem length_digest (message : List (BitVec 8)) : (digest message).length = 20 :=
  State.length_bytes _

end Sha1
