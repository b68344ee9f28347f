import GameBloat.Library.Sha1
import GameBloat.Library.System
import GameBloat.Machine

/-!
# The hash of the handshake

`sha1.c` takes a message in as many pieces as there are calls of `SHA1Input`, and keeps in its
context the state after the blocks that are complete, what there is of the next block, and the
length in bits, in two words.

`sha1_refines` says what a program sees that uses these functions in any order: `Hashing` is what
they are for, a message that grows until somebody asks for its digest.

The definition of the hash pads the whole message, cuts it into blocks of 64 bytes and compresses
them one after the other.  The code has never the whole message; it compresses a block as soon as
it is full, and pads when the digest is asked for.  Three things have to be seen.

* **A block.**  The arrays and loops of `SHA1ProcessMessageBlock` are the schedule and the 80
  rounds of the definition (`sha1ProcessMessageBlock_eq`).  The loops assign to one place of the
  array after the other, and `foldl_update` and `foldl_extend` are their invariants.
* **The pieces.**  `Absorbs` relates a context to the message that it stands for: its state and
  the block at hand are those of the message read byte by byte (`push`), and the two words are its
  length in bits.  A byte keeps this (`Absorbs.append_byte`), and so does a piece of any length.
  The words are full at 2 ^ 61 bytes, and the source notes that as an error
  (`Absorbs.corrupted_byte`).
* **The padding.**  The one bit and the length may fit into the block at hand or need another one;
  the source decides by comparing the index with 55 (`padding_eq`, `sha1PadMessage_eq`).

The functions also answer when they are called in an order that makes no sense: more of a message
after its digest is an error, which stays until the next reset.  `Hashing.Is` is the relation that
a call of any kind keeps, and `sha1_refines` is the simulation that follows from it.
-/

set_option autoImplicit false

namespace GameBloat

open BlockHash Framing

/-! ## The code -/

/-- `shaSuccess`. -/
def shaSuccess : ℕ := 0

/-- `shaStateError`. -/
def shaStateError : ℕ := 3

/-- `SHA1Context`.  The array for the block is a function, as every index that the code stores at
is less than 64. -/
structure SHA1Context where
  intermediateHash : Sha1.State
  lengthLow : BitVec 32
  lengthHigh : BitVec 32
  messageBlockIndex : ℕ
  messageBlock : ℕ → Byte
  computed : Bool
  corrupted : ℕ

/-- `SHA1CircularShift`. -/
def sha1CircularShift (bits : ℕ) (word : BitVec 32) : BitVec 32 :=
  word <<< bits ||| word >>> (32 - bits)

/-- `SHA1Reset`. -/
def sha1Reset (context : SHA1Context) : SHA1Context :=
  { context with
    lengthLow := 0
    lengthHigh := 0
    messageBlockIndex := 0
    intermediateHash := ⟨0x67452301, 0xEFCDAB89, 0x98BADCFE, 0x10325476, 0xC3D2E1F0⟩
    computed := false
    corrupted := 0 }

/-- The first two loops of `SHA1ProcessMessageBlock`, which fill the array `W`.  The words of the
block are big-endian, and each of the others comes from four before it. -/
def messageWords (messageBlock : ℕ → Byte) : ℕ → BitVec 32 :=
  let w : ℕ → BitVec 32 := (List.range' 0 16).foldl (fun w t ↦ Function.update w t
    ((messageBlock (t * 4)).setWidth 32 <<< 24 ||| (messageBlock (t * 4 + 1)).setWidth 32 <<< 16 |||
      (messageBlock (t * 4 + 2)).setWidth 32 <<< 8 ||| (messageBlock (t * 4 + 3)).setWidth 32))
    fun _ ↦ 0
  (List.range' 16 64).foldl (fun w t ↦ Function.update w t
    (sha1CircularShift 1 (w (t - 3) ^^^ w (t - 8) ^^^ w (t - 14) ^^^ w (t - 16)))) w

/-- Each of the other loops of `SHA1ProcessMessageBlock`, with its function and its constant. -/
def sha1Rounds (start : ℕ) (f : BitVec 32 → BitVec 32 → BitVec 32 → BitVec 32) (k : BitVec 32)
    (w : ℕ → BitVec 32) (s : Sha1.State) : Sha1.State :=
  (List.range' start 20).foldl (fun s t ↦
    let temp := sha1CircularShift 5 s.a + f s.b s.c s.d + s.e + w t + k
    ⟨temp, s.a, sha1CircularShift 30 s.b, s.c, s.d⟩) s

/-- `SHA1ProcessMessageBlock`. -/
def sha1ProcessMessageBlock (context : SHA1Context) : SHA1Context :=
  let w := messageWords context.messageBlock
  let h := context.intermediateHash
  let s := sha1Rounds 0 (fun b c d ↦ b &&& c ||| ~~~b &&& d) 0x5A827999 w h
  let s := sha1Rounds 20 (fun b c d ↦ b ^^^ c ^^^ d) 0x6ED9EBA1 w s
  let s := sha1Rounds 40 (fun b c d ↦ b &&& c ||| b &&& d ||| c &&& d) 0x8F1BBCDC w s
  let s := sha1Rounds 60 (fun b c d ↦ b ^^^ c ^^^ d) 0xCA62C1D6 w s
  { context with
    intermediateHash := ⟨h.a + s.a, h.b + s.b, h.c + s.c, h.d + s.d, h.e + s.e⟩
    messageBlockIndex := 0 }

/-- `Message_Block[Message_Block_Index++] = byte`. -/
def SHA1Context.store (context : SHA1Context) (byte : Byte) : SHA1Context :=
  { context with
    messageBlock := Function.update context.messageBlock context.messageBlockIndex byte
    messageBlockIndex := context.messageBlockIndex + 1 }

/-- The length in `SHA1Input`, with one byte more. -/
def SHA1Context.lengthen (context : SHA1Context) : SHA1Context :=
  let context := { context with lengthLow := context.lengthLow + 8 }
  if context.lengthLow = 0 then
    let context := { context with lengthHigh := context.lengthHigh + 1 }
    if context.lengthHigh = 0 then { context with corrupted := 1 } else context
  else context

/-- The body of the loop of `SHA1Input`. -/
def sha1Byte (context : SHA1Context) (byte : Byte) : SHA1Context :=
  let context := (context.store byte).lengthen
  if context.messageBlockIndex = 64 then sha1ProcessMessageBlock context else context

/-- The loop of `SHA1Input`. -/
def sha1Bytes (context : SHA1Context) : List Byte → SHA1Context
  | [] => context
  | byte :: bytes =>
    if context.corrupted = 0 then sha1Bytes (sha1Byte context byte) bytes else context

/-- `SHA1Input`, of an array of `length` bytes.  A piece without bytes is accepted in any state. -/
def sha1Input (context : SHA1Context) (messageArray : List Byte) : ℕ × SHA1Context :=
  if messageArray.length = 0 then (shaSuccess, context)
  else if context.computed then (shaStateError, { context with corrupted := shaStateError })
  else if context.corrupted ≠ 0 then (context.corrupted, context)
  else (shaSuccess, sha1Bytes context messageArray)

/-- The loops of `SHA1PadMessage`, which store zeros up to an index. -/
def SHA1Context.fill (context : SHA1Context) (index : ℕ) : SHA1Context :=
  (SHA1Context.store · 0)^[index - context.messageBlockIndex] context

/-- The message length in `SHA1PadMessage`, as the last 8 octets. -/
def SHA1Context.storeLength (context : SHA1Context) : SHA1Context :=
  let octets := [(56, context.lengthHigh >>> 24), (57, context.lengthHigh >>> 16),
    (58, context.lengthHigh >>> 8), (59, context.lengthHigh), (60, context.lengthLow >>> 24),
    (61, context.lengthLow >>> 16), (62, context.lengthLow >>> 8), (63, context.lengthLow)]
  { context with
    messageBlock := octets.foldl (fun messageBlock p ↦
      Function.update messageBlock p.1 (p.2.setWidth 8)) context.messageBlock }

/-- `SHA1PadMessage`.  If there is no room for the length behind the one bit, the block is filled
and compressed, and the length goes into the next. -/
def sha1PadMessage (context : SHA1Context) : SHA1Context :=
  let context := if 55 < context.messageBlockIndex then
      (sha1ProcessMessageBlock ((context.store 0x80).fill 64)).fill 56
    else (context.store 0x80).fill 56
  sha1ProcessMessageBlock context.storeLength

/-- The loop at the end of `SHA1Result`. -/
def messageDigest (hash : Sha1.State) : List Byte :=
  (List.range 20).map fun i ↦
    ([hash.a, hash.b, hash.c, hash.d, hash.e].getD (i >>> 2) 0 >>>
      (8 * (3 - (i &&& 0x03)))).setWidth 8

/-- `SHA1Result`: the code, and the digest if it is stored.  The message is padded at the first
call only, and its block and length are cleared then.  A second call finds the message cleared and
the state kept, and returns the same digest. -/
def sha1Result (context : SHA1Context) : (ℕ × Option (List Byte)) × SHA1Context :=
  if context.corrupted ≠ 0 then ((context.corrupted, none), context)
  else
    let context := if context.computed then context else
      { sha1PadMessage context with
        messageBlock := fun _ ↦ 0, lengthLow := 0, lengthHigh := 0, computed := true }
    ((shaSuccess, some (messageDigest context.intermediateHash)), context)

/-! ## A block -/

/-- The shifts of the source are a rotation. -/
theorem sha1CircularShift_eq {bits : ℕ} (h : bits < 32) (word : BitVec 32) :
    sha1CircularShift bits word = word.rotateLeft bits := by
  rw [sha1CircularShift, BitVec.rotateLeft_def, Nat.mod_eq_of_lt h]

/-- One byte more, below those that there are. -/
theorem shiftLeft_or_byte {n : ℕ} (h : n < 2 ^ 24) (byte : Byte) :
    (BitVec.ofNat 32 n <<< 8 ||| byte.setWidth 32) = BitVec.ofNat 32 (256 * n + byte.toNat) := by
  have hbyte := byte.isLt
  have hor := Nat.shiftLeft_add_eq_or_of_lt hbyte n
  rw [Nat.shiftLeft_eq] at hor
  refine BitVec.eq_of_toNat_eq ?_
  rw [BitVec.toNat_or, BitVec.toNat_shiftLeft, BitVec.toNat_setWidth, BitVec.toNat_ofNat,
    BitVec.toNat_ofNat, Nat.shiftLeft_eq, Nat.mod_eq_of_lt (by omega : n < 2 ^ 32),
    Nat.mod_eq_of_lt (by omega : n * 2 ^ 8 < 2 ^ 32),
    Nat.mod_eq_of_lt (by omega : byte.toNat < 2 ^ 32), ← hor,
    Nat.mod_eq_of_lt (by omega : 256 * n + byte.toNat < 2 ^ 32)]
  omega

/-- A word of the block, from its bytes. -/
theorem or_bytes (a b c d : Byte) :
    (a.setWidth 32 <<< 24 ||| b.setWidth 32 <<< 16 ||| c.setWidth 32 <<< 8 ||| d.setWidth 32) =
      BitVec.ofNat 32 (ofBigEndian [a, b, c, d]) := by
  have hhorner : (a.setWidth 32 <<< 24 ||| b.setWidth 32 <<< 16 ||| c.setWidth 32 <<< 8 |||
      d.setWidth 32) = (((a.setWidth 32 <<< 8 ||| b.setWidth 32) <<< 8 ||| c.setWidth 32) <<< 8 |||
        d.setWidth 32) := by
    simp only [BitVec.shiftLeft_or_distrib, ← BitVec.shiftLeft_add]
  have := a.isLt
  have := b.isLt
  have := c.isLt
  rw [hhorner, ← BitVec.ofNat_toNat 32 a, shiftLeft_or_byte, shiftLeft_or_byte, shiftLeft_or_byte]
  · rw [ofBigEndian, List.foldl_cons, Nat.mul_zero, Nat.zero_add]
    rfl
  all_goals omega

/-- A loop that assigns to one place after the other.  A later assignment does not touch an
earlier place. -/
theorem foldl_update (g : ℕ → BitVec 32) (w : ℕ → BitVec 32) (n : ℕ) {t : ℕ} (h : t < n) :
    (List.range' 0 n).foldl (fun w t ↦ Function.update w t (g t)) w t = g t := by
  induction n with
  | zero => exact absurd h (Nat.not_lt_zero t)
  | succ n ih =>
    rw [List.range'_1_concat, List.foldl_append, Nat.zero_add, List.foldl_cons, List.foldl_nil,
      Function.update_apply]
    split_ifs with heq
    · rw [heq]
    · exact ih (by omega)

/-- The loop that extends the words of the block.  What an assignment reads has been assigned
before, and the array agrees with the list of the words as far as that goes. -/
theorem foldl_extend {w : ℕ → BitVec 32} {ws : List (BitVec 32)} (hlength : 16 ≤ ws.length)
    (hw : ∀ t < ws.length, w t = ws.getD t 0) (n : ℕ) {t : ℕ} (h : t < ws.length + n) :
    (List.range' ws.length n).foldl (fun w t ↦ Function.update w t
      (sha1CircularShift 1 (w (t - 3) ^^^ w (t - 8) ^^^ w (t - 14) ^^^ w (t - 16)))) w t =
        (Sha1.extend^[n] ws).getD t 0 := by
  induction n generalizing t with
  | zero => exact hw t h
  | succ n ih =>
    have hl := Sha1.length_iterate_extend n ws
    rw [List.range'_1_concat, List.foldl_append, List.foldl_cons, List.foldl_nil,
      Function.update_apply, Function.iterate_succ_apply']
    split_ifs with heq
    · rw [ih (by omega), ih (by omega), ih (by omega), ih (by omega),
        sha1CircularShift_eq (by decide), heq, ← hl, Sha1.getD_extend_length]
    · rw [Sha1.getD_extend_of_lt (by omega), ih (by omega)]

/-- The bytes of word `t`. -/
theorem word_map_range (messageBlock : ℕ → Byte) {t : ℕ} (h : t < 16) :
    Sha1.word ((List.range 64).map messageBlock) t = .ofNat 32 (ofBigEndian [messageBlock (t * 4),
      messageBlock (t * 4 + 1), messageBlock (t * 4 + 2), messageBlock (t * 4 + 3)]) := by
  rw [Sha1.word, ← List.map_drop, ← List.map_take, List.range_eq_range', List.drop_range',
    List.take_range'_of_length_ge (by omega), Nat.zero_add, Nat.mul_one, Nat.mul_comm 4]
  rfl

/-- The array of the source has the words of the schedule. -/
theorem messageWords_eq (messageBlock : ℕ → Byte) {t : ℕ} (h : t < 80) :
    messageWords messageBlock t =
      (Sha1.schedule ((List.range 64).map messageBlock)).getD t 0 := by
  rw [messageWords, Sha1.schedule]
  refine @foldl_extend _ ((List.range 16).map _) (Nat.le_refl 16) (fun t ht ↦ ?_) 64 t h
  have hlt : t < 16 := ht
  rw [foldl_update _ _ _ hlt, or_bytes, ← word_map_range messageBlock hlt,
    List.getD_eq_getElem?_getD, List.getElem?_map, List.getElem?_range hlt]
  rfl

/-- The rounds of each of the four loops have the same function and the same constant. -/
theorem sha1Rounds_eq (j : ℕ) {w w' : ℕ → BitVec 32}
    (hw : ∀ t ∈ List.range' (20 * j) 20, w t = w' t) (s : Sha1.State) :
    sha1Rounds (20 * j) (Sha1.f (20 * j)) (Sha1.k (20 * j)) w s =
      (List.range' (20 * j) 20).foldl (Sha1.round w') s := by
  rw [sha1Rounds]
  refine List.foldl_ext _ _ _ fun s t ht ↦ ?_
  have hrange := List.mem_range'_1.1 ht
  have h20 : t < 20 ↔ 20 * j < 20 := by omega
  have h40 : t < 40 ↔ 20 * j < 40 := by omega
  have h60 : t < 60 ↔ 20 * j < 60 := by omega
  have hf : Sha1.f t = Sha1.f (20 * j) := by
    funext b c d
    simp only [Sha1.f, h20, h40, h60]
  have hk : Sha1.k t = Sha1.k (20 * j) := by
    simp only [Sha1.k, h20, h40, h60]
  rw [Sha1.round, hf, hk, ← hw t ht, sha1CircularShift_eq (by decide),
    sha1CircularShift_eq (by decide)]

/-- **A block is compressed.** -/
theorem sha1ProcessMessageBlock_eq (context : SHA1Context) :
    sha1ProcessMessageBlock context = { context with
      intermediateHash := Sha1.compress context.intermediateHash
        ((List.range 64).map context.messageBlock)
      messageBlockIndex := 0 } := by
  have hw : ∀ j < 4, ∀ t ∈ List.range' (20 * j) 20, messageWords context.messageBlock t =
      (Sha1.schedule ((List.range 64).map context.messageBlock)).getD t 0 := by
    intro j hj t ht
    rw [List.mem_range'_1] at ht
    exact messageWords_eq _ (by omega)
  have hrange : List.range 80 = List.range' (20 * 0) 20 ++ List.range' (20 * 1) 20 ++
      List.range' (20 * 2) 20 ++ List.range' (20 * 3) 20 := rfl
  rw [sha1ProcessMessageBlock, Sha1.compress, hrange, List.foldl_append, List.foldl_append,
    List.foldl_append, ← sha1Rounds_eq 0 (hw 0 (by decide)), ← sha1Rounds_eq 1 (hw 1 (by decide)),
    ← sha1Rounds_eq 2 (hw 2 (by decide)), ← sha1Rounds_eq 3 (hw 3 (by decide))]
  rfl

/-! ## What is absorbed -/

/-- What there is of the next block, up to the index.  What the array has behind it is left over
from the block before. -/
def SHA1Context.pending (context : SHA1Context) : List Byte :=
  (List.range context.messageBlockIndex).map context.messageBlock

variable {context : SHA1Context} {message : List Byte}

/-- It has as many bytes as the index says. -/
theorem length_pending (context : SHA1Context) :
    context.pending.length = context.messageBlockIndex := by
  rw [SHA1Context.pending, List.length_map, List.length_range]

/-- A byte is stored behind the others. -/
theorem pending_store (context : SHA1Context) (byte : Byte) :
    (context.store byte).pending = context.pending ++ [byte] := by
  rw [SHA1Context.pending, SHA1Context.store, List.range_succ, List.map_append, List.map_singleton]
  refine congrArg₂ (· ++ ·) (List.map_congr_left fun i hi ↦ ?_)
    (congrArg ([·]) (Function.update_self _ _ _))
  exact Function.update_of_ne (List.mem_range.1 hi).ne _ _

/-- Zeros are stored up to an index. -/
theorem fill_eq {n index : ℕ} (h : context.messageBlockIndex + n = index) :
    ∃ block, context.fill index =
        { context with messageBlock := block, messageBlockIndex := index } ∧
      (List.range index).map block = context.pending ++ List.replicate n 0 := by
  have hn : index - context.messageBlockIndex = n := by omega
  rw [SHA1Context.fill, hn]
  clear hn
  induction n generalizing context with
  | zero =>
    rw [← h]
    exact ⟨context.messageBlock, rfl, (List.append_nil _).symm⟩
  | succ n ih =>
    obtain ⟨block, heq, hblock⟩ := @ih (context.store 0) ((Nat.add_right_comm _ _ _).trans h)
    refine ⟨block, heq, hblock.trans ?_⟩
    rw [pending_store, List.append_assoc]
    rfl

/-- The two words of the length. -/
theorem bigEndian_word (word : BitVec 32) :
    bigEndian 4 word.toNat = [(word >>> 24).setWidth 8, (word >>> 16).setWidth 8,
      (word >>> 8).setWidth 8, word.setWidth 8] := by
  have hbyte (k : ℕ) : (word >>> k).setWidth 8 = BitVec.ofNat 8 (word.toNat / 2 ^ k) := by
    rw [← BitVec.ofNat_toNat, BitVec.toNat_ushiftRight, Nat.shiftRight_eq_div_pow]
  rw [hbyte, hbyte, hbyte, ← BitVec.ofNat_toNat]
  simp only [bigEndian, Nat.div_div_eq_div_mul]
  rfl

/-- The block with the length in its last eight bytes. -/
theorem storeLength_eq (context : SHA1Context) :
    (List.range 64).map context.storeLength.messageBlock =
      (List.range 56).map context.messageBlock ++
        (bigEndian 4 context.lengthHigh.toNat ++ bigEndian 4 context.lengthLow.toNat) := by
  have hrange : List.range 64 = List.range 56 ++ List.range' 56 8 := rfl
  rw [hrange, List.map_append, bigEndian_word, bigEndian_word]
  refine congrArg₂ (· ++ ·) (List.map_congr_left fun i hi ↦ ?_) rfl
  have hlt := List.mem_range.1 hi
  simp only [SHA1Context.storeLength, List.foldl_cons, List.foldl_nil, Function.update_apply]
  iterate 8 rw [if_neg (by omega)]

/-- The state of the hash, and what there is of the next block. -/
def SHA1Context.progress (context : SHA1Context) : Sha1.State × List Byte :=
  (context.intermediateHash, context.pending)

/-- The message is taken so far, and its end is still open.  The length is that in bits; as it is
less than 2 ^ 64, so many bytes are less than 2 ^ 61.  The first field says it for the state and
for the block at hand together, as a fold over the bytes. -/
structure Absorbs (context : SHA1Context) (message : List Byte) : Prop where
  progress : context.progress = message.foldl (push Sha1.compress 64) (Sha1.initial, [])
  index_lt : context.messageBlockIndex < 64
  length_eq : 2 ^ 32 * context.lengthHigh.toNat + context.lengthLow.toNat = 8 * message.length
  computed : context.computed = false
  corrupted : context.corrupted = 0

/-- The index is what is left of the length after whole blocks. -/
theorem Absorbs.index_eq (h : Absorbs context message) :
    context.messageBlockIndex = message.length % 64 := by
  have hprogress := h.progress
  rw [foldl_push (by decide)] at hprogress
  have hpending := congrArg List.length (congrArg Prod.snd hprogress)
  rw [show context.progress.2 = context.pending from rfl, length_pending, List.length_drop]
    at hpending
  omega

/-- What has been absorbed is not too long. -/
theorem Absorbs.length_lt (h : Absorbs context message) : message.length < 2 ^ 61 := by
  have := h.length_eq
  have := context.lengthHigh.isLt
  have := context.lengthLow.isLt
  omega

/-- What is stored when the message ends, up to the end of the block or to its length. -/
theorem store_fill_eq {n index : ℕ} (h : context.messageBlockIndex + 1 + n = index) :
    ∃ block, (context.store 0x80).fill index =
        { context with messageBlock := block, messageBlockIndex := index } ∧
      (List.range index).map block = context.pending ++ 0x80 :: List.replicate n 0 := by
  obtain ⟨block, heq, hblock⟩ := @fill_eq (context.store 0x80) n index h
  refine ⟨block, heq, hblock.trans ?_⟩
  rw [pending_store, List.append_assoc]
  rfl

/-- The one and the zeros of the padding, in this block or in two.  If there are two, the first is
compressed before the zeros of the second are stored. -/
theorem padding_eq {n : ℕ} (hindex : context.messageBlockIndex < 64)
    (hn : n = (119 - context.messageBlockIndex) % 64) :
    ∃ final block, (if 55 < context.messageBlockIndex then
          (sha1ProcessMessageBlock ((context.store 0x80).fill 64)).fill 56
        else (context.store 0x80).fill 56) =
      { context with
        intermediateHash := final
        messageBlockIndex := 56
        messageBlock := block } ∧
      (0x80 :: List.replicate n 0).foldl (push Sha1.compress 64) context.progress =
        (final, (List.range 56).map block) := by
  have hlength := length_pending context
  rw [SHA1Context.progress]
  split_ifs with h55
  · have hzeros : (0x80 : Byte) :: List.replicate n 0 =
        0x80 :: List.replicate (63 - context.messageBlockIndex) 0 ++ List.replicate 56 0 := by
      rw [List.cons_append, ← List.replicate_add]
      congr 2
      omega
    have hfirst := @foldl_push_block _ _ Sha1.compress 64 context.intermediateHash context.pending
      (0x80 :: List.replicate (63 - context.messageBlockIndex) 0) (List.cons_ne_nil _ _) (by
        rw [List.length_append, List.length_cons, List.length_replicate]
        omega)
    obtain ⟨block, heq, hblock⟩ := @store_fill_eq context (63 - context.messageBlockIndex) 64
      (by omega)
    rw [hzeros, List.foldl_append, hfirst, heq, sha1ProcessMessageBlock_eq, hblock]
    generalize Sha1.compress context.intermediateHash _ = final
    obtain ⟨block', heq', hblock'⟩ := @fill_eq { context with
      intermediateHash := final
      messageBlockIndex := 0
      messageBlock := block } 56 56 rfl
    refine ⟨final, block', heq', ?_⟩
    rw [hblock', foldl_push_of_lt (by decide)]
    rfl
  · obtain ⟨block, heq, hblock⟩ := @store_fill_eq context n 56 (by omega)
    refine ⟨context.intermediateHash, block, heq, ?_⟩
    rw [hblock, foldl_push_of_lt]
    rw [List.length_append, List.length_cons, List.length_replicate]
    omega

/-- **The padding is that of the message.** -/
theorem sha1PadMessage_eq (h : Absorbs context message) :
    ∃ block, sha1PadMessage context = { context with
      intermediateHash := hash Sha1.compress 64 Sha1.initial (Sha1.pad message)
      messageBlockIndex := 0
      messageBlock := block } := by
  have hlength : bigEndian 8 (8 * message.length) =
      bigEndian 4 context.lengthHigh.toNat ++ bigEndian 4 context.lengthLow.toNat := by
    have hlow : context.lengthLow.toNat < 256 ^ 4 := context.lengthLow.isLt
    rw [← h.length_eq]
    exact bigEndian_add 4 hlow _
  obtain ⟨final, block, heq, hprogress⟩ := @padding_eq context (Sha1.zeros message.length)
    h.index_lt (by rw [Sha1.zeros, ← h.index_eq])
  have hfold : (Sha1.pad message).foldl (push Sha1.compress 64) (Sha1.initial, []) =
      (Sha1.compress final ((List.range 56).map block ++ bigEndian 8 (8 * message.length)),
        []) := by
    rw [Sha1.pad, List.foldl_append, ← h.progress, ← List.cons_append, List.foldl_append, hprogress]
    exact foldl_push_block (by simp [bigEndian]) (by simp)
  rw [foldl_push_whole (by decide) _ (Sha1.length_pad_mod message)] at hfold
  rw [sha1PadMessage, heq, sha1ProcessMessageBlock_eq, storeLength_eq, ← hlength,
    (Prod.mk.inj hfold).1]
  exact ⟨_, rfl⟩

/-- The digest is that of the message. -/
theorem messageDigest_eq (state : Sha1.State) : messageDigest state = state.bytes := by
  rw [messageDigest, Sha1.State.bytes]
  simp only [List.flatMap_cons, List.flatMap_nil, bigEndian_word]
  rfl

/-- The digest of the message is returned, and kept in the context. -/
theorem sha1Result_of_absorbs (h : Absorbs context message) :
    ∃ context', sha1Result context = ((shaSuccess, some (Sha1.digest message)), context') ∧
      context'.computed = true ∧ context'.corrupted = 0 ∧
        messageDigest context'.intermediateHash = Sha1.digest message := by
  obtain ⟨block, heq⟩ := sha1PadMessage_eq h
  rw [Sha1.digest, ← messageDigest_eq, sha1Result, if_neg (by rw [h.corrupted]; decide)]
  simp only [h.computed, Bool.false_eq_true, if_false, heq]
  exact ⟨_, rfl, rfl, h.corrupted, rfl⟩

/-- The length with one byte more, which is too long if it does not fit into the two words. -/
theorem lengthen_eq {n : ℕ}
    (h : 2 ^ 32 * context.lengthHigh.toNat + context.lengthLow.toNat = 8 * n) :
    ∃ low high, context.lengthen = { context with
        lengthLow := low
        lengthHigh := high
        corrupted := if n + 1 = 2 ^ 61 then 1 else context.corrupted } ∧
      2 ^ 32 * high.toNat + low.toNat = 8 * (n + 1) % 2 ^ 64 := by
  have hlow : (context.lengthLow + 8).toNat = (context.lengthLow.toNat + 8) % 2 ^ 32 :=
    BitVec.toNat_add _ _
  have hhigh : (context.lengthHigh + 1).toNat = (context.lengthHigh.toNat + 1) % 2 ^ 32 :=
    BitVec.toNat_add _ _
  have hlow0 : context.lengthLow + 8 = 0 ↔ (context.lengthLow + 8).toNat = 0 := BitVec.toNat_eq
  have hhigh0 : context.lengthHigh + 1 = 0 ↔ (context.lengthHigh + 1).toNat = 0 := BitVec.toNat_eq
  have := context.lengthHigh.isLt
  have := context.lengthLow.isLt
  rw [hlow] at hlow0
  rw [hhigh] at hhigh0
  rw [SHA1Context.lengthen]
  by_cases h0 : context.lengthLow + 8 = 0
  · have hwrap := hlow0.1 h0
    by_cases h1 : context.lengthHigh + 1 = 0
    · have hwrap' := hhigh0.1 h1
      rw [if_pos h0, if_pos h1, if_pos (by omega)]
      exact ⟨_, context.lengthHigh + 1, rfl, by rw [hlow, hhigh]; omega⟩
    · have hwrap' := mt hhigh0.2 h1
      rw [if_pos h0, if_neg h1, if_neg (by omega)]
      exact ⟨_, context.lengthHigh + 1, rfl, by rw [hlow, hhigh]; omega⟩
  · have hwrap := mt hlow0.2 h0
    rw [if_neg h0, if_neg (by omega)]
    exact ⟨_, context.lengthHigh, rfl, by rw [hlow]; omega⟩

/-- **One byte more.**  It is stored, the length grows by eight bits, and a block that is full is
compressed, also if the length has just become too long. -/
theorem sha1Byte_eq (hindex : context.messageBlockIndex < 64) {n : ℕ}
    (h : 2 ^ 32 * context.lengthHigh.toNat + context.lengthLow.toNat = 8 * n) (byte : Byte) :
    ∃ context', sha1Byte context byte = context' ∧
      context'.progress = push Sha1.compress 64 context.progress byte ∧
      context'.messageBlockIndex < 64 ∧
      2 ^ 32 * context'.lengthHigh.toNat + context'.lengthLow.toNat = 8 * (n + 1) % 2 ^ 64 ∧
      context'.computed = context.computed ∧
      context'.corrupted = if n + 1 = 2 ^ 61 then 1 else context.corrupted := by
  have hpush : push Sha1.compress 64 context.progress byte =
      if context.messageBlockIndex + 1 = 64 then
        (Sha1.compress context.intermediateHash (context.store byte).pending, [])
      else (context.intermediateHash, (context.store byte).pending) := by
    rw [push, pending_store, ← length_pending]
    rfl
  obtain ⟨low, high, heq, hnext⟩ := @lengthen_eq (context.store byte) n h
  refine ⟨_, rfl, ?_⟩
  rw [sha1Byte, heq, hpush]
  by_cases hblock : context.messageBlockIndex + 1 = 64
  · have hpending : (List.range 64).map (context.store byte).messageBlock =
        (context.store byte).pending := by
      rw [← hblock]
      rfl
    rw [if_pos hblock, if_pos (by exact hblock), sha1ProcessMessageBlock_eq, hpending]
    exact ⟨rfl, Nat.zero_lt_succ 63, hnext, rfl, rfl⟩
  · rw [if_neg hblock, if_neg (by exact hblock)]
    exact ⟨rfl, Nat.lt_of_le_of_ne hindex hblock, hnext, rfl, rfl⟩

/-- As long as it is not too long, a message is absorbed byte by byte. -/
theorem Absorbs.append_byte (h : Absorbs context message) (byte : Byte)
    (hlength : message.length + 1 < 2 ^ 61) :
    Absorbs (sha1Byte context byte) (message ++ [byte]) := by
  obtain ⟨context', rfl, hprogress, hindex, hlength', hcomputed, hcorrupted⟩ :=
    sha1Byte_eq h.index_lt h.length_eq byte
  refine ⟨?_, hindex, ?_, hcomputed.trans h.computed, ?_⟩
  · rw [hprogress, h.progress, List.foldl_append, List.foldl_cons, List.foldl_nil]
  · rw [hlength', List.length_append, List.length_singleton]
    omega
  · rw [hcorrupted, if_neg (by omega), h.corrupted]

/-- A message of 2^61 bytes is too long. -/
theorem Absorbs.corrupted_byte (h : Absorbs context message) (byte : Byte)
    (hlength : message.length + 1 = 2 ^ 61) :
    (sha1Byte context byte).computed = false ∧
      (sha1Byte context byte).corrupted = 1 := by
  obtain ⟨context', rfl, -, -, -, hcomputed, hcorrupted⟩ :=
    sha1Byte_eq h.index_lt h.length_eq byte
  exact ⟨hcomputed.trans h.computed, hcorrupted.trans (if_pos hlength)⟩

/-- **A piece is absorbed**, if the message does not become too long. -/
theorem Absorbs.append_bytes (h : Absorbs context message) {bytes : List Byte}
    (hlength : (message ++ bytes).length < 2 ^ 61) :
    Absorbs (sha1Bytes context bytes) (message ++ bytes) := by
  induction bytes generalizing context message with
  | nil => exact (List.append_nil message).symm ▸ h
  | cons byte bytes ih =>
    rw [List.append_cons] at hlength ⊢
    rw [sha1Bytes, if_pos h.corrupted]
    refine ih (h.append_byte byte ?_) hlength
    rw [List.length_append, List.length_append, List.length_singleton] at hlength
    omega

/-- After an error no byte is read. -/
theorem sha1Bytes_of_corrupted (h : context.corrupted ≠ 0) (bytes : List Byte) :
    sha1Bytes context bytes = context := by
  cases bytes with
  | nil => rfl
  | cons byte bytes => exact if_neg h

/-- Otherwise the loop stops where the message is too long. -/
theorem Absorbs.corrupted_bytes (h : Absorbs context message) {bytes : List Byte}
    (hlength : 2 ^ 61 ≤ (message ++ bytes).length) :
    (sha1Bytes context bytes).computed = false ∧
      (sha1Bytes context bytes).corrupted = 1 := by
  induction bytes generalizing context message with
  | nil =>
    rw [List.append_nil] at hlength
    exact absurd hlength (Nat.not_le.2 h.length_lt)
  | cons byte bytes ih =>
    have hlt := h.length_lt
    rw [sha1Bytes, if_pos h.corrupted]
    rcases Nat.lt_or_ge (message.length + 1) (2 ^ 61) with hshort | hlong
    · rw [List.append_cons] at hlength
      exact ih (h.append_byte byte hshort) hlength
    · have hcorrupted := h.corrupted_byte byte (Nat.le_antisymm hlt hlong)
      rw [sha1Bytes_of_corrupted (by rw [hcorrupted.2]; decide)]
      exact hcorrupted

/-! ## What the functions are for -/

/-- The calls of these functions. -/
inductive Sha1Call
  | reset
  | input (messageArray : List Byte)
  | result

/-- What a call returns, and the digest if it stores one. -/
structure Sha1Answer where
  code : ℕ
  messageDigest : Option (List Byte)
  deriving DecidableEq

/-- A message that grows until its digest is asked for; it can become too long.  The bound is a
part of a message that is absorbed, so that there is always a digest of it. -/
inductive Hashing
  | absorbing (message : List Byte) (h : message.length < 2 ^ 61)
  | finished (digest : List Byte)
  | failed (code : ℕ)

/-- More of the message. -/
def Hashing.input (bytes : List Byte) : Hashing → Sha1Answer × Hashing
  | .absorbing message _ =>
    if h : (message ++ bytes).length < 2 ^ 61 then
      (⟨shaSuccess, none⟩, .absorbing (message ++ bytes) h)
    else (⟨shaSuccess, none⟩, .failed 1)
  | .finished _ => (⟨shaStateError, none⟩, .failed shaStateError)
  | .failed code => (⟨code, none⟩, .failed code)

/-- The end of the message. -/
def Hashing.result : Hashing → Sha1Answer × Hashing
  | .absorbing message _ =>
    (⟨shaSuccess, some (Sha1.digest message)⟩, .finished (Sha1.digest message))
  | .finished digest => (⟨shaSuccess, some digest⟩, .finished digest)
  | .failed code => (⟨code, none⟩, .failed code)

/-- An answer, and what there is after it. -/
def Hashing.answer (state : Hashing) : Sha1Call → Sha1Answer × Hashing
  | .reset => (⟨shaSuccess, none⟩, .absorbing [] (by decide))
  | .input bytes => if bytes = [] then (⟨shaSuccess, none⟩, state) else state.input bytes
  | .result => state.result

/-- The code's answer. -/
def SHA1Context.answer (context : SHA1Context) : Sha1Call → Sha1Answer × SHA1Context
  | .reset => (⟨shaSuccess, none⟩, sha1Reset context)
  | .input bytes =>
    let (code, context) := sha1Input context bytes
    (⟨code, none⟩, context)
  | .result =>
    let ((code, digest), context) := sha1Result context
    (⟨code, digest⟩, context)

/-- What the functions are for, as a system. -/
def hashing : System Hashing Sha1Call Sha1Answer where
  step state call := (state.answer call).2
  out state call := [(state.answer call).1]

/-- The code, as a system. -/
def sha1 : System SHA1Context Sha1Call Sha1Answer where
  step context call := (context.answer call).2
  out context call := [(context.answer call).1]

/-- The context of a hash.  A context in which there is an error may be finished or not; if it is,
the error is that of a piece that has come too late. -/
def Hashing.Is (context : SHA1Context) : Hashing → Prop
  | .absorbing message _ => Absorbs context message
  | .finished digest => context.computed = true ∧ context.corrupted = 0 ∧
      messageDigest context.intermediateHash = digest
  | .failed code => code ≠ 0 ∧ context.corrupted = code ∧
      (context.computed = true → code = shaStateError)

/-- The empty message. -/
theorem absorbs_reset (context : SHA1Context) : Absorbs (sha1Reset context) [] :=
  ⟨rfl, Nat.zero_lt_succ 63, rfl, rfl, rfl⟩

/-- **A piece of the message**, or what should have been one. -/
theorem is_input {state : Hashing} (h : state.Is context) (bytes : List Byte) :
    (context.answer (.input bytes)).1 = (state.answer (.input bytes)).1 ∧
      (state.answer (.input bytes)).2.Is (context.answer (.input bytes)).2 := by
  cases bytes with
  | nil =>
    cases state <;> exact ⟨rfl, h⟩
  | cons byte bytes =>
    have hne : (byte :: bytes).length ≠ 0 := Nat.succ_ne_zero bytes.length
    rw [SHA1Context.answer, sha1Input, if_neg hne, Hashing.answer,
      if_neg (List.cons_ne_nil byte bytes)]
    cases state with
    | absorbing message hmessage =>
      rw [h.computed, if_neg Bool.false_ne_true, if_neg (not_not.2 h.corrupted), Hashing.input]
      split_ifs with hlength
      · exact ⟨rfl, h.append_bytes hlength⟩
      · obtain ⟨hcomputed, hcorrupted⟩ := h.corrupted_bytes (Nat.le_of_not_lt hlength)
        refine ⟨rfl, Nat.one_ne_zero, hcorrupted, fun hc ↦ ?_⟩
        rw [hcomputed] at hc
        cases hc
    | finished digest =>
      rw [if_pos h.1]
      exact ⟨rfl, by decide, rfl, fun _ ↦ rfl⟩
    | failed code =>
      obtain ⟨hcode, rfl, hcomputed⟩ := h
      by_cases hc : context.computed
      · rw [if_pos hc, Hashing.input, hcomputed hc]
        exact ⟨rfl, by decide, rfl, fun _ ↦ rfl⟩
      · rw [if_neg hc, if_pos hcode]
        exact ⟨rfl, hcode, rfl, hcomputed⟩

/-- **The digest.** -/
theorem is_result {state : Hashing} (h : state.Is context) :
    (context.answer .result).1 = (state.answer .result).1 ∧
      (state.answer .result).2.Is (context.answer .result).2 := by
  rw [SHA1Context.answer]
  cases state with
  | absorbing message hmessage =>
    obtain ⟨context', heq, h'⟩ := sha1Result_of_absorbs h
    rw [heq]
    exact ⟨rfl, h'⟩
  | finished digest =>
    obtain ⟨hcomputed, hcorrupted, rfl⟩ := h
    rw [sha1Result, if_neg (not_not.2 hcorrupted), if_pos hcomputed]
    exact ⟨rfl, hcomputed, hcorrupted, rfl⟩
  | failed code =>
    obtain ⟨hcode, rfl, hcomputed⟩ := h
    rw [sha1Result, if_pos hcode]
    exact ⟨rfl, hcode, rfl, hcomputed⟩

/-- **The hash functions do what they are for**, in whatever order they are called and in whatever
pieces a message comes: every call is answered as if there were the whole message.  The induction
over the calls is the one for a simulation between systems; each call keeps the relation. -/
theorem sha1_refines (context : SHA1Context) (calls : List Sha1Call) :
    sha1.history (sha1Reset context) calls =
      hashing.history (.absorbing [] (by decide)) calls := by
  refine System.history_eq_of_simulation (R := fun context state ↦ state.Is context)
    (fun context state call h ↦ ?_) (absorbs_reset context) calls
  cases call with
  | reset => exact ⟨rfl, absorbs_reset context⟩
  | input bytes => exact ⟨congrArg ([·]) (is_input h bytes).1, (is_input h bytes).2⟩
  | result => exact ⟨congrArg ([·]) (is_result h).1, (is_result h).2⟩

end GameBloat
