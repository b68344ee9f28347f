import GameBloat.WebSocket.Protocol

/-!
# Reading from the socket

However the bytes of a client are cut into chunks on their way, `next_byte` hands them out one by
one (`Reader.next_cons`); `Reader.input` is what it is yet to hand out, up to the first time that
`RECV` fails.  From this follows what `read_frame` makes of a length, a mask and a payload.

`next_byte` keeps what it has received in an array, with the number of bytes there and a position,
and goes to the socket when the position is at the end.  Whoever reads a frame sees nothing of
this: the statements from here on are about `Reader.input`, and chunks and positions do not occur
in them.

There are two kinds of lemmas, as a frame may be there or not.

* **If the bytes are there**, a function gives the number they stand for and leaves the reader so
  many bytes further on, `Receiver.skip`: `nextByte_cons`, `nextFrameLength_eq`, `nextMasks_eq`.
  A length is put together with shifts, each byte at its place; the induction of
  `nextLength_of_append` carries the number read so far, and that it and the bytes to come fit
  into 64 bits.
* **If they are not**, all that matters is that there is an error in the end and that no call and
  no store has been made.  `next_byte` returns -1 for want of a byte, and `read_frame` looks at
  that only after it has read the mask; in between it calculates with -1.  So these lemmas say
  what has been read and not what it is: `nextFrameLength_state`, `nextMasks_state`,
  `readBytes_of_lt`.
-/

set_option autoImplicit false

namespace GameBloat

open Framing

/-! ## Bytes -/

/-- What the chunks are up to the first failure.  An empty chunk stands for a `RECV` that fails or
finds the connection closed. -/
def stream (chunks : List (List Byte)) : List Byte := (chunks.takeWhile (· ≠ [])).flatten

/-- What `next_byte` is yet to hand out: the rest of the array, and then what is on the socket. -/
def Reader.input (r : Reader) : List Byte :=
  if r.curPos = 0 ∨ r.curPos = r.frm.length then stream r.chunks
  else r.frm.drop r.curPos ++ stream r.chunks

/-- A chunk with bytes in it goes before the others. -/
theorem stream_cons {chunk : List Byte} (h : chunk ≠ []) (chunks : List (List Byte)) :
    stream (chunk :: chunks) = chunk ++ stream chunks := by
  rw [stream, List.takeWhile_cons_of_pos (by simpa using h), List.flatten_cons, stream]

/-- A `RECV` takes the beginning of the stream.  If a chunk does not fit into the array, its rest
waits. -/
theorem stream_recv {size : ℕ} (hsize : 0 < size) (chunks : List (List Byte)) :
    stream chunks = (recv size chunks).1 ++
      if (recv size chunks).1 = [] then [] else stream (recv size chunks).2 := by
  cases chunks with
  | nil => rfl
  | cons chunk chunks =>
    by_cases hchunk : chunk = []
    · rw [hchunk, recv, List.take_nil, if_pos rfl]
      rfl
    · have htake : chunk.take size ≠ [] := by
        rw [Ne, List.take_eq_nil_iff, not_or]
        exact ⟨hsize.ne', hchunk⟩
      rw [recv, if_neg htake, stream_cons hchunk]
      split_ifs with hle
      · rw [List.take_of_length_le hle]
      · have hdrop : chunk.drop size ≠ [] := by
          rw [Ne, List.drop_eq_nil_iff]
          exact hle
        rw [stream_cons hdrop, ← List.append_assoc, List.take_append_drop]

/-- Nothing is handed out if nothing is left. -/
theorem Reader.next_nil {r : Reader} (h : r.input = []) : r.next.1 = none := by
  rw [Reader.input] at h
  rw [Reader.next]
  split_ifs with hrefill
  · rw [if_pos hrefill, stream_recv (by decide : 0 < messageLength), List.append_eq_nil_iff] at h
    split
    · rfl
    · rename_i heq
      rw [heq] at h
      cases h.1
  · rw [if_neg hrefill, List.append_eq_nil_iff, List.drop_eq_nil_iff] at h
    have := r.curPos_le
    omega

/-- **The next byte is handed out**, and then the others.  It comes from the socket if the array
is used up, and from the array otherwise. -/
theorem Reader.next_cons {r : Reader} {byte : Byte} {rest : List Byte}
    (h : r.input = byte :: rest) : r.next.1 = some byte ∧ r.next.2.input = rest := by
  rw [Reader.input] at h
  rw [Reader.next]
  split_ifs with hrefill
  · rw [if_pos hrefill, stream_recv (by decide : 0 < messageLength)] at h
    split
    · rename_i heq
      rw [heq] at h
      cases h
    · rename_i byte' frm chunks heq
      rw [heq] at h
      obtain ⟨rfl, rfl⟩ := List.cons.inj h
      refine ⟨rfl, ?_⟩
      rw [Reader.input]
      cases frm <;> rfl
  · rw [if_neg hrefill] at h
    have hlt : r.curPos < r.frm.length := by
      have := r.curPos_le
      omega
    rw [List.drop_eq_getElem_cons hlt, List.cons_append] at h
    obtain ⟨rfl, rfl⟩ := List.cons.inj h
    have hbyte : r.frm.getD r.curPos 0 = r.frm[r.curPos] := by
      rw [List.getD_eq_getElem?_getD, List.getElem?_eq_getElem hlt, Option.getD_some]
    refine ⟨congrArg some hbyte, ?_⟩
    rw [Reader.input]
    by_cases hend : r.curPos + 1 = r.frm.length
    · have hdrop : r.frm.drop (r.curPos + 1) = [] := by rw [hend, List.drop_length]
      rw [if_pos (.inr hend), hdrop, List.nil_append]
    · exact if_neg (by simp [hend])

/-- The reader after `n` bytes. -/
def Reader.skip : ℕ → Reader → Reader
  | 0, r => r
  | n + 1, r => Reader.skip n r.next.2

/-- Bytes are passed over one part after the other. -/
theorem Reader.skip_add (m n : ℕ) (r : Reader) :
    Reader.skip (m + n) r = Reader.skip n (Reader.skip m r) := by
  induction m generalizing r with
  | zero => rw [Nat.zero_add, Reader.skip]
  | succ m ih => rw [Nat.add_right_comm, Reader.skip, ih, Reader.skip]

/-- After so many bytes the others are left. -/
theorem Reader.input_skip {bytes rest : List Byte} {r : Reader} (h : r.input = bytes ++ rest) :
    (Reader.skip bytes.length r).input = rest := by
  induction bytes generalizing r with
  | nil => exact h
  | cons byte bytes ih => exact ih (Reader.next_cons h).2

/-- The receiver after `n` bytes. -/
def Receiver.skip (s : Receiver) (n : ℕ) : Receiver := { s with reader := s.reader.skip n }

variable {s : Receiver} {byte : Byte} {bytes rest : List Byte}

/-- Passing over bytes does nothing else to the receiver. -/
theorem Receiver.skip_skip (s : Receiver) (m n : ℕ) : (s.skip m).skip n = s.skip (m + n) := by
  rw [Receiver.skip, Receiver.skip, Receiver.skip, Reader.skip_add]

/-- A byte that is there. -/
theorem nextByte_cons (h : s.reader.input = byte :: rest) :
    nextByte s = ((byte.toNat : ℤ), s.skip 1) := by
  have hnext := (Reader.next_cons h).1
  rw [nextByte]
  split
  · rename_i byte' reader heq
    rw [heq] at hnext
    cases hnext
    rw [Receiver.skip, Reader.skip, heq]
    rfl
  · rename_i heq
    rw [heq] at hnext
    cases hnext

/-- Without a byte there is an error. -/
theorem nextByte_nil (h : s.reader.input = []) :
    (nextByte s).1 = -1 ∧ (nextByte s).2.error = true := by
  have hnext := Reader.next_nil h
  rw [nextByte]
  split
  · rename_i heq
    rw [heq] at hnext
    cases hnext
  · exact ⟨rfl, rfl⟩

/-! ## What reading leaves alone -/

/-- Reading has made no call and no store, and no error has gone away. -/
structure Quiet (s s' : Receiver) : Prop where
  eq : ∃ reader error, s' = { s with reader, error }
  error : s.error = true → s'.error = true

/-- No step is quiet, -/
theorem Quiet.refl (s : Receiver) : Quiet s s := ⟨⟨s.reader, s.error, rfl⟩, id⟩

/-- and steps that are quiet are so one after the other. -/
theorem Quiet.trans {s s' s'' : Receiver} (h : Quiet s s') (h' : Quiet s' s'') : Quiet s s'' := by
  obtain ⟨⟨reader, error, rfl⟩, he⟩ := h
  obtain ⟨⟨reader', error', rfl⟩, he'⟩ := h'
  exact ⟨⟨reader', error', rfl⟩, he' ∘ he⟩

/-- Taking a byte is quiet, whether there is one or not. -/
theorem nextByte_quiet (s : Receiver) : Quiet s (nextByte s).2 := by
  rw [nextByte]
  split
  · exact ⟨⟨_, _, rfl⟩, id⟩
  · exact ⟨⟨_, _, rfl⟩, fun _ ↦ rfl⟩

/-- What reading `n` bytes leaves behind.  A reader that has failed is asked again, and may be at
an error for a second time. -/
def readBytes : ℕ → Receiver → Receiver
  | 0, s => s
  | n + 1, s => readBytes n (nextByte s).2

/-- Any number of bytes. -/
theorem readBytes_quiet (n : ℕ) (s : Receiver) : Quiet s (readBytes n s) := by
  induction n generalizing s with
  | zero => exact .refl s
  | succ n ih => exact (nextByte_quiet s).trans (ih _)

/-- Bytes are read one part after the other. -/
theorem readBytes_add (m n : ℕ) (s : Receiver) :
    readBytes (m + n) s = readBytes n (readBytes m s) := by
  induction m generalizing s with
  | zero => rw [Nat.zero_add, readBytes]
  | succ m ih => rw [Nat.add_right_comm, readBytes, ih, readBytes]

/-- There is an error if there are too few bytes.  No later byte takes it back. -/
theorem readBytes_of_lt {n : ℕ} (h : s.reader.input.length < n) :
    (readBytes n s).error = true := by
  induction n generalizing s with
  | zero => exact absurd h (Nat.not_lt_zero _)
  | succ n ih =>
    rw [readBytes]
    cases hinput : s.reader.input with
    | nil => exact (readBytes_quiet n _).error (nextByte_nil hinput).2
    | cons byte rest =>
      have hrest : (s.skip 1).reader.input = rest := (Reader.next_cons hinput).2
      rw [hinput] at h
      rw [nextByte_cons hinput]
      exact ih (hrest ▸ Nat.lt_of_succ_lt_succ h)

/-! ## Lengths -/

/-- The places of `n` bytes, the highest first, as the shifts in the source have them. -/
def places : ℕ → List ℕ
  | 0 => []
  | n + 1 => 8 * n :: places n

/-- A byte in 64 bits. -/
theorem ofInt_byte (byte : Byte) : BitVec.ofInt 64 byte.toNat = BitVec.ofNat 64 byte.toNat :=
  BitVec.ofInt_natCast 64 byte.toNat

/-- One byte more, below those that there are.  The bits of the two do not meet, and so the
disjunction is a sum. -/
theorem or_shiftLeft_byte {high n : ℕ} (h : (high + 1) * 256 ^ (n + 1) ≤ 2 ^ 64) (byte : Byte) :
    (BitVec.ofNat 64 (high * 256 ^ (n + 1)) ||| BitVec.ofInt 64 byte.toNat <<< (8 * n)) =
      BitVec.ofNat 64 ((256 * high + byte.toNat) * 256 ^ n) := by
  have hpow : 256 ^ n = 2 ^ (8 * n) := by rw [Nat.pow_mul]
  have hpow' : 256 ^ (n + 1) = 2 ^ (8 * n + 8) := by
    rw [← Nat.mul_succ, Nat.pow_mul]
  have hbyte := byte.isLt
  have hlow : byte.toNat * 256 ^ n < 2 ^ (8 * n + 8) := by
    rw [← hpow', Nat.pow_succ, Nat.mul_comm]
    exact Nat.mul_lt_mul_of_pos_left hbyte (Nat.pow_pos (by decide))
  have hsum : high * 256 ^ (n + 1) + byte.toNat * 256 ^ n =
      (256 * high + byte.toNat) * 256 ^ n := by
    rw [Nat.pow_succ, Nat.add_mul, Nat.mul_comm 256 high, Nat.mul_assoc, Nat.mul_comm 256]
  have hor := Nat.shiftLeft_add_eq_or_of_lt hlow high
  rw [Nat.shiftLeft_eq, ← hpow', hsum] at hor
  have hlt : (256 * high + byte.toNat) * 256 ^ n < 2 ^ 64 := by
    rw [← hsum]
    rw [hpow'] at h ⊢
    rw [Nat.add_mul, Nat.one_mul] at h
    omega
  refine BitVec.eq_of_toNat_eq ?_
  rw [BitVec.toNat_or, BitVec.toNat_shiftLeft, ofInt_byte, BitVec.toNat_ofNat, BitVec.toNat_ofNat,
    BitVec.toNat_ofNat, Nat.mod_eq_of_lt hlt, hor, Nat.shiftLeft_eq, ← hpow,
    Nat.mod_eq_of_lt (by omega : byte.toNat < 2 ^ 64),
    Nat.mod_eq_of_lt (by omega : high * 256 ^ (n + 1) < 2 ^ 64),
    Nat.mod_eq_of_lt (by omega : byte.toNat * 256 ^ n < 2 ^ 64)]

/-- The loop over the places, from the number that has been read so far. -/
theorem nextLength_of_append {high : ℕ} (hhigh : (high + 1) * 256 ^ bytes.length ≤ 2 ^ 64)
    (h : s.reader.input = bytes ++ rest) :
    nextLength (places bytes.length) (BitVec.ofNat 64 (high * 256 ^ bytes.length)) s =
      (bytes.foldl (fun n byte ↦ 256 * n + byte.toNat) high, s.skip bytes.length) := by
  induction bytes generalizing high s with
  | nil =>
    rw [List.length_nil, Nat.pow_zero, Nat.mul_one] at hhigh ⊢
    have hlt : (BitVec.ofNat 64 high).toNat = high := by
      rw [BitVec.toNat_ofNat, Nat.mod_eq_of_lt (by omega)]
    exact Prod.ext hlt rfl
  | cons byte bytes ih =>
    have hbyte := byte.isLt
    have hnext : (256 * high + byte.toNat + 1) * 256 ^ bytes.length ≤ 2 ^ 64 := by
      refine le_trans ?_ hhigh
      rw [List.length_cons, Nat.pow_succ, Nat.mul_comm _ 256, ← Nat.mul_assoc]
      exact Nat.mul_le_mul_right _ (by omega)
    rw [List.cons_append] at h
    rw [List.length_cons, places, nextLength, nextByte_cons h]
    show nextLength (places bytes.length) (_ ||| _) (s.skip 1) = _
    rw [or_shiftLeft_byte hhigh, ih hnext (Reader.next_cons h).2, Receiver.skip_skip,
      Nat.add_comm 1, List.foldl_cons]

/-- A length is read as the big-endian number that it is. -/
theorem nextLength_eq (hbytes : bytes.length ≤ 8) (h : s.reader.input = bytes ++ rest) :
    nextLength (places bytes.length) 0 s = (ofBigEndian bytes, s.skip bytes.length) := by
  have hhigh : (0 + 1) * 256 ^ bytes.length ≤ 2 ^ 64 := by
    rw [Nat.zero_add, Nat.one_mul]
    exact (Nat.pow_le_pow_right (by decide) hbytes).trans_eq (by decide)
  have hlength := nextLength_of_append hhigh h
  rwa [Nat.zero_mul] at hlength

/-- The loop reads a byte for each place, whatever they are. -/
theorem nextLength_state (shifts : List ℕ) (length : BitVec 64) (s : Receiver) :
    (nextLength shifts length s).2 = readBytes shifts.length s := by
  induction shifts generalizing length s with
  | nil => rfl
  | cons shift shifts ih => exact ih _ _

/-- The length, from the seven bits and the bytes that they announce. -/
theorem nextFrameLength_eq {field : ℕ} (hfield : field < 128) {lengths : List Byte}
    (hlengths : lengths.length = lengthBytes field) (h : s.reader.input = lengths ++ rest) :
    nextFrameLength field s = (declaredLength field lengths, s.skip lengths.length) := by
  rw [nextFrameLength, declaredLength]
  by_cases h126 : field = 126
  · have hlength : lengths.length = 2 := by rw [hlengths, h126]; rfl
    have heq := nextLength_eq (by omega) h
    rw [hlength] at heq ⊢
    rw [if_pos h126, if_neg (by omega)]
    exact heq
  by_cases h127 : field = 127
  · have hlength : lengths.length = 8 := by rw [hlengths, h127]; rfl
    have heq := nextLength_eq (by omega) h
    rw [hlength] at heq ⊢
    rw [if_neg h126, if_pos h127, if_neg (by omega)]
    exact heq
  · have hlength : lengths.length = 0 := by
      rw [hlengths, lengthBytes, if_neg h126, if_neg h127]
    rw [if_neg h126, if_neg h127, if_pos (by omega), hlength]
    rfl

/-- What reading a length leaves behind. -/
theorem nextFrameLength_state {field : ℕ} (s : Receiver) :
    (nextFrameLength field s).2 = readBytes (lengthBytes field) s := by
  rw [nextFrameLength, lengthBytes]
  split_ifs
  · exact nextLength_state _ _ _
  · exact nextLength_state _ _ _
  · rfl

/-! ## Masks -/

/-- A byte that has been an `int`. -/
theorem ofInt_toNat (byte : Byte) : BitVec.ofInt 8 byte.toNat = byte := by
  rw [BitVec.ofInt_natCast, BitVec.ofNat_toNat, BitVec.setWidth_eq]

/-- The four bytes of the mask. -/
theorem nextMasks_eq {mask0 mask1 mask2 mask3 : Byte}
    (h : s.reader.input = mask0 :: mask1 :: mask2 :: mask3 :: rest) :
    nextMasks s = ([mask0, mask1, mask2, mask3], s.skip 4) := by
  have h1 : (s.skip 1).reader.input = _ := (Reader.next_cons h).2
  have h2 : (s.skip 2).reader.input = _ := (Reader.next_cons h1).2
  have h3 : (s.skip 3).reader.input = _ := (Reader.next_cons h2).2
  rw [nextMasks, nextByte_cons h]
  simp only [nextByte_cons h1, Receiver.skip_skip]
  rw [nextByte_cons h2]
  simp only [Receiver.skip_skip]
  rw [nextByte_cons h3]
  simp only [Receiver.skip_skip, List.map_cons, List.map_nil, ofInt_toNat]

/-- What reading the mask leaves behind. -/
theorem nextMasks_state (s : Receiver) : (nextMasks s).2 = readBytes 4 s := by
  rw [nextMasks]
  simp only [readBytes]

end GameBloat
