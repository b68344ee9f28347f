import Mathlib.Data.BitVec
import Mathlib.Data.List.Basic
import Mathlib.Data.Nat.Notation

/-!
# Frames on a stream of bytes

The frames of the WebSocket protocol: a byte with the FIN flag, three reserved bits and the
opcode; a byte with the mask flag and seven bits of length, which are followed by the length in
two bytes if they are 126 and in eight if they are 127; four bytes of mask if there is one; and
the payload.

`Framing.parse` takes a frame off a stream, `Framing.encodeFrame` writes one, and `Framing.frames`
is all the frames of a stream that are complete.  Whether there is a mask is for the reader to
decide, from the second byte: some readers always expect one.

* `parse_encodeFrame`: what has been written is what is read, whatever comes after it.
* `frames_encodeAll`: a stream of frames is read back as these frames.
* `announcements`: the lengths that the frames of a stream announce, also that of a frame which is
  not there as a whole.  A reader that reserves memory for a payload does so on the announcement.

A frame carries its seven bits of length besides its payload, because the format leaves a choice:
a short payload may be announced with two or eight bytes.  `Frame.Fits` says that the two agree,
and the round trip is for every frame that fits, not only for those with the shortest
announcement.

Everything is on lists, so a stream is what will ever arrive.  A reader that gets it in pieces is
related to `parse` by what it has consumed; that is up to the reader's own module.
-/

set_option autoImplicit false

namespace Framing

/-! ## Big-endian numbers -/

/-- The lowest `k` bytes of a number, the highest of them first. -/
def bigEndian : ℕ → ℕ → List (BitVec 8)
  | 0, _ => []
  | k + 1, n => bigEndian k (n / 256) ++ [BitVec.ofNat 8 n]

/-- The number that the bytes are, the highest byte first. -/
def ofBigEndian (bytes : List (BitVec 8)) : ℕ :=
  bytes.foldl (fun n byte ↦ 256 * n + byte.toNat) 0

@[simp]
theorem length_bigEndian (k n : ℕ) : (bigEndian k n).length = k := by
  induction k generalizing n with
  | zero => rfl
  | succ k ih => rw [bigEndian, List.length_append, ih, List.length_singleton]

/-- The highest bytes, and the lowest: a number of `j + k` bytes is one of `j` bytes above one of
`k`. -/
theorem bigEndian_add (j : ℕ) {k n : ℕ} (h : n < 256 ^ k) (m : ℕ) :
    bigEndian (j + k) (256 ^ k * m + n) = bigEndian j m ++ bigEndian k n := by
  induction k generalizing n with
  | zero =>
    rw [Nat.pow_zero] at h ⊢
    rw [Nat.lt_one_iff.1 h, Nat.one_mul]
    exact (List.append_nil _).symm
  | succ k ih =>
    have hdiv : (256 ^ (k + 1) * m + n) / 256 = 256 ^ k * m + n / 256 := by
      rw [Nat.pow_succ, Nat.mul_right_comm, Nat.mul_comm _ 256, Nat.mul_add_div (by decide)]
    have hbyte : BitVec.ofNat 8 (256 ^ (k + 1) * m + n) = BitVec.ofNat 8 n := by
      refine BitVec.eq_of_toNat_eq ?_
      rw [BitVec.toNat_ofNat, BitVec.toNat_ofNat, Nat.pow_succ, Nat.mul_right_comm]
      exact Nat.mul_add_mod_self_right _ _ _
    rw [Nat.pow_succ] at h
    rw [← Nat.add_assoc, bigEndian, hdiv, hbyte, ih (by omega), bigEndian, List.append_assoc]

theorem ofBigEndian_append_singleton (bytes : List (BitVec 8)) (byte : BitVec 8) :
    ofBigEndian (bytes ++ [byte]) = 256 * ofBigEndian bytes + byte.toNat := by
  rw [ofBigEndian, ofBigEndian, List.foldl_append]
  rfl

theorem ofBigEndian_bigEndian {k n : ℕ} (h : n < 256 ^ k) : ofBigEndian (bigEndian k n) = n := by
  induction k generalizing n with
  | zero =>
    rw [Nat.pow_zero] at h
    exact (Nat.lt_one_iff.1 h).symm
  | succ k ih =>
    rw [Nat.pow_succ] at h
    rw [bigEndian, ofBigEndian_append_singleton, ih (by omega), BitVec.toNat_ofNat]
    omega

/-! ## Masks -/

/-- The payload under a mask, or with the mask taken off.  Without a mask it is as it was.  The
four bytes of the mask are used in turn. -/
def masked (mask payload : List (BitVec 8)) : List (BitVec 8) :=
  payload.mapIdx fun i byte ↦ byte ^^^ mask.getD (i % 4) 0

@[simp]
theorem length_masked (mask payload : List (BitVec 8)) :
    (masked mask payload).length = payload.length := List.length_mapIdx

/-- Masking twice is not masking. -/
theorem masked_masked (mask payload : List (BitVec 8)) :
    masked mask (masked mask payload) = payload := by
  refine List.ext_getElem (by simp) fun i _ _ ↦ ?_
  simp only [masked, List.getElem_mapIdx]
  rw [BitVec.xor_assoc, BitVec.xor_self, BitVec.xor_zero]

theorem masked_nil (payload : List (BitVec 8)) : masked [] payload = payload := by
  refine List.ext_getElem (by simp) fun i _ _ ↦ ?_
  simp only [masked, List.getElem_mapIdx]
  exact BitVec.xor_zero

/-! ## Frames -/

/-- A frame, but for its mask. -/
structure Frame where
  fin : Bool
  reserved : BitVec 3
  opcode : BitVec 4
  /-- The seven bits of the length. -/
  lengthField : ℕ
  payload : List (BitVec 8)
  deriving DecidableEq

/-- How many bytes of length follow the seven bits. -/
def lengthBytes (lengthField : ℕ) : ℕ :=
  if lengthField = 126 then 2 else if lengthField = 127 then 8 else 0

/-- The length that the seven bits and the bytes after them say. -/
def declaredLength (lengthField : ℕ) (bytes : List (BitVec 8)) : ℕ :=
  if lengthField < 126 then lengthField else ofBigEndian bytes

/-- The first `n` bytes of a stream, and the others, if there are as many. -/
def split (n : ℕ) (bytes : List (BitVec 8)) : Option (List (BitVec 8) × List (BitVec 8)) :=
  if n ≤ bytes.length then some (bytes.take n, bytes.drop n) else none

theorem split_append (bytes rest : List (BitVec 8)) :
    split bytes.length (bytes ++ rest) = some (bytes, rest) := by
  rw [split, if_pos (by simp), List.take_left, List.drop_left]

theorem split_eq_some_iff {n : ℕ} {bytes front rest : List (BitVec 8)} :
    split n bytes = some (front, rest) ↔ bytes = front ++ rest ∧ front.length = n := by
  constructor
  · intro h
    rw [split] at h
    split_ifs at h with hn
    cases h
    exact ⟨(List.take_append_drop n bytes).symm, List.length_take_of_le hn⟩
  · rintro ⟨rfl, rfl⟩
    exact split_append front rest

theorem split_eq_none_iff {n : ℕ} {bytes : List (BitVec 8)} :
    split n bytes = none ↔ bytes.length < n := by
  rw [split]
  split_ifs with h <;> simp <;> omega

/-- The length that a frame announces, if enough of it is there. -/
def announcedLength (lengthField : ℕ) (bytes : List (BitVec 8)) : Option ℕ :=
  (split (lengthBytes lengthField) bytes).map fun p ↦ declaredLength lengthField p.1

/-- The payload of a frame with these seven bits of length, and the rest of the stream: the bytes
of the length, the mask and the payload itself, each of them if it is there. -/
def parsePayload (hasMask : Bool) (lengthField : ℕ) (bytes : List (BitVec 8)) :
    Option (List (BitVec 8) × List (BitVec 8)) := do
  let (lengths, bytes) ← split (lengthBytes lengthField) bytes
  let (mask, bytes) ← split (if hasMask then 4 else 0) bytes
  let (payload, bytes) ← split (declaredLength lengthField lengths) bytes
  return (masked mask payload, bytes)

/-- The frame at the head of a stream, and the rest of the stream.  `hasMask` says whether there
is a mask, from the second byte.  What is not there yet gives `none`, and this is the only way to
fail: any bytes are a frame if there are enough of them. -/
def parse (hasMask : BitVec 8 → Bool) : List (BitVec 8) → Option (Frame × List (BitVec 8))
  | first :: second :: bytes => do
    let lengthField := second.toNat % 128
    let (payload, bytes) ← parsePayload (hasMask second) lengthField bytes
    return ({ fin := first.msb, reserved := first.extractLsb' 4 3, opcode := first.extractLsb' 0 4,
              lengthField, payload }, bytes)
  | _ => none

/-- The first byte of a frame. -/
def Frame.first (f : Frame) : BitVec 8 := BitVec.ofBool f.fin ++ f.reserved ++ f.opcode

/-- The length of the payload is one that the seven bits allow: the number itself below 126, and
anything that two or eight bytes can say for 126 and 127. -/
def Frame.Fits (f : Frame) : Prop :=
  f.lengthField < 128 ∧
    if f.lengthField < 126 then f.payload.length = f.lengthField
    else f.payload.length < 256 ^ lengthBytes f.lengthField

instance (f : Frame) : Decidable f.Fits := inferInstanceAs (Decidable (_ ∧ _))

/-- A frame on the wire, with this mask. -/
def encodeFrame (mask : Option (List (BitVec 8))) (f : Frame) : List (BitVec 8) :=
  f.first :: BitVec.ofNat 8 (f.lengthField + if mask.isSome then 128 else 0) ::
    (bigEndian (lengthBytes f.lengthField) f.payload.length ++
      (mask.getD [] ++ masked (mask.getD []) f.payload))

theorem first_fields (f : Frame) : f.first.msb = f.fin ∧ f.first.extractLsb' 4 3 = f.reserved ∧
    f.first.extractLsb' 0 4 = f.opcode := by
  have hall : ∀ (fin : Bool) (reserved : BitVec 3) (opcode : BitVec 4),
      let first : BitVec 8 := BitVec.ofBool fin ++ reserved ++ opcode
      first.msb = fin ∧ first.extractLsb' 4 3 = reserved ∧ first.extractLsb' 0 4 = opcode := by
    decide
  exact hall f.fin f.reserved f.opcode

theorem Frame.Fits.declaredLength {f : Frame} (hf : f.Fits) :
    declaredLength f.lengthField (bigEndian (lengthBytes f.lengthField) f.payload.length) =
      f.payload.length := by
  obtain ⟨-, h⟩ := hf
  rw [Framing.declaredLength]
  split_ifs at h ⊢ with hfield
  · exact h.symm
  · exact ofBigEndian_bigEndian h

/-- The payload is read back. -/
theorem parsePayload_encodeFrame {f : Frame} (hf : f.Fits) {hasMask : Bool} {mask : List (BitVec 8)}
    (hmask : mask.length = if hasMask then 4 else 0) (rest : List (BitVec 8)) :
    parsePayload hasMask f.lengthField (bigEndian (lengthBytes f.lengthField) f.payload.length ++
      (mask ++ masked mask f.payload) ++ rest) = some (f.payload, rest) := by
  have hlengths := split_append (bigEndian (lengthBytes f.lengthField) f.payload.length)
    (mask ++ (masked mask f.payload ++ rest))
  have hmasks := split_append mask (masked mask f.payload ++ rest)
  have hpayload := split_append (masked mask f.payload) rest
  rw [length_bigEndian] at hlengths
  rw [hmask] at hmasks
  rw [length_masked] at hpayload
  rw [parsePayload, List.append_assoc, List.append_assoc, hlengths]
  simp only [Option.bind_eq_bind, Option.bind_some, hmasks, hf.declaredLength, hpayload,
    masked_masked]
  rfl

/-- **What has been written is what is read.** -/
theorem parse_encodeFrame {hasMask : BitVec 8 → Bool} {mask : Option (List (BitVec 8))} {f : Frame}
    (hf : f.Fits) (hmask : (mask.getD []).length =
      if hasMask (BitVec.ofNat 8 (f.lengthField + if mask.isSome then 128 else 0)) then 4 else 0)
    (rest : List (BitVec 8)) : parse hasMask (encodeFrame mask f ++ rest) = some (f, rest) := by
  obtain ⟨hfin, hreserved, hopcode⟩ := first_fields f
  have hfield : (BitVec.ofNat 8 (f.lengthField + if mask.isSome then 128 else 0)).toNat % 128 =
      f.lengthField := by
    have := hf.1
    rw [BitVec.toNat_ofNat]
    split_ifs <;> omega
  rw [encodeFrame, List.cons_append, List.cons_append, parse]
  simp only [hfield, parsePayload_encodeFrame hf hmask, Option.bind_eq_bind, Option.bind_some, hfin,
    hreserved, hopcode]
  rfl

/-! ## Streams -/

theorem length_of_parsePayload {hasMask : Bool} {lengthField : ℕ}
    {bytes payload rest : List (BitVec 8)}
    (h : parsePayload hasMask lengthField bytes = some (payload, rest)) :
    payload.length + rest.length ≤ bytes.length := by
  simp only [parsePayload, Option.bind_eq_bind, Option.bind_eq_some_iff, Prod.exists] at h
  obtain ⟨lengths, bytes', hlengths, mask, bytes'', hmask, body, bytes''', hbody, h⟩ := h
  cases h
  obtain ⟨rfl, -⟩ := split_eq_some_iff.1 hlengths
  obtain ⟨rfl, -⟩ := split_eq_some_iff.1 hmask
  obtain ⟨rfl, -⟩ := split_eq_some_iff.1 hbody
  simp only [length_masked, List.length_append]
  omega

/-- A frame takes up at least two bytes of a stream. -/
theorem length_of_parse {hasMask : BitVec 8 → Bool} {bytes rest : List (BitVec 8)} {f : Frame}
    (h : parse hasMask bytes = some (f, rest)) :
    f.payload.length + rest.length + 2 ≤ bytes.length := by
  match bytes, h with
  | first :: second :: bytes, h =>
    simp only [parse, Option.bind_eq_bind, Option.bind_eq_some_iff, Prod.exists] at h
    obtain ⟨payload, rest', hpayload, h⟩ := h
    cases h
    have := length_of_parsePayload hpayload
    simp only [List.length_cons]
    omega

/-- The complete frames of a stream.  Each takes at least two bytes, so the recursion ends. -/
def frames (hasMask : BitVec 8 → Bool) (bytes : List (BitVec 8)) : List Frame :=
  match _h : parse hasMask bytes with
  | none => []
  | some (f, rest) => f :: frames hasMask rest
termination_by bytes.length
decreasing_by
  have := length_of_parse _h
  omega

theorem frames_of_none {hasMask : BitVec 8 → Bool} {bytes : List (BitVec 8)}
    (h : parse hasMask bytes = none) : frames hasMask bytes = [] := by
  rw [frames]
  split
  · rfl
  · rename_i h'
    cases h.symm.trans h'

theorem frames_of_some {hasMask : BitVec 8 → Bool} {bytes rest : List (BitVec 8)} {f : Frame}
    (h : parse hasMask bytes = some (f, rest)) :
    frames hasMask bytes = f :: frames hasMask rest := by
  rw [frames]
  split
  · rename_i h'
    cases h.symm.trans h'
  · rename_i h'
    cases h.symm.trans h'
    rfl

/-- The lengths that the frames of a stream announce, the one that is cut off included.  If the
stream ends before the length is complete, nothing is announced.  It is a condition on streams
that a reader with a bounded length needs, whether or not the frame is complete. -/
def announcements (hasMask : BitVec 8 → Bool) (bytes : List (BitVec 8)) : List ℕ :=
  match _h : parse hasMask bytes with
  | some (f, rest) => f.payload.length :: announcements hasMask rest
  | none =>
    match bytes with
    | _ :: second :: bytes => (announcedLength (second.toNat % 128) bytes).toList
    | _ => []
termination_by bytes.length
decreasing_by
  have := length_of_parse _h
  omega

theorem announcements_of_some {hasMask : BitVec 8 → Bool} {bytes rest : List (BitVec 8)}
    {f : Frame} (h : parse hasMask bytes = some (f, rest)) :
    announcements hasMask bytes = f.payload.length :: announcements hasMask rest := by
  rw [announcements]
  split
  · rename_i h'
    cases h.symm.trans h'
    rfl
  · rename_i h'
    cases h.symm.trans h'

theorem mem_announcements_of_none {hasMask : BitVec 8 → Bool} {first second : BitVec 8}
    {bytes : List (BitVec 8)} (h : parse hasMask (first :: second :: bytes) = none) {n : ℕ}
    (hn : announcedLength (second.toNat % 128) bytes = some n) :
    n ∈ announcements hasMask (first :: second :: bytes) := by
  rw [announcements]
  split
  · rename_i h'
    cases h.symm.trans h'
  · exact Option.mem_toList.2 hn

theorem frames_nil (hasMask : BitVec 8 → Bool) : frames hasMask [] = [] := frames_of_none rfl

theorem announcements_nil (hasMask : BitVec 8 → Bool) : announcements hasMask [] = [] := by
  rw [announcements]
  rfl

/-- Frames on the wire, each with its mask. -/
def encodeAll (fs : List (Option (List (BitVec 8)) × Frame)) : List (BitVec 8) :=
  fs.flatMap fun f ↦ encodeFrame f.1 f.2

/-- A frame that the reader can read: the length fits, and there is a mask if it expects one. -/
def Readable (hasMask : BitVec 8 → Bool) (f : Option (List (BitVec 8)) × Frame) : Prop :=
  f.2.Fits ∧ (f.1.getD []).length = if hasMask (BitVec.ofNat 8
    (f.2.lengthField + if f.1.isSome then 128 else 0)) then 4 else 0

instance (hasMask : BitVec 8 → Bool) (f : Option (List (BitVec 8)) × Frame) :
    Decidable (Readable hasMask f) := inferInstanceAs (Decidable (_ ∧ _))

section EncodeAll

variable {hasMask : BitVec 8 → Bool} {fs : List (Option (List (BitVec 8)) × Frame)}

theorem parse_encodeAll {f : Option (List (BitVec 8)) × Frame} (hf : Readable hasMask f)
    (fs : List (Option (List (BitVec 8)) × Frame)) (rest : List (BitVec 8)) :
    parse hasMask (encodeAll (f :: fs) ++ rest) = some (f.2, encodeAll fs ++ rest) := by
  rw [encodeAll, List.flatMap_cons, ← encodeAll, List.append_assoc]
  exact parse_encodeFrame hf.1 hf.2 _

/-- **A stream of frames is read back as these frames**, and then what comes after them. -/
theorem frames_encodeAll (h : ∀ f ∈ fs, Readable hasMask f) (rest : List (BitVec 8)) :
    frames hasMask (encodeAll fs ++ rest) = fs.map Prod.snd ++ frames hasMask rest := by
  induction fs with
  | nil => rfl
  | cons f fs ih =>
    rw [List.forall_mem_cons] at h
    rw [frames_of_some (parse_encodeAll h.1 fs rest), ih h.2]
    rfl

theorem announcements_encodeAll (h : ∀ f ∈ fs, Readable hasMask f) (rest : List (BitVec 8)) :
    announcements hasMask (encodeAll fs ++ rest) =
      fs.map (fun f ↦ f.2.payload.length) ++ announcements hasMask rest := by
  induction fs with
  | nil => rfl
  | cons f fs ih =>
    rw [List.forall_mem_cons] at h
    rw [announcements_of_some (parse_encodeAll h.1 fs rest), ih h.2]
    rfl

end EncodeAll

end Framing
