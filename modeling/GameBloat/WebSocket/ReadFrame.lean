import GameBloat.WebSocket.Reading

/-!
# Reading a frame

What `read_frame` does with a frame that is there as a whole, and with one that is cut off.

A data frame goes behind what there is of its message (`readFrame_data`), a control frame into the
buffer for control frames (`readFrame_control`).  If the frame is cut off, `read_frame` fails, and
whatever it has stored lies inside the buffer (`readFrame_cut`), unless the frame announces a
length that does not fit into 64 bits together with what there is.

The function reads the rest of the length, adds it to the size of the message and checks the sum,
reads the mask, makes the buffer larger if the frame is a data frame, copies the payload with the
mask taken off, and stores a terminator if the message is complete.  The two kinds of frames go
different ways where memory is concerned: the buffer of a message grows with each frame, by one
byte more for the terminator in the last, while the buffer for control frames has 125 bytes from
the beginning, and nothing asks whether the terminator is the 126th.

What is kept through a frame is that the front of the buffer is the data, and that the null
pointer stands for a message without data.  The stores are in a log with the sizes of their
buffers, and `Stores` says of a sequence of steps that all the stores they have added have some
property; it is the frame condition at the same time, as nothing but the reader, the error and the
log has changed.

* `copyPayload_append`, `copyPayload_of_lt`, `copyPayload_stores`: the loop, by induction on the
  bytes to go.  The first two are for a payload that is there and one that is not, the third is
  for both.
* `readFrame_header`: up to the payload, for both kinds of frames.
* `readPayload_data`, `endMessage_data`, `readFrame_data`: the data frames.  An empty frame at the
  end of a message has its own `realloc`, as there is no payload to make room for.
* `cut_cases`: a frame is cut off before its payload or in it; `readFrame_error` is for the first.
-/

set_option autoImplicit false

namespace GameBloat

open Framing

variable {env : WsEnv} {s s' : Receiver} {v : FrameVars} {body rest payload : List Byte}

/-! ## Stores -/

/-- The steps from `s` to `s'` have made stores with this property and nothing else.  They may
have read, and they may have met an error, which then stays; but no call has been made, and no
other field has changed. -/
structure Stores (ok : ℕ × ℕ → Prop) (s s' : Receiver) : Prop where
  eq : ∃ reader error stores, s' = { s with reader, error, stores := s.stores ++ stores } ∧
    ∀ p ∈ stores, ok p
  error : s.error = true → s'.error = true

/-- Steps that store nothing. -/
theorem Quiet.stores (h : Quiet s s') (ok : ℕ × ℕ → Prop) : Stores ok s s' := by
  obtain ⟨⟨reader, error, rfl⟩, herror⟩ := h
  exact ⟨⟨reader, error, [], by rw [List.append_nil], List.forall_mem_nil _⟩, herror⟩

/-- One sequence of steps after the other. -/
theorem Stores.trans {ok : ℕ × ℕ → Prop} {s'' : Receiver} (h : Stores ok s s')
    (h' : Stores ok s' s'') : Stores ok s s'' := by
  obtain ⟨⟨reader, error, stores, rfl, hok⟩, herror⟩ := h
  obtain ⟨⟨reader', error', stores', rfl, hok'⟩, herror'⟩ := h'
  exact ⟨⟨reader', error', stores ++ stores', by rw [List.append_assoc],
    List.forall_mem_append.2 ⟨hok, hok'⟩⟩, herror' ∘ herror⟩

/-- A property that is weaker. -/
theorem Stores.imp {ok ok' : ℕ × ℕ → Prop} (h : Stores ok s s') (himp : ∀ p, ok p → ok' p) :
    Stores ok' s s' := by
  obtain ⟨⟨reader, error, stores, heq, hok⟩, herror⟩ := h
  exact ⟨⟨reader, error, stores, heq, fun p hp ↦ himp p (hok p hp)⟩, herror⟩

/-- An error is noted. -/
theorem Stores.fail {ok : ℕ × ℕ → Prop} (h : Stores ok s s') :
    Stores ok s { s' with error := true } := by
  obtain ⟨⟨reader, error, stores, rfl, hok⟩, -⟩ := h
  exact ⟨⟨reader, true, stores, rfl, hok⟩, fun _ ↦ rfl⟩

/-- A single store. -/
theorem storeAt_stores {ok : ℕ × ℕ → Prop} {msg : Buffer} {index : ℕ} (hok : ok (index, msg.size))
    (s : Receiver) (byte : Byte) : Stores ok s (storeAt s msg index byte).2 :=
  ⟨⟨s.reader, s.error, [(index, msg.size)], rfl, List.forall_mem_singleton.2 hok⟩, id⟩

/-- Passing over bytes stores nothing. -/
theorem skip_stores (ok : ℕ × ℕ → Prop) (s : Receiver) (n : ℕ) : Stores ok s (s.skip n) :=
  ⟨⟨_, _, [], by rw [List.append_nil, Receiver.skip], List.forall_mem_nil _⟩, id⟩

/-! ## Copying -/

/-- One byte more of the front. -/
theorem Buffer.front_succ (b : Buffer) (n : ℕ) : b.front (n + 1) = b.front n ++ [b.bytes n] := by
  rw [Buffer.front, List.range_succ, List.map_append]
  rfl

/-- A store behind the front does not touch it. -/
theorem front_storeAt (s : Receiver) (b : Buffer) (n : ℕ) (byte : Byte) :
    (storeAt s b n byte).1.front n = b.front n := by
  refine List.map_congr_left fun i hi ↦ ?_
  exact Function.update_of_ne (List.mem_range.1 hi).ne _ _

/-- A store behind the front makes it longer. -/
theorem front_succ_storeAt (s : Receiver) (b : Buffer) (n : ℕ) (byte : Byte) :
    (storeAt s b n byte).1.front (n + 1) = b.front n ++ [byte] := by
  have hbyte : (storeAt s b n byte).1.bytes n = byte := Function.update_self _ _ _
  rw [Buffer.front_succ, front_storeAt, hbyte]

/-- **The loop copies** the bytes, with the mask taken off, behind those that there are.  The
index of the mask goes on with `i`, and so the induction is for all of them. -/
theorem copyPayload_append (masks : List Byte) (i : ℕ) (h : s.reader.input = body ++ rest) :
    ∃ buf, copyPayload masks body.length i v s =
        (true, { v with buf, msgIdx := v.msgIdx + body.length },
          { s.skip body.length with stores := s.stores ++
              (List.range' v.msgIdx body.length).map fun j ↦ (j, v.buf.size) }) ∧
      buf.size = v.buf.size ∧
      buf.front (v.msgIdx + body.length) = v.buf.front v.msgIdx ++
        body.mapIdx fun j byte ↦ byte ^^^ masks.getD ((i + j) % 4) 0 := by
  induction body generalizing i v s with
  | nil =>
    refine ⟨v.buf, ?_, rfl, ?_⟩
    · show (true, v, s) = (true, v, { s with stores := s.stores ++ [] })
      rw [List.append_nil]
    · exact (List.append_nil _).symm
  | cons byte body ih =>
    -- the induction hypothesis is about the buffer with this byte in it, and the next index
    let byte' := byte ^^^ masks.getD (i % 4) 0
    let buf' := (storeAt (s.skip 1) v.buf v.msgIdx byte').1
    let v' : FrameVars := { v with buf := buf', msgIdx := v.msgIdx + 1 }
    obtain ⟨buf, hcopy, hsize, hfront⟩ := ih (i + 1) (v := v')
      (s := (storeAt (s.skip 1) v.buf v.msgIdx byte').2) (Reader.next_cons h).2
    have hidx : v'.msgIdx + body.length = v.msgIdx + (body.length + 1) := by
      show v.msgIdx + 1 + body.length = _
      omega
    refine ⟨buf, ?_, hsize, ?_⟩
    · have hbyte : (byte.toNat : ℤ) ≠ -1 := by omega
      have hrange : s.stores ++ (List.range' v.msgIdx (body.length + 1)).map
          (fun j ↦ (j, v.buf.size)) = s.stores ++ [(v.msgIdx, v.buf.size)] ++
            (List.range' (v.msgIdx + 1) body.length).map fun j ↦ (j, v.buf.size) := by
        rw [List.range'_succ, List.map_cons, List.append_assoc, List.singleton_append]
      rw [List.length_cons, copyPayload, nextByte_cons h, hrange, ← hidx]
      simp only [if_neg hbyte, ofInt_toNat]
      exact hcopy
    · have hfront' : v'.buf.front v'.msgIdx = v.buf.front v.msgIdx ++ [byte'] :=
        front_succ_storeAt (s.skip 1) v.buf v.msgIdx byte'
      have hmask : (fun j byte ↦ byte ^^^ masks.getD ((i + 1 + j) % 4) 0) =
          fun j (byte : Byte) ↦ byte ^^^ masks.getD ((i + (j + 1)) % 4) 0 := by
        funext j
        rw [Nat.add_assoc, Nat.add_comm 1]
      rw [hidx, hfront', hmask, List.append_assoc, List.singleton_append] at hfront
      rw [List.length_cons, hfront, List.mapIdx_cons, Nat.add_zero]

/-- If bytes are missing, the loop fails.  It stops at the first -1, as a byte is never negative. -/
theorem copyPayload_of_lt (masks : List Byte) {n : ℕ} (i : ℕ) (v : FrameVars)
    (h : s.reader.input.length < n) :
    (copyPayload masks n i v s).1 = false ∧ (copyPayload masks n i v s).2.2.error = true := by
  induction n generalizing i v s with
  | zero => exact absurd h (Nat.not_lt_zero _)
  | succ n ih =>
    rw [copyPayload]
    cases hinput : s.reader.input with
    | nil =>
      obtain ⟨hbyte, herror⟩ := nextByte_nil hinput
      simp only [hbyte, if_true]
      exact ⟨trivial, herror⟩
    | cons byte rest =>
      have hbyte : (byte.toNat : ℤ) ≠ -1 := by omega
      have hrest : (s.skip 1).reader.input = rest := (Reader.next_cons hinput).2
      rw [hinput] at h
      rw [nextByte_cons hinput]
      simp only [if_neg hbyte]
      exact ih (i + 1) _ (hrest ▸ Nat.lt_of_succ_lt_succ h)

/-- The stores of the loop, however far it gets. -/
theorem copyPayload_stores (masks : List Byte) (n i : ℕ) (v : FrameVars) (s : Receiver) :
    Stores (fun p ↦ p.1 < v.msgIdx + n ∧ p.2 = v.buf.size) s (copyPayload masks n i v s).2.2 := by
  induction n generalizing i v s with
  | zero => exact (Quiet.refl s).stores _
  | succ n ih =>
    have hquiet := nextByte_quiet s
    rw [copyPayload]
    generalize nextByte s = next at hquiet ⊢
    obtain ⟨curByte, s'⟩ := next
    -- the loop ends for want of a byte, or there is one store more
    by_cases hbyte : curByte = -1
    · simp only [if_pos hbyte]
      exact hquiet.stores _
    · simp only [if_neg hbyte]
      refine (hquiet.stores _).trans ((storeAt_stores ?_ _ _).trans ((ih _ _ _).imp ?_))
      · exact ⟨Nat.lt_add_of_pos_right n.succ_pos, rfl⟩
      · rintro p ⟨hlt, hsize⟩
        refine ⟨?_, hsize⟩
        show p.1 < v.msgIdx + (n + 1)
        have hlt' : p.1 < v.msgIdx + 1 + n := hlt
        omega

/-! ## The header -/

/-- There is memory for every message of the size that is allowed, and its terminator.  A size of
zero is never asked for.  Where there is too little, a connection may end with an error at any data
frame. -/
def WsEnv.Roomy (env : WsEnv) : Prop := ∀ n, 0 < n → n ≤ maxFrameLength + 1 → env.allocates n

/-- The pieces of the frame after the first two bytes. -/
theorem exists_of_parsePayload {field : ℕ} {bytes : List Byte}
    (h : parsePayload true field bytes = some (payload, rest)) :
    ∃ lengths mask0 mask1 mask2 mask3 body,
      bytes = lengths ++ mask0 :: mask1 :: mask2 :: mask3 :: (body ++ rest) ∧
      lengths.length = lengthBytes field ∧ body.length = declaredLength field lengths ∧
      payload = masked [mask0, mask1, mask2, mask3] body := by
  simp only [parsePayload, Option.bind_eq_bind, Option.bind_eq_some_iff, Prod.exists] at h
  obtain ⟨lengths, tail, hlengths, mask, tail', hmask, body, rest', hbody, h⟩ := h
  cases h
  obtain ⟨rfl, hlengths'⟩ := split_eq_some_iff.1 hlengths
  obtain ⟨rfl, hmask'⟩ := split_eq_some_iff.1 hmask
  obtain ⟨rfl, hbody'⟩ := split_eq_some_iff.1 hbody
  obtain ⟨mask0, mask1, mask2, mask3, rfl⟩ := List.length_eq_four.1 hmask'
  exact ⟨lengths, mask0, mask1, mask2, mask3, body, rfl, hlengths', hbody', rfl⟩

/-- After the length and the masks comes the payload. -/
theorem input_skip_header {lengths tail : List Byte} {mask0 mask1 mask2 mask3 : Byte}
    (h : s.reader.input = lengths ++ mask0 :: mask1 :: mask2 :: mask3 :: tail) :
    (s.skip (lengths.length + 4)).reader.input = tail := by
  have htail := Reader.input_skip h
  rw [← Receiver.skip_skip]
  exact @Reader.input_skip [mask0, mask1, mask2, mask3] _ _ htail

/-- `read_frame` after a length and masks that are there.  What is left to see is the payload and
the end of the message, with the variables as the header leaves them. -/
theorem readFrame_header {opcode : Byte} {isFin : Bool} {lengths tail : List Byte}
    {mask0 mask1 mask2 mask3 : Byte} (herror : s.error = false) (hfield : v.frameLength < 128)
    (hlengths : lengths.length = lengthBytes v.frameLength)
    (h : s.reader.input = lengths ++ mask0 :: mask1 :: mask2 :: mask3 :: tail) :
    let frameLength := declaredLength v.frameLength lengths
    let v' : FrameVars :=
      { v with frameLength, frameSize := (v.frameSize + frameLength) % 2 ^ 64 }
    readFrame env opcode isFin v s =
      if maxFrameLength < v'.frameSize then
        (false, v', { s.skip lengths.length with error := true })
      else
        match readPayload env opcode [mask0, mask1, mask2, mask3] isFin v'
            (s.skip (lengths.length + 4)) with
        | (false, v, s) => (false, v, s)
        | (true, v, s) => endMessage env opcode isFin v s := by
  intro frameLength v'
  have htail : (s.skip lengths.length).reader.input = _ := Reader.input_skip h
  have herror' : (s.skip (lengths.length + 4)).error = false := herror
  rw [readFrame, nextFrameLength_eq hfield hlengths h]
  refine if_congr Iff.rfl rfl ?_
  rw [nextMasks_eq htail, Receiver.skip_skip]
  exact if_neg (by rw [herror']; decide)

/-- A message that becomes too long is an error.  It is found before the mask is read, and nothing
has been stored. -/
theorem readFrame_tooLong (env : WsEnv) (opcode : Byte) (isFin : Bool) (v : FrameVars)
    (herror : s.error = false) (hfield : v.frameLength < 128)
    (h : parsePayload true v.frameLength s.reader.input = some (payload, rest))
    (hlong : maxFrameLength < v.frameSize + payload.length)
    (hwrap : v.frameSize + payload.length < 2 ^ 64) (ok : ℕ × ℕ → Prop) :
    ∃ v' s', readFrame env opcode isFin v s = (false, v', s') ∧ s'.error = true ∧
      Stores ok s s' := by
  obtain ⟨lengths, mask0, mask1, mask2, mask3, body, hinput, hlengths, hbody, rfl⟩ :=
    exists_of_parsePayload h
  rw [length_masked, hbody] at hlong hwrap
  rw [readFrame_header herror hfield hlengths hinput]
  refine ⟨_, _, if_pos ?_, rfl, (skip_stores ok s _).fail⟩
  show maxFrameLength < (_ + _) % 2 ^ 64
  rwa [Nat.mod_eq_of_lt hwrap]

/-! ## Data frames -/

section Data

variable {opcode : Byte} {isFin : Bool} {masks data : List Byte} {b : Buffer} {frameSize : ℕ}

/-- The payload of a data frame goes behind the data that there is. -/
theorem readPayload_data (isFin : Bool) (masks : List Byte) (frameSize : ℕ)
    (hdata : isControlFrame opcode = false) (henv : env.Roomy)
    (hfront : b.front data.length = data) (hfits : data.length + body.length ≤ maxFrameLength)
    (h : s.reader.input = body ++ rest) :
    ∃ b', readPayload env opcode masks isFin ⟨b, body.length, frameSize, data.length⟩ s =
        (true, ⟨b', body.length, frameSize, data.length + body.length⟩,
          { s.skip body.length with
            stores := s.stores ++ (List.range' data.length body.length).map fun j ↦
              (j, data.length + body.length + isFin.toNat) }) ∧
      b'.front (data.length + body.length) = data ++ masked masks body ∧
      b'.size = if body = [] then b.size else data.length + body.length + isFin.toNat := by
  rw [readPayload]
  by_cases hbody : body = []
  · subst hbody
    refine ⟨b, ?_, hfront.trans (List.append_nil data).symm, (if_pos rfl).symm⟩
    show (true, _, s) = (true, _, { s with stores := s.stores ++ [] })
    rw [List.append_nil]
    rfl
  · have hpos : 0 < body.length := List.length_pos_iff.2 hbody
    have hfin : isFin.toNat ≤ 1 := Bool.toNat_le isFin
    have hmod : (data.length + body.length + isFin.toNat) % 2 ^ 64 =
        data.length + body.length + isFin.toNat := by
      rw [maxFrameLength] at hfits
      exact Nat.mod_eq_of_lt (by omega)
    -- `realloc` keeps the front, which is all that there is of the message
    let grown : Buffer := { b with size := data.length + body.length + isFin.toNat }
    obtain ⟨b', hcopy, hsize, hfront'⟩ :=
      copyPayload_append (v := ⟨grown, body.length, frameSize, data.length⟩) masks 0 h
    refine ⟨b', ?_, ?_, ?_⟩
    · rw [if_pos hpos, hdata, hmod, WsEnv.realloc, if_pos (henv _ (by omega) (by omega))]
      exact hcopy
    · have hgrown : grown.front data.length = data := hfront
      refine hfront'.trans ?_
      simp only [hgrown, Nat.zero_add, masked]
    · rw [hsize, if_neg hbody]

/-- The end of a data frame.  An empty frame at the end of a message makes room for the
terminator.  A message without any data has none, and its buffer stays the null pointer. -/
theorem endMessage_data (hdata : isControlFrame opcode = false) (henv : env.Roomy)
    {frameLength n : ℕ} (hn : n ≤ maxFrameLength)
    (hroom : frameLength ≠ 0 → isFin = true → b.size = n + 1) :
    ∃ b' s', endMessage env opcode isFin ⟨b, frameLength, n, n⟩ s =
        (true, ⟨b', frameLength, n, n⟩, s') ∧
      s'.reader = s.reader ∧ s'.error = s.error ∧ Stores (fun p ↦ p.1 < p.2) s s' ∧
      b'.front n = b.front n ∧ (b'.size = 0 ↔ b.size = 0 ∧ (isFin = false ∨ n = 0)) := by
  rw [endMessage]
  -- there is a terminator only for a message that is complete and has data
  by_cases hend : isFin = true ∧ 0 < n
  · obtain ⟨hfin, hpos⟩ := hend
    rw [if_pos ⟨hfin, hpos⟩, hdata]
    -- the last frame may be empty, and then nobody has made room yet
    by_cases hzero : frameLength = 0
    · have hmod : (n + 1) % 2 ^ 64 = n + 1 := by
        rw [maxFrameLength] at hn
        exact Nat.mod_eq_of_lt (by omega)
      rw [if_pos ⟨hzero, by decide⟩, hmod, WsEnv.realloc, if_pos (henv _ (by omega) (by omega))]
      refine ⟨_, _, rfl, rfl, rfl, storeAt_stores (Nat.lt_succ_self n) s 0, ?_, ?_⟩
      · exact front_storeAt s _ n 0
      · refine iff_of_false (Nat.succ_ne_zero n) ?_
        rintro ⟨-, hfin' | hn0⟩
        · rw [hfin] at hfin'
          cases hfin'
        · omega
    · rw [if_neg (fun h ↦ hzero h.1)]
      have hsize := hroom hzero hfin
      refine ⟨_, _, rfl, rfl, rfl, storeAt_stores ?_ s 0, front_storeAt s b n 0, ?_⟩
      · show n < b.size
        omega
      · show b.size = 0 ↔ _
        omega
  · rw [if_neg hend]
    refine ⟨b, s, rfl, rfl, rfl, (Quiet.refl s).stores _, rfl, ?_⟩
    rw [iff_self_and]
    intro _
    cases isFin with
    | false => exact .inl rfl
    | true =>
      rw [and_iff_right rfl] at hend
      exact .inr (by omega)

/-- **A data frame** is put behind the data that there is of its message. -/
theorem readFrame_data (isFin : Bool) (hdata : isControlFrame opcode = false)
    (henv : env.Roomy) (herror : s.error = false) {field : ℕ} (hfield : field < 128)
    (h : parsePayload true field s.reader.input = some (payload, rest))
    (hfront : b.front data.length = data) (hnull : b.size = 0 ↔ data = [])
    (hfits : (data ++ payload).length ≤ maxFrameLength) :
    ∃ b' s', readFrame env opcode isFin ⟨b, field, data.length, data.length⟩ s =
        (true, ⟨b', payload.length, (data ++ payload).length, (data ++ payload).length⟩, s') ∧
      s'.reader.input = rest ∧ s'.error = false ∧ Stores (fun p ↦ p.1 < p.2) s s' ∧
      b'.front (data ++ payload).length = data ++ payload ∧
      (b'.size = 0 ↔ data ++ payload = []) := by
  obtain ⟨lengths, mask0, mask1, mask2, mask3, body, hinput, hlengths, hbody, rfl⟩ :=
    exists_of_parsePayload h
  rw [List.length_append, length_masked] at hfits
  have hwrap : (data.length + body.length) % 2 ^ 64 = data.length + body.length := by
    rw [maxFrameLength] at hfits
    exact Nat.mod_eq_of_lt (by omega)
  have hrest := input_skip_header hinput
  obtain ⟨b1, hpayload, hfront1, hsize1⟩ := readPayload_data isFin
    [mask0, mask1, mask2, mask3] (data.length + body.length) hdata henv hfront hfits hrest
  have hroom : body.length ≠ 0 → isFin = true → b1.size = data.length + body.length + 1 := by
    intro hne hfin
    rw [hsize1, if_neg (fun hnil ↦ hne (congrArg List.length hnil)), hfin]
    rfl
  -- the receiver between the two parts is the one that `readPayload_data` leaves
  obtain ⟨b2, s', hend, hreader, herror', hstores, hfront2, hsize2⟩ := endMessage_data (b := b1)
    (s := { (s.skip (lengths.length + 4)).skip body.length with
      stores := (s.skip (lengths.length + 4)).stores ++
        (List.range' data.length body.length).map fun j ↦
          (j, data.length + body.length + isFin.toNat) })
    hdata henv hfits hroom
  rw [readFrame_header herror hfield hlengths hinput]
  simp only [← hbody, hwrap, if_neg (Nat.not_lt_of_le hfits), hpayload, hend, List.length_append,
    length_masked]
  refine ⟨b2, s', rfl, ?_, herror'.trans herror, ?_, hfront2.trans hfront1, ?_⟩
  · rw [hreader]
    exact Reader.input_skip hrest
  · refine Stores.trans ⟨⟨_, s.error, _, rfl, ?_⟩, id⟩ hstores
    intro p hp
    obtain ⟨j, hj, rfl⟩ := List.mem_map.1 hp
    rw [List.mem_range'_1] at hj
    show j < data.length + body.length + isFin.toNat
    omega
  · rw [hsize2, hsize1, List.append_eq_nil_iff, ← List.length_eq_zero_iff (l := masked _ _),
      length_masked, List.length_eq_zero_iff]
    by_cases hnil : body = []
    · rw [if_pos hnil, hnull, hnil, and_iff_left rfl]
      exact and_iff_left_of_imp fun hdata ↦ .inr (by rw [hdata]; rfl)
    · have hpos := List.length_pos_iff.2 hnil
      rw [if_neg hnil]
      exact iff_of_false (by omega) fun hboth ↦ hnil hboth.2

end Data

/-! ## Control frames -/

section Control

variable {opcode : Byte} {b : Buffer} {field : ℕ}

/-- A length of less than 126 is the length of the payload. -/
theorem length_of_parsePayload_of_lt (hfield : field < 126) {bytes : List Byte}
    (h : parsePayload true field bytes = some (payload, rest)) : payload.length = field := by
  obtain ⟨lengths, mask0, mask1, mask2, mask3, body, -, -, hbody, rfl⟩ := exists_of_parsePayload h
  rw [length_masked, hbody, declaredLength, if_pos hfield]

/-- **A control frame** is put into its buffer.  With its terminator a payload of 125 bytes is one
byte too long for it.  The stores are inside just if the payload is shorter. -/
theorem readFrame_control (env : WsEnv) (hcontrol : isControlFrame opcode = true)
    (herror : s.error = false) (hfield : field ≤ 125) (hsize : b.size = 125)
    (h : parsePayload true field s.reader.input = some (payload, rest)) :
    ∃ b' s', readFrame env opcode true ⟨b, field, 0, 0⟩ s =
        (true, ⟨b', payload.length, payload.length, payload.length⟩, s') ∧
      s'.reader.input = rest ∧ b'.size = 125 ∧ b'.front payload.length = payload ∧
      ∃ reader stores, s' = { s with reader, stores := s.stores ++ stores } ∧
        ((∀ p ∈ stores, p.1 < p.2) ↔ payload.length < 125) := by
  have hlength := length_of_parsePayload_of_lt (by omega) h
  obtain ⟨lengths, mask0, mask1, mask2, mask3, body, hinput, hlengths, hbody, rfl⟩ :=
    exists_of_parsePayload h
  rw [length_masked] at hlength ⊢
  have hmod : (0 + body.length) % 2 ^ 64 = body.length := by
    rw [Nat.zero_add]
    exact Nat.mod_eq_of_lt (by omega)
  have hshort : ¬maxFrameLength < body.length := by
    rw [maxFrameLength]
    omega
  have hrest := input_skip_header hinput
  rw [readFrame_header herror (by show field < 128; omega) hlengths hinput]
  simp only [← hbody, hmod, if_neg hshort]
  rw [readPayload]
  -- an empty control frame stores nothing at all, not even a terminator
  by_cases hpos : 0 < body.length
  · obtain ⟨b1, hcopy, hsize1, hfront1⟩ := copyPayload_append
      (v := ⟨b, body.length, body.length, 0⟩) [mask0, mask1, mask2, mask3] 0 hrest
    rw [Nat.zero_add] at hcopy hfront1
    let filled : Receiver := { (s.skip (lengths.length + 4)).skip body.length with
      stores := s.stores ++ (List.range' 0 body.length).map fun j ↦ (j, b.size) }
    refine ⟨(storeAt filled b1 body.length 0).1, (storeAt filled b1 body.length 0).2, ?_, ?_,
      hsize1.trans hsize, ?_, filled.reader,
      (List.range' 0 body.length).map (fun j ↦ (j, b.size)) ++ [(body.length, b1.size)], ?_, ?_⟩
    · rw [if_pos hpos, if_pos hcontrol]
      simp only [hcopy]
      rw [endMessage, if_pos ⟨rfl, hpos⟩, if_neg (fun hzero ↦ hpos.ne' hzero.1)]
      rfl
    · exact Reader.input_skip hrest
    · refine (front_storeAt filled b1 _ 0).trans (hfront1.trans ?_)
      simp only [Nat.zero_add, masked]
      rfl
    · rw [← List.append_assoc]
      rfl
    · have hroom : (body.length, b1.size).1 < (body.length, b1.size).2 ↔ body.length < 125 := by
        show body.length < b1.size ↔ _
        rw [hsize1, hsize]
      rw [List.forall_mem_append, List.forall_mem_singleton, hroom]
      refine and_iff_right_of_imp fun hlt p hp ↦ ?_
      obtain ⟨j, hj, rfl⟩ := List.mem_map.1 hp
      rw [List.mem_range'_1] at hj
      show j < b.size
      omega
  · have hnil : body = [] := List.length_eq_zero_iff.1 (by omega)
    rw [if_neg hpos]
    subst hnil
    refine ⟨b, s.skip (lengths.length + 4), ?_, hrest, hsize, rfl,
      (s.skip (lengths.length + 4)).reader, [], ?_, ?_⟩
    · exact if_neg fun hend ↦ Nat.lt_irrefl 0 hend.2
    · rw [List.append_nil]
      rfl
    · exact iff_of_true (List.forall_mem_nil _) (by decide)

end Control

/-! ## Frames that are cut off -/

/-- Where a frame may be cut off: before the payload or in it. -/
theorem cut_cases {field : ℕ} {bytes : List Byte} (h : parsePayload true field bytes = none) :
    bytes.length < lengthBytes field + 4 ∨ ∃ lengths mask0 mask1 mask2 mask3 tail,
      bytes = lengths ++ mask0 :: mask1 :: mask2 :: mask3 :: tail ∧
      lengths.length = lengthBytes field ∧ tail.length < declaredLength field lengths := by
  rw [or_iff_not_imp_left]
  intro hlong
  have hlengths : split (lengthBytes field) bytes =
      some (bytes.take (lengthBytes field), bytes.drop (lengthBytes field)) := if_pos (by omega)
  have hmask : split 4 (bytes.drop (lengthBytes field)) =
      some ((bytes.drop (lengthBytes field)).take 4, (bytes.drop (lengthBytes field)).drop 4) :=
    if_pos (by rw [List.length_drop]; omega)
  obtain ⟨heq, hlength⟩ := split_eq_some_iff.1 hlengths
  obtain ⟨heq', hlength'⟩ := split_eq_some_iff.1 hmask
  obtain ⟨mask0, mask1, mask2, mask3, hmasks⟩ := List.length_eq_four.1 hlength'
  refine ⟨_, mask0, mask1, mask2, mask3, (bytes.drop (lengthBytes field)).drop 4, ?_, hlength, ?_⟩
  · rw [hmasks] at heq'
    exact heq.trans (congrArg (_ ++ ·) heq')
  · rw [parsePayload, hlengths] at h
    simp only [Option.bind_eq_bind, Option.bind_some, if_true, hmask] at h
    rw [← split_eq_none_iff]
    cases hsplit : split (declaredLength field (bytes.take (lengthBytes field)))
        ((bytes.drop (lengthBytes field)).drop 4) with
    | none => rfl
    | some p =>
      rw [hsplit] at h
      cases h

/-- If the payload is cut off, what there is of it lies inside the buffer.  For a data frame the
buffer has been made as large as the frame announces, and this is where a sum that wraps round
would do harm. -/
theorem readPayload_cut (env : WsEnv) {opcode : Byte} (isFin : Bool) (masks : List Byte)
    {b : Buffer} {frameLength msgIdx : ℕ} (frameSize : ℕ) (h : s.reader.input.length < frameLength)
    (hwrap : msgIdx + frameLength + 1 < 2 ^ 64)
    (hcontrol : isControlFrame opcode = true → msgIdx + frameLength ≤ b.size) :
    ∃ v' s', readPayload env opcode masks isFin ⟨b, frameLength, frameSize, msgIdx⟩ s =
        (false, v', s') ∧ s'.error = true ∧ Stores (fun p ↦ p.1 < p.2) s s' := by
  -- whichever buffer it is, if it has room for the payload the stores are inside
  have hcopy (b' : Buffer) (hsize : msgIdx + frameLength ≤ b'.size) :
      ∃ v' s', copyPayload masks frameLength 0 ⟨b', frameLength, frameSize, msgIdx⟩ s =
        (false, v', s') ∧ s'.error = true ∧ Stores (fun p ↦ p.1 < p.2) s s' := by
    obtain ⟨hret, herror⟩ :=
      copyPayload_of_lt masks 0 ⟨b', frameLength, frameSize, msgIdx⟩ h
    refine ⟨_, _, Prod.ext hret rfl, herror, (copyPayload_stores _ _ _ _ _).imp ?_⟩
    rintro p ⟨hlt, hp⟩
    rw [hp]
    exact hlt.trans_le hsize
  rw [readPayload, if_pos (Nat.zero_lt_of_lt h)]
  by_cases hopcode : isControlFrame opcode = true
  · rw [if_pos hopcode]
    exact hcopy b (hcontrol hopcode)
  · have hfin : isFin.toNat ≤ 1 := Bool.toNat_le isFin
    have hmod : (msgIdx + frameLength + isFin.toNat) % 2 ^ 64 =
        msgIdx + frameLength + isFin.toNat := Nat.mod_eq_of_lt (by omega)
    rw [if_neg hopcode, hmod, WsEnv.realloc]
    by_cases hroom : env.allocates (msgIdx + frameLength + isFin.toNat) = true
    · rw [if_pos hroom]
      exact hcopy _ (Nat.le_add_right _ _)
    · rw [if_neg hroom]
      exact ⟨_, _, rfl, rfl, ((Quiet.refl s).stores _).fail⟩

/-- An error on the way to the payload.  The length that has been read may be anything then, and
so the check of the sum may fail or not. -/
theorem readFrame_error (env : WsEnv) (opcode : Byte) (isFin : Bool) (v : FrameVars)
    (herror : (readBytes (lengthBytes v.frameLength + 4) s).error = true) :
    ∃ v' s', readFrame env opcode isFin v s = (false, v', s') ∧ s'.error = true ∧
      Stores (fun p ↦ p.1 < p.2) s s' := by
  have hquiet (n : ℕ) : Stores (fun p ↦ p.1 < p.2) s (readBytes n s) :=
    (readBytes_quiet n s).stores _
  have hlengths : (nextFrameLength v.frameLength s).2 = _ := nextFrameLength_state s
  rw [readFrame]
  generalize nextFrameLength v.frameLength s = next at hlengths ⊢
  obtain ⟨n, s1⟩ := next
  dsimp only
  have hmasks : (nextMasks s1).2 = readBytes (lengthBytes v.frameLength + 4) s := by
    rw [nextMasks_state, readBytes_add]
    exact congrArg _ hlengths
  generalize nextMasks s1 = next at hmasks ⊢
  obtain ⟨masks, s2⟩ := next
  have hstores1 : Stores (fun p ↦ p.1 < p.2) s s1 := by
    rw [show s1 = _ from hlengths]
    exact hquiet _
  have hstores2 : Stores (fun p ↦ p.1 < p.2) s s2 ∧ s2.error = true := by
    rw [show s2 = _ from hmasks]
    exact ⟨hquiet _, herror⟩
  clear hlengths hmasks
  -- the number `n` may come from a -1, and so nothing is known of it
  by_cases hlong : maxFrameLength < (v.frameSize + n) % 2 ^ 64
  · rw [if_pos hlong]
    exact ⟨_, _, rfl, rfl, hstores1.fail⟩
  · rw [if_neg hlong, if_pos hstores2.2]
    exact ⟨_, _, rfl, hstores2.2, hstores2.1⟩

/-- **If a frame is cut off**, reading it fails, and the stores lie inside the buffer. -/
theorem readFrame_cut (env : WsEnv) {opcode : Byte} (isFin : Bool) (hfield : v.frameLength < 128)
    (herror : s.error = false) (h : parsePayload true v.frameLength s.reader.input = none)
    (hannounced : ∀ n, announcedLength v.frameLength s.reader.input = some n →
      v.msgIdx + n + 1 < 2 ^ 64 ∧ (isControlFrame opcode = true → v.msgIdx + n ≤ v.buf.size)) :
    ∃ v' s', readFrame env opcode isFin v s = (false, v', s') ∧ s'.error = true ∧
      Stores (fun p ↦ p.1 < p.2) s s' := by
  obtain hshort | ⟨lengths, mask0, mask1, mask2, mask3, tail, hinput, hlengths, htail⟩ :=
    cut_cases h
  · exact readFrame_error env opcode isFin v (readBytes_of_lt hshort)
  · rw [readFrame_header herror hfield hlengths hinput]
    by_cases hlong : maxFrameLength <
        (v.frameSize + declaredLength v.frameLength lengths) % 2 ^ 64
    · exact ⟨_, _, if_pos hlong, rfl, (skip_stores _ s _).fail⟩
    · have hrest := input_skip_header hinput
      have hsplit : announcedLength v.frameLength s.reader.input =
          some (declaredLength v.frameLength lengths) := by
        rw [announcedLength, split_eq_some_iff.2 ⟨hinput, hlengths⟩]
        rfl
      obtain ⟨hwrap, hcontrol⟩ := hannounced _ hsplit
      obtain ⟨v', s', hpayload, herror', hstores⟩ := readPayload_cut env isFin
        [mask0, mask1, mask2, mask3]
        ((v.frameSize + declaredLength v.frameLength lengths) % 2 ^ 64) (hrest ▸ htail) hwrap
        hcontrol
      simp only [if_neg hlong, hpayload]
      exact ⟨v', s', rfl, herror', (skip_stores _ s _).trans hstores⟩

end GameBloat
