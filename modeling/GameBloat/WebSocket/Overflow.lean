import GameBloat.WebSocket.Delivery

/-!
# A length that wraps round

`read_frame` refuses a message that becomes too long, but it adds up the length in 64 bits.  If a
client has sent `n` bytes of a message, it can announce a frame of `2 ^ 64 - n + w` bytes, where
`w` is less than `n`: the sum is `w`, which is not too long, and so the buffer is made smaller, to
hold `w` bytes.  The loop goes on to copy at `n`.  It copies as many bytes as the client cares to
send, all of them outside of the buffer (`wrapped_frame_overflows`).

The size that `realloc` is asked for is a sum of the same kind, with one byte more if the frame is
the last.  It must not be zero, which is why `w` may be zero in a final frame only: of what
`realloc` does with a size of zero the language says nothing.

The rest is to follow one connection through two frames.  The first is an ordinary one and is
described by `nextFrameRound_frame`: it leaves `n` bytes under way.  For the second the lemmas
about whole frames and about frames that are cut off do not apply, since these ask that lengths do
not wrap; so there is a lemma for each of the functions that are on its way.

* `copyPayload_cut`: the loop stores what there is, at `n` and the places after it, and fails when
  the stream ends.
* `readFrame_wrapped`: the check is passed, and the buffer has `w` bytes, or one more.
* `nextFrameRound_wrapped`: the round fails, with these stores in the log.

As the stores of a message go into the log with the size of their buffer, the result can say of
each store whether it is inside.
-/

set_option autoImplicit false

namespace GameBloat

open Framing Unicode

variable {env : WsEnv} {s : Receiver} {l : Locals} {kind : Kind} {data mask body : List Byte}
  {fin : Bool} {w : ℕ}

/-- If the stream ends in the payload, the loop has copied what there was of it.  The size of the
buffer plays no part in that. -/
theorem copyPayload_cut (masks : List Byte) (m i : ℕ) (v : FrameVars)
    (h : s.reader.input = body) :
    ∃ v' s', copyPayload masks (body.length + (m + 1)) i v s = (false, v', s') ∧
      s'.error = true ∧ s'.calls = s.calls ∧
      s'.stores = s.stores ++ (List.range' v.msgIdx body.length).map fun j ↦ (j, v.buf.size) := by
  induction body generalizing i v s with
  | nil =>
    obtain ⟨hbyte, herror⟩ := nextByte_nil h
    obtain ⟨reader, error, hquiet⟩ := (nextByte_quiet s).eq
    refine ⟨v, (nextByte s).2, ?_, herror, ?_, ?_⟩
    · rw [List.length_nil, Nat.zero_add, copyPayload]
      simp only [hbyte, if_true]
    · rw [hquiet]
    · rw [hquiet]
      exact (List.append_nil _).symm
  | cons byte body ih =>
    have hbyte : (byte.toNat : ℤ) ≠ -1 := by omega
    have hrest : (storeAt (s.skip 1) v.buf v.msgIdx
        (BitVec.ofInt 8 byte.toNat ^^^ masks.getD (i % 4) 0)).2.reader.input = body :=
      (Reader.next_cons h).2
    obtain ⟨v', s', hcopy, herror, hcalls, hstores⟩ := ih (i + 1)
      { v with
        buf := (storeAt (s.skip 1) v.buf v.msgIdx
          (BitVec.ofInt 8 byte.toNat ^^^ masks.getD (i % 4) 0)).1
        msgIdx := v.msgIdx + 1 } hrest
    refine ⟨v', s', ?_, herror, hcalls, ?_⟩
    · rw [List.length_cons, Nat.add_right_comm, copyPayload, nextByte_cons h]
      simp only [if_neg hbyte]
      exact hcopy
    · rw [hstores, List.length_cons, List.range'_succ, List.map_cons]
      exact List.append_assoc _ _ _

/-- `read_frame` after the seven bits of the length, which are 127.  There are `n` bytes of the
message, and the length that follows brings their number to `w`. -/
theorem readFrame_wrapped (henv : env.Roomy) {opcode : Byte} (hdata : isControlFrame opcode = false)
    (herror : s.error = false) (b : Buffer) {n : ℕ} (hn : n ≤ maxFrameLength) (hw : w < n)
    (hpos : 0 < w + fin.toNat) (hmask : mask.length = 4) (hbody : body.length < 2 ^ 64 - n + w)
    (hinput : s.reader.input = bigEndian 8 (2 ^ 64 - n + w) ++ (mask ++ body)) :
    ∃ v' s', readFrame env opcode fin ⟨b, 127, n, n⟩ s = (false, v', s') ∧ s'.error = true ∧
      s'.calls = s.calls ∧ s'.stores = s.stores ++
        (List.range' n body.length).map fun j ↦ (j, w + fin.toNat) := by
  obtain ⟨mask0, mask1, mask2, mask3, rfl⟩ := List.length_eq_four.1 hmask
  have hfin : fin.toNat ≤ 1 := Bool.toNat_le fin
  have hbound : maxFrameLength < 2 ^ 24 + 1 := by decide
  generalize hlength : 2 ^ 64 - n + w = length at hbody hinput
  have hlengths : (bigEndian 8 length).length = lengthBytes 127 := length_bigEndian 8 length
  have hdeclared : declaredLength 127 (bigEndian 8 length) = length :=
    ofBigEndian_bigEndian (by omega)
  generalize bigEndian 8 length = lengths at hlengths hdeclared hinput
  -- this is where both sums wrap round: the one that is checked, and the one that is allocated
  have hsum : (n + length) % 2 ^ 64 = w := by omega
  have hroom : (n + length + fin.toNat) % 2 ^ 64 = w + fin.toNat := by omega
  have hrest : (s.skip (lengths.length + 4)).reader.input = body := input_skip_header hinput
  -- `m` bytes and one more are announced and do not come
  obtain ⟨m, hm⟩ := Nat.exists_eq_add_of_lt hbody
  obtain ⟨v', s', hcopy, herror', hcalls, hstores⟩ := copyPayload_cut [mask0, mask1, mask2, mask3] m
    0 ⟨{ b with size := w + fin.toNat }, length, w, n⟩ hrest
  rw [← Nat.add_assoc, ← hm] at hcopy
  rw [readFrame_header herror (by show 127 < 128; decide) hlengths hinput]
  simp only [hdeclared, hsum]
  rw [if_neg (by omega), readPayload, if_pos (by show 0 < length; omega), hdata,
    if_neg (by decide)]
  simp only [hroom]
  rw [WsEnv.realloc, if_pos (henv _ hpos (by omega))]
  simp only [hcopy]
  exact ⟨v', s', rfl, herror', hcalls, hstores⟩

/-- What is on the stream of a frame that carries on a message and announces this length.  All the
eight bytes for the length are there, then the mask, and then as much of the payload as the client
sends. -/
def announcing (fin : Bool) (length : ℕ) (mask body : List Byte) : List Byte :=
  (if fin then 0x80 else 0x00) :: 0xFF :: (bigEndian 8 length ++ (mask ++ body))

/-- **A round with such a frame** stores all of the payload outside of the buffer. -/
theorem nextFrameRound_wrapped (henv : env.Roomy) (hs : Underway (some (kind, data)) l s)
    (hw : w < data.length) (hpos : 0 < w + fin.toNat) (hmask : mask.length = 4)
    (hbody : body.length < 2 ^ 64 - data.length + w)
    (hinput : s.reader.input = announcing fin (2 ^ 64 - data.length + w) mask body) :
    ∃ l' s', nextFrameRound env l s = (.breaks, l', s') ∧ s'.error = true ∧ s'.calls = s.calls ∧
      s'.stores = s.stores ++
        (List.range' data.length body.length).map fun j ↦ (j, w + fin.toNat) := by
  have hshort : data.length ≤ maxFrameLength := hs.short
  have hsize : s.frameSize = data.length := hs.size
  have hidx : l.msgIdxData = data.length := hs.idx
  have hfirst : (if fin then 0x80 else 0x00 : Byte).extractLsb' 4 3 = 0 ∧
      (0x0 : BitVec 4) = (if fin then 0x80 else 0x00 : Byte).extractLsb' 0 4 ∧
      (if fin then 0x80 else 0x00 : Byte).msb = fin := by
    cases fin <;> decide
  obtain ⟨hreserved, hopcode, hmsb⟩ := hfirst
  have htype : s.frameType ≠ none := by
    rw [hs.type]
    nofun
  -- after the first byte, and after the second
  have hinput1 : (s.skip 1).reader.input = _ := (Reader.next_cons hinput).2
  have hinput2 : ((s.skip 1).skip 1).reader.input = _ := (Reader.next_cons hinput1).2
  have herror : ((s.skip 1).skip 1).error = false := hs.error
  obtain ⟨v', s', hread, herror', hcalls, hstores⟩ := readFrame_wrapped henv
    (by decide : isControlFrame ((0x0 : BitVec 4).setWidth 8) = false) herror l.msgData hshort hw
    hpos hmask hbody hinput2
  refine ⟨{ l with msgData := v'.buf, msgIdxData := v'.msgIdx },
    { s' with frameSize := v'.frameSize }, ?_, herror', hcalls, hstores⟩
  rw [nextFrameRound_first hopcode hinput, if_neg (not_not.2 hreserved), if_neg,
    if_pos (.inr (.inl rfl)), hmsb, nextKnownFrame, if_neg (fun h ↦ hs.state h.1)]
  · have hcont : ¬((0x0 : BitVec 4).setWidth 8 ≠ wsFrOpCont ∧
        ¬isControlFrame ((0x0 : BitVec 4).setWidth 8) = true) := by decide
    have hdata : (0x0 : BitVec 4).setWidth 8 = wsFrOpTxt ∨
        (0x0 : BitVec 4).setWidth 8 = wsFrOpBin ∨ (0x0 : BitVec 4).setWidth 8 = wsFrOpCont := by
      decide
    have hfield : (BitVec.ofInt 8 (0xFF : Byte).toNat &&& 0x7F).toNat = 127 := by decide
    dsimp only
    rw [if_neg hcont, nextByte_cons hinput1]
    dsimp only
    rw [if_neg (fun h ↦ absurd h.1 (by decide)), if_pos hdata, hfield, nextDataFrame]
    have hvars : (⟨l.msgData, 127, ((s.skip 1).skip 1).frameSize, l.msgIdxData⟩ : FrameVars) =
        ⟨l.msgData, 127, data.length, data.length⟩ :=
      congrArg₂ (FrameVars.mk l.msgData 127) hsize hidx
    rw [hvars, hread]
    rfl
  · rintro (hnone | hsome)
    · exact htype hnone.1
    · exact hsome.2.2 rfl

/-- **A client can have any number of bytes stored outside of the buffer**, from the length of
what it has sent on.  The frame `f` begins a message, and the length wraps round in the next.  All
the stores that come before those of `body` are inside. -/
theorem wrapped_frame_overflows (henv : env.Roomy) (hs : Ready s) {f : Frame}
    {mask0 : List Byte} (hf : Readable (fun _ ↦ true) (some mask0, f)) (hfin : f.fin = false)
    (hreserved : f.reserved = 0) (hopcode : f.opcode = kind.opcode)
    (htext : kind = .text → IsUtf8Prefix f.payload) (hshort : f.payload.length ≤ maxFrameLength)
    (hw : w < f.payload.length) (hpos : 0 < w + fin.toNat) (hmask : mask.length = 4)
    (hbody : body.length < 2 ^ 64 - f.payload.length + w)
    (hinput : s.reader.input =
      encodeFrame (some mask0) f ++ announcing fin (2 ^ 64 - f.payload.length + w) mask body)
    {fuel : ℕ} (hfuel : 2 < fuel) :
    ∃ s' inside outside, establishConnection env fuel s = some s' ∧
      s'.stores = s.stores ++ inside ++ outside ∧ (∀ p ∈ inside, p.1 < p.2) ∧
      outside.map Prod.fst = List.range' f.payload.length body.length ∧
      ∀ p ∈ outside, p.2 = w + fin.toNat ∧ p.2 ≤ p.1 := by
  obtain ⟨fuel, rfl⟩ : ∃ n, fuel = n + 3 := ⟨fuel - 3, by omega⟩
  have hparse : parse (fun _ ↦ true) s.reader.input =
      some (f, announcing fin (2 ^ 64 - f.payload.length + w) mask body) := by
    rw [hinput]
    exact parse_encodeFrame hf.1 hf.2 _
  have hbound : maxFrameLength < 2 ^ 24 + 1 := by decide
  have hfin' : fin.toNat ≤ 1 := Bool.toNat_le fin
  have hfull : ¬Full f := fun h ↦ absurd (hfin.symm.trans h.1) (by decide)
  -- the first frame is an ordinary one, and the round does what `receive` says of it
  have hverdict : receive none f = .awaits (some (kind, f.payload)) := by
    rw [receive_first hreserved hopcode]
    exact Kind.extend_more hfin hshort htext
  have hround := nextFrameRound_frame henv hs.underway validated_none hparse (by omega)
  rw [hverdict] at hround
  rw [establishConnection_succ, nextFrame, nextFrameLoop_succ]
  generalize nextFrameRound env _ _ = out at hround ⊢
  obtain ⟨flow, l1, s1⟩ := out
  obtain ⟨rfl, hs1, -, hinput1, -, inside, hinside, hsafe⟩ := hround
  have herror1 : s1.error = false := hs1.error
  obtain ⟨l2, s2, hround2, herror2, -, houtside⟩ := nextFrameRound_wrapped henv hs1 hw hpos hmask
    hbody hinput1
  obtain ⟨s', hafter, -, hstores⟩ := afterRound_error env l2 (Flow.breaks_ne _) (fun _ ↦ herror2)
    (fuel + 2) fuel
  refine ⟨s', inside, _, ?_, hstores.trans (houtside.trans (congrArg (· ++ _) hinside)),
    hsafe.2 hfull, ?_, ?_⟩
  · rw [afterRound, herror1, if_pos (by decide), nextFrameLoop_succ, hround2]
    exact hafter
  · rw [List.map_map]
    exact List.map_id _
  · refine List.forall_mem_map.2 fun j hj ↦ ⟨rfl, ?_⟩
    rw [List.mem_range'_1] at hj
    show w + fin.toNat ≤ j
    omega

/-- The attack with two bytes of text and three bytes more: all three lie behind the one byte that
there is. -/
theorem wrapped_frame_overflows_three :
    ∃ s' inside outside, establishConnection ⟨fun _ ↦ true, fun _ ↦ true⟩ 3 (.connected (.ofChunks
        [[0x01, 0x82, 0x0, 0x0, 0x0, 0x0, 0x68, 0x69], [0x80, 0xFF, 0xFF, 0xFF, 0xFF, 0xFF, 0xFF,
          0xFF, 0xFF, 0xFE, 0x0, 0x0, 0x0, 0x0, 0x41, 0x42, 0x43]])) = some s' ∧
      s'.stores = inside ++ outside ∧ outside.map Prod.fst = [2, 3, 4] ∧
      ∀ p ∈ outside, p.2 = 1 := by
  obtain ⟨s', inside, outside, hsome, hstores, -, hindices, hsizes⟩ :=
    @wrapped_frame_overflows ⟨fun _ ↦ true, fun _ ↦ true⟩ (.connected (.ofChunks
        [[0x01, 0x82, 0x0, 0x0, 0x0, 0x0, 0x68, 0x69], [0x80, 0xFF, 0xFF, 0xFF, 0xFF, 0xFF, 0xFF,
          0xFF, 0xFF, 0xFE, 0x0, 0x0, 0x0, 0x0, 0x41, 0x42, 0x43]])) .text [0x0, 0x0, 0x0, 0x0]
      [0x41, 0x42, 0x43] true 0 (fun _ _ _ ↦ rfl) (ready_connected _)
      ⟨false, 0, 0x1, 2, [0x68, 0x69]⟩ [0x0, 0x0, 0x0, 0x0] (by decide) rfl rfl rfl (by decide)
      (by decide) (by decide) (by decide) rfl (by decide) rfl 3 (by decide)
  exact ⟨s', inside, outside, hsome, hstores, hindices, fun p hp ↦ (hsizes p hp).1⟩

end GameBloat
