import GameBloat.WebSocket.ReadFrame
import GameBloat.WebSocket.Send

/-!
# One round of the receiver

`next_frame` goes round once for a frame.  The buffers, indices and states that it keeps are in
step with what has come of the message under way (`Underway`), and a round does with a frame what
`receive` says (`nextFrameRound_frame`).  If there is only the beginning of a frame, the
connection fails (`nextFrameRound_cut`).

In the source a round is one long body.  It checks the reserved bits and the opcode against the
message under way, takes the second byte, refuses control frames that are long or not final, and
calls `read_frame`; then it validates a piece of text, answers a ping, takes note of a pong, or
looks into a close frame.  It ends with a `return`, with the end of the loop, or with the next
round, and an error may be noted on the way without the round being left.

`Follows` says for each verdict what the round has done if that is the verdict: how it ends, what
is under way afterwards, what is left on the stream, and what has been done to the outside
(`Does`).  The last has a condition for the stores to be inside, so that the same lemmas serve for
what the server does and for the safety of its memory.  There is one such lemma for each kind of
frame.

* `nextDataFrame_frame`: data frames.  The validator goes on from the state it ended in
  (`validator_eq`), so that after each frame its state is that of all the data.
* `nextPongFrame_frame`, `nextPingFrame_frame`, `nextCloseFrame_frame`: control frames.  They have
  a buffer of their own, which is why the message under way is not disturbed (`Underway.control`).
* `nextKnownFrame_control` and `nextKnownFrame_data`: after the first byte, where the length field
  is read and the kinds part.
* `nextFrameRound_first`: the tests on the first byte, over the fields of the frame.
* `nextKnownFrame_cut`: a frame that ends too early, of any kind.
-/

set_option autoImplicit false

namespace GameBloat

open Framing Unicode

variable {env : WsEnv} {s s' : Receiver} {l : Locals} {payload rest : List Byte}

/-! ## What a round does to the outside -/

/-- From `s` to `s'` these calls have been made, and the stores lie inside their buffers just if
it is `safe`.  The condition is exact: if it fails, one of the stores is outside. -/
structure Does (calls : List WsCall) (safe : Prop) (s s' : Receiver) : Prop where
  calls : s'.calls = s.calls ++ calls
  stores : ∃ stores, s'.stores = s.stores ++ stores ∧ ((∀ p ∈ stores, p.1 < p.2) ↔ safe)

/-- Nothing has been done. -/
theorem Does.refl (s : Receiver) : Does [] True s s :=
  ⟨(List.append_nil _).symm, [], (List.append_nil _).symm,
    iff_of_true (List.forall_mem_nil _) trivial⟩

/-- One after the other, the steps are safe if both of them are. -/
theorem Does.trans {calls calls' : List WsCall} {safe safe' : Prop} {s'' : Receiver}
    (h : Does calls safe s s') (h' : Does calls' safe' s' s'') :
    Does (calls ++ calls') (safe ∧ safe') s s'' := by
  obtain ⟨hcalls, stores, hstores, hsafe⟩ := h
  obtain ⟨hcalls', stores', hstores', hsafe'⟩ := h'
  refine ⟨?_, stores ++ stores', ?_, ?_⟩
  · rw [hcalls', hcalls, List.append_assoc]
  · rw [hstores', hstores, List.append_assoc]
  · rw [List.forall_mem_append, hsafe, hsafe']

/-- What is not in the logs does not matter. -/
theorem Does.congr {calls : List WsCall} {safe : Prop} {t t' : Receiver} (h : Does calls safe s s')
    (hs : t.calls = s.calls ∧ t.stores = s.stores)
    (hs' : t'.calls = s'.calls ∧ t'.stores = s'.stores) : Does calls safe t t' := by
  obtain ⟨hcalls, stores, hstores, hsafe⟩ := h
  exact ⟨by rw [hs.1, hs'.1, hcalls], stores, by rw [hs.2, hs'.2, hstores], hsafe⟩

/-- Stores that are inside, without a call. -/
theorem Stores.does (h : Stores (fun p ↦ p.1 < p.2) s s') : Does [] True s s' := by
  obtain ⟨⟨reader, error, stores, rfl, hok⟩, -⟩ := h
  exact ⟨(List.append_nil _).symm, stores, rfl, iff_of_true hok trivial⟩

/-! ## Sending -/

/-- A short frame is sent.  There is memory for it, and `idx_response` counts 127 bytes at most. -/
theorem wsSendframe_eq (henv : env.Roomy) {msg : List Byte} (hmsg : msg.length ≤ 125) {type : Byte}
    (htype : type.toNat < 16) (s : Receiver) :
    wsSendframe env s msg type = (env.sends s.calls.length,
      { s with calls := s.calls ++ [sendCall (type.setWidth 4) msg] }) := by
  have hheader : (frameHeader msg.length type).length = 2 := by
    rw [frameHeader, if_pos hmsg]
    rfl
  -- none of the sums comes near its limit
  have hmod : ((frameHeader msg.length type).length + msg.length + 1) % 2 ^ 64 =
      2 + msg.length + 1 := by
    rw [hheader]
    exact Nat.mod_eq_of_lt (by omega)
  have hroom : 2 + msg.length + 1 ≤ maxFrameLength + 1 := by
    rw [maxFrameLength]
    omega
  have hcount : (frameHeader msg.length type).length + msg.length ≤ intMax := by
    rw [hheader, intMax]
    omega
  rw [wsSendframe, hmod, if_pos (henv _ (Nat.succ_pos _) hroom), frameBytes_eq, if_pos hcount,
    frameHeader_append htype]
  rfl

/-- `do_close` with a close code of its own, which it stores into the first two bytes of the
buffer for control frames. -/
theorem customClose_eq (henv : env.Roomy) (hsize : s.msgCtrl.size = 125) (cc : ℕ) :
    (customClose env s cc).error = s.error ∧
      Does [sendCall 0x8 (bigEndian 2 cc)] True s (customClose env s cc) := by
  have hfront :
      (storeAt (storeAt s s.msgCtrl 0 (BitVec.ofNat 8 (cc >>> 8))).2
        (storeAt s s.msgCtrl 0 (BitVec.ofNat 8 (cc >>> 8))).1 1
        (BitVec.ofNat 8 (cc &&& 0xFF))).1.front 2 = bigEndian 2 cc := by
    rw [front_succ_storeAt, front_succ_storeAt, ofNat_and, Nat.shiftRight_eq_div_pow]
    rfl
  have hsend := wsSendframe_eq henv (by simp : (bigEndian 2 cc).length ≤ 125)
    (by decide : wsFrOpClse.toNat < 16)
  rw [customClose]
  simp only [hfront, hsend]
  refine ⟨rfl, rfl, [(0, s.msgCtrl.size), (1, s.msgCtrl.size)], ?_, ?_⟩
  · exact List.append_assoc _ _ _
  · rw [hsize]
    decide

/-! ## The message under way -/

/-- The data of the message under way, which are none if there is none. -/
def dataOf : Option (Kind × List Byte) → List Byte
  | none => []
  | some (_, data) => data

/-- The receiver is in step with what has come of the message under way.  There is no error, and
the server has not asked to close; the type, the size and the index are those of the message; the
front of its buffer is its data, and there is no buffer only if there are no data. -/
structure Underway (underway : Option (Kind × List Byte)) (l : Locals) (s : Receiver) : Prop where
  error : s.error = false
  state : s.state ≠ .closing
  ctrl : s.msgCtrl.size = 125
  type : s.frameType = underway.map fun m ↦ m.1.type
  size : s.frameSize = (dataOf underway).length
  idx : l.msgIdxData = (dataOf underway).length
  front : l.msgData.front (dataOf underway).length = dataOf underway
  null : l.msgData.size = 0 ↔ dataOf underway = []
  short : (dataOf underway).length ≤ maxFrameLength

/-- Passing over bytes leaves the receiver in step. -/
theorem Underway.skip {underway : Option (Kind × List Byte)} (hs : Underway underway l s) (n : ℕ) :
    Underway underway l (s.skip n) :=
  ⟨hs.error, hs.state, hs.ctrl, hs.type, hs.size, hs.idx, hs.front, hs.null, hs.short⟩

/-- The state of the validator, if the message under way is text or there is none.  The data of a
binary message are not validated, and then the state is that of the beginning. -/
def Validated (underway : Option (Kind × List Byte)) (l : Locals) : Prop :=
  (∀ data, underway ≠ some (.binary, data)) → l.utf8State = (dataOf underway).foldl nextState 0

/-- The round of the loop does with a frame what `receive` says of it, and goes on with `rest`. -/
def Follows (env : WsEnv) (underway : Option (Kind × List Byte)) (s : Receiver) (rest : List Byte)
    (safe : Prop) : Verdict → Flow × Locals × Receiver → Prop
  | .awaits underway, (flow, l, s') => flow = .whiles false ∧ Underway underway l s' ∧
      Validated underway l ∧ s'.reader.input = rest ∧ Does [] safe s s'
  | .message kind data, (flow, l, s') => flow = .whiles true ∧ Underway (some (kind, data)) l s' ∧
      s'.reader.input = rest ∧ Does [] safe s s'
  | .ping payload, (flow, l, s') => Does [sendCall 0xA payload] safe s s' ∧
      if env.sends s.calls.length then
        flow = .whiles false ∧ Underway underway l s' ∧ Validated underway l ∧
          s'.reader.input = rest
      else flow = .breaks ∧ s'.error = true
  | .close payload, (flow, _, s') => flow = .returns true ∧ s'.error = false ∧
      s'.state ≠ .closing ∧ s'.frameType = some wsFrOpClse ∧ s'.frameSize = payload.length ∧
      payload.length ≤ 125 ∧ s'.msgCtrl.front payload.length = payload ∧ s'.msgCtrl.size = 125 ∧
      Does [] safe s s'
  | .fails code, (flow, _, s') => flow ≠ .returns true ∧
      (flow ≠ .returns false → s'.error = true) ∧
      Does (code.elim [] fun code ↦ [sendCall 0x8 (bigEndian 2 code)]) safe s s'

/-- Leaving the loop is not a `return`, -/
theorem Flow.breaks_ne (ret : Bool) : Flow.breaks ≠ .returns ret := by
  intro h
  cases h

/-- and neither is going on. -/
theorem Flow.whiles_ne (isFin ret : Bool) : Flow.whiles isFin ≠ .returns ret := by
  intro h
  cases h

/-! ## Data frames -/

/-- The messages that are validated are the texts. -/
theorem Kind.type_eq_txt_iff (kind : Kind) : kind.type = wsFrOpTxt ↔ kind = .text := by
  cases kind <;> decide

section Data

variable {kind : Kind} {data : List Byte} {opcode : Byte} {f : Frame}

/-- The state of the validator after a frame.  It is run on the last bytes of the buffer only, as
many as the frame has. -/
theorem validator_eq (hl : Validated (some (.text, data)) l) {b : Buffer}
    (hfront : b.front (data ++ payload).length = data ++ payload) :
    isUtf8LenState ((b.front (data ++ payload).length).drop
      ((data ++ payload).length - payload.length)) l.utf8State 0 =
        (data ++ payload).foldl nextState 0 := by
  have hstate : l.utf8State = data.foldl nextState 0 := hl fun _ h ↦ by cases h
  rw [isUtf8LenState_eq, hfront, hstate, List.length_append, Nat.add_sub_cancel, List.drop_left,
    List.foldl_append]

/-- **A data frame** carries on its message.  The cases are those of `Kind.extend`: the message
becomes too long, its text is wrong, it is complete, or there is more to come. -/
theorem nextDataFrame_frame (henv : env.Roomy) (hs : Underway (some (kind, data)) l s)
    (hl : Validated (some (kind, data)) l) (hdata : isControlFrame opcode = false)
    (hfield : f.lengthField < 128)
    (h : parsePayload true f.lengthField s.reader.input = some (f.payload, rest))
    (hwrap : data.length + f.payload.length < 2 ^ 64) :
    Follows env (some (kind, data)) s rest True (kind.extend data f)
      (nextDataFrame env opcode f.fin f.lengthField l s) := by
  have hsize : s.frameSize = data.length := hs.size
  have hidx : l.msgIdxData = data.length := hs.idx
  rw [nextDataFrame, hsize, hidx, Kind.extend]
  -- too long: `read_frame` has refused the frame before it read the mask
  by_cases hlong : maxFrameLength < (data ++ f.payload).length
  · rw [if_pos hlong]
    rw [List.length_append] at hlong
    obtain ⟨v', s', hread, herror, hstores⟩ := readFrame_tooLong env opcode f.fin
      ⟨l.msgData, f.lengthField, data.length, data.length⟩ hs.error hfield h hlong hwrap
      fun p ↦ p.1 < p.2
    rw [hread]
    exact ⟨Flow.breaks_ne _, fun _ ↦ herror, hstores.does.congr ⟨rfl, rfl⟩ ⟨rfl, rfl⟩⟩
  rw [if_neg hlong]
  rw [not_lt] at hlong
  -- the frame is read, and whatever comes next, the receiver is in step with the longer
  -- message
  have hfront' : l.msgData.front data.length = data := hs.front
  have hnull' : l.msgData.size = 0 ↔ data = [] := hs.null
  obtain ⟨b, s', hread, hinput, herror, hstores, hfront, hnull⟩ := readFrame_data f.fin
    hdata henv hs.error hfield h hfront' hnull' hlong
  have hcalls := hstores.does
  obtain ⟨⟨reader, error, stores, rfl, hok⟩, -⟩ := hstores
  rw [hread]
  dsimp only
  generalize hnew : data ++ f.payload = new at *
  have hnext (utf8State : ℕ) : Underway (some (kind, new)) ⟨b, new.length, utf8State⟩
      { s with reader, error, stores := s.stores ++ stores, frameSize := new.length } :=
    ⟨herror, hs.state, hs.ctrl, hs.type, rfl, rfl, hfront, hnull, hlong⟩
  have hdoes (error : Bool) : Does [] True s
      { s with reader, error, stores := s.stores ++ stores, frameSize := new.length } :=
    hcalls.congr ⟨rfl, rfl⟩ ⟨rfl, rfl⟩
  have htype : s.frameType = some wsFrOpTxt ↔ kind = .text := by
    rw [hs.type, ← kind.type_eq_txt_iff]
    exact Option.some_inj
  rw [if_neg (by decide : ¬(!true) = true)]
  -- only a text is validated, and `hinvalid` is how the connection ends if it is no UTF-8
  by_cases htext : kind = .text
  · subst htext
    have hstate := validator_eq hl (hnew ▸ hfront)
    rw [hnew] at hstate
    rw [if_pos (htype.2 rfl), hstate, utf8Accept, utf8Reject]
    have hinvalid (isFin : Bool) (l : Locals) :
        Follows env (some (.text, data)) s rest True (.fails (some wsClseInvutf8))
          (.whiles isFin, l, customClose env { s with
            reader, error := true, stores := s.stores ++ stores, frameSize := new.length }
            wsClseInvutf8) := by
      obtain ⟨herror', hclose⟩ := customClose_eq (s := { s with
        reader, error := true, stores := s.stores ++ stores, frameSize := new.length })
        henv hs.ctrl wsClseInvutf8
      have hboth := (hdoes true).trans hclose
      rw [and_true] at hboth
      exact ⟨Flow.whiles_ne _ _, fun _ ↦ herror', hboth⟩
    -- at its end it must be UTF-8, and before that the beginning of UTF-8
    cases f.fin with
    | true =>
      by_cases hvalid : IsUtf8 new
      · have haccept := (accepts_iff _).2 hvalid
        simp only [hvalid, haccept, ne_eq, not_true_eq_false, if_true, if_false, and_false]
        exact ⟨rfl, hnext _, hinput, hdoes error⟩
      · have haccept : ¬new.foldl nextState 0 = 0 := fun h ↦ hvalid ((accepts_iff _).1 h)
        simp only [hvalid, haccept, ne_eq, not_false_eq_true, if_true, and_true]
        exact hinvalid _ _
    | false =>
      by_cases hvalid : IsUtf8Prefix new
      · have hreject : ¬new.foldl nextState 0 = 1 := fun h ↦ (rejects_iff _).1 h hvalid
        simp only [hvalid, hreject, not_true_eq_false, if_false, and_false, Bool.false_eq_true]
        exact ⟨rfl, hnext _, fun _ ↦ rfl, hinput, hdoes error⟩
      · have hreject := (rejects_iff _).2 hvalid
        simp only [hvalid, hreject, not_false_eq_true, if_true, and_true, Bool.false_eq_true,
          if_false]
        exact hinvalid _ _
  · rw [if_neg (fun h ↦ htext (htype.1 h)), if_neg (fun h ↦ htext h.1)]
    have hbinary : kind = .binary := by
      cases kind with
      | text => exact absurd rfl htext
      | binary => rfl
    cases f.fin with
    | true => exact ⟨rfl, hnext _, hinput, hdoes error⟩
    | false =>
      refine ⟨rfl, hnext _, fun hne ↦ absurd ?_ (hne new), hinput, hdoes error⟩
      rw [hbinary]

end Data

/-! ## Control frames -/

section Control

variable {underway : Option (Kind × List Byte)} {field : ℕ}

/-- A control frame leaves the message under way alone. -/
theorem Underway.control (hs : Underway underway l s) {reader : Reader} {stores : List (ℕ × ℕ)}
    {b : Buffer} (hsize : b.size = 125) (lastPongId : BitVec 32) (calls : List WsCall) :
    Underway underway l { s with reader, stores, msgCtrl := b, lastPongId, calls } :=
  ⟨hs.error, hs.state, hsize, hs.type, hs.size, hs.idx, hs.front, hs.null, hs.short⟩

/-- **A pong** is taken note of and no more.  Its four bytes, if that is what it has, are the
number of the ping that it answers, and this is noted if there has been such a ping. -/
theorem nextPongFrame_frame (hs : Underway underway l s) (hl : Validated underway l)
    (hfield : field ≤ 125) (h : parsePayload true field s.reader.input = some (payload, rest)) :
    Follows env underway s rest (payload.length < 125) (.awaits underway)
      (nextPongFrame env true field l s) := by
  obtain ⟨b, s', hread, hinput, hsize, hfront, reader, stores, rfl, hsafe⟩ :=
    readFrame_control env (by decide : isControlFrame wsFrOpPong = true) hs.error hfield
      hs.ctrl h
  rw [nextPongFrame, hread]
  dsimp only
  rw [if_neg (by decide : ¬(!true) = true)]
  have hnext (id : BitVec 32) := @Underway.control s l _ hs reader (s.stores ++ stores) b hsize id
    s.calls
  split_ifs
  · exact ⟨rfl, hnext _, hl, hinput, (List.append_nil _).symm, stores, rfl, hsafe⟩
  · exact ⟨rfl, hnext _, hl, hinput, (List.append_nil _).symm, stores, rfl, hsafe⟩
  · exact ⟨rfl, hnext _, hl, hinput, (List.append_nil _).symm, stores, rfl, hsafe⟩

/-- **A ping** is answered with its own payload.  If the answer cannot be sent, that is an error. -/
theorem nextPingFrame_frame (henv : env.Roomy) (hs : Underway underway l s)
    (hl : Validated underway l) (hfield : field ≤ 125)
    (h : parsePayload true field s.reader.input = some (payload, rest)) :
    Follows env underway s rest (payload.length < 125) (.ping payload)
      (nextPingFrame env true field l s) := by
  have hlength := length_of_parsePayload_of_lt (by omega) h
  obtain ⟨b, s', hread, hinput, hsize, hfront, reader, stores, rfl, hsafe⟩ :=
    readFrame_control env (by decide : isControlFrame wsFrOpPing = true) hs.error hfield
      hs.ctrl h
  rw [nextPingFrame, hread]
  dsimp only
  rw [if_neg (by decide : ¬(!true) = true), doPong, hfront,
    wsSendframe_eq henv (by omega) (by decide)]
  dsimp only
  have hdoes (error : Bool) : Does [sendCall 0xA payload] (payload.length < 125) s
      { s with
        reader, error, stores := s.stores ++ stores, msgCtrl := b,
        calls := s.calls ++ [sendCall 0xA payload] } := ⟨rfl, stores, rfl, hsafe⟩
  -- the pong is a call in any case, and what the send returns decides how the round ends
  cases hsends : env.sends s.calls.length with
  | true =>
    refine ⟨hdoes s.error, ?_⟩
    rw [if_pos hsends]
    exact ⟨rfl, hs.control hsize _ _, hl, hinput⟩
  | false =>
    refine ⟨hdoes true, ?_⟩
    rw [if_neg (by rw [hsends]; decide)]
    exact ⟨rfl, rfl⟩

/-- **A close frame** ends the connection, and it does so with an error if its reason is no text. -/
theorem nextCloseFrame_frame (hs : Underway underway l s) (hfield : field ≤ 125)
    (h : parsePayload true field s.reader.input = some (payload, rest)) :
    Follows env underway s rest (payload.length < 125)
      (if 2 < payload.length ∧ ¬IsUtf8 (payload.drop 2) then .fails none else .close payload)
      (nextCloseFrame env true field l s) := by
  have hlength := length_of_parsePayload_of_lt (by omega) h
  obtain ⟨b, s', hread, hinput, hsize, hfront, reader, stores, rfl, hsafe⟩ :=
    readFrame_control env (by decide : isControlFrame wsFrOpClse = true) hs.error hfield
      hs.ctrl h
  rw [nextCloseFrame, hread]
  dsimp only
  rw [if_neg (by decide : ¬(!true) = true), hfront]
  simp only [isUtf8Len_eq_true_iff, accepts_iff]
  -- a reason begins after the two bytes of the code
  split_ifs with hreason
  · exact ⟨Flow.breaks_ne _, fun _ ↦ rfl, (List.append_nil _).symm, stores, rfl, hsafe⟩
  · exact ⟨rfl, hs.error, hs.state, rfl, rfl, hlength.trans_le hfield, hfront, hsize,
      (List.append_nil _).symm, stores, rfl, hsafe⟩

end Control

/-! ## Whole frames -/

section Round

variable {underway : Option (Kind × List Byte)} {f : Frame}

/-- The fields of the first byte. -/
theorem firstByte_fields (first : Byte) : decide (first >>> 7 ≠ 0) = first.msb ∧
    (first &&& 0x70 = 0 ↔ first.extractLsb' 4 3 = 0) ∧
    first &&& 0xF = (first.extractLsb' 0 4).setWidth 8 := by
  revert first
  decide

/-- The seven bits of the length. -/
theorem secondByte_field (second : Byte) :
    (BitVec.ofInt 8 second.toNat &&& 0x7F).toNat = second.toNat % 128 := by
  rw [ofInt_toNat, BitVec.toNat_and]
  exact Nat.and_two_pow_sub_one_eq_mod _ 7

/-- The opcodes in four bits.  The source has them in a byte of which the upper half is clear. -/
theorem opcode_iff (opcode : BitVec 4) :
    (opcode.setWidth 8 = wsFrOpCont ↔ opcode = 0x0) ∧
    (opcode.setWidth 8 = wsFrOpTxt ↔ opcode = 0x1) ∧
    (opcode.setWidth 8 = wsFrOpBin ↔ opcode = 0x2) ∧
    (opcode.setWidth 8 = wsFrOpClse ↔ opcode = 0x8) ∧
    (opcode.setWidth 8 = wsFrOpPing ↔ opcode = 0x9) ∧
    (opcode.setWidth 8 = wsFrOpPong ↔ opcode = 0xA) ∧
    (isControlFrame (opcode.setWidth 8) = true ↔ IsControl opcode) := by
  revert opcode
  decide

/-- No opcode is of both kinds. -/
theorem not_isControl_of_isData : ∀ {opcode : BitVec 4}, IsData opcode → ¬IsControl opcode := by
  decide

/-- The tests of `next_frame`, in four bits. -/
theorem known_iff (opcode : BitVec 4) :
    (opcode.setWidth 8 = wsFrOpTxt ∨ opcode.setWidth 8 = wsFrOpBin ∨
      opcode.setWidth 8 = wsFrOpCont ∨ opcode.setWidth 8 = wsFrOpPing ∨
      opcode.setWidth 8 = wsFrOpPong ∨ opcode.setWidth 8 = wsFrOpClse ↔
        IsControl opcode ∨ IsData opcode) := by
  revert opcode
  decide

/-- A data frame does not ask for a pong. -/
theorem Kind.extend_ne_ping (kind : Kind) (data : List Byte) (f : Frame) (payload : List Byte) :
    kind.extend data f ≠ .ping payload := by
  rw [Kind.extend]
  split_ifs <;> nofun

/-- If the logs are the same, it does not matter from where a frame has been read. -/
theorem Follows.congr {verdict : Verdict} {underway' : Option (Kind × List Byte)}
    (hverdict : underway = underway' ∨ ∀ payload, verdict ≠ .ping payload) {safe : Prop}
    {t : Receiver} {out : Flow × Locals × Receiver}
    (h : Follows env underway' t rest safe verdict out)
    (ht : s.calls = t.calls ∧ s.stores = t.stores) :
    Follows env underway s rest safe verdict out := by
  cases verdict with
  | awaits => exact ⟨h.1, h.2.1, h.2.2.1, h.2.2.2.1, h.2.2.2.2.congr ht ⟨rfl, rfl⟩⟩
  | message => exact ⟨h.1, h.2.1, h.2.2.1, h.2.2.2.congr ht ⟨rfl, rfl⟩⟩
  | ping payload =>
    rcases hverdict with rfl | hverdict
    · have hsends := h.2
      rw [← ht.1] at hsends
      exact ⟨h.1.congr ht ⟨rfl, rfl⟩, hsends⟩
    · exact absurd rfl (hverdict payload)
  | close =>
    obtain ⟨hflow, herror, hstate, htype, hsize, hshort, hfront, hctrl, hdoes⟩ := h
    exact ⟨hflow, herror, hstate, htype, hsize, hshort, hfront, hctrl, hdoes.congr ht ⟨rfl, rfl⟩⟩
  | fails => exact ⟨h.1, h.2.1, h.2.2.congr ht ⟨rfl, rfl⟩⟩

/-- A frame that is refused at its first two bytes. -/
theorem Follows.refused (hsafe : ¬Full f) {flow : Flow} (hflow : flow ≠ .returns true) (l : Locals)
    (hs : s'.error = true) (hlogs : s'.calls = s.calls ∧ s'.stores = s.stores) :
    Follows env underway s rest (¬Full f) (.fails none) (flow, l, s') := by
  have hdoes := (Does.refl s).congr ⟨rfl, rfl⟩ hlogs
  rw [eq_true hsafe]
  exact ⟨hflow, fun _ ↦ hs, hdoes⟩

/-- A control frame, after the first byte.  If its form is wrong, it is refused before its payload
is read. -/
theorem nextKnownFrame_control (henv : env.Roomy) (hs : Underway underway l s)
    (hl : Validated underway l) {second : Byte} {bytes : List Byte}
    (hinput : s.reader.input = second :: bytes) (hfield : f.lengthField = second.toNat % 128)
    (h : parsePayload true f.lengthField bytes = some (f.payload, rest))
    (hreserved : f.reserved = 0) (hcontrol : IsControl f.opcode) :
    Follows env underway s rest (¬Full f) (receiveControl underway f)
      (nextKnownFrame env (f.opcode.setWidth 8) f.fin l s) := by
  obtain ⟨hcont, htxt, hbin, hclse, hping, hpong, hiff⟩ := opcode_iff f.opcode
  have hopcode := hiff.2 hcontrol
  have hbytes : (s.skip 1).reader.input = bytes := (Reader.next_cons hinput).2
  have hs' := hs.skip 1
  rw [nextKnownFrame, if_neg (fun h ↦ hs.state h.1), if_neg (fun h ↦ h.2 hopcode)]
  dsimp only
  rw [nextByte_cons hinput]
  dsimp only
  rw [secondByte_field, ← hfield, receiveControl]
  -- the code and `receiveControl` make the same test
  by_cases hrefused : ¬f.fin = true ∨ 125 < f.lengthField
  · rw [if_pos hrefused, if_pos ⟨hopcode, hrefused⟩]
    have hsafe : ¬Full f := by
      rintro ⟨hfin, -, -, hfull⟩
      rcases hrefused with hnot | hlong
      · exact hnot hfin
      · exact hlong.ne' hfull
    exact @Follows.refused env s { s.skip 1 with error := true } rest _ f hsafe .breaks
      (Flow.breaks_ne _) l rfl ⟨rfl, rfl⟩
  have hnotRefused : ¬(isControlFrame (f.opcode.setWidth 8) = true ∧
      (¬f.fin = true ∨ 125 < f.lengthField)) := fun h ↦ hrefused h.2
  rw [if_neg hrefused, if_neg hnotRefused]
  rw [not_or, not_not, not_lt] at hrefused
  obtain ⟨hfin, hshort⟩ := hrefused
  -- from here on the frame is full exactly if its payload has 125 bytes
  have hsafe : (f.payload.length < 125) = ¬Full f := by
    rw [Full, length_of_parsePayload_of_lt (by omega) h]
    exact propext ⟨fun hlt hfull ↦ hlt.ne hfull.2.2.2, fun hfull ↦
      lt_of_le_of_ne hshort fun heq ↦ hfull ⟨hfin, hreserved, hcontrol, heq⟩⟩
  rw [← hbytes] at h
  have hnotData : ¬(f.opcode.setWidth 8 = wsFrOpTxt ∨ f.opcode.setWidth 8 = wsFrOpBin ∨
      f.opcode.setWidth 8 = wsFrOpCont) := by
    rw [htxt, hbin, hcont]
    rcases hcontrol with heq | heq | heq <;> rw [heq] <;> decide
  rw [if_neg hnotData, hfin, ← hsafe]
  simp only [hpong, hping]
  -- close, ping and pong
  rcases hcontrol with heq | heq | heq
  · have hneither : ¬f.opcode = 0x9 ∧ ¬f.opcode = 0xA := by
      rw [heq]
      decide
    simp only [if_neg hneither.1, if_neg hneither.2]
    exact (nextCloseFrame_frame hs' hshort h).congr (.inl rfl) ⟨rfl, rfl⟩
  · have hnotPong : ¬f.opcode = 0xA := by
      rw [heq]
      decide
    simp only [if_pos heq, if_neg hnotPong]
    exact (nextPingFrame_frame henv hs' hl hshort h).congr (.inl rfl) ⟨rfl, rfl⟩
  · have hnotPing : ¬f.opcode = 0x9 := by
      rw [heq]
      decide
    simp only [if_pos heq, if_neg hnotPing]
    exact (nextPongFrame_frame hs' hl hshort h).congr (.inl rfl) ⟨rfl, rfl⟩

/-- A data frame, after the first byte.  The receiver `t` is the one that has taken over the type
of the message, if the frame is the first. -/
theorem nextKnownFrame_data (henv : env.Roomy) {kind : Kind} {data : List Byte} {t : Receiver}
    (ht : t = if f.opcode ≠ 0x0 then { s with frameType := some (f.opcode.setWidth 8) } else s)
    (hs : Underway (some (kind, data)) l t) (hl : Validated (some (kind, data)) l)
    {second : Byte} {bytes : List Byte}
    (hinput : s.reader.input = second :: bytes) (hfield : f.lengthField = second.toNat % 128)
    (h : parsePayload true f.lengthField bytes = some (f.payload, rest))
    (hdata : IsData f.opcode) (hwrap : data.length + f.payload.length < 2 ^ 64) :
    Follows env (some (kind, data)) s rest (¬Full f) (kind.extend data f)
      (nextKnownFrame env (f.opcode.setWidth 8) f.fin l s) := by
  obtain ⟨hcont, htxt, hbin, hclse, hping, hpong, hiff⟩ := opcode_iff f.opcode
  have hcontrol := not_isControl_of_isData hdata
  have hopcode : ¬isControlFrame (f.opcode.setWidth 8) = true := fun h ↦ hcontrol (hiff.1 h)
  have hlogs : s.calls = t.calls ∧ s.stores = t.stores ∧ s.state = t.state ∧
      s.reader = t.reader := by
    rw [ht]
    split_ifs <;> exact ⟨rfl, rfl, rfl, rfl⟩
  have hinput' : t.reader.input = second :: bytes := hlogs.2.2.2 ▸ hinput
  have hbytes : (t.skip 1).reader.input = bytes := (Reader.next_cons hinput').2
  have hs' := hs.skip 1
  have hsafe : ¬Full f := fun hfull ↦ hcontrol hfull.2.2.1
  -- the code takes over the type of a frame that is no continuation, which is what `t` is
  have ht' : (if f.opcode.setWidth 8 ≠ wsFrOpCont ∧ ¬isControlFrame (f.opcode.setWidth 8) = true
      then { s with frameType := some (f.opcode.setWidth 8) } else s) = t := by
    rw [ht]
    exact if_congr ((and_iff_left hopcode).trans (not_congr hcont)) rfl rfl
  rw [nextKnownFrame, if_neg (fun h ↦ hs.state (hlogs.2.2.1 ▸ h.1)), ht']
  dsimp only
  rw [nextByte_cons hinput']
  dsimp only
  have hnotRefused : ¬(isControlFrame (f.opcode.setWidth 8) = true ∧
      (¬f.fin = true ∨ 125 < f.lengthField)) := fun h ↦ hopcode h.1
  have hisData : f.opcode.setWidth 8 = wsFrOpTxt ∨ f.opcode.setWidth 8 = wsFrOpBin ∨
      f.opcode.setWidth 8 = wsFrOpCont := by
    rcases hdata with heq | heq | heq
    · exact .inr (.inr (hcont.2 heq))
    · exact .inl (htxt.2 heq)
    · exact .inr (.inl (hbin.2 heq))
  rw [secondByte_field, ← hfield, if_neg hnotRefused, if_pos hisData, eq_true hsafe]
  rw [← hbytes] at h
  have hfield' : f.lengthField < 128 := by
    rw [hfield]
    exact Nat.mod_lt _ (by decide)
  have hframe := nextDataFrame_frame henv hs' hl (eq_false_of_ne_true hopcode) hfield' h hwrap
  exact hframe.congr (.inl rfl) ⟨hlogs.1, hlogs.2.1⟩

/-! ## Whole rounds -/

/-- A round, by its first byte. -/
theorem nextFrameRound_first {first : Byte} {bytes : List Byte} {opcode : BitVec 4}
    (hopcode : opcode = first.extractLsb' 0 4) (h : s.reader.input = first :: bytes) :
    nextFrameRound env l s =
      if first.extractLsb' 4 3 ≠ 0 then (.breaks, l, { s.skip 1 with error := true })
      else if (s.frameType = none ∧ opcode = 0x0) ∨
          (s.frameType ≠ none ∧ ¬IsControl opcode ∧ opcode ≠ 0x0) then
        (.breaks, l, { s.skip 1 with error := true })
      else if IsControl opcode ∨ IsData opcode then
        nextKnownFrame env (opcode.setWidth 8) first.msb l (s.skip 1)
      else (.whiles first.msb, l,
        { s.skip 1 with frameType := some (opcode.setWidth 8), error := true }) := by
  obtain ⟨hmsb, hbits, hlow⟩ := firstByte_fields first
  have hbyte : (first.toNat : ℤ) ≠ -1 := by omega
  obtain ⟨hcont, -, -, -, -, -, hcontrol⟩ := opcode_iff opcode
  rw [← hopcode] at hlow
  rw [nextFrameRound, nextByte_cons h]
  simp only [if_neg hbyte, ofInt_toNat, hmsb, hlow, known_iff]
  simp only [hcontrol, hcont, ne_eq, hbits]
  rfl

/-- The pieces of a frame, as the code takes them off the stream. -/
theorem exists_of_parse {bytes : List Byte} (h : parse (fun _ ↦ true) bytes = some (f, rest)) :
    ∃ first second tail, bytes = first :: second :: tail ∧
      parsePayload true f.lengthField tail = some (f.payload, rest) ∧ f.fin = first.msb ∧
      f.reserved = first.extractLsb' 4 3 ∧ f.opcode = first.extractLsb' 0 4 ∧
      f.lengthField = second.toNat % 128 := by
  match bytes, h with
  | first :: second :: bytes, h =>
    simp only [parse, Option.bind_eq_bind, Option.bind_eq_some_iff, Prod.exists] at h
    obtain ⟨payload, rest', hpayload, h⟩ := h
    cases h
    exact ⟨first, second, bytes, rfl, hpayload, rfl, rfl, rfl, rfl⟩

/-- **A round with a frame** does what `receive` says.  The lengths do not wrap round; what
happens if they do is seen apart from this. -/
theorem nextFrameRound_frame (henv : env.Roomy) (hs : Underway underway l s)
    (hl : Validated underway l) (h : parse (fun _ ↦ true) s.reader.input = some (f, rest))
    (hwrap : maxFrameLength + f.payload.length + 1 < 2 ^ 64) :
    Follows env underway s rest (¬Full f) (receive underway f) (nextFrameRound env l s) := by
  obtain ⟨first, second, bytes, hinput, hparse, hfin, hreserved, hopcode, hfield⟩ :=
    exists_of_parse h
  have hinput' : (s.skip 1).reader.input = second :: bytes := (Reader.next_cons hinput).2
  have hs' := hs.skip 1
  -- the two ways in which the branches below end: the frame is refused, or it is a data frame
  have hrefused (flow : Flow) (frameType : Option Byte) (hflow : flow ≠ .returns true)
      (hfull : ¬Full f) : Follows env underway s rest (¬Full f) (.fails none)
        (flow, l, { s.skip 1 with frameType, error := true }) :=
    Follows.refused hfull hflow l rfl ⟨rfl, rfl⟩
  have hdataFrame {kind : Kind} {data : List Byte} {t : Receiver}
      (ht : t = if f.opcode ≠ 0x0 then { s.skip 1 with frameType := some (f.opcode.setWidth 8) }
        else s.skip 1) (hs : Underway (some (kind, data)) l t)
      (hl : Validated (some (kind, data)) l) (hdata : IsData f.opcode) :
      Follows env underway s rest (¬Full f) (kind.extend data f)
        (nextKnownFrame env (f.opcode.setWidth 8) f.fin l (s.skip 1)) := by
    have hlength : data.length ≤ maxFrameLength := hs.short
    exact (nextKnownFrame_data henv ht hs hl hinput' hfield hparse hdata (by omega)).congr
      (.inr (kind.extend_ne_ping data f)) ⟨rfl, rfl⟩
  rw [nextFrameRound_first hopcode hinput, ← hfin, ← hreserved, receive.eq_def]
  -- the tests of the code and those of `receive` come in the same order
  by_cases hbad : f.reserved ≠ 0
  · rw [if_pos hbad, if_pos hbad]
    exact hrefused _ _ (Flow.breaks_ne _) fun hfull ↦ hbad hfull.2.1
  rw [if_neg hbad, if_neg hbad]
  by_cases hcontrol : IsControl f.opcode
  · have hcont : ¬f.opcode = 0x0 := fun h ↦ not_isControl_of_isData (.inl h) hcontrol
    rw [if_pos hcontrol, if_neg, if_pos (.inl hcontrol)]
    · exact (nextKnownFrame_control henv hs' hl hinput' hfield hparse (not_not.1 hbad)
        hcontrol).congr (.inl rfl) ⟨rfl, rfl⟩
    · rintro (hnone | hsome)
      · exact hcont hnone.2
      · exact hsome.2.1 hcontrol
  rw [if_neg hcontrol]
  have hfull : ¬Full f := fun hfull ↦ hcontrol hfull.2.2.1
  -- which data frames may come depends on whether there is a message under way
  cases underway with
  | none =>
    have htype : s.frameType = none := hs.type
    have hstart (kind : Kind) (hkind : f.opcode.setWidth 8 = kind.type) :
        Underway (some (kind, [])) l
          { s.skip 1 with frameType := some (f.opcode.setWidth 8) } :=
      ⟨hs.error, hs.state, hs.ctrl, congrArg some hkind, hs.size, hs.idx, hs.front, hs.null,
        hs.short⟩
    have hvalidated (kind : Kind) : Validated (some (kind, [])) l := fun _ ↦ hl nofun
    dsimp only
    by_cases htext : f.opcode = 0x1
    · have hcont : f.opcode ≠ 0x0 := by
        rw [htext]
        decide
      rw [if_pos htext, if_neg, if_pos (.inr (.inr (.inl htext)))]
      · exact hdataFrame (if_pos hcont).symm (hstart .text (by rw [htext]; rfl)) (hvalidated _)
          (.inr (.inl htext))
      · rintro (hnone | hsome)
        · exact hcont hnone.2
        · exact hsome.1 htype
    rw [if_neg htext]
    by_cases hbinary : f.opcode = 0x2
    · have hcont : f.opcode ≠ 0x0 := by
        rw [hbinary]
        decide
      rw [if_pos hbinary, if_neg, if_pos (.inr (.inr (.inr hbinary)))]
      · exact hdataFrame (if_pos hcont).symm (hstart .binary (by rw [hbinary]; rfl))
          (hvalidated _) (.inr (.inr hbinary))
      · rintro (hnone | hsome)
        · exact hcont hnone.2
        · exact hsome.1 htype
    rw [if_neg hbinary]
    -- what is left continues nothing, or has an opcode that does not exist
    by_cases hcont : f.opcode = 0x0
    · rw [if_pos (.inl ⟨htype, hcont⟩)]
      exact hrefused _ _ (Flow.breaks_ne _) hfull
    · rw [if_neg, if_neg]
      · exact hrefused _ _ (Flow.whiles_ne _ _) hfull
      · rintro (h | h | h | h)
        · exact hcontrol h
        · exact hcont h
        · exact htext h
        · exact hbinary h
      · rintro (hnone | hsome)
        · exact hcont hnone.2
        · exact hsome.1 htype
  | some m =>
    obtain ⟨kind, data⟩ := m
    have htype : s.frameType ≠ none := by
      rw [hs.type]
      nofun
    dsimp only
    by_cases hcont : f.opcode = 0x0
    · rw [if_pos hcont, if_neg, if_pos (.inr (.inl hcont))]
      · exact hdataFrame (if_neg (not_not.2 hcont)).symm hs' hl (.inl hcont)
      · rintro (hnone | hsome)
        · exact htype hnone.1
        · exact hsome.2.2 hcont
    · rw [if_neg hcont, if_pos (.inr ⟨htype, hcontrol, hcont⟩)]
      exact hrefused _ _ (Flow.breaks_ne _) hfull

/-! ## A frame that is cut off -/

/-- After the first byte of a frame that is cut off, `read_frame` fails. -/
theorem readFrame_second (env : WsEnv) {first opcode : Byte} (isFin : Bool) {v : FrameVars}
    (herror : s.error = false) (h : parse (fun _ ↦ true) (first :: s.reader.input) = none)
    (hwrap : ∀ n ∈ announcements (fun _ ↦ true) (first :: s.reader.input),
      maxFrameLength + n + 1 < 2 ^ 64)
    (hfield : v.frameLength = (BitVec.ofInt 8 (nextByte s).1 &&& 0x7F).toNat)
    (hidx : v.msgIdx ≤ maxFrameLength) (hcontrol : isControlFrame opcode = true →
      v.msgIdx = 0 ∧ v.buf.size = 125 ∧ v.frameLength ≤ 125) :
    ∃ v' s', readFrame env opcode isFin v (nextByte s).2 = (false, v', s') ∧ s'.error = true ∧
      Stores (fun p ↦ p.1 < p.2) s s' := by
  have hstores := (nextByte_quiet s).stores fun p ↦ p.1 < p.2
  cases hinput : s.reader.input with
  | nil =>
    obtain ⟨v', s', hread, herror', hstores'⟩ := readFrame_error env opcode
      isFin v ((readBytes_quiet _ _).error (nextByte_nil hinput).2)
    exact ⟨v', s', hread, herror', hstores.trans hstores'⟩
  | cons second bytes =>
    have hbytes : (s.skip 1).reader.input = bytes := (Reader.next_cons hinput).2
    rw [hinput] at h hwrap
    rw [nextByte_cons hinput] at hfield hstores ⊢
    rw [secondByte_field] at hfield
    -- the first two bytes are there, and so it is the rest that is cut off
    have hcut : parsePayload true v.frameLength bytes = none := by
      rw [parse] at h
      rw [hfield]
      cases hparse : parsePayload true (second.toNat % 128) bytes with
      | none => rfl
      | some p =>
        simp only [hparse] at h
        cases h
    -- a control frame has its length in the second byte, and so its buffer is large enough
    have hannounced (n : ℕ) (hn : announcedLength v.frameLength bytes = some n) :
        v.msgIdx + n + 1 < 2 ^ 64 ∧
          (isControlFrame opcode = true → v.msgIdx + n ≤ v.buf.size) := by
      have hmem := mem_announcements_of_none h (hfield ▸ hn)
      have hlt := hwrap n hmem
      refine ⟨by omega, fun hc ↦ ?_⟩
      obtain ⟨hidx0, hsize, hshort⟩ := hcontrol hc
      have hzero : lengthBytes v.frameLength = 0 := by
        rw [lengthBytes, if_neg (by omega), if_neg (by omega)]
      rw [announcedLength, hzero] at hn
      have hn' : some (declaredLength v.frameLength []) = some n := hn
      rw [declaredLength, if_pos (by omega), Option.some_inj] at hn'
      omega
    rw [← hbytes] at hcut hannounced
    have hskipped : (s.skip 1).error = false := herror
    obtain ⟨v', s', hread, herror', hstores'⟩ := readFrame_cut env isFin
      (by rw [hfield]; exact Nat.mod_lt _ (by decide)) hskipped hcut hannounced
    exact ⟨v', s', hread, herror', hstores.trans hstores'⟩

/-- The end of a round in which `read_frame` has failed. -/
theorem Follows.failed {flow : Flow} (hflow : flow ≠ .returns true) (herror : s'.error = true)
    (hdoes : Does [] True s s') : Follows env underway s rest True (.fails none) (flow, l, s') :=
  ⟨hflow, fun _ ↦ herror, hdoes⟩

/-- After the first byte of a frame that is cut off.  Each of the kinds leaves the loop if
`read_frame` fails. -/
theorem nextKnownFrame_cut (hs : Underway underway l s) {first : Byte} {opcode : BitVec 4}
    (hknown : IsControl opcode ∨ IsData opcode) (isFin : Bool)
    (h : parse (fun _ ↦ true) (first :: s.reader.input) = none)
    (hwrap : ∀ n ∈ announcements (fun _ ↦ true) (first :: s.reader.input),
      maxFrameLength + n + 1 < 2 ^ 64) :
    Follows env underway s rest True (.fails none)
      (nextKnownFrame env (opcode.setWidth 8) isFin l s) := by
  rw [nextKnownFrame, if_neg (fun h ↦ hs.state h.1)]
  dsimp only
  generalize ht : (if opcode.setWidth 8 ≠ wsFrOpCont ∧ ¬isControlFrame (opcode.setWidth 8) = true
    then { s with frameType := some (opcode.setWidth 8) } else s) = t
  have hlogs : t.reader = s.reader ∧ t.error = false ∧ t.calls = s.calls ∧ t.stores = s.stores ∧
      t.msgCtrl = s.msgCtrl := by
    rw [← ht]
    split_ifs <;> exact ⟨rfl, hs.error, rfl, rfl, rfl⟩
  obtain ⟨hreader, herror, hcalls, hstores, hctrl⟩ := hlogs
  rw [← hreader] at h hwrap
  have hquiet := nextByte_quiet t
  have hread (v : FrameVars) (opcode : Byte)
      (hfield : v.frameLength = (BitVec.ofInt 8 (nextByte t).1 &&& 0x7F).toNat)
      (hidx : v.msgIdx ≤ maxFrameLength) (hcontrol : isControlFrame opcode = true →
        v.msgIdx = 0 ∧ v.buf.size = 125 ∧ v.frameLength ≤ 125) :=
    readFrame_second env isFin herror h hwrap hfield hidx hcontrol
  have hbuf : (nextByte t).2.msgCtrl.size = 125 := by
    obtain ⟨reader, error, heq⟩ := hquiet.eq
    rw [heq]
    exact (congrArg Buffer.size hctrl).trans hs.ctrl
  have hdoes : Does [] True t { (nextByte t).2 with error := true } :=
    ((hquiet.stores _).fail).does
  -- if there is no second byte the code goes on with -1, and may refuse the frame for its
  -- length
  generalize nextByte t = next at *
  obtain ⟨mask, s1⟩ := next
  dsimp only at *
  by_cases hrefused : isControlFrame (opcode.setWidth 8) = true ∧
      (¬isFin = true ∨ 125 < (BitVec.ofInt 8 mask &&& 0x7F).toNat)
  · rw [if_pos hrefused]
    exact .failed (Flow.breaks_ne _) rfl (hdoes.congr ⟨hcalls.symm, hstores.symm⟩ ⟨rfl, rfl⟩)
  rw [if_neg hrefused]
  have hfailed (out : Flow × Locals × Receiver)
      (h : Follows env underway t rest True (.fails none) out) :
      Follows env underway s rest True (.fails none) out :=
    h.congr (.inl rfl) ⟨hcalls.symm, hstores.symm⟩
  by_cases hdata : opcode.setWidth 8 = wsFrOpTxt ∨ opcode.setWidth 8 = wsFrOpBin ∨
      opcode.setWidth 8 = wsFrOpCont
  · have hnot : ¬isControlFrame (opcode.setWidth 8) = true := by
      rcases hdata with heq | heq | heq <;> rw [heq] <;> decide
    obtain ⟨v', s', hread', herror', hstores'⟩ := hread
      ⟨l.msgData, (BitVec.ofInt 8 mask &&& 0x7F).toNat, s1.frameSize, l.msgIdxData⟩
      (opcode.setWidth 8) rfl (hs.idx.trans_le hs.short) fun hc ↦ absurd hc hnot
    rw [if_pos hdata, nextDataFrame, hread']
    exact hfailed _ (.failed (Flow.breaks_ne _) herror' (hstores'.does.congr ⟨rfl, rfl⟩ ⟨rfl, rfl⟩))
  have hcontrol : isControlFrame (opcode.setWidth 8) = true := by
    obtain ⟨hcont, htxt, hbin, -, -, -, hiff⟩ := opcode_iff opcode
    refine hiff.2 (hknown.resolve_right fun h ↦ hdata ?_)
    rcases h with heq | heq | heq
    · exact .inr (.inr (hcont.2 heq))
    · exact .inl (htxt.2 heq)
    · exact .inr (.inl (hbin.2 heq))
  have hshort : (BitVec.ofInt 8 mask &&& 0x7F).toNat ≤ 125 :=
    not_lt.1 fun hlong ↦ hrefused ⟨hcontrol, .inr hlong⟩
  rw [if_neg hdata]
  -- the three kinds of control frames differ in their opcode only
  have hcut (opcode : Byte) := hread
    ⟨s1.msgCtrl, (BitVec.ofInt 8 mask &&& 0x7F).toNat, 0, 0⟩ opcode rfl (Nat.zero_le _)
    fun _ ↦ ⟨rfl, hbuf, hshort⟩
  split_ifs
  · obtain ⟨v', s', hread', herror', hstores'⟩ := hcut wsFrOpPong
    rw [nextPongFrame, hread']
    exact hfailed _ (.failed (Flow.breaks_ne _) herror' (hstores'.does.congr ⟨rfl, rfl⟩ ⟨rfl, rfl⟩))
  · obtain ⟨v', s', hread', herror', hstores'⟩ := hcut wsFrOpPing
    rw [nextPingFrame, hread']
    exact hfailed _ (.failed (Flow.breaks_ne _) herror' (hstores'.does.congr ⟨rfl, rfl⟩ ⟨rfl, rfl⟩))
  · obtain ⟨v', s', hread', herror', hstores'⟩ := hcut wsFrOpClse
    rw [nextCloseFrame, hread']
    exact hfailed _ (.failed (Flow.breaks_ne _) herror' (hstores'.does.congr ⟨rfl, rfl⟩ ⟨rfl, rfl⟩))

/-- **A round without a whole frame** fails, and all its stores lie inside their buffers. -/
theorem nextFrameRound_cut (env : WsEnv) (hs : Underway underway l s)
    (h : parse (fun _ ↦ true) s.reader.input = none)
    (hwrap : ∀ n ∈ announcements (fun _ ↦ true) s.reader.input, maxFrameLength + n + 1 < 2 ^ 64) :
    Follows env underway s [] True (.fails none) (nextFrameRound env l s) := by
  -- without a byte the round returns at once, and else the tests are those for a whole frame
  cases hinput : s.reader.input with
  | nil =>
    obtain ⟨hbyte, herror⟩ := nextByte_nil hinput
    have hdoes := ((nextByte_quiet s).stores fun p ↦ p.1 < p.2).does
    rw [nextFrameRound]
    simp only [hbyte, if_true]
    exact ⟨nofun, fun hne ↦ absurd rfl hne, hdoes⟩
  | cons first bytes =>
    have hs' := hs.skip 1
    have hbytes : (s.skip 1).reader.input = bytes := (Reader.next_cons hinput).2
    rw [hinput, ← hbytes] at h hwrap
    have hdoes : Does [] True s (s.skip 1) := (skip_stores _ s 1).does
    rw [nextFrameRound_first rfl hinput]
    split_ifs with hbad hwrong hknown
    · exact .failed (Flow.breaks_ne _) rfl (hdoes.congr ⟨rfl, rfl⟩ ⟨rfl, rfl⟩)
    · exact .failed (Flow.breaks_ne _) rfl (hdoes.congr ⟨rfl, rfl⟩ ⟨rfl, rfl⟩)
    · exact (nextKnownFrame_cut hs' hknown _ h hwrap).congr (.inl rfl) ⟨rfl, rfl⟩
    · exact .failed (Flow.whiles_ne _ _) rfl (hdoes.congr ⟨rfl, rfl⟩ ⟨rfl, rfl⟩)

end Round

end GameBloat
