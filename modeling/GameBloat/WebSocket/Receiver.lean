import GameBloat.WebSocket.Utf8

/-!
# The receiver

How wsServer reads the frames of a client, `ws.c`: `next_byte` takes the bytes off the socket,
`read_frame` takes the mask off a payload, and `next_frame` goes on until a message is complete,
answering the pings in between.  `ws_establishconnection` hands the messages on to the server.

The socket is what `RECV` is yet to return.  What the receiver does to the outside is a log of
calls; a second log has its stores to the message buffers, each with the size of the buffer, so
that one can ask whether they lie inside.

A buffer is a function with a size, and a store outside of it is stored all the same: the model
goes on as if nothing had happened, while of the program nothing can be said from there on.
Statements about such runs are about the log up to the first of these stores, or about the fact
that there is one.  Where the source leaves a function early, the model returns a pair with a
flag; the loops have a number of rounds, and `none` is that it has been used up.
-/

set_option autoImplicit false

namespace GameBloat

/-- `MESSAGE_LENGTH`. -/
def messageLength : ℕ := 2048

/-- `MAX_FRAME_LENGTH`. -/
def maxFrameLength : ℕ := 16 * 1024 * 1024

/-! ## The wire -/

/-- The opcodes of frames, `WS_FR_OP_…`. -/
def wsFrOpCont : Byte := 0
def wsFrOpTxt : Byte := 1
def wsFrOpBin : Byte := 2
def wsFrOpClse : Byte := 8
def wsFrOpPing : Byte := 0x9
def wsFrOpPong : Byte := 0xA

/-- `WS_CLSE_PROTERR`. -/
def wsClseProterr : ℕ := 1002

/-- `WS_CLSE_INVUTF8`. -/
def wsClseInvutf8 : ℕ := 1007

/-- `is_control_frame`. -/
def isControlFrame (frame : Byte) : Bool :=
  frame = wsFrOpClse ∨ frame = wsFrOpPing ∨ frame = wsFrOpPong

/-- `RECV`: what it returns, which is nothing if it fails or the connection is closed, and what is
left.  More bytes than fit wait for the next call.  The chunks are cut as the network pleases, and
nothing is assumed of them. -/
def recv (size : ℕ) : List (List Byte) → List Byte × List (List Byte)
  | [] => ([], [])
  | chunk :: chunks =>
    (chunk.take size, if chunk.length ≤ size then chunks else chunk.drop size :: chunks)

/-- The fields `frm`, of which `amt_read` bytes have been read, and `cur_pos` of `ws_frame_data`,
and the chunks that the socket has for `RECV`.  The position is never behind the end, which is a
field here, so that the rest of the array is always meaningful. -/
structure Reader where
  frm : List Byte
  curPos : ℕ
  curPos_le : curPos ≤ frm.length
  chunks : List (List Byte)

/-- Nothing has been read yet. -/
def Reader.ofChunks (chunks : List (List Byte)) : Reader := ⟨[], 0, Nat.le_refl 0, chunks⟩

/-- `next_byte`, without the error. -/
def Reader.next (r : Reader) : Option Byte × Reader :=
  if h : r.curPos = 0 ∨ r.curPos = r.frm.length then
    match recv messageLength r.chunks with
    | ([], chunks) => (none, { r with chunks })
    | (byte :: frm, chunks) =>
      (some byte, { frm := byte :: frm, curPos := 1, curPos_le := Nat.succ_pos _, chunks })
  else
    (some (r.frm.getD r.curPos 0), { r with
      curPos := r.curPos + 1
      curPos_le := Nat.lt_of_le_of_ne r.curPos_le fun heq ↦ h (.inr heq) })

/-! ## The state -/

/-- A message buffer.  The null pointer has size 0. -/
structure Buffer where
  size : ℕ
  bytes : ℕ → Byte

/-- No buffer. -/
def Buffer.null : Buffer := ⟨0, fun _ ↦ 0⟩

/-- The first `n` bytes of a buffer. -/
def Buffer.front (b : Buffer) (n : ℕ) : List Byte := (List.range n).map b.bytes

/-- The states of a client, `WS_STATE_…`. -/
inductive ClientState
  | connecting | isOpen | closing | closed
  deriving DecidableEq

/-- What a connection does to the outside. -/
inductive WsCall
  /-- `SEND`, with these bytes. -/
  | send (bytes : List Byte)
  /-- The event `onmessage`; the message may be the null pointer. -/
  | onmessage (msg : Option (List Byte)) (type : Byte)
  /-- The event `onclose`. -/
  | onclose
  deriving DecidableEq

/-- What the system answers: whether the `n`th of the calls is a success if it is a `SEND`, and
whether there is memory for so many bytes.  It is the same for the whole of a run, and arbitrary,
so that statements about it hold whatever fails and when. -/
structure WsEnv where
  sends : ℕ → Bool
  allocates : ℕ → Bool

/-- `ws_frame_data` and the client, the calls that have been made, and the stores to message
buffers.  The two lists are no part of the program; nothing that it does depends on them, except
that the answer of a send may depend on how many calls there have been. -/
structure Receiver where
  reader : Reader
  msg : Buffer
  msgCtrl : Buffer
  /-- -1 is `none`. -/
  frameType : Option Byte
  frameSize : ℕ
  error : Bool
  state : ClientState
  lastPongId : BitVec 32
  currentPingId : BitVec 32
  calls : List WsCall
  /-- The index, and the size of the buffer. -/
  stores : List (ℕ × ℕ)

/-- The receiver after the handshake, with what has been read of the bytes that follow it. -/
def Receiver.connected (reader : Reader) : Receiver where
  reader
  msg := .null
  msgCtrl := ⟨125, fun _ ↦ 0⟩
  frameType := some 0
  frameSize := 0
  error := false
  state := .isOpen
  lastPongId := -1
  currentPingId := -1
  calls := []
  stores := []

/-- `next_byte`. -/
def nextByte (s : Receiver) : ℤ × Receiver :=
  match s.reader.next with
  | (some byte, reader) => (byte.toNat, { s with reader })
  | (none, reader) => (-1, { s with reader, error := true })

/-- `msg[index] = byte`. -/
def storeAt (s : Receiver) (msg : Buffer) (index : ℕ) (byte : Byte) : Buffer × Receiver :=
  ({ msg with bytes := Function.update msg.bytes index byte },
    { s with stores := s.stores ++ [(index, msg.size)] })

/-- `realloc`. -/
def WsEnv.realloc (env : WsEnv) (msg : Buffer) (size : ℕ) : Option Buffer :=
  if env.allocates size then some { msg with size } else none

/-! ## Sending -/

/-- The header of a frame in `ws_sendframe`. -/
def frameHeader (length : ℕ) (type : Byte) : List Byte :=
  let first := (128 : Byte) ||| type
  if length ≤ 125 then [first, BitVec.ofNat 8 (length &&& 0x7F)]
  else if length ≤ 65535 then
    [first, 126, BitVec.ofNat 8 ((length >>> 8) &&& 255), BitVec.ofNat 8 (length &&& 255)]
  else
    [first, 127, BitVec.ofNat 8 ((length >>> 56) &&& 255), BitVec.ofNat 8 ((length >>> 48) &&& 255),
      BitVec.ofNat 8 ((length >>> 40) &&& 255), BitVec.ofNat 8 ((length >>> 32) &&& 255),
      BitVec.ofNat 8 ((length >>> 24) &&& 255), BitVec.ofNat 8 ((length >>> 16) &&& 255),
      BitVec.ofNat 8 ((length >>> 8) &&& 255), BitVec.ofNat 8 (length &&& 255)]

/-- `INT_MAX`. -/
def intMax : ℕ := 2 ^ 31 - 1

/-- One of the two loops of `ws_sendframe` that put the response together.  There are as many bytes
of it as `idx_response` says, which is an `int`: `none` is an overflow. -/
def addBytesTo (response : List Byte) : List Byte → Option (List Byte)
  | [] => some response
  | byte :: bytes =>
    if response.length < intMax then addBytesTo (response ++ [byte]) bytes else none

/-- The bytes that `ws_sendframe` sends: the frame, and then the data.  There is nothing to be
said of what it sends if `idx_response` overflows on the way, which C leaves undefined; the
allocation that comes before is of a size in 64 bits, and does not prevent it. -/
def frameBytes (msg : List Byte) (type : Byte) : Option (List Byte) :=
  (addBytesTo [] (frameHeader msg.length type)).bind (addBytesTo · msg)

/-- `ws_sendframe` to the client; false is -1.  There is a send if the response is defined. -/
def wsSendframe (env : WsEnv) (s : Receiver) (msg : List Byte) (type : Byte) : Bool × Receiver :=
  if env.allocates (((frameHeader msg.length type).length + msg.length + 1) % 2 ^ 64) then
    match frameBytes msg type with
    | none => (false, s)
    | some response => (env.sends s.calls.length, { s with calls := s.calls ++ [.send response] })
  else (false, s)

/-- The end of `do_close`, with a close code of its own. -/
def customClose (env : WsEnv) (s : Receiver) (cc : ℕ) : Receiver :=
  let (msgCtrl, s) := storeAt s s.msgCtrl 0 (BitVec.ofNat 8 (cc >>> 8))
  let (msgCtrl, s) := storeAt s msgCtrl 1 (BitVec.ofNat 8 (cc &&& 0xFF))
  (wsSendframe env { s with msgCtrl } (msgCtrl.front 2) wsFrOpClse).2

/-- `do_close`, as the answer to a close frame.  Nobody looks at what it returns. -/
def doClose (env : WsEnv) (s : Receiver) : Receiver :=
  if s.frameSize = 0 ∨ 2 < s.frameSize then
    (wsSendframe env s (s.msgCtrl.front s.frameSize) wsFrOpClse).2
  else
    let cc := if s.frameSize = 1 then (s.msgCtrl.bytes 0).toNat
      else (s.msgCtrl.bytes 0).toNat <<< 8 ||| (s.msgCtrl.bytes 1).toNat
    if (cc < 1000 ∨ 1003 < cc) ∧ (cc < 1007 ∨ 1011 < cc) ∧ (cc < 3000 ∨ 4999 < cc) then
      customClose env s wsClseProterr
    else (wsSendframe env s (s.msgCtrl.front s.frameSize) wsFrOpClse).2

/-- `do_pong`. -/
def doPong (env : WsEnv) (s : Receiver) (frameSize : ℕ) : Bool × Receiver :=
  match wsSendframe env s (s.msgCtrl.front frameSize) wsFrOpPong with
  | (true, s) => (true, s)
  | (false, s) => (false, { s with error := true })

/-- `pong_msg_to_int32`. -/
def pongMsgToInt32 (msg : Buffer) : BitVec 32 :=
  (msg.bytes 3).setWidth 32 ||| (msg.bytes 2).setWidth 32 <<< 8 |||
    (msg.bytes 1).setWidth 32 <<< 16 ||| (msg.bytes 0).setWidth 32 <<< 24

/-! ## Reading a frame -/

/-- The variables that `read_frame` is handed by address. -/
structure FrameVars where
  buf : Buffer
  frameLength : ℕ
  frameSize : ℕ
  msgIdx : ℕ

/-- A length in the bytes that follow, each with its place.  They are taken from left to right. -/
def nextLength : List ℕ → BitVec 64 → Receiver → ℕ × Receiver
  | [], length, s => (length.toNat, s)
  | shift :: shifts, length, s =>
    let (byte, s) := nextByte s
    nextLength shifts (length ||| BitVec.ofInt 64 byte <<< shift) s

/-- The length of a frame, from the seven bits of the second byte. -/
def nextFrameLength (frameLength : ℕ) (s : Receiver) : ℕ × Receiver :=
  if frameLength = 126 then nextLength [8, 0] 0 s
  else if frameLength = 127 then nextLength [56, 48, 40, 32, 24, 16, 8, 0] 0 s
  else (frameLength, s)

/-- The copying loop of `read_frame`, at `i` with `n` bytes to go; false is a `return (-1)`. -/
def copyPayload (masks : List Byte) : ℕ → ℕ → FrameVars → Receiver → Bool × FrameVars × Receiver
  | 0, _, v, s => (true, v, s)
  | n + 1, i, v, s =>
    let (curByte, s) := nextByte s
    if curByte = -1 then (false, v, s)
    else
      let (buf, s) := storeAt s v.buf v.msgIdx (BitVec.ofInt 8 curByte ^^^ masks.getD (i % 4) 0)
      copyPayload masks n (i + 1) { v with buf, msgIdx := v.msgIdx + 1 } s

/-- The allocation and the copying of `read_frame`. -/
def readPayload (env : WsEnv) (opcode : Byte) (masks : List Byte) (isFin : Bool) (v : FrameVars)
    (s : Receiver) : Bool × FrameVars × Receiver :=
  if 0 < v.frameLength then
    match if isControlFrame opcode then some v.buf
      else env.realloc v.buf ((v.msgIdx + v.frameLength + isFin.toNat) % 2 ^ 64) with
    | none => (false, v, { s with error := true })
    | some buf => copyPayload masks v.frameLength 0 { v with buf } s
  else (true, v, s)

/-- The end of `read_frame`, which terminates a message. -/
def endMessage (env : WsEnv) (opcode : Byte) (isFin : Bool) (v : FrameVars) (s : Receiver) :
    Bool × FrameVars × Receiver :=
  if isFin ∧ 0 < v.frameSize then
    match if v.frameLength = 0 ∧ ¬isControlFrame opcode then
        env.realloc v.buf ((v.msgIdx + 1) % 2 ^ 64) else some v.buf with
    | none => (false, v, { s with error := true })
    | some buf =>
      let (buf, s) := storeAt s buf v.msgIdx 0
      (true, { v with buf }, s)
  else (true, v, s)

/-- The masks of `read_frame`. -/
def nextMasks (s : Receiver) : List Byte × Receiver :=
  let (mask0, s) := nextByte s
  let (mask1, s) := nextByte s
  let (mask2, s) := nextByte s
  let (mask3, s) := nextByte s
  ([mask0, mask1, mask2, mask3].map (BitVec.ofInt 8), s)

/-- `read_frame`; false is -1. -/
def readFrame (env : WsEnv) (opcode : Byte) (isFin : Bool) (v : FrameVars) (s : Receiver) :
    Bool × FrameVars × Receiver :=
  let (frameLength, s) := nextFrameLength v.frameLength s
  let v := { v with frameLength, frameSize := (v.frameSize + frameLength) % 2 ^ 64 }
  if maxFrameLength < v.frameSize then (false, v, { s with error := true })
  else
    let (masks, s) := nextMasks s
    if s.error then (false, v, s)
    else
      match readPayload env opcode masks isFin v s with
      | (false, v, s) => (false, v, s)
      | (true, v, s) => endMessage env opcode isFin v s

/-! ## Reading a message -/

/-- The variables of `next_frame` that last from one frame to the next. -/
structure Locals where
  msgData : Buffer
  msgIdxData : ℕ
  utf8State : ℕ

/-- How a round of the loop of `next_frame` ends. -/
inductive Flow
  /-- `return`; false is -1. -/
  | returns (ret : Bool)
  | breaks
  /-- On to `while (!is_fin && !wfd->error)`. -/
  | whiles (isFin : Bool)

/-- A data frame in `next_frame`. -/
def nextDataFrame (env : WsEnv) (opcode : Byte) (isFin : Bool) (frameLength : ℕ) (l : Locals)
    (s : Receiver) : Flow × Locals × Receiver :=
  let (ok, v, s) := readFrame env opcode isFin ⟨l.msgData, frameLength, s.frameSize, l.msgIdxData⟩ s
  let s := { s with frameSize := v.frameSize }
  let l := { l with msgData := v.buf, msgIdxData := v.msgIdx }
  if !ok then (.breaks, l, s)
  else if s.frameType = some wsFrOpTxt then
    let part := (v.buf.front v.msgIdx).drop (v.msgIdx - v.frameLength)
    let utf8State := isUtf8LenState part l.utf8State
    if isFin then
      if utf8State ≠ utf8Accept then
        (.whiles isFin, l, customClose env { s with error := true } wsClseInvutf8)
      else (.whiles isFin, l, s)
    else if utf8State = utf8Reject then
      (.whiles isFin, { l with utf8State },
        customClose env { s with error := true } wsClseInvutf8)
    else (.whiles isFin, { l with utf8State }, s)
  else (.whiles isFin, l, s)

/-- A pong frame in `next_frame`. -/
def nextPongFrame (env : WsEnv) (isFin : Bool) (frameLength : ℕ) (l : Locals) (s : Receiver) :
    Flow × Locals × Receiver :=
  let (ok, v, s) := readFrame env wsFrOpPong isFin ⟨s.msgCtrl, frameLength, 0, 0⟩ s
  let s := { s with msgCtrl := v.buf }
  if !ok then (.breaks, l, s)
  else if v.frameSize ≠ 4 then (.whiles false, l, s)
  else
    let pongId := pongMsgToInt32 v.buf
    if pongId.toInt < 0 ∨ s.currentPingId.toInt < pongId.toInt then (.whiles false, l, s)
    else (.whiles false, l, { s with lastPongId := pongId })

/-- A ping frame in `next_frame`. -/
def nextPingFrame (env : WsEnv) (isFin : Bool) (frameLength : ℕ) (l : Locals) (s : Receiver) :
    Flow × Locals × Receiver :=
  let (ok, v, s) := readFrame env wsFrOpPing isFin ⟨s.msgCtrl, frameLength, 0, 0⟩ s
  let s := { s with msgCtrl := v.buf }
  if !ok then (.breaks, l, s)
  else
    match doPong env s v.frameSize with
    | (false, s) => (.breaks, l, s)
    | (true, s) => (.whiles false, l, s)

/-- A close frame in `next_frame`. -/
def nextCloseFrame (env : WsEnv) (isFin : Bool) (frameLength : ℕ) (l : Locals) (s : Receiver) :
    Flow × Locals × Receiver :=
  let (ok, v, s) := readFrame env wsFrOpClse isFin ⟨s.msgCtrl, frameLength, 0, 0⟩ s
  let s := { s with msgCtrl := v.buf }
  if !ok then (.breaks, l, s)
  else if 2 < v.frameSize ∧ ¬isUtf8Len ((v.buf.front v.frameSize).drop 2) then
    (.breaks, l, { s with error := true })
  else
    (.returns true, l, { s with frameSize := v.frameSize, frameType := some wsFrOpClse })

/-- A frame in `next_frame` with one of the opcodes there are, after the first byte. -/
def nextKnownFrame (env : WsEnv) (opcode : Byte) (isFin : Bool) (l : Locals) (s : Receiver) :
    Flow × Locals × Receiver :=
  if s.state = .closing ∧ opcode ≠ wsFrOpClse then (.breaks, l, { s with error := true })
  else
    let s := if opcode ≠ wsFrOpCont ∧ ¬isControlFrame opcode then
      { s with frameType := some opcode } else s
    let (mask, s) := nextByte s
    let frameLength := (BitVec.ofInt 8 mask &&& 0x7F).toNat
    if isControlFrame opcode ∧ (¬isFin ∨ 125 < frameLength) then
      (.breaks, l, { s with error := true })
    else if opcode = wsFrOpTxt ∨ opcode = wsFrOpBin ∨ opcode = wsFrOpCont then
      nextDataFrame env opcode isFin frameLength l s
    else if opcode = wsFrOpPong then nextPongFrame env isFin frameLength l s
    else if opcode = wsFrOpPing then nextPingFrame env isFin frameLength l s
    else nextCloseFrame env isFin frameLength l s

/-- A round of the loop of `next_frame`. -/
def nextFrameRound (env : WsEnv) (l : Locals) (s : Receiver) : Flow × Locals × Receiver :=
  let (curByte, s) := nextByte s
  if curByte = -1 then (.returns false, l, s)
  else
    let isFin : Bool := BitVec.ofInt 8 curByte >>> 7 ≠ 0
    let opcode := BitVec.ofInt 8 curByte &&& 0xF
    if BitVec.ofInt 8 curByte &&& 0x70 ≠ 0 then (.breaks, l, { s with error := true })
    else if (s.frameType = none ∧ opcode = wsFrOpCont) ∨
        (s.frameType ≠ none ∧ ¬isControlFrame opcode ∧ opcode ≠ wsFrOpCont) then
      (.breaks, l, { s with error := true })
    else if opcode = wsFrOpTxt ∨ opcode = wsFrOpBin ∨ opcode = wsFrOpCont ∨ opcode = wsFrOpPing ∨
        opcode = wsFrOpPong ∨ opcode = wsFrOpClse then
      nextKnownFrame env opcode isFin l s
    else (.whiles isFin, l, { s with frameType := some opcode, error := true })

/-- The end of `next_frame`. -/
def endFrame (l : Locals) (s : Receiver) : Bool × Receiver :=
  if s.error then (false, { s with msg := .null }) else (true, { s with msg := l.msgData })

/-- The loop of `next_frame`, in so many rounds. -/
def nextFrameLoop (env : WsEnv) : ℕ → Locals → Receiver → Option (Bool × Receiver)
  | 0, _, _ => none
  | fuel + 1, l, s =>
    match nextFrameRound env l s with
    | (.returns ret, _, s) => some (ret, s)
    | (.breaks, l, s) => some (endFrame l s)
    | (.whiles isFin, l, s) =>
      if !isFin && !s.error then nextFrameLoop env fuel l s else some (endFrame l s)

/-- `next_frame`; false is -1. -/
def nextFrame (env : WsEnv) (fuel : ℕ) (s : Receiver) : Option (Bool × Receiver) :=
  nextFrameLoop env fuel ⟨.null, 0, utf8Accept⟩
    { s with frameSize := 0, frameType := none, msg := .null }

/-- The message as it is handed to `onmessage`. -/
def Receiver.message (s : Receiver) : Option (List Byte) :=
  if s.msg.size = 0 then none else some (s.msg.front s.frameSize)

/-- The loop of `ws_establishconnection` and the event after it, in so many rounds. -/
def establishConnection (env : WsEnv) : ℕ → Receiver → Option Receiver
  | 0, _ => none
  | fuel + 1, s =>
    match nextFrame env fuel s with
    | none => none
    | some (false, s) => some { s with calls := s.calls ++ [.onclose] }
    | some (true, s) =>
      match s.frameType with
      | none => establishConnection env fuel s
      | some type =>
        if (type = wsFrOpTxt ∨ type = wsFrOpBin) ∧ !s.error then
          establishConnection env fuel
            { s with calls := s.calls ++ [.onmessage s.message type] }
        else if type = wsFrOpClse ∧ !s.error then
          let s := if s.state ≠ .closing then doClose env { s with state := .closing } else s
          some { s with calls := s.calls ++ [.onclose] }
        else establishConnection env fuel s

end GameBloat
