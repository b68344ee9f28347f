import GameBloat.Library.Framing
import GameBloat.WebSocket.Receiver

/-!
# What a connection is for

The WebSocket protocol as the client sees it: what the server makes of one frame (`receive`), and
of a stream of them (`conversation`).  There are no bytes, buffers or sockets here, only frames.

A frame carries on a message, completes it, asks for a pong, asks to close, or is an error.  The
data frames of a message may have control frames between them.

This is a statement of what the receiver is for, in the order in which the protocol has its rules:
the reserved bits are clear; a control frame is final and short; a message begins with an opcode
of its kind and goes on with continuations; it does not become too long; a text is UTF-8 as far as
it has come.  What the server calls for a frame depends on the frame and on what is under way, and
on nothing else that has happened.  A close frame is answered with its own payload if the code in
it is one that may be sent, and with a protocol error otherwise.

`framesRead` goes along with the conversation.  It has the frames that the server looks at, which
is what one needs to ask of a connection whether any of them did harm.
-/

set_option autoImplicit false

namespace GameBloat

open Framing Unicode

/-- The two kinds of messages. -/
inductive Kind
  | text | binary
  deriving DecidableEq

/-- The kind as it is handed to `onmessage`. -/
def Kind.type : Kind → Byte
  | text => wsFrOpTxt
  | binary => wsFrOpBin

/-- What comes of a frame, with what the server has to know of it: the message as far as it has
come, or the payload that an answer has.  A message that is not complete is kept in the verdict,
so that the conversation has no other state. -/
inductive Verdict
  /-- There is this of a message, if there is one under way. -/
  | awaits (underway : Option (Kind × List Byte))
  | message (kind : Kind) (data : List Byte)
  | ping (payload : List Byte)
  | close (payload : List Byte)
  /-- The connection fails, perhaps with a close code. -/
  | fails (code : Option ℕ)

/-- A frame that carries on a message.  The checks are in the order of the source: the length
first, and then the text, which has to be complete if the frame is the last. -/
def Kind.extend (kind : Kind) (data : List Byte) (f : Frame) : Verdict :=
  if maxFrameLength < (data ++ f.payload).length then .fails none
  else if kind = .text ∧
      ¬if f.fin then IsUtf8 (data ++ f.payload) else IsUtf8Prefix (data ++ f.payload) then
    .fails (some wsClseInvutf8)
  else if f.fin then .message kind (data ++ f.payload)
  else .awaits (some (kind, data ++ f.payload))

/-- A control frame.  It must be the only frame of its message, and its length must fit into the
length field. -/
def receiveControl (underway : Option (Kind × List Byte)) (f : Frame) : Verdict :=
  if ¬f.fin ∨ 125 < f.lengthField then .fails none
  else if f.opcode = 0x9 then .ping f.payload
  else if f.opcode = 0xA then .awaits underway
  else if 2 < f.payload.length ∧ ¬IsUtf8 (f.payload.drop 2) then .fails none
  else .close f.payload

/-- The opcodes of control frames. -/
def IsControl (opcode : BitVec 4) : Prop := opcode = 0x8 ∨ opcode = 0x9 ∨ opcode = 0xA

/-- The opcodes of data frames. -/
def IsData (opcode : BitVec 4) : Prop := opcode = 0x0 ∨ opcode = 0x1 ∨ opcode = 0x2

instance (opcode : BitVec 4) : Decidable (IsControl opcode) := inferInstanceAs (Decidable (_ ∨ _))

instance (opcode : BitVec 4) : Decidable (IsData opcode) := inferInstanceAs (Decidable (_ ∨ _))

/-- What the server makes of a frame, with this much of a message under way. -/
def receive (underway : Option (Kind × List Byte)) (f : Frame) : Verdict :=
  if f.reserved ≠ 0 then .fails none
  else if IsControl f.opcode then receiveControl underway f
  else
    match underway with
    | none =>
      if f.opcode = 0x1 then Kind.text.extend [] f
      else if f.opcode = 0x2 then Kind.binary.extend [] f
      else .fails none
    | some (kind, data) => if f.opcode = 0x0 then kind.extend data f else .fails none

/-- The seven bits for a length. -/
def shortestField (length : ℕ) : ℕ :=
  if length ≤ 125 then length else if length ≤ 65535 then 126 else 127

/-- A frame of the server. -/
def serverFrame (opcode : BitVec 4) (payload : List Byte) : Frame :=
  { fin := true, reserved := 0, opcode, lengthField := shortestField payload.length, payload }

/-- The call that sends a frame. -/
def sendCall (opcode : BitVec 4) (payload : List Byte) : WsCall :=
  .send (encodeFrame none (serverFrame opcode payload))

/-- The close codes that are echoed. -/
def EchoedCode (code : ℕ) : Prop :=
  1000 ≤ code ∧ code ≤ 1003 ∨ 1007 ≤ code ∧ code ≤ 1011 ∨ 3000 ≤ code ∧ code ≤ 4999

instance (code : ℕ) : Decidable (EchoedCode code) := inferInstanceAs (Decidable (_ ∨ _))

/-- The payload of the answer to a close frame.  A payload with a reason is echoed as it is, also
if its code may not be sent. -/
def closeAnswer (payload : List Byte) : List Byte :=
  if payload.length = 0 ∨ 2 < payload.length ∨ EchoedCode (ofBigEndian payload) then payload
  else bigEndian 2 wsClseProterr

/-- The event for a message. -/
def messageCall (kind : Kind) (data : List Byte) : WsCall :=
  .onmessage (if data = [] then none else some data) kind.type

/-- All the calls of a connection, after those that there have been, for the frames that are to
come.  It ends with the frames, or with the first frame that closes it or fails.  Which sends
succeed is a parameter, indexed by the number of calls before; a pong that cannot be sent ends the
conversation. -/
def conversation (sends : ℕ → Bool) :
    Option (Kind × List Byte) → List WsCall → List Frame → List WsCall
  | _, calls, [] => calls ++ [.onclose]
  | underway, calls, f :: fs =>
    match receive underway f with
    | .awaits underway => conversation sends underway calls fs
    | .message kind data => conversation sends none (calls ++ [messageCall kind data]) fs
    | .ping payload =>
      if sends calls.length then
        conversation sends underway (calls ++ [sendCall 0xA payload]) fs
      else calls ++ [sendCall 0xA payload, .onclose]
    | .close payload => calls ++ [sendCall 0x8 (closeAnswer payload), .onclose]
    | .fails none => calls ++ [.onclose]
    | .fails (some code) => calls ++ [sendCall 0x8 (bigEndian 2 code), .onclose]

/-- The frames that are read in the conversation, which are all of them unless it ends before. -/
def framesRead (sends : ℕ → Bool) :
    Option (Kind × List Byte) → List WsCall → List Frame → List Frame
  | _, _, [] => []
  | underway, calls, f :: fs =>
    f :: match receive underway f with
      | .awaits underway => framesRead sends underway calls fs
      | .message kind data => framesRead sends none (calls ++ [messageCall kind data]) fs
      | .ping payload =>
        if sends calls.length then framesRead sends underway (calls ++ [sendCall 0xA payload]) fs
        else []
      | .close _ => []
      | .fails _ => []

/-- A control frame with a payload of 125 bytes, which is as much as it may have. -/
def Full (f : Frame) : Prop :=
  f.fin = true ∧ f.reserved = 0 ∧ IsControl f.opcode ∧ f.lengthField = 125

instance (f : Frame) : Decidable (Full f) := inferInstanceAs (Decidable (_ ∧ _))

end GameBloat
