import GameBloat.WebSocket.Session

/-!
# What a client sends is what the server gets

A client may send a message in as many frames as it likes, and pings and pongs between them.  It
chooses the masks and the forms of the lengths, and the network cuts the stream into chunks.  None
of this matters to the server (`messages_delivered`): it gets the messages, each of them once and
in this order, and it answers the pings.

What a client may do is a data type here.  A `Piece` is a data frame with the control frames
before it, and a `ClientMessage` is a list of pieces that obeys the protocol: a text is UTF-8 as a
whole, though its pieces need not be, a message is no longer than the server allows, and a control
frame has 125 bytes at most.  `pieceFrames` lays the message out as frames; the opcode is on the
first data frame only, and the FIN flag on the last.

The proof is about frames, as the bytes have been dealt with by `session_refines`.
`conversation_pieces` is an induction on the pieces, with the data that there are already: a piece
with others after it leaves the message under way (`Kind.extend_more`), and the last completes it
(`Kind.extend_last`).  That no piece but the last is refused for its text is because a prefix of
UTF-8 may go on to be UTF-8.  The control frames go past the message under way
(`conversation_asides`), and a list of messages is an induction again (`conversation_messages`).

The connection ends with the stream, and so does the list of calls: there is one `onclose` after
the messages.  A close frame of the client would come to the same, with its answer before the
event.
-/

set_option autoImplicit false

namespace GameBloat

open Framing Unicode

/-! ## The client -/

/-- A control frame among the frames of a message.  A close frame is none of these, as it is the
last that the server reads. -/
inductive Aside
  | ping (payload : List Byte)
  | pong (payload : List Byte)

/-- The payload of a ping or a pong. -/
def Aside.payload : Aside → List Byte
  | ping payload | pong payload => payload

/-- The frame, whose length field is the length itself. -/
def Aside.frame (a : Aside) : Frame where
  fin := true
  reserved := 0
  opcode := match a with
    | ping _ => 0x9
    | pong _ => 0xA
  lengthField := a.payload.length
  payload := a.payload

/-- What the server does about it. -/
def Aside.calls : Aside → List WsCall
  | ping payload => [sendCall 0xA payload]
  | pong _ => []

/-- A data frame, with the control frames that come before it. -/
structure Piece where
  asides : List Aside
  lengthField : ℕ
  payload : List Byte

/-- The data frame of a piece. -/
def Piece.frame (p : Piece) (fin : Bool) (opcode : BitVec 4) : Frame :=
  { fin, reserved := 0, opcode, lengthField := p.lengthField, payload := p.payload }

/-- The frames of a message.  The first of the data frames has the opcode of the message, the
others have the opcode of a continuation, and the last of them has the FIN flag. -/
def pieceFrames (opcode : BitVec 4) : List Piece → List Frame
  | [] => []
  | p :: pieces =>
    p.asides.map Aside.frame ++ p.frame pieces.isEmpty opcode :: pieceFrames 0x0 pieces

/-- The data of a message, from its pieces. -/
def pieceData (pieces : List Piece) : List Byte := pieces.flatMap Piece.payload

/-- The calls for the control frames. -/
def pieceCalls (pieces : List Piece) : List WsCall :=
  pieces.flatMap fun p ↦ p.asides.flatMap Aside.calls

/-- A message as a client sends it: a text is UTF-8, it is not too long, and neither are the
control frames.  It has at least one piece, which may be empty. -/
structure ClientMessage where
  kind : Kind
  pieces : List Piece
  pieces_ne_nil : pieces ≠ []
  text : kind = .text → IsUtf8 (pieceData pieces)
  length_le : (pieceData pieces).length ≤ maxFrameLength
  asides_le : ∀ p ∈ pieces, ∀ a ∈ p.asides, a.payload.length ≤ 125

/-- The opcode on the first data frame. -/
def Kind.opcode : Kind → BitVec 4
  | text => 0x1
  | binary => 0x2

/-- The frames of a message, in the order in which they are sent. -/
def ClientMessage.frames (m : ClientMessage) : List Frame := pieceFrames m.kind.opcode m.pieces

/-- What the server does about a message: it answers the pings, and then it hands on the data. -/
def ClientMessage.calls (m : ClientMessage) : List WsCall :=
  pieceCalls m.pieces ++ [messageCall m.kind (pieceData m.pieces)]

/-! ## The conversation -/

variable {sends : ℕ → Bool} {underway : Option (Kind × List Byte)} {kind : Kind}
  {data : List Byte} {pieces : List Piece}

section Receive

variable {f : Frame}

/-- A control frame that obeys the protocol is not refused for its form. -/
theorem receive_control (hreserved : f.reserved = 0) (hcontrol : IsControl f.opcode)
    (hfin : f.fin = true) (hshort : f.lengthField ≤ 125) (underway : Option (Kind × List Byte)) :
    receive underway f = if f.opcode = 0x9 then .ping f.payload
      else if f.opcode = 0xA then .awaits underway
      else if 2 < f.payload.length ∧ ¬IsUtf8 (f.payload.drop 2) then .fails none
      else .close f.payload := by
  rw [receive.eq_def, if_neg (not_not.2 hreserved), if_pos hcontrol, receiveControl, if_neg]
  rw [not_or, not_not, not_lt]
  exact ⟨hfin, hshort⟩

/-- The first data frame of a message begins with no data. -/
theorem receive_first (hreserved : f.reserved = 0) (hopcode : f.opcode = kind.opcode) :
    receive none f = kind.extend [] f := by
  rw [receive, if_neg (not_not.2 hreserved), hopcode]
  cases kind <;> rfl

/-- A continuation is taken for the message under way. -/
theorem receive_next (hreserved : f.reserved = 0) (hopcode : f.opcode = 0x0) :
    receive (some (kind, data)) f = kind.extend data f := by
  rw [receive, if_neg (not_not.2 hreserved), if_neg, if_pos hopcode]
  rw [hopcode]
  decide

/-- A ping is answered whatever is under way, -/
theorem receive_ping {payload : List Byte} (h : payload.length ≤ 125)
    (underway : Option (Kind × List Byte)) :
    receive underway (Aside.ping payload).frame = .ping payload :=
  receive_control (f := (Aside.ping payload).frame) rfl (.inr (.inl rfl)) rfl h underway

/-- and a pong is passed over. -/
theorem receive_pong {payload : List Byte} (h : payload.length ≤ 125)
    (underway : Option (Kind × List Byte)) :
    receive underway (Aside.pong payload).frame = .awaits underway :=
  receive_control (f := (Aside.pong payload).frame) rfl (.inr (.inr rfl)) rfl h underway

end Receive

/-- Control frames leave the message under way alone.  As the sends succeed, no answer to a ping
ends the connection. -/
theorem conversation_asides (hsends : ∀ n, sends n = true) {asides : List Aside}
    (h : ∀ a ∈ asides, a.payload.length ≤ 125) (calls : List WsCall) (fs : List Frame) :
    conversation sends underway calls (asides.map Aside.frame ++ fs) =
      conversation sends underway (calls ++ asides.flatMap Aside.calls) fs := by
  induction asides generalizing calls with
  | nil => rw [List.flatMap_nil, List.append_nil, List.map_nil, List.nil_append]
  | cons a asides ih =>
    rw [List.forall_mem_cons] at h
    rw [List.map_cons, List.cons_append, List.flatMap_cons, ← List.append_assoc, ← ih h.2]
    cases a with
    | ping payload =>
      have hreceive : receive underway (Aside.ping payload).frame = _ := receive_ping h.1 underway
      simp only [conversation, hreceive, if_pos (hsends _)]
      rfl
    | pong payload =>
      have hreceive : receive underway (Aside.pong payload).frame = _ := receive_pong h.1 underway
      simp only [conversation, hreceive]
      rw [Aside.calls, List.append_nil]

/-- The last frame of a message. -/
theorem Kind.extend_last {f : Frame} (hfin : f.fin = true)
    (hlength : (data ++ f.payload).length ≤ maxFrameLength)
    (htext : kind = .text → IsUtf8 (data ++ f.payload)) :
    kind.extend data f = .message kind (data ++ f.payload) := by
  rw [Kind.extend, if_neg (Nat.not_lt_of_le hlength), hfin, if_neg fun h ↦ h.2 (htext h.1)]
  rfl

/-- A frame with more to come.  A text need only be the beginning of UTF-8, as a character may be
cut between two frames. -/
theorem Kind.extend_more {f : Frame} (hfin : f.fin = false)
    (hlength : (data ++ f.payload).length ≤ maxFrameLength)
    (htext : kind = .text → IsUtf8Prefix (data ++ f.payload)) :
    kind.extend data f = .awaits (some (kind, data ++ f.payload)) := by
  rw [Kind.extend, if_neg (Nat.not_lt_of_le hlength), hfin, if_neg fun h ↦ h.2 (htext h.1)]
  rfl

/-- **The pieces of a message** are put together.  The frame with the first of them is taken as the
frame of a message with this much of its data. -/
theorem conversation_pieces (hsends : ∀ n, sends n = true) {opcode : BitVec 4}
    (hreceive : ∀ f : Frame, f.reserved = 0 → f.opcode = opcode →
      receive underway f = kind.extend data f)
    (hpieces : pieces ≠ []) (hlength : (data ++ pieceData pieces).length ≤ maxFrameLength)
    (htext : kind = .text → IsUtf8 (data ++ pieceData pieces))
    (hasides : ∀ p ∈ pieces, ∀ a ∈ p.asides, a.payload.length ≤ 125) (calls : List WsCall)
    (fs : List Frame) :
    conversation sends underway calls (pieceFrames opcode pieces ++ fs) =
      conversation sends none
        (calls ++ pieceCalls pieces ++ [messageCall kind (data ++ pieceData pieces)]) fs := by
  induction pieces generalizing underway data opcode calls with
  | nil => exact absurd rfl hpieces
  | cons p pieces ih =>
    rw [List.forall_mem_cons] at hasides
    have hdata : data ++ pieceData (p :: pieces) = data ++ p.payload ++ pieceData pieces := by
      rw [pieceData, List.flatMap_cons, ← pieceData, List.append_assoc]
    have hcalls : pieceCalls (p :: pieces) =
        p.asides.flatMap Aside.calls ++ pieceCalls pieces := List.flatMap_cons
    rw [hdata] at hlength htext ⊢
    have hframe := hreceive (p.frame pieces.isEmpty opcode) rfl rfl
    rw [pieceFrames, List.append_assoc, conversation_asides hsends hasides.1, List.cons_append,
      conversation, hframe, hcalls, ← List.append_assoc]
    by_cases hlast : pieces = []
    · subst hlast
      have hend : pieceData [] = [] ∧ pieceCalls [] = [] := ⟨rfl, rfl⟩
      rw [hend.1, List.append_nil] at hlength htext ⊢
      rw [hend.2, List.append_nil,
        Kind.extend_last (f := p.frame [].isEmpty opcode) rfl hlength htext]
      rfl
    · have hfin : (p.frame pieces.isEmpty opcode).fin = false := List.isEmpty_eq_false_iff.2 hlast
      have hshort : (data ++ p.payload).length ≤ maxFrameLength := by
        rw [List.length_append] at hlength
        omega
      rw [Kind.extend_more hfin hshort fun h ↦ ⟨_, htext h⟩]
      exact ih (fun _ ↦ receive_next) hlast hlength htext hasides.2 _

/-- **The messages of a client** are delivered, whatever frames come after them.  After each of
them there is no message under way, so that the next is treated as the first. -/
theorem conversation_messages (hsends : ∀ n, sends n = true) (ms : List ClientMessage)
    (calls : List WsCall) (fs : List Frame) :
    conversation sends none calls (ms.flatMap ClientMessage.frames ++ fs) =
      conversation sends none (calls ++ ms.flatMap ClientMessage.calls) fs := by
  induction ms generalizing calls with
  | nil => rw [List.flatMap_nil, List.flatMap_nil, List.append_nil, List.nil_append]
  | cons m ms ih =>
    have hmessage := conversation_pieces hsends (fun _ ↦ receive_first) m.pieces_ne_nil
      m.length_le m.text m.asides_le calls (ms.flatMap ClientMessage.frames ++ fs)
    rw [List.flatMap_cons, List.append_assoc, List.flatMap_cons, ClientMessage.frames]
    refine hmessage.trans ?_
    rw [List.nil_append, ih, List.append_assoc calls, ← ClientMessage.calls, List.append_assoc]

/-! ## The connection -/

/-- No control frame is longer than the protocol allows. -/
theorem asides_length {asides : List Aside} (h : ∀ a ∈ asides, a.payload.length ≤ 125) :
    ∀ f ∈ asides.map Aside.frame, f.payload.length ≤ 125 :=
  List.forall_mem_map.2 h

/-- No frame of a message is longer than the message, or than a control frame. -/
theorem pieceFrames_length {n : ℕ} {opcode : BitVec 4} (hn : 125 ≤ n)
    (hlength : (pieceData pieces).length ≤ n)
    (hasides : ∀ p ∈ pieces, ∀ a ∈ p.asides, a.payload.length ≤ 125) :
    ∀ f ∈ pieceFrames opcode pieces, f.payload.length ≤ n := by
  induction pieces generalizing opcode with
  | nil => exact List.forall_mem_nil _
  | cons p pieces ih =>
    rw [List.forall_mem_cons] at hasides
    rw [pieceData, List.flatMap_cons, List.length_append, ← pieceData] at hlength
    rw [pieceFrames, List.forall_mem_append, List.forall_mem_cons]
    refine ⟨fun f hf ↦ (asides_length hasides.1 f hf).trans hn, ?_, ih (by omega) hasides.2⟩
    exact (Nat.le_add_right _ _).trans hlength

/-- **What a client sends is what the server gets.**  The frames of the messages are on the stream
with any masks, and the stream is cut into any chunks.  Each message is handed on once, after the
pongs for its pings, and in the order in which they have been sent. -/
theorem messages_delivered {env : WsEnv} {s : Receiver} {fuel : ℕ} (henv : env.Roomy)
    (hsends : ∀ n, env.sends n = true) (hs : Ready s) (ms : List ClientMessage)
    {fs : List (Option (List Byte) × Frame)}
    (hfs : fs.map Prod.snd = ms.flatMap ClientMessage.frames)
    (hreadable : ∀ f ∈ fs, Readable (fun _ ↦ true) f) (hinput : s.reader.input = encodeAll fs)
    (hfuel : fs.length + 1 < fuel) :
    ∃ s', establishConnection env fuel s = some s' ∧
      s'.calls = s.calls ++ ms.flatMap ClientMessage.calls ++ [.onclose] := by
  have hlength : ∀ f ∈ fs.map Prod.snd, f.payload.length ≤ maxFrameLength := by
    rw [hfs]
    intro f hf
    obtain ⟨m, -, hf⟩ := List.mem_flatMap.1 hf
    exact pieceFrames_length (by decide) m.length_le m.asides_le f hf
  rw [List.forall_mem_map] at hlength
  obtain ⟨hframes, hwrap⟩ := frames_of_client (fun f hf ↦ ⟨hreadable f hf, hlength f hf⟩) hinput
  rw [← List.length_map Prod.snd, ← hframes] at hfuel
  obtain ⟨s', hsome, hs'⟩ := establishConnection_frames henv hs hwrap hfuel
  refine ⟨s', hsome, hs'.calls.trans ?_⟩
  have hmessages := conversation_messages hsends ms s.calls []
  rw [List.append_nil] at hmessages
  rw [hframes, hfs, hmessages]
  rfl

/-- The text "step" in two frames, with a ping between them, in three chunks. -/
theorem messages_delivered_step :
    ∃ s', establishConnection ⟨fun _ ↦ true, fun _ ↦ true⟩ 5 (.connected (.ofChunks
        [[0x01, 0x82, 0x1, 0x2, 0x3], [0x4, 0x72, 0x76, 0x89, 0x80, 0x0, 0x0, 0x0, 0x0, 0x80],
          [0x82, 0x0, 0x0, 0x0, 0x0, 0x65, 0x70]])) = some s' ∧
      s'.calls = [.send [0x8A, 0x0], .onmessage (some [0x73, 0x74, 0x65, 0x70]) wsFrOpTxt,
        .onclose] := by
  generalize hs : Receiver.connected (.ofChunks [[0x01, 0x82, 0x1, 0x2, 0x3],
    [0x4, 0x72, 0x76, 0x89, 0x80, 0x0, 0x0, 0x0, 0x0, 0x80],
    [0x82, 0x0, 0x0, 0x0, 0x0, 0x65, 0x70]]) = s
  have hinput : s.reader.input = encodeAll
      [(some [0x1, 0x2, 0x3, 0x4], ⟨false, 0, 0x1, 2, [0x73, 0x74]⟩),
        (some [0x0, 0x0, 0x0, 0x0], ⟨true, 0, 0x9, 0, []⟩),
        (some [0x0, 0x0, 0x0, 0x0], ⟨true, 0, 0x0, 2, [0x65, 0x70]⟩)] := by
    rw [← hs]
    rfl
  obtain ⟨s', hsome, hcalls⟩ := @messages_delivered ⟨fun _ ↦ true, fun _ ↦ true⟩ s 5
    (fun _ _ _ ↦ rfl) (fun _ ↦ rfl) (hs ▸ ready_connected _)
    [⟨.text, [⟨[], 2, [0x73, 0x74]⟩, ⟨[.ping []], 2, [0x65, 0x70]⟩], by decide, by decide,
      by decide, by decide⟩] _ rfl (by decide) hinput (by decide)
  refine ⟨s', hsome, ?_⟩
  rw [hcalls, ← hs]
  decide

end GameBloat
