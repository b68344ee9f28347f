import GameBloat.WebSocket.Rounds

/-!
# A connection from beginning to end

What the server does in all of a connection is the `conversation` over the frames that the client
has sent, whatever the chunks they have come in (`session_refines`).  The last of them may be cut
off: the connection fails there.

`session_stores_iff` is about memory.  The one frame for which the receiver stores outside of its
buffers is a control frame with a payload of 125 bytes: the terminator is the 126th.

There are two loops, one in the other.  `ws_establishconnection` calls `next_frame` until it fails
or there is a close frame, and `next_frame` goes round until a message is complete.  The number of
rounds is not known before, so the model counts them down.  That it never runs out is part of the
theorems: every round takes a frame off the stream, and so one round more than there are frames is
enough for each of the loops.

The statement for the induction is about the loops at some place in the middle of a message,
`afterFrame_frames`.  The induction is on the frames that are to come; the two numbers are any
that are large enough, as they are counted down at different places.  The verdict of the next
frame decides the case.

* It awaits more, or it asks for a pong: the inner loop goes on with the next frame.
* It completes a message: the inner loop ends, the message is handed on, and the inner loop begins
  again with nothing under way (`afterRound_message`).
* It closes the connection: `do_close` answers it (`doClose_eq`, `afterRound_close`).
* It fails: there is nothing but the event for the end (`afterRound_error`).

`Completes` is what is shown in each of them, the calls and the condition for the stores together.
Its two rules, `Does.completes` for a connection that ends and `Completes.prepend` for one that
goes on, put the rounds in a row.
-/

set_option autoImplicit false

namespace GameBloat

open Framing Unicode

variable {env : WsEnv} {s s' : Receiver} {l : Locals}

/-! ## The loops -/

/-- What `ws_establishconnection` does after `next_frame`.  It looks at the type of the frame and
at the error, and goes on if the frame is none of those that it knows. -/
def afterFrame (env : WsEnv) (fuel : ℕ) : Option (Bool × Receiver) → Option Receiver
  | none => none
  | some (false, s) => some { s with calls := s.calls ++ [.onclose] }
  | some (true, s) =>
    match s.frameType with
    | none => establishConnection env fuel s
    | some type =>
      if (type = wsFrOpTxt ∨ type = wsFrOpBin) ∧ !s.error then
        establishConnection env fuel { s with calls := s.calls ++ [.onmessage s.message type] }
      else if type = wsFrOpClse ∧ !s.error then
        let s := if s.state ≠ .closing then doClose env { s with state := .closing } else s
        some { s with calls := s.calls ++ [.onclose] }
      else establishConnection env fuel s

/-- A round of the outer loop. -/
theorem establishConnection_succ (env : WsEnv) (fuel : ℕ) (s : Receiver) :
    establishConnection env (fuel + 1) s = afterFrame env fuel (nextFrame env fuel s) := by
  rw [establishConnection]
  rfl

/-- The receiver between two messages.  What there is in its buffers does not matter. -/
structure Ready (s : Receiver) : Prop where
  error : s.error = false
  state : s.state ≠ .closing
  ctrl : s.msgCtrl.size = 125

/-- `next_frame` begins with no message under way. -/
theorem Ready.underway (h : Ready s) : Underway none ⟨.null, 0, utf8Accept⟩
    { s with frameSize := 0, frameType := none, msg := .null } :=
  ⟨h.error, h.state, h.ctrl, rfl, rfl, rfl, rfl, iff_of_true rfl rfl, Nat.zero_le _⟩

/-- After the handshake it is ready. -/
theorem ready_connected (reader : Reader) : Ready (Receiver.connected reader) := ⟨rfl, nofun, rfl⟩

/-- At the beginning of a message the validator is between characters. -/
theorem validated_none : Validated none ⟨.null, 0, utf8Accept⟩ := fun _ ↦ rfl

/-- The lengths that the frames announce fit into 64 bits, together with the longest message that
there may be.  A frame that is cut off announces a length, too. -/
def NoWrap (bytes : List Byte) : Prop :=
  ∀ n ∈ announcements (fun _ ↦ true) bytes, maxFrameLength + n + 1 < 2 ^ 64

/-- The frames of a client, with their masks.  They are found again on the stream, and if none of
them is too long, no length wraps round. -/
theorem frames_of_client {fs : List (Option (List Byte) × Frame)}
    (hfs : ∀ f ∈ fs, Readable (fun _ ↦ true) f ∧ f.2.payload.length ≤ maxFrameLength)
    {bytes : List Byte} (h : bytes = encodeAll fs) :
    frames (fun _ ↦ true) bytes = fs.map Prod.snd ∧ NoWrap bytes := by
  have hreadable : ∀ f ∈ fs, Readable (fun _ ↦ true) f := fun f hf ↦ (hfs f hf).1
  have hframes := frames_encodeAll hreadable []
  have hannounced := announcements_encodeAll hreadable []
  rw [List.append_nil, ← h, frames_nil, List.append_nil] at hframes
  rw [List.append_nil, ← h, announcements_nil, List.append_nil] at hannounced
  refine ⟨hframes, ?_⟩
  rw [NoWrap, hannounced]
  refine List.forall_mem_map.2 fun f hf ↦ ?_
  have hlength := (hfs f hf).2
  rw [maxFrameLength] at hlength ⊢
  omega

/-- The close code in a payload of one or two bytes.  If there is one byte, the source takes it as
the code. -/
theorem closeCode_eq {b : Buffer} {payload : List Byte} (hpos : 0 < payload.length)
    (hshort : payload.length ≤ 2) (hfront : b.front payload.length = payload) :
    (if payload.length = 1 then (b.bytes 0).toNat
      else (b.bytes 0).toNat <<< 8 ||| (b.bytes 1).toNat) = ofBigEndian payload := by
  match payload, hpos, hshort, hfront with
  | [code], _, _, hfront =>
    obtain ⟨rfl, -⟩ := List.cons.inj hfront
    exact (Nat.zero_add _).symm
  | [high, low], _, _, hfront =>
    have hbytes : [b.bytes 0, b.bytes 1] = [high, low] := hfront
    cases hbytes
    show (b.bytes 0).toNat <<< 8 ||| (b.bytes 1).toNat =
      256 * (256 * 0 + (b.bytes 0).toNat) + (b.bytes 1).toNat
    have hlow := (b.bytes 1).isLt
    rw [← Nat.shiftLeft_add_eq_or_of_lt hlow, Nat.shiftLeft_eq]
    omega

/-- **The answer to a close frame.**  The payload is echoed, or there is a protocol error
instead. -/
theorem doClose_eq (henv : env.Roomy) (hsize : s.msgCtrl.size = 125) {payload : List Byte}
    (hshort : payload.length ≤ 125) (hframe : s.frameSize = payload.length)
    (hfront : s.msgCtrl.front payload.length = payload) :
    Does [sendCall 0x8 (closeAnswer payload)] True s (doClose env s) := by
  have hecho : Does [sendCall 0x8 payload] True s
      (wsSendframe env s (s.msgCtrl.front s.frameSize) wsFrOpClse).2 := by
    rw [hframe, hfront, wsSendframe_eq henv hshort (by decide)]
    exact ⟨rfl, [], (List.append_nil _).symm, iff_of_true (List.forall_mem_nil _) trivial⟩
  rw [doClose, closeAnswer, hframe]
  -- only a payload of one or two bytes is looked at as a code
  by_cases hlength : payload.length = 0 ∨ 2 < payload.length
  · rw [if_pos hlength, if_pos (or_assoc.1 (.inl hlength))]
    rwa [hframe] at hecho
  · have hcode := closeCode_eq (b := s.msgCtrl) (by omega) (by omega) hfront
    rw [if_neg hlength, hcode]
    dsimp only
    have hiff : (ofBigEndian payload < 1000 ∨ 1003 < ofBigEndian payload) ∧
        (ofBigEndian payload < 1007 ∨ 1011 < ofBigEndian payload) ∧
        (ofBigEndian payload < 3000 ∨ 4999 < ofBigEndian payload) ↔
          ¬EchoedCode (ofBigEndian payload) := by
      rw [EchoedCode]
      omega
    by_cases hvalid : EchoedCode (ofBigEndian payload)
    · rw [if_neg (fun h ↦ hiff.1 h hvalid), if_pos (.inr (.inr hvalid))]
      rwa [hframe] at hecho
    · rw [if_pos (hiff.2 hvalid), if_neg]
      · exact (customClose_eq henv hsize wsClseProterr).2
      · exact fun h ↦ (or_assoc.2 h).elim hlength hvalid

/-- What `next_frame` does after a round of its loop. -/
def afterRound (env : WsEnv) (fuel : ℕ) : Flow × Locals × Receiver → Option (Bool × Receiver)
  | (.returns ret, _, s) => some (ret, s)
  | (.breaks, l, s) => some (endFrame l s)
  | (.whiles isFin, l, s) =>
    if !isFin && !s.error then nextFrameLoop env fuel l s else some (endFrame l s)

/-- A round of the inner loop. -/
theorem nextFrameLoop_succ (env : WsEnv) (fuel : ℕ) (l : Locals) (s : Receiver) :
    nextFrameLoop env (fuel + 1) l s = afterRound env fuel (nextFrameRound env l s) := by
  rw [nextFrameLoop]
  rfl

section Loops

variable {rest : List Byte} {safe : Prop} {out : Flow × Locals × Receiver}
  {underway : Option (Kind × List Byte)}

/-- After an error the connection is closed.  Whether `next_frame` returns at once or leaves its
loop, it returns -1. -/
theorem afterRound_error (env : WsEnv) (l : Locals) {flow : Flow}
    (hflow : flow ≠ .returns true) (herror : flow ≠ .returns false → s.error = true)
    (fuel fuel' : ℕ) :
    ∃ s', afterFrame env fuel (afterRound env fuel' (flow, l, s)) = some s' ∧
      s'.calls = s.calls ++ [.onclose] ∧ s'.stores = s.stores := by
  have hend (h : s.error = true) : endFrame l s = (false, { s with msg := .null }) := if_pos h
  cases flow with
  | returns ret =>
    cases ret with
    | true => exact absurd rfl hflow
    | false => exact ⟨_, rfl, rfl, rfl⟩
  | breaks =>
    rw [afterRound, hend (herror (Flow.breaks_ne _))]
    exact ⟨_, rfl, rfl, rfl⟩
  | whiles isFin =>
    have herror' := herror (Flow.whiles_ne _ _)
    rw [afterRound, herror', Bool.not_true, Bool.and_false, if_neg (by decide), hend herror']
    exact ⟨_, rfl, rfl, rfl⟩

/-- The connection does what the frames that are to come say, and its stores are inside unless one
of the frames that it reads is a full control frame.  Calls and stores are those after the ones
that there have been. -/
structure Completes (sends : ℕ → Bool) (underway : Option (Kind × List Byte)) (fs : List Frame)
    (s s' : Receiver) : Prop where
  calls : s'.calls = conversation sends underway s.calls fs
  stores : ∃ stores, s'.stores = s.stores ++ stores ∧
    ((∀ p ∈ stores, p.1 < p.2) ↔ ∀ f ∈ framesRead sends underway s.calls fs, ¬Full f)

/-- A connection that ends with these calls. -/
theorem Does.completes {sends : ℕ → Bool} {calls : List WsCall} {fs : List Frame} {t : Receiver}
    (h : Does calls safe s s') (ht : t.calls = s'.calls ++ [.onclose] ∧ t.stores = s'.stores)
    (hcalls : conversation sends underway s.calls fs = s.calls ++ (calls ++ [.onclose]))
    (hread : (∀ f ∈ framesRead sends underway s.calls fs, ¬Full f) ↔ safe) :
    Completes sends underway fs s t := by
  obtain ⟨hs', stores, hstores, hsafe⟩ := h
  refine ⟨?_, stores, ht.2.trans hstores, hsafe.trans hread.symm⟩
  rw [ht.1, hs', hcalls, List.append_assoc]

/-- A connection that goes on. -/
theorem Completes.prepend {sends : ℕ → Bool} {calls : List WsCall} {f : Frame} {fs : List Frame}
    {underway' : Option (Kind × List Byte)} {t t' : Receiver} (h : Does calls (¬Full f) s s')
    (ht : t.calls = s'.calls ∧ t.stores = s'.stores) (h' : Completes sends underway' fs t t')
    (hcalls : conversation sends underway s.calls (f :: fs) =
      conversation sends underway' (s.calls ++ calls) fs)
    (hread : framesRead sends underway s.calls (f :: fs) =
      f :: framesRead sends underway' (s.calls ++ calls) fs) :
    Completes sends underway (f :: fs) s t' := by
  obtain ⟨hs', stores, hstores, hsafe⟩ := h
  obtain ⟨ht', stores', hstores', hsafe'⟩ := h'
  rw [ht.1, hs'] at ht' hsafe'
  refine ⟨ht'.trans hcalls.symm, stores ++ stores', ?_, ?_⟩
  · rw [hstores', ht.2, hstores, List.append_assoc]
  · rw [List.forall_mem_append, hsafe, hsafe', hread, List.forall_mem_cons]

/-- A message is handed on. -/
theorem afterFrame_message {kind : Kind} (htype : s.frameType = some kind.type)
    (herror : s.error = false) (fuel : ℕ) :
    afterFrame env fuel (some (true, s)) = establishConnection env fuel
      { s with calls := s.calls ++ [.onmessage s.message kind.type] } := by
  rw [afterFrame]
  split
  · rename_i hnone
    cases hnone.symm.trans htype
  · rename_i type hsome
    cases hsome.symm.trans htype
    rw [if_pos]
    rw [herror]
    cases kind <;> decide

/-- A close frame is answered, and the connection ends. -/
theorem afterFrame_close (htype : s.frameType = some wsFrOpClse) (herror : s.error = false)
    (hstate : s.state ≠ .closing) (fuel : ℕ) :
    afterFrame env fuel (some (true, s)) = some { doClose env { s with state := .closing } with
      calls := (doClose env { s with state := .closing }).calls ++ [.onclose] } := by
  rw [afterFrame]
  split
  · rename_i hnone
    cases hnone.symm.trans htype
  · rename_i type hsome
    cases hsome.symm.trans htype
    rw [if_neg (fun h ↦ absurd h.1 (by decide)), if_pos ⟨rfl, by rw [herror]; rfl⟩]
    simp only [if_pos hstate]

/-- A message is handed on, and the next one begins. -/
theorem afterRound_message (env : WsEnv) {kind : Kind} {data : List Byte}
    (hs : Underway (some (kind, data)) l s) (fuel fuel' : ℕ) :
    ∃ t, afterFrame env (fuel + 1) (afterRound env fuel' (.whiles true, l, s)) =
        afterFrame env fuel (nextFrameLoop env fuel ⟨.null, 0, utf8Accept⟩ t) ∧
      Underway none ⟨.null, 0, utf8Accept⟩ t ∧ t.reader = s.reader ∧
      t.calls = s.calls ++ [messageCall kind data] ∧ t.stores = s.stores := by
  have herror : s.error = false := hs.error
  have htype : s.frameType = some kind.type := hs.type
  have hsize : s.frameSize = data.length := hs.size
  have hnull : l.msgData.size = 0 ↔ data = [] := hs.null
  have hfront : l.msgData.front data.length = data := hs.front
  have hend : endFrame l s = (true, { s with msg := l.msgData }) :=
    if_neg (by rw [herror]; decide)
  -- the null pointer is handed on exactly for a message without data
  have hmessage : ({ s with msg := l.msgData } : Receiver).message =
      if data = [] then none else some data := by
    rw [Receiver.message, hsize]
    show (if l.msgData.size = 0 then none else some (l.msgData.front data.length)) = _
    rw [hfront]
    exact if_congr hnull rfl rfl
  refine ⟨{ s with
    frameSize := 0, frameType := none, msg := .null, calls := s.calls ++ [messageCall kind data] },
    ?_, ⟨herror, hs.state, hs.ctrl, rfl, rfl, rfl, rfl, iff_of_true rfl rfl, Nat.zero_le _⟩, rfl,
    rfl, rfl⟩
  rw [afterRound, Bool.not_true, Bool.false_and, if_neg (by decide), hend,
    afterFrame_message (s := { s with msg := l.msgData }) htype herror, hmessage,
    establishConnection_succ, nextFrame]
  rfl

/-- The client closes the connection. -/
theorem afterRound_close (henv : env.Roomy) {payload : List Byte}
    (h : Follows env underway s rest safe (.close payload) out) (fuel fuel' : ℕ) :
    ∃ s', afterFrame env fuel (afterRound env fuel' out) = some s' ∧
      ∃ t, Does [sendCall 0x8 (closeAnswer payload)] safe s t ∧
        s'.calls = t.calls ++ [.onclose] ∧ s'.stores = t.stores := by
  obtain ⟨flow, l', s'⟩ := out
  obtain ⟨rfl, herror, hstate, htype, hsize, hshort, hfront, hctrl, hdoes⟩ := h
  have hanswer := doClose_eq (s := { s' with state := .closing }) henv hctrl hshort hsize hfront
  have hclosing : Does [] safe s { s' with state := .closing } :=
    hdoes.congr ⟨rfl, rfl⟩ ⟨rfl, rfl⟩
  have hboth := hclosing.trans hanswer
  rw [List.nil_append, and_true] at hboth
  exact ⟨_, afterFrame_close htype herror hstate fuel, _, hboth, rfl, rfl⟩

/-- **All the loops**: with this much of a message under way, the connection does what the frames
that are to come say.  Each frame is a step, its lemma is that of its verdict, and the induction
hypothesis is about the frames after it. -/
theorem afterFrame_frames (henv : env.Roomy) {fs : List Frame} {fuel fuel' : ℕ}
    (hs : Underway underway l s) (hl : Validated underway l)
    (hfs : frames (fun _ ↦ true) s.reader.input = fs) (hwrap : NoWrap s.reader.input)
    (hfuel : fs.length < fuel) (hfuel' : fs.length < fuel') :
    ∃ s', afterFrame env fuel (nextFrameLoop env fuel' l s) = some s' ∧
      Completes env.sends underway fs s s' := by
  induction fs generalizing underway l s fuel fuel' with
  | nil =>
    obtain ⟨fuel', rfl⟩ := Nat.exists_eq_succ_of_ne_zero hfuel'.ne'
    -- no frame is left, so what there is is cut off or nothing
    have hcut : parse (fun _ ↦ true) s.reader.input = none := by
      cases hparse : parse (fun _ ↦ true) s.reader.input with
      | none => rfl
      | some p => cases (frames_of_some hparse).symm.trans hfs
    rw [nextFrameLoop_succ]
    have hround := nextFrameRound_cut env hs hcut hwrap
    generalize nextFrameRound env l s = out at hround ⊢
    obtain ⟨flow, l', s'⟩ := out
    obtain ⟨hflow, herror, hdoes⟩ := hround
    obtain ⟨t, hafter, ht⟩ := afterRound_error env l' hflow herror fuel fuel'
    exact ⟨t, hafter, hdoes.completes ht rfl (iff_of_true (List.forall_mem_nil _) trivial)⟩
  | cons f fs ih =>
    obtain ⟨fuel', rfl⟩ := Nat.exists_eq_succ_of_ne_zero (Nat.ne_zero_of_lt hfuel')
    obtain ⟨rest, hparse, hrest⟩ : ∃ rest, parse (fun _ ↦ true) s.reader.input = some (f, rest) ∧
        frames (fun _ ↦ true) rest = fs := by
      cases hparse : parse (fun _ ↦ true) s.reader.input with
      | none => cases (frames_of_none hparse).symm.trans hfs
      | some p =>
        obtain ⟨f', rest⟩ := p
        cases (frames_of_some hparse).symm.trans hfs
        exact ⟨rest, rfl, rfl⟩
    rw [NoWrap, announcements_of_some hparse, List.forall_mem_cons] at hwrap
    rw [List.length_cons] at hfuel hfuel'
    -- what the induction hypothesis asks of a receiver that has come to the next frame
    have hnext {t : Receiver} (h : t.reader.input = rest) :
        frames (fun _ ↦ true) t.reader.input = fs ∧ NoWrap t.reader.input := by
      rw [h]
      exact ⟨hrest, hwrap.2⟩
    rw [nextFrameLoop_succ]
    have hround := nextFrameRound_frame henv hs hl hparse hwrap.1
    generalize nextFrameRound env l s = out at hround ⊢
    cases hverdict : receive underway f with
    | awaits underway' =>
      obtain ⟨flow, l', s'⟩ := out
      rw [hverdict] at hround
      obtain ⟨rfl, hs', hl', hinput, hdoes⟩ := hround
      have herror : s'.error = false := hs'.error
      obtain ⟨t, hafter, ht⟩ := ih hs' hl' (hnext hinput).1 (hnext hinput).2
        (Nat.lt_of_succ_lt hfuel) (Nat.lt_of_succ_lt_succ hfuel')
      refine ⟨t, ?_, ht.prepend hdoes ⟨rfl, rfl⟩ ?_ ?_⟩
      · rw [afterRound, herror, if_pos (by decide)]
        exact hafter
      · rw [conversation, hverdict, List.append_nil]
      · rw [framesRead, hverdict, List.append_nil]
    | message kind data =>
      obtain ⟨flow, l', s'⟩ := out
      rw [hverdict] at hround
      obtain ⟨rfl, hs', hinput, hdoes⟩ := hround
      -- a message takes a round of the outer loop, and the inner one starts anew with what
      -- is left
      obtain ⟨fuel, rfl⟩ := Nat.exists_eq_succ_of_ne_zero (Nat.ne_zero_of_lt hfuel)
      obtain ⟨t, hafter, hs'', hreader, hcalls, hstores⟩ := afterRound_message env hs' fuel
        fuel'
      rw [← hreader] at hinput
      obtain ⟨t', hafter', ht'⟩ := ih hs'' validated_none (hnext hinput).1 (hnext hinput).2
        (Nat.lt_of_succ_lt_succ hfuel) (Nat.lt_of_succ_lt_succ hfuel)
      have hmessage : Does [messageCall kind data] (¬Full f) s t := by
        obtain ⟨hcalls', stores, hstores', hsafe⟩ := hdoes
        rw [List.append_nil] at hcalls'
        exact ⟨by rw [hcalls, hcalls'], stores, hstores.trans hstores', hsafe⟩
      refine ⟨t', hafter.trans hafter', ht'.prepend hmessage ⟨rfl, rfl⟩ ?_ ?_⟩
      · rw [conversation, hverdict]
      · rw [framesRead, hverdict]
    | ping payload =>
      obtain ⟨flow, l', s'⟩ := out
      rw [hverdict] at hround
      obtain ⟨hdoes, hsent⟩ := hround
      -- without the pong the connection ends here, in the code and in the conversation
      by_cases hsends : env.sends s.calls.length = true
      · rw [if_pos hsends] at hsent
        obtain ⟨rfl, hs', hl', hinput⟩ := hsent
        have herror : s'.error = false := hs'.error
        obtain ⟨t, hafter, ht⟩ := ih hs' hl' (hnext hinput).1 (hnext hinput).2
          (Nat.lt_of_succ_lt hfuel) (Nat.lt_of_succ_lt_succ hfuel')
        refine ⟨t, ?_, ht.prepend hdoes ⟨rfl, rfl⟩ ?_ ?_⟩
        · rw [afterRound, herror, if_pos (by decide)]
          exact hafter
        · simp only [conversation, hverdict, if_pos hsends]
        · simp only [framesRead, hverdict, if_pos hsends]
      · rw [if_neg hsends] at hsent
        obtain ⟨rfl, herror⟩ := hsent
        obtain ⟨t, hafter, ht⟩ := afterRound_error env l' (Flow.breaks_ne _) (fun _ ↦ herror) fuel
          fuel'
        refine ⟨t, hafter, hdoes.completes ht ?_ ?_⟩
        · simp only [conversation, hverdict, if_neg hsends]
          rfl
        · simp only [framesRead, hverdict, if_neg hsends, List.forall_mem_singleton]
    | close payload =>
      rw [hverdict] at hround
      obtain ⟨t, hafter, s', hdoes, ht⟩ := afterRound_close henv hround fuel fuel'
      refine ⟨t, hafter, hdoes.completes ht ?_ ?_⟩
      · simp only [conversation, hverdict]
        rfl
      · simp only [framesRead, hverdict, List.forall_mem_singleton]
    | fails code =>
      obtain ⟨flow, l', s'⟩ := out
      rw [hverdict] at hround
      obtain ⟨hflow, herror, hdoes⟩ := hround
      obtain ⟨t, hafter, ht⟩ := afterRound_error env l' hflow herror fuel fuel'
      refine ⟨t, hafter, hdoes.completes ht ?_ ?_⟩
      · cases code with
        | none => simp only [conversation, hverdict, Option.elim, List.nil_append]
        | some code => simp only [conversation, hverdict, Option.elim, List.cons_append,
            List.nil_append]
      · simp only [framesRead, hverdict, List.forall_mem_singleton]

end Loops

/-! ## Connections -/

variable {fuel : ℕ}

/-- A connection, with all that it does. -/
theorem establishConnection_frames (henv : env.Roomy) (hs : Ready s)
    (hwrap : NoWrap s.reader.input)
    (hfuel : (frames (fun _ ↦ true) s.reader.input).length + 1 < fuel) :
    ∃ s', establishConnection env fuel s = some s' ∧
      Completes env.sends none (frames (fun _ ↦ true) s.reader.input) s s' := by
  obtain ⟨fuel, rfl⟩ := Nat.exists_eq_succ_of_ne_zero (Nat.ne_zero_of_lt hfuel)
  rw [Nat.succ_eq_add_one, Nat.add_lt_add_iff_right] at hfuel
  obtain ⟨s', hafter, hs'⟩ := afterFrame_frames henv hs.underway validated_none rfl hwrap hfuel
    hfuel
  refine ⟨s', ?_, hs'.calls, hs'.stores⟩
  rw [establishConnection_succ, nextFrame]
  exact hafter

/-- **The server has the conversation** over the frames that the client sends, whatever the chunks
that they come in: every frame is answered as the protocol says, and the connection always ends.
Bytes at the end that make no whole frame cause no call of their own. -/
theorem session_refines (henv : env.Roomy) (hs : Ready s) (hwrap : NoWrap s.reader.input)
    (hfuel : (frames (fun _ ↦ true) s.reader.input).length + 1 < fuel) :
    ∃ s', establishConnection env fuel s = some s' ∧
      s'.calls = conversation env.sends none s.calls (frames (fun _ ↦ true) s.reader.input) := by
  obtain ⟨s', hsome, hs'⟩ := establishConnection_frames henv hs hwrap hfuel
  exact ⟨s', hsome, hs'.calls⟩

/-- The message "step" in three chunks, the last of which has a close frame, too. -/
theorem session_refines_step :
    ∃ s', establishConnection ⟨fun _ ↦ true, fun _ ↦ true⟩ 4 (.connected (.ofChunks
        [[0x81], [0x84, 0x1, 0x2, 0x3, 0x4, 0x72, 0x76],
          [0x66, 0x74, 0x88, 0x80, 0x0, 0x0, 0x0, 0x0]])) = some s' ∧
      s'.calls = [.onmessage (some [0x73, 0x74, 0x65, 0x70]) wsFrOpTxt, .send [0x88, 0x0],
        .onclose] := by
  generalize hs : Receiver.connected (.ofChunks [[0x81], [0x84, 0x1, 0x2, 0x3, 0x4, 0x72, 0x76],
    [0x66, 0x74, 0x88, 0x80, 0x0, 0x0, 0x0, 0x0]]) = s
  have hinput : s.reader.input = encodeAll
      [(some [0x1, 0x2, 0x3, 0x4], ⟨true, 0, 0x1, 4, [0x73, 0x74, 0x65, 0x70]⟩),
        (some [0x0, 0x0, 0x0, 0x0], ⟨true, 0, 0x8, 0, []⟩)] := by
    rw [← hs]
    rfl
  obtain ⟨hframes, hwrap⟩ := frames_of_client (by decide) hinput
  obtain ⟨s', hsome, hcalls⟩ := @session_refines ⟨fun _ ↦ true, fun _ ↦ true⟩ s 4
    (fun _ _ _ ↦ rfl) (hs ▸ ready_connected _) hwrap (by rw [hframes]; decide)
  refine ⟨s', hsome, ?_⟩
  rw [hcalls, hframes, ← hs]
  decide

/-- **The stores of a connection** lie inside their buffers if and only if no frame that is read
is a control frame with a payload of 125 bytes.  Such a frame is allowed by the protocol, and its
payload has room; the terminator is what does not. -/
theorem session_stores_iff (henv : env.Roomy) (hs : Ready s) (hwrap : NoWrap s.reader.input)
    (hfuel : (frames (fun _ ↦ true) s.reader.input).length + 1 < fuel) :
    ∃ s' stores, establishConnection env fuel s = some s' ∧ s'.stores = s.stores ++ stores ∧
      ((∀ p ∈ stores, p.1 < p.2) ↔
        ∀ f ∈ framesRead env.sends none s.calls (frames (fun _ ↦ true) s.reader.input),
          ¬Full f) := by
  obtain ⟨s', hsome, -, stores, hstores, hiff⟩ := establishConnection_frames henv hs hwrap hfuel
  exact ⟨s', stores, hsome, hstores, hiff⟩

/-- A ping with 125 bytes. -/
theorem session_stores_iff_ping :
    ∃ s' stores, establishConnection ⟨fun _ ↦ true, fun _ ↦ true⟩ 3 (.connected (.ofChunks
        [encodeAll [(some [0x1, 0x2, 0x3, 0x4], ⟨true, 0, 0x9, 125, .replicate 125 0x21⟩)]])) =
          some s' ∧
      s'.stores = stores ∧ ¬∀ p ∈ stores, p.1 < p.2 := by
  generalize hfs : ([(some [0x1, 0x2, 0x3, 0x4], ⟨true, 0, 0x9, 125, .replicate 125 0x21⟩)] :
    List (Option (List Byte) × Frame)) = fs
  generalize hs : Receiver.connected (.ofChunks [encodeAll fs]) = s
  have hne : encodeAll fs ≠ [] := by
    rw [← hfs]
    nofun
  have hinput : s.reader.input = encodeAll fs := by
    rw [← hs]
    exact (stream_cons hne []).trans (List.append_nil _)
  obtain ⟨hframes, hwrap⟩ := frames_of_client (hfs ▸ by decide +kernel) hinput
  obtain ⟨s', stores, hsome, hstores, hiff⟩ := @session_stores_iff ⟨fun _ ↦ true, fun _ ↦ true⟩ s 3
    (fun _ _ _ ↦ rfl) (hs ▸ ready_connected _) hwrap (by rw [hframes, ← hfs]; decide)
  rw [← hs] at hstores
  refine ⟨s', stores, hsome, hstores, fun h ↦ ?_⟩
  rw [hframes, ← hfs] at hiff
  exact hiff.1 h _ List.mem_cons_self ⟨rfl, rfl, .inr (.inl rfl), rfl⟩

end GameBloat
