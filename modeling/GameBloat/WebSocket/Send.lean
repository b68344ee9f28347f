import GameBloat.WebSocket.Protocol

/-!
# What the client receives

`ws_sendframe` writes the length of a message in one of three forms, and then copies the message
behind it, byte by byte.  A client knows nothing of this.  It has a stream of bytes from the socket,
and takes frames off it as the protocol says: the flags and the opcode, a length field of seven bits
that may announce two or eight bytes of length, a mask if there is one, and so many bytes of data.

There are two things to show for the two to understand each other.

* **The bytes are a frame.**  `frameHeader_append` says that a header of `ws_sendframe` and the
  message behind it are the encoding of a frame of the server, with the shortest form that there is
  for the length, and without a mask.  The header is written with shifts and masks of an unsigned
  number of 64 bits; the encoding has it as a number to the base 256.
* **The frames are told apart.**  `client_reads_frames` says that the client finds these frames in
  the stream and nothing else, however many there are, whatever the messages are made of, and
  whatever comes after them.  This is a property of the format, `frames_encodeAll`; what has to be
  seen here is only that the frames of the server have lengths that fit into their forms
  (`serverFrame_fits`), and that a reader who looks at the mask flag finds it clear
  (`serverFrame_unmasked`).

One limit is not the protocol's.  The bytes of a response are counted in `idx_response`, an `int`,
while the length is an unsigned number of 64 bits.  `frameBytes_eq` has the bound: a response is
defined if header and message together are at most `intMax` bytes, and from there on the copying
runs into an overflow.  The control frames with which the receiver answers a client have 125 bytes
at most, so that the bound plays no part for them.
-/

set_option autoImplicit false

namespace GameBloat

open Framing

variable {type : Byte} {msg : List Byte}

/-- The shortest form of a length has room for it: the length field itself up to 125, two bytes up
to 65535, and eight for all the lengths that there are. -/
theorem serverFrame_fits (opcode : BitVec 4) (h : msg.length < 2 ^ 64) :
    (serverFrame opcode msg).Fits := by
  show shortestField msg.length < 128 ∧ if shortestField msg.length < 126
    then msg.length = shortestField msg.length
    else msg.length < 256 ^ lengthBytes (shortestField msg.length)
  rcases Nat.lt_or_ge 125 msg.length with h125 | h125
  · rcases Nat.lt_or_ge 65535 msg.length with h65535 | h65535
    · have hfield : shortestField msg.length = 127 := by
        rw [shortestField, if_neg (by omega), if_neg (by omega)]
      rw [hfield]
      exact ⟨by decide, h⟩
    · have hfield : shortestField msg.length = 126 := by
        rw [shortestField, if_neg (by omega), if_pos h65535]
      rw [hfield]
      exact ⟨by decide, Nat.lt_succ_of_le h65535⟩
  · have hfield : shortestField msg.length = msg.length := if_pos h125
    rw [hfield, if_pos (by omega)]
    exact ⟨by omega, rfl⟩

/-- The opcode is written below the FIN flag. -/
theorem or_type (h : type.toNat < 16) (msg : List Byte) :
    (128 : Byte) ||| type = (serverFrame (type.setWidth 4) msg).first := by
  have hall : ∀ type : Byte, type.toNat < 16 →
      (128 : Byte) ||| type = BitVec.ofBool true ++ (0 : BitVec 3) ++ type.setWidth 4 := by
    decide
  exact hall type h

/-- A byte of the length. -/
theorem ofNat_shiftRight (n k : ℕ) :
    BitVec.ofNat 8 ((n >>> k) &&& 255) = BitVec.ofNat 8 (n / 2 ^ k) := by
  refine BitVec.eq_of_toNat_eq ?_
  rw [BitVec.toNat_ofNat, BitVec.toNat_ofNat, Nat.shiftRight_eq_div_pow,
    Nat.and_two_pow_sub_one_eq_mod _ 8, Nat.mod_mod]

theorem ofNat_and (n : ℕ) : BitVec.ofNat 8 (n &&& 255) = BitVec.ofNat 8 n := by
  have := ofNat_shiftRight n 0
  rwa [Nat.shiftRight_zero, Nat.pow_zero, Nat.div_one] at this

/-- **What is sent is the encoding of a frame**: the header that `ws_sendframe` writes is that of
the shortest form of the length.  The three cases are its three branches. -/
theorem frameHeader_append (h : type.toNat < 16) (msg : List Byte) :
    frameHeader msg.length type ++ msg = encodeFrame none (serverFrame (type.setWidth 4) msg) := by
  have hpayload : masked [] msg = msg := masked_nil msg
  rw [frameHeader, or_type h msg, encodeFrame]
  show _ = _ :: BitVec.ofNat 8 (shortestField msg.length + 0) ::
    (bigEndian (lengthBytes (shortestField msg.length)) msg.length ++ ([] ++ masked [] msg))
  rw [hpayload, Nat.add_zero, List.nil_append, shortestField]
  split_ifs with h125 h65535
  · have hlength : msg.length &&& 0x7F = msg.length := by
      rw [Nat.and_two_pow_sub_one_eq_mod _ 7]
      omega
    have hbytes : lengthBytes msg.length = 0 := by
      rw [lengthBytes, if_neg (by omega), if_neg (by omega)]
    rw [hlength, hbytes]
    rfl
  · rw [ofNat_shiftRight, ofNat_and]
    rfl
  · simp only [ofNat_shiftRight]
    rw [ofNat_and]
    have hbytes : bigEndian 8 msg.length = [BitVec.ofNat 8 (msg.length / 2 ^ 56),
        BitVec.ofNat 8 (msg.length / 2 ^ 48), BitVec.ofNat 8 (msg.length / 2 ^ 40),
        BitVec.ofNat 8 (msg.length / 2 ^ 32), BitVec.ofNat 8 (msg.length / 2 ^ 24),
        BitVec.ofNat 8 (msg.length / 2 ^ 16), BitVec.ofNat 8 (msg.length / 2 ^ 8),
        BitVec.ofNat 8 msg.length] := by
      simp only [bigEndian, Nat.div_div_eq_div_mul]
      rfl
    show _ = _ :: _ :: (bigEndian 8 msg.length ++ msg)
    rw [hbytes]
    rfl

theorem length_frameHeader_le (n : ℕ) (type : Byte) : (frameHeader n type).length ≤ 10 := by
  rw [frameHeader]
  split_ifs <;> simp only [List.length_cons, List.length_nil] <;> omega

/-- A loop of `ws_sendframe` gets to its end if and only if the `int` has room for all the bytes. -/
theorem addBytesTo_eq {response : List Byte} (hresponse : response.length ≤ intMax)
    (bytes : List Byte) : addBytesTo response bytes =
      if response.length + bytes.length ≤ intMax then some (response ++ bytes) else none := by
  induction bytes generalizing response with
  | nil => rw [List.append_nil, List.length_nil, Nat.add_zero, if_pos hresponse, addBytesTo]
  | cons byte bytes ih =>
    rw [addBytesTo, List.length_cons]
    by_cases hroom : response.length < intMax
    · have hnext : (response ++ [byte]).length = response.length + 1 := List.length_append
      rw [if_pos hroom, ih (by omega), hnext, List.append_assoc]
      exact if_congr (by omega) rfl rfl
    · rw [if_neg hroom, if_neg (by omega)]

/-- **The response**: header and data, if they are not too many for `idx_response`. -/
theorem frameBytes_eq (msg : List Byte) (type : Byte) : frameBytes msg type =
    if (frameHeader msg.length type).length + msg.length ≤ intMax then
      some (frameHeader msg.length type ++ msg)
    else none := by
  have hheader : (frameHeader msg.length type).length ≤ intMax :=
    (length_frameHeader_le _ _).trans (by decide)
  rw [frameBytes, addBytesTo_eq (Nat.zero_le _), List.length_nil, Nat.zero_add, if_pos hheader,
    List.nil_append, Option.bind_some, addBytesTo_eq hheader]

/-- A reader that looks at the mask flag. -/
def hasMaskFlag (second : Byte) : Bool := second.msb

/-- Frames of the server have no mask. -/
theorem serverFrame_unmasked (length : ℕ) :
    hasMaskFlag (BitVec.ofNat 8 (shortestField length + 0)) = false := by
  have hfield : shortestField length < 128 := by
    rw [shortestField]
    split_ifs <;> omega
  rw [hasMaskFlag, BitVec.msb_eq_decide, decide_eq_false_iff_not, BitVec.toNat_ofNat]
  omega

theorem frames_serverFrames (fs : List (BitVec 4 × List Byte))
    (h : ∀ f ∈ fs, f.2.length < 2 ^ 64) (rest : List Byte) :
    frames hasMaskFlag (fs.flatMap (fun f ↦ encodeFrame none (serverFrame f.1 f.2)) ++ rest) =
      fs.map (fun f ↦ serverFrame f.1 f.2) ++ frames hasMaskFlag rest := by
  have hreadable : ∀ f ∈ fs.map fun f ↦ (none, serverFrame f.1 f.2), Readable hasMaskFlag f := by
    refine List.forall_mem_map.2 fun f hf ↦ ⟨serverFrame_fits f.1 (h f hf), ?_⟩
    show 0 = if hasMaskFlag (BitVec.ofNat 8 (shortestField f.2.length + 0)) then 4 else 0
    rw [serverFrame_unmasked]
    rfl
  have hframes := frames_encodeAll hreadable rest
  rw [List.map_map] at hframes
  rw [encodeAll, List.flatMap_map] at hframes
  exact hframes

/-- Calls that all give a result give the list of the results. -/
theorem mapM_eq_some {α β : Type*} {f : α → Option β} {g : α → β} {l : List α}
    (h : ∀ a ∈ l, f a = some (g a)) : l.mapM f = some (l.map g) := by
  induction l with
  | nil => rfl
  | cons a l ih =>
    rw [List.forall_mem_cons] at h
    rw [List.mapM_cons, h.1, ih h.2]
    rfl

/-- **The client reads what the server sends**, frame by frame and nothing else: messages of every
length that `ws_sendframe` can count, whatever bytes they are made of, and whatever comes after them
on the stream. -/
theorem client_reads_frames (sent : List (List Byte × Byte))
    (htype : ∀ f ∈ sent, f.2.toNat < 16)
    (hlength : ∀ f ∈ sent, (frameHeader f.1.length f.2).length + f.1.length ≤ intMax)
    (rest : List Byte) :
    ∃ responses : List (List Byte), sent.mapM (fun f ↦ frameBytes f.1 f.2) = some responses ∧
      frames hasMaskFlag (responses.flatten ++ rest) =
        sent.map (fun f ↦ serverFrame (f.2.setWidth 4) f.1) ++ frames hasMaskFlag rest := by
  have hbytes : ∀ f ∈ sent, frameBytes f.1 f.2 =
      some (encodeFrame none (serverFrame (f.2.setWidth 4) f.1)) := by
    intro f hf
    rw [frameBytes_eq, if_pos (hlength f hf), frameHeader_append (htype f hf)]
  have hshort : ∀ f ∈ sent, f.1.length < 2 ^ 64 := by
    intro f hf
    have hle := hlength f hf
    rw [intMax] at hle
    omega
  refine ⟨sent.map fun f ↦ encodeFrame none (serverFrame (f.2.setWidth 4) f.1), ?_, ?_⟩
  · exact mapM_eq_some hbytes
  · have hframes := frames_serverFrames (sent.map fun f ↦ (f.2.setWidth 4, f.1))
      (List.forall_mem_map.2 hshort) rest
    rw [List.flatMap_map, List.map_map] at hframes
    exact hframes

/-- A text and a pong, with a frame that is cut off after them. -/
theorem client_reads_frames_two :
    ∃ responses : List (List Byte),
      [([0x68, 0x69], wsFrOpTxt), ([], wsFrOpPong)].mapM
        (fun f : List Byte × Byte ↦ frameBytes f.1 f.2) = some responses ∧
      frames hasMaskFlag (responses.flatten ++ [0x81]) =
        [serverFrame 0x1 [0x68, 0x69], serverFrame 0xA []] := by
  have hrest : frames hasMaskFlag [0x81] = [] := frames_of_none rfl
  obtain ⟨responses, hresponses, hframes⟩ := client_reads_frames
    [([0x68, 0x69], wsFrOpTxt), ([], wsFrOpPong)] (by decide) (by decide) [0x81]
  rw [hrest] at hframes
  exact ⟨responses, hresponses, hframes⟩

end GameBloat
