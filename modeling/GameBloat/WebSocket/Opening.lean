import GameBloat.WebSocket.Base64
import GameBloat.WebSocket.Session
import GameBloat.WebSocket.Sha1
import Mathlib.Data.List.Infix

/-!
# The opening handshake

A client opens a connection with a request one of whose lines has a key, and the server shows that
it has read it: its answer has the hash of the key and of a string that every server knows.  The
functions of `handshake.c` take the key out of the request and write this answer, and
`do_handshake` finds where the request ends.

`strtok_r` stores a NUL after each of its tokens, into the buffer from which the frames are read
afterwards.  `handshake_accepts` says that no byte of them is lost, also where the client has not
waited for the answer: it gets the answer that it waits for, and what is read next is the first
byte after the request.  Whatever the request is, the answer fits into its buffer
(`handshake_response_fits`).

The functions work on one buffer with pointers into it.  The model cuts the buffer into lists
instead: `Strtok` has the delimiters before a token, the token, the NUL after it and the rest, and
what a function gives back is these parts, one behind the other.  That the parts have the length
of the buffer is a lemma for each function (`strtokR_length`, `findLine_length`,
`getHandshakeResponse_length`); the frames after the request are where they have been, because a
loop that stops at the line with the key has touched nothing behind it.

* `getHandshakeAccept_eq`: the accept value is the text of the digest.  It goes through
  `sha1_refines` for the one call of each function, and through `base64Encode_eq`.
* `strstr_joinLines`: the end of the request is found, and not before.
* `findLine_lines`: the line with the key is found after the others.  The induction carries what
  `strtok_r` leaves at its pointer: the line feed, of which the carriage return before it has
  become the NUL.
* `OpeningRequest.getHandshakeResponse_text` and `doHandshake_text`: the answer, and the state in
  which the first frame is read.
-/

set_option autoImplicit false

namespace GameBloat

open Base64 Framing

/-! ## The code -/

/-- The bytes of a string. -/
def chars (s : String) : List Byte := s.toList.map fun c ↦ .ofNat 8 c.toNat

/-- `WS_KEY_LEN`. -/
def wsKeyLen : ℕ := 24

/-- `WS_MS_LEN`. -/
def wsMsLen : ℕ := 36

/-- `WS_KEYMS_LEN`. -/
def wsKeymsLen : ℕ := wsKeyLen + wsMsLen

/-- `MAGIC_STRING`. -/
def magicString : List Byte := chars "258EAFA5-E914-47DA-95CA-C5AB0DC85B11"

/-- `WS_HS_REQ`, what a line is looked through for. -/
def wsHsReq : List Byte := chars "Sec-WebSocket-Key"

/-- `WS_HS_ACCLEN`, the size of the buffer for the response. -/
def wsHsAcclen : ℕ := 130

/-- `WS_HS_ACCEPT`. -/
def wsHsAccept : List Byte :=
  chars "HTTP/1.1 101 Switching Protocols\r\n" ++ chars "Upgrade: websocket\r\n" ++
    chars "Connection: Upgrade\r\n" ++ chars "Sec-WebSocket-Accept: "

/-- `get_handshake_accept`, if there is memory.  The null pointer is `none`.  A key that is too
short leaves zeros at the end of what is hashed, and of one that is too long there are only the
first 24 characters. -/
def getHandshakeAccept (ctx : SHA1Context) : Option (List Byte) → Option (List Byte)
  | none => none
  | some wsKey =>
    -- `strncpy` and `strcat`, in a buffer of zeros
    let str := wsKey.take wsKeyLen ++ magicString
    let str := str ++ .replicate (wsKeymsLen + 1 - str.length) 0
    let (_, ctx) := sha1Input (sha1Reset ctx) (str.take wsKeymsLen)
    let ((_, hash), _) := sha1Result ctx
    (base64Encode (fun _ ↦ true) (hash.getD [])).map fun dest ↦ dest.out.dropLast

/-- `strstr`, of two strings: where the needle is for the first time. -/
def strstr (needle : List Byte) : List Byte → Option ℕ
  | [] => if needle = [] then some 0 else none
  | c :: s => if needle <+: c :: s then some 0 else (strstr needle s).map (· + 1)

/-- The needle is inside. -/
theorem strstr_le {needle s : List Byte} {p : ℕ} (h : strstr needle s = some p) :
    p + needle.length ≤ s.length := by
  induction s generalizing p with
  | nil =>
    rw [strstr, Option.ite_none_right_eq_some] at h
    obtain ⟨rfl, h⟩ := h
    cases h
    exact Nat.le_refl _
  | cons c s ih =>
    rw [strstr] at h
    split_ifs at h with hprefix
    · cases h
      rw [Nat.zero_add]
      exact hprefix.length_le
    · obtain ⟨p', hp', rfl⟩ := Option.map_eq_some_iff.1 h
      have hle := ih hp'
      rw [List.length_cons]
      omega

/-- What a call of `strtok_r` makes of the bytes from its pointer on: the delimiters before the
token, the token, the NUL after it if a delimiter has been there, and what the next call is for.
The parts are as long together as the bytes, though the delimiter after the token is a NUL now. -/
structure Strtok where
  skipped : List Byte
  token : List Byte
  stop : List Byte
  rest : List Byte

/-- The bytes that the next call leaves alone. -/
def Strtok.front (t : Strtok) : List Byte := t.skipped ++ t.token ++ t.stop

/-- `strtok_r`, on the bytes from its pointer on. -/
def strtokR (delim s : List Byte) : Option Strtok :=
  let skipped := s.takeWhile delim.contains
  let s := s.dropWhile delim.contains
  let token := s.takeWhile fun c ↦ c ≠ 0 && !delim.contains c
  if token.isEmpty then none
  else
    match s.dropWhile fun c ↦ c ≠ 0 && !delim.contains c with
    | [] => some { skipped, token, stop := [], rest := [] }
    | c :: rest =>
      if c = 0 then some { skipped, token, stop := [], rest := c :: rest }
      else some { skipped, token, stop := [0], rest }

/-- A token has been taken from the bytes, which are as many as before. -/
theorem strtokR_length {delim s : List Byte} {t : Strtok} (h : strtokR delim s = some t) :
    (t.front ++ t.rest).length = s.length ∧ t.rest.length < s.length := by
  have hskipped : s.takeWhile delim.contains ++ s.dropWhile delim.contains = s :=
    List.takeWhile_append_dropWhile
  have htoken : (s.dropWhile delim.contains).takeWhile (fun c ↦ c ≠ 0 && !delim.contains c) ++
      (s.dropWhile delim.contains).dropWhile (fun c ↦ c ≠ 0 && !delim.contains c) =
      s.dropWhile delim.contains := List.takeWhile_append_dropWhile
  rw [strtokR] at h
  generalize s.takeWhile delim.contains = skipped at h hskipped
  generalize s.dropWhile delim.contains = s' at h hskipped htoken
  generalize s'.takeWhile (fun c ↦ c ≠ 0 && !delim.contains c) = token at h htoken
  generalize s'.dropWhile (fun c ↦ c ≠ 0 && !delim.contains c) = rest at h htoken
  subst hskipped htoken
  split_ifs at h with hempty
  have hpos : 0 < token.length := List.length_pos_iff.2 fun hnil ↦ hempty (hnil ▸ rfl)
  split at h
  · cases h
    exact ⟨by simp [Strtok.front], by simp; omega⟩
  · split_ifs at h
    · cases h
      exact ⟨by simp [Strtok.front], by simp; omega⟩
    · cases h
      exact ⟨by simp [Strtok.front], by simp; omega⟩

/-- The loop of `get_handshake_response`: the bytes before the line, and the line.  It ends
because each token takes a byte at least. -/
def findLine (s : List Byte) : Option (List Byte × Strtok) :=
  match _h : strtokR (chars "\r\n") s with
  | none => none
  | some t =>
    if (strstr wsHsReq t.token).isSome then some ([], t)
    else (findLine t.rest).map fun (front, line) ↦ (t.front ++ front, line)
termination_by s.length
decreasing_by exact (strtokR_length ‹_›).2

/-- A step of the loop. -/
theorem findLine_of_some {s : List Byte} {t : Strtok} (h : strtokR (chars "\r\n") s = some t) :
    findLine s = if (strstr wsHsReq t.token).isSome then some ([], t)
      else (findLine t.rest).map fun (front, line) ↦ (t.front ++ front, line) := by
  rw [findLine]
  split
  · rename_i h'
    cases h.symm.trans h'
  · rename_i t' h'
    cases h.symm.trans h'
    rfl

/-- The loop leaves as many bytes as there have been. -/
theorem findLine_length {s front : List Byte} {line : Strtok}
    (h : findLine s = some (front, line)) :
    (front ++ line.front ++ line.rest).length = s.length := by
  induction s using findLine.induct generalizing front line with
  | case1 s hnone =>
    rw [findLine] at h
    split at h
    · cases h
    · rename_i t hsome
      cases hnone.symm.trans hsome
  | case2 s t hsome hreq =>
    rw [findLine_of_some hsome, if_pos hreq] at h
    cases h
    exact (strtokR_length hsome).1
  | case3 s t hsome hreq ih =>
    rw [findLine_of_some hsome, if_neg hreq, Option.map_eq_some_iff] at h
    obtain ⟨⟨front', line'⟩, hfind, heq⟩ := h
    cases heq
    have hlength := (strtokR_length hsome).1
    rw [List.length_append, ← ih hfind] at hlength
    simp only [List.length_append] at hlength ⊢
    omega

/-- `get_handshake_response`: the response, and what becomes of the request. -/
def getHandshakeResponse (ctx : SHA1Context) (hsrequest : List Byte) :
    Option (List Byte × List Byte) := do
  let (front, line) ← findLine hsrequest
  let name ← strtokR (chars " ") line.token
  let value := strtokR (chars " ") name.rest
  let accept ← getHandshakeAccept ctx (value.map Strtok.token)
  let words := name.front ++ value.elim name.rest fun t ↦ t.front ++ t.rest
  return (wsHsAccept ++ accept ++ chars "\r\n\r\n",
    front ++ (line.skipped ++ words ++ line.stop) ++ line.rest)

/-- The response does not change the length of the request. -/
theorem getHandshakeResponse_length {ctx : SHA1Context} {hsrequest response request : List Byte}
    (h : getHandshakeResponse ctx hsrequest = some (response, request)) :
    request.length = hsrequest.length := by
  rw [getHandshakeResponse] at h
  simp only [Option.bind_eq_bind, Option.bind_eq_some_iff] at h
  obtain ⟨⟨front, line⟩, hline, name, hname, accept, -, heq⟩ := h
  cases heq
  have hlength := findLine_length hline
  have hwords := (strtokR_length hname).1
  cases hvalue : strtokR (chars " ") name.rest with
  | none =>
    simp only [Option.elim, List.length_append, Strtok.front] at hlength hwords ⊢
    omega
  | some value =>
    have hvalue' := (strtokR_length hvalue).1
    simp only [Option.elim, List.length_append, Strtok.front] at hlength hwords hvalue' ⊢
    omega

/-- `do_handshake`, with memory for the response: the receiver when `onopen` is called, or what
has been done if it fails.  The buffer has zeros where nothing has been read.  The source reads
once here, so that a request whose end comes in a second chunk is refused. -/
def doHandshake (env : WsEnv) (ctx : SHA1Context) (chunks : List (List Byte)) :
    Except (List WsCall) Receiver :=
  let (frm, chunks) := recv (messageLength - 1) chunks
  match hp : strstr (chars "\r\n\r\n") (frm.takeWhile (· ≠ 0)) with
  | none => .error []
  | some p =>
    match hresponse : getHandshakeResponse ctx frm with
    | none => .error []
    | some (response, request) =>
      if env.sends 0 then
        .ok { Receiver.connected {
          frm := request
          curPos := p + 4
          curPos_le := by
            rw [getHandshakeResponse_length hresponse]
            exact (strstr_le hp).trans (List.takeWhile_sublist _).length_le
          chunks } with calls := [.send response] }
      else .error [.send response]

/-- `ws_establishconnection`, in so many rounds of its loop: what the connection sends, and the
messages and the end that it reports.  The event `onopen`, between the answer to the request and
the first frame, is not among these calls, and neither is what becomes of the thread and the
socket afterwards. -/
def wsEstablishconnection (env : WsEnv) (ctx : SHA1Context) (fuel : ℕ)
    (chunks : List (List Byte)) : Option (List WsCall) :=
  match doHandshake env ctx chunks with
  | .error calls => some calls
  | .ok s => (establishConnection env fuel s).map Receiver.calls

/-! ## The accept value -/

/-- What is hashed for a key. -/
def keyed (key : List Byte) : List Byte :=
  (key.take wsKeyLen ++ magicString ++
    .replicate (wsKeymsLen + 1 - (key.take wsKeyLen ++ magicString).length) 0).take wsKeymsLen

/-- The magic string has the length that the source states for it. -/
theorem length_magicString : magicString.length = wsMsLen := by decide

/-- As many characters are hashed as the source says, whatever the key is. -/
theorem length_keyed (key : List Byte) : (keyed key).length = wsKeymsLen := by
  rw [keyed, List.length_take, List.length_append, List.length_replicate]
  omega

/-- A key of the length that the protocol has. -/
theorem keyed_of_length {key : List Byte} (h : key.length = wsKeyLen) :
    keyed key = key ++ magicString := by
  rw [keyed, ← h, List.take_length]
  refine List.take_left' ?_
  rw [List.length_append, length_magicString, h]
  rfl

/-- A whole message at once. -/
theorem digest_of_input (ctx : SHA1Context) {message : List Byte} (hne : message ≠ [])
    (hlength : message.length < 2 ^ 61) :
    (sha1Result (sha1Input (sha1Reset ctx) message).2).1.2 = some (Sha1.digest message) := by
  have hinput : ([] ++ message).length < 2 ^ 61 := hlength
  have habsorbs := (absorbs_reset ctx).append_bytes hinput
  obtain ⟨ctx', hresult, -⟩ := sha1Result_of_absorbs habsorbs
  rw [sha1Input, if_neg (List.length_pos_iff.2 hne).ne', if_neg (by exact Bool.false_ne_true),
    if_neg (by exact not_not.2 rfl), hresult]
  rfl

/-- **The accept value** is the hash of the key and the magic string.  The encoder puts a line
feed behind its text, and the source takes it away again. -/
theorem getHandshakeAccept_eq (ctx : SHA1Context) (key : List Byte) :
    getHandshakeAccept ctx (some key) = some (encodeText (Sha1.digest (keyed key))) := by
  have hkeyed := length_keyed key
  have hdigest : (sha1Result (sha1Input (sha1Reset ctx) (keyed key)).2).1.2 =
      some (Sha1.digest (keyed key)) :=
    digest_of_input ctx (List.length_pos_iff.1 (by rw [hkeyed]; decide)) (by rw [hkeyed]; decide)
  have hlength := Sha1.length_digest (keyed key)
  have htext : (encodeText (Sha1.digest (keyed key))).length = 28 := by
    rw [length_encodeText, hlength]
  have hlines : breakLines 72 0 (encodeText (Sha1.digest (keyed key))) =
      encodeText (Sha1.digest (keyed key)) ++ [lineFeed] :=
    breakLines_last (List.length_pos_iff.1 (by omega)) (by omega)
  show (base64Encode (fun _ ↦ true)
    ((sha1Result (sha1Input (sha1Reset ctx) (keyed key)).2).1.2.getD [])).map _ = _
  rw [hdigest, Option.getD_some, base64Encode_eq _ (by omega), if_pos ⟨by omega, rfl⟩,
    Option.map_some, Base64Buffer.out, List.take_left, hlines, List.dropLast_concat]

/-! ## Tokens -/

section Tokens

variable {delim skipped token : List Byte} {c : Byte}

/-- A byte that fails the test, after bytes that pass it. -/
theorem takeWhile_append_cons {p : Byte → Bool} {s : List Byte} (hs : ∀ d ∈ s, p d = true)
    (hc : ¬p c = true) (rest : List Byte) :
    (s ++ c :: rest).takeWhile p = s ∧ (s ++ c :: rest).dropWhile p = c :: rest := by
  rw [List.takeWhile_append_of_pos hs, List.dropWhile_append_of_pos hs,
    List.takeWhile_cons_of_neg hc, List.dropWhile_cons_of_neg hc, List.append_nil]
  exact ⟨rfl, rfl⟩

/-- A token that a delimiter ends. -/
theorem strtokR_delim (hskipped : ∀ c ∈ skipped, c ∈ delim) (hne : token ≠ [])
    (htoken : ∀ c ∈ token, c ≠ 0 ∧ c ∉ delim) (hc : c ∈ delim) (hzero : c ≠ 0) (rest : List Byte) :
    strtokR delim (skipped ++ (token ++ c :: rest)) = some ⟨skipped, token, [0], rest⟩ := by
  obtain ⟨first, token', rfl⟩ := List.exists_cons_of_ne_nil hne
  have hfirst : ¬delim.contains first = true := by
    simpa using (htoken first List.mem_cons_self).2
  obtain ⟨hskip, hdrop⟩ := takeWhile_append_cons (p := delim.contains) (s := skipped)
    (by simpa using hskipped) hfirst (token' ++ c :: rest)
  obtain ⟨htake, hrest⟩ := takeWhile_append_cons (p := fun c ↦ c ≠ 0 && !delim.contains c)
    (s := first :: token') (c := c) (by simpa using htoken) (by simp [hc]) rest
  rw [strtokR, List.cons_append, hskip, hdrop, ← List.cons_append]
  simp only [htake, hrest, List.isEmpty_cons, Bool.false_eq_true, if_false, if_neg hzero]

/-- A token at the end of the string.  No delimiter has been there, and so no NUL is stored. -/
theorem strtokR_last (hne : token ≠ []) (htoken : ∀ c ∈ token, c ≠ 0 ∧ c ∉ delim) :
    strtokR delim token = some ⟨[], token, [], []⟩ := by
  obtain ⟨first, token', rfl⟩ := List.exists_cons_of_ne_nil hne
  have hfirst : ¬delim.contains first = true := by
    simpa using (htoken first List.mem_cons_self).2
  have hall : ∀ c ∈ first :: token', (c ≠ 0 && !delim.contains c) = true := by
    simpa using htoken
  have htake := @List.takeWhile_append_of_pos _ _ _ [] hall
  have hrest := @List.dropWhile_append_of_pos _ _ _ [] hall
  rw [List.takeWhile_nil, List.append_nil] at htake
  rw [List.dropWhile_nil, List.append_nil] at hrest
  simp only [strtokR, List.takeWhile_cons_of_neg hfirst, List.dropWhile_cons_of_neg hfirst, htake,
    hrest, List.isEmpty_cons, Bool.false_eq_true, if_false]

end Tokens

/-! ## The request -/

/-- A line of a request.  A NUL would end the request, and a carriage return or a line feed the
line. -/
def IsLine (line : List Byte) : Prop := line ≠ [] ∧ ∀ c ∈ line, c ≠ 0 ∧ c ∉ chars "\r\n"

instance : DecidablePred IsLine := fun _ ↦ inferInstanceAs (Decidable (_ ∧ _))

/-- Lines with their ends. -/
def joinLines (lines : List (List Byte)) : List Byte := lines.flatMap (· ++ chars "\r\n")

/-- Nothing is found only if there is nothing. -/
theorem strstr_eq_none_iff {needle s : List Byte} : strstr needle s = none ↔ ¬needle <:+: s := by
  induction s with
  | nil =>
    rw [strstr, List.infix_nil]
    split_ifs with h
    · exact iff_of_false nofun (not_not.2 h)
    · exact iff_of_true rfl h
  | cons c s ih =>
    rw [strstr, List.infix_cons_iff, not_or, ← ih]
    split_ifs with h
    · exact iff_of_false nofun fun hn ↦ hn.1 h
    · rw [Option.map_eq_none_iff]
      exact (and_iff_right h).symm

/-- Nothing begins where there is no first byte of the needle. -/
theorem strstr_append {c : Byte} {s : List Byte} (needle : List Byte) (h : c ∉ s)
    (s' : List Byte) :
    strstr (c :: needle) (s ++ s') = (strstr (c :: needle) s').map (· + s.length) := by
  induction s with
  | nil => exact Option.map_id.symm ▸ rfl
  | cons d s ih =>
    rw [List.mem_cons, not_or] at h
    rw [List.cons_append, strstr, if_neg fun hp ↦ h.1 (List.cons_prefix_cons.1 hp).1, ih h.2,
      Option.map_map]
    rfl

/-- The blank line is where the lines end.  No line is empty, so there are no two ends next to one
another before that. -/
theorem strstr_joinLines {lines : List (List Byte)} (hlines : ∀ line ∈ lines, IsLine line)
    (hne : lines ≠ []) (s : List Byte) :
    ∃ p, strstr (chars "\r\n\r\n") (joinLines lines ++ (chars "\r\n" ++ s)) = some p ∧
      p + 4 = (joinLines lines ++ chars "\r\n").length := by
  induction lines with
  | nil => exact absurd rfl hne
  | cons line lines ih =>
    rw [List.forall_mem_cons] at hlines
    have hreturn : (0x0D : Byte) ∉ line := fun h ↦ (hlines.1.2 _ h).2 (by decide)
    have htext : joinLines (line :: lines) ++ (chars "\r\n" ++ s) =
        line ++ (0x0D :: 0x0A :: (joinLines lines ++ (chars "\r\n" ++ s))) := by
      rw [joinLines, List.flatMap_cons, ← joinLines, List.append_assoc, List.append_assoc]
      rfl
    have hlength : (joinLines (line :: lines) ++ chars "\r\n").length =
        line.length + 2 + (joinLines lines ++ chars "\r\n").length := by
      rw [joinLines, List.flatMap_cons, ← joinLines, List.append_assoc, List.length_append,
        List.length_append]
      rfl
    have hblank : chars "\r\n\r\n" = [0x0D, 0x0A, 0x0D, 0x0A] := rfl
    rw [htext, hlength, hblank, strstr_append _ hreturn, ← hblank]
    cases lines with
    | nil =>
      refine ⟨0 + line.length, ?_, ?_⟩
      · rw [strstr, if_pos ⟨s, rfl⟩]
        rfl
      · rw [joinLines, List.flatMap_nil, List.nil_append, Nat.zero_add]
        rfl
    | cons next lines =>
      obtain ⟨p, hp, hlast⟩ := ih hlines.2 (List.cons_ne_nil _ _)
      obtain ⟨first, next', rfl⟩ := List.exists_cons_of_ne_nil (hlines.2 next List.mem_cons_self).1
      have hfirst : first ≠ 0x0D := fun h ↦
        ((hlines.2 _ List.mem_cons_self).2 first List.mem_cons_self).2 (h ▸ by decide)
      refine ⟨p + 1 + 1 + line.length, ?_, by omega⟩
      rw [strstr, if_neg, strstr, if_neg, hp]
      · rfl
      · exact fun h ↦ absurd (List.cons_prefix_cons.1 h).1 (by decide)
      · intro h
        have hthird := (List.cons_prefix_cons.1 (List.cons_prefix_cons.1
          (List.cons_prefix_cons.1 h).2).2).1
        exact hfirst hthird.symm

/-- The lines up to the one with the key. -/
theorem findLine_lines {before : List (List Byte)} {line skipped : List Byte}
    (hbefore : ∀ line ∈ before, IsLine line ∧ ¬wsHsReq <:+: line) (hline : IsLine line)
    (hreq : wsHsReq <:+: line) (hskipped : ∀ c ∈ skipped, c ∈ chars "\r\n") (s : List Byte) :
    ∃ front skipped', findLine (skipped ++ (joinLines before ++ (line ++ chars "\r\n" ++ s))) =
        some (front, ⟨skipped', line, [0], 0x0A :: s⟩) ∧
      (front ++ skipped').length = (skipped ++ joinLines before).length := by
  induction before generalizing skipped with
  | nil =>
    have htoken : strtokR (chars "\r\n") (skipped ++ (line ++ 0x0D :: 0x0A :: s)) = _ :=
      strtokR_delim hskipped hline.1 hline.2 (by decide) (by decide) _
    have htext : joinLines [] ++ (line ++ chars "\r\n" ++ s) = line ++ 0x0D :: 0x0A :: s :=
      List.append_assoc _ _ _
    refine ⟨[], skipped, ?_, congrArg List.length (List.append_nil _).symm⟩
    rw [htext, findLine_of_some htoken, if_pos]
    rw [Option.isSome_iff_ne_none, Ne, strstr_eq_none_iff, not_not]
    exact hreq
  | cons other before ih =>
    rw [List.forall_mem_cons] at hbefore
    obtain ⟨front, skipped', hfind, hlength⟩ := @ih [0x0A] hbefore.2 (by decide)
    have htext : joinLines (other :: before) ++ (line ++ chars "\r\n" ++ s) =
        other ++ 0x0D :: ([0x0A] ++ (joinLines before ++ (line ++ chars "\r\n" ++ s))) := by
      rw [joinLines, List.flatMap_cons, ← joinLines, List.append_assoc, List.append_assoc]
      rfl
    have htoken := strtokR_delim hskipped hbefore.1.1.1 hbefore.1.1.2
      (by decide : (0x0D : Byte) ∈ chars "\r\n") (by decide)
      ([0x0A] ++ (joinLines before ++ (line ++ chars "\r\n" ++ s)))
    refine ⟨skipped ++ other ++ [0] ++ front, skipped', ?_, ?_⟩
    · rw [htext, findLine_of_some htoken, if_neg, hfind]
      · rfl
      · rw [Bool.not_eq_true, Option.isSome_eq_false_iff, Option.isNone_iff_eq_none]
        exact strstr_eq_none_iff.2 hbefore.1.2
    · simp only [joinLines, List.flatMap_cons, List.length_append, List.length_singleton]
        at hlength ⊢
      have hend : (chars "\r\n").length = 2 := rfl
      omega

/-- A request as the protocol asks for it: lines, one of which has the key.  The lines before it
do not have the name of the field, as the first that has it is taken; the lines after it may be
any. -/
structure OpeningRequest where
  before : List (List Byte)
  key : List Byte
  after : List (List Byte)
  before_ok : ∀ line ∈ before, IsLine line ∧ ¬wsHsReq <:+: line
  key_length : key.length = wsKeyLen
  key_ok : ∀ c ∈ key, c ≠ 0 ∧ c ∉ chars "\r\n" ∧ c ∉ chars " "
  after_ok : ∀ line ∈ after, IsLine line

namespace OpeningRequest

variable (r : OpeningRequest)

/-- The line with the key. -/
def keyLine : List Byte := wsHsReq ++ chars ": " ++ r.key

/-- All the lines, the one with the key among them. -/
def lines : List (List Byte) := r.before ++ r.keyLine :: r.after

/-- The lines, and a blank one. -/
def text : List Byte := joinLines r.lines ++ chars "\r\n"

/-- The answer that the client waits for. -/
def response : List Byte :=
  wsHsAccept ++ encodeText (Sha1.digest (r.key ++ magicString)) ++ chars "\r\n\r\n"

/-- The line with the key is one. -/
theorem isLine_keyLine : IsLine r.keyLine := by
  have hname : ∀ c ∈ wsHsReq ++ chars ": ", c ≠ 0 ∧ c ∉ chars "\r\n" := by decide
  exact ⟨List.cons_ne_nil _ _,
    List.forall_mem_append.2 ⟨hname, fun c hc ↦ ⟨(r.key_ok c hc).1, (r.key_ok c hc).2.1⟩⟩⟩

/-- All the lines of a request are lines. -/
theorem isLine : ∀ line ∈ r.lines, IsLine line :=
  List.forall_mem_append.2 ⟨fun line hline ↦ (r.before_ok line hline).1,
    List.forall_mem_cons.2 ⟨r.isLine_keyLine, r.after_ok⟩⟩

/-- There is no NUL in a request, so that `strstr` sees all of it. -/
theorem text_ne_zero : ∀ c ∈ r.text, c ≠ 0 := by
  have hend : ∀ c ∈ chars "\r\n", c ≠ 0 := by decide
  refine List.forall_mem_append.2 ⟨fun c hc ↦ ?_, hend⟩
  obtain ⟨line, hline, hc⟩ := List.mem_flatMap.1 hc
  rcases List.mem_append.1 hc with hc | hc
  · exact ((r.isLine line hline).2 c hc).1
  · exact hend c hc

/-- **The response**, and what is left of the request: the bytes after it are as before. -/
theorem getHandshakeResponse_text (ctx : SHA1Context) (s : List Byte) :
    ∃ front, getHandshakeResponse ctx (r.text ++ s) = some (r.response, front ++ s) ∧
      front.length = r.text.length := by
  have htext : r.text ++ s = [] ++ (joinLines r.before ++ (r.keyLine ++ chars "\r\n" ++
      (joinLines r.after ++ chars "\r\n" ++ s))) := by
    simp only [text, lines, joinLines, List.flatMap_append, List.flatMap_cons, List.append_assoc,
      List.nil_append]
  have hreq : wsHsReq <:+: r.keyLine := ⟨[], chars ": " ++ r.key, (List.append_assoc _ _ _).symm⟩
  obtain ⟨front, skipped, hfind, hlength⟩ := findLine_lines r.before_ok r.isLine_keyLine hreq
    (List.forall_mem_nil _) (joinLines r.after ++ chars "\r\n" ++ s)
  have hkey : r.key ≠ [] := List.length_pos_iff.1 (by rw [r.key_length]; decide)
  have hname : strtokR (chars " ") r.keyLine = some ⟨[], wsHsReq ++ chars ":", [0], r.key⟩ := by
    have hline : r.keyLine = [] ++ (wsHsReq ++ chars ":" ++ 0x20 :: r.key) := by
      rw [keyLine, List.append_assoc, List.nil_append, List.append_assoc]
      rfl
    rw [hline]
    exact strtokR_delim (List.forall_mem_nil _) (by decide) (by decide) (by decide) (by decide) _
  have hvalue : strtokR (chars " ") r.key = some ⟨[], r.key, [], []⟩ :=
    strtokR_last hkey fun c hc ↦ ⟨(r.key_ok c hc).1, (r.key_ok c hc).2.2⟩
  refine ⟨front ++ (skipped ++ (wsHsReq ++ chars ":" ++ [0] ++ r.key) ++ [0]) ++
    (0x0A :: (joinLines r.after ++ chars "\r\n")), ?_, ?_⟩
  · rw [htext, getHandshakeResponse, hfind]
    simp only [Option.bind_eq_bind, Option.bind_some, hname, hvalue, Option.map_some,
      getHandshakeAccept_eq, keyed_of_length r.key_length, Option.elim, Strtok.front,
      List.append_nil, List.nil_append, pure, response]
    simp only [List.append_assoc, List.cons_append]
  · simp only [text, lines, joinLines, keyLine, List.flatMap_append, List.flatMap_cons,
      List.length_append, List.length_cons, List.length_nil, List.nil_append] at hlength ⊢
    have hend : (chars "\r\n").length = 2 ∧ (chars ":").length = 1 ∧ (chars ": ").length = 2 :=
      ⟨rfl, rfl, rfl⟩
    omega

end OpeningRequest

/-- **The response fits** exactly into its buffer, whatever the request is.  The digest has 20
bytes for every key, also for one that is too short or too long; and the request keeps its
length. -/
theorem handshake_response_fits {ctx : SHA1Context} {hsrequest response request : List Byte}
    (h : getHandshakeResponse ctx hsrequest = some (response, request)) :
    response.length + 1 = wsHsAcclen ∧ request.length = hsrequest.length := by
  refine ⟨?_, getHandshakeResponse_length h⟩
  rw [getHandshakeResponse] at h
  simp only [Option.bind_eq_bind, Option.bind_eq_some_iff] at h
  obtain ⟨⟨front, line⟩, -, name, -, accept, haccept, heq⟩ := h
  cases heq
  cases hvalue : strtokR (chars " ") name.rest with
  | none =>
    rw [hvalue] at haccept
    cases haccept
  | some value =>
    rw [hvalue, Option.map_some, getHandshakeAccept_eq, Option.some.injEq] at haccept
    rw [List.length_append, List.length_append, ← haccept, length_encodeText, Sha1.length_digest]
    decide

/-- The request of a client that asks for nothing else. -/
theorem handshake_response_fits_key : ∃ response request,
    getHandshakeResponse ⟨Sha1.initial, 0, 0, 0, fun _ ↦ 0, false, 0⟩
        (chars "Sec-WebSocket-Key: dGhlIHNhbXBsZSBub25jZQ==\r\n\r\n") = some (response, request) ∧
      response.length + 1 = 130 ∧ request.length = 47 := by
  obtain ⟨r, htext⟩ : ∃ r : OpeningRequest,
      r.text = chars "Sec-WebSocket-Key: dGhlIHNhbXBsZSBub25jZQ==\r\n\r\n" :=
    ⟨⟨[], chars "dGhlIHNhbXBsZSBub25jZQ==", [], by decide, by decide, by decide, by decide⟩,
      by decide⟩
  obtain ⟨front, hresponse, -⟩ :=
    r.getHandshakeResponse_text ⟨Sha1.initial, 0, 0, 0, fun _ ↦ 0, false, 0⟩ []
  rw [List.append_nil, htext] at hresponse
  exact ⟨_, _, hresponse, handshake_response_fits hresponse⟩

variable {env : WsEnv} {fuel : ℕ}

/-- The handshake, if the request has an end and a key. -/
theorem doHandshake_of_some {chunks : List (List Byte)} {p : ℕ} {ctx : SHA1Context}
    {response request : List Byte}
    (hp : strstr (chars "\r\n\r\n")
      ((recv (messageLength - 1) chunks).1.takeWhile (· ≠ 0)) = some p)
    (hresponse : getHandshakeResponse ctx (recv (messageLength - 1) chunks).1 =
      some (response, request)) (curPos_le : p + 4 ≤ request.length) :
    doHandshake env ctx chunks =
      if env.sends 0 then .ok { Receiver.connected
        ⟨request, p + 4, curPos_le, (recv (messageLength - 1) chunks).2⟩ with
          calls := [.send response] }
      else .error [.send response] := by
  rw [doHandshake]
  dsimp only
  split
  · rename_i hnone
    cases hnone.symm.trans hp
  · rename_i p' hsome
    cases hsome.symm.trans hp
    split
    · rename_i hnone
      cases hnone.symm.trans hresponse
    · rename_i response' request' hsome'
      cases hsome'.symm.trans hresponse
      rfl

/-- What is left after the first bytes of the buffer.  If that is nothing, `next_byte` goes to the
socket. -/
theorem Reader.input_of_append {reader : Reader} {front rest : List Byte}
    (hfrm : reader.frm = front ++ rest) (hpos : reader.curPos = front.length) (hne : front ≠ []) :
    reader.input = rest ++ stream reader.chunks := by
  have hfront : 0 < front.length := List.length_pos_iff.2 hne
  rw [Reader.input, hfrm, hpos, List.length_append, List.drop_left]
  split_ifs with hdone
  · have hrest : rest = [] := List.length_eq_zero_iff.1 (by omega)
    rw [hrest, List.nil_append]
  · rfl

/-- The handshake with a client that sends its request in one chunk, maybe with more.  What it has
sent too early is what is read first. -/
theorem doHandshake_text (env : WsEnv) (ctx : SHA1Context) (r : OpeningRequest)
    (hfit : r.text.length < messageLength) (early : List Byte) (chunks : List (List Byte)) :
    ∃ s, doHandshake env ctx ((r.text ++ early) :: chunks) =
        (if env.sends 0 then .ok s else .error [.send r.response]) ∧
      Ready s ∧ s.calls = [.send r.response] ∧ s.reader.input = early ++ stream chunks := by
  have hne : r.text ≠ [] := List.append_ne_nil_of_right_ne_nil _ (by decide)
  have hstream := stream_recv (by decide : 0 < messageLength - 1) ((r.text ++ early) :: chunks)
  rw [stream_cons (List.append_ne_nil_of_left_ne_nil hne _)] at hstream
  have hfrm : (recv (messageLength - 1) ((r.text ++ early) :: chunks)).1 =
      r.text ++ early.take (messageLength - 1 - r.text.length) := by
    rw [recv, List.take_append, List.take_of_length_le (by omega)]
  generalize early.take (messageLength - 1 - r.text.length) = read at hfrm
  obtain ⟨p, hp, hlast⟩ := strstr_joinLines r.isLine
    (List.append_ne_nil_of_right_ne_nil _ (List.cons_ne_nil _ _)) (read.takeWhile (· ≠ 0))
  have hcut : (r.text ++ read).takeWhile (· ≠ 0) =
      joinLines r.lines ++ (chars "\r\n" ++ read.takeWhile (· ≠ 0)) := by
    rw [List.takeWhile_append_of_pos fun c hc ↦ by simpa using r.text_ne_zero c hc,
      OpeningRequest.text, List.append_assoc]
  obtain ⟨front, hresponse, hfront⟩ := r.getHandshakeResponse_text ctx read
  rw [← hcut, ← hfrm] at hp
  rw [← hfrm] at hresponse
  have hpos : p + 4 = front.length := hlast.trans hfront.symm
  have hle : p + 4 ≤ (front ++ read).length := by
    rw [hpos, List.length_append]
    exact Nat.le_add_right _ _
  have hready := ready_connected ⟨front ++ read, p + 4, hle,
    (recv (messageLength - 1) ((r.text ++ early) :: chunks)).2⟩
  refine ⟨_, doHandshake_of_some hp hresponse hle, ⟨hready.error, hready.state, hready.ctrl⟩, rfl,
    ?_⟩
  rw [hfrm, if_neg (List.append_ne_nil_of_left_ne_nil hne _), List.append_assoc, List.append_assoc,
    List.append_cancel_left_eq] at hstream
  exact (Reader.input_of_append rfl hpos (List.length_pos_iff.1 (by omega))).trans hstream.symm

/-- **A connection from its first byte on**: the server accepts the client, and then it has the
conversation over the frames that come after the request, the first of which may have come with
it. -/
theorem handshake_accepts (henv : env.Roomy) (ctx : SHA1Context) (r : OpeningRequest)
    (hfit : r.text.length < messageLength) (early : List Byte) (chunks : List (List Byte))
    (hwrap : NoWrap (early ++ stream chunks))
    (hfuel : (frames (fun _ ↦ true) (early ++ stream chunks)).length + 1 < fuel) :
    wsEstablishconnection env ctx fuel ((r.text ++ early) :: chunks) =
      some (if env.sends 0 then conversation env.sends none [.send r.response]
          (frames (fun _ ↦ true) (early ++ stream chunks))
        else [.send r.response]) := by
  obtain ⟨s, hsome, hs, hcalls, hinput⟩ := doHandshake_text env ctx r hfit early chunks
  rw [← hinput] at hwrap hfuel ⊢
  rw [wsEstablishconnection, hsome]
  split_ifs
  · obtain ⟨s', hs', hcompletes⟩ := establishConnection_frames henv hs hwrap hfuel
    have hconversation := hcompletes.calls
    rw [hcalls] at hconversation
    simp only [hs', Option.map_some, hconversation]
  · rfl

/-- A client that does not wait: its close frame comes with the request. -/
theorem handshake_accepts_close :
    wsEstablishconnection ⟨fun _ ↦ true, fun _ ↦ true⟩ ⟨Sha1.initial, 0, 0, 0, fun _ ↦ 0, false, 0⟩
        3 [chars "GET / HTTP/1.1\r\nSec-WebSocket-Key: dGhlIHNhbXBsZSBub25jZQ==\r\n\r\n" ++
          [0x88, 0x80, 0x0, 0x0, 0x0, 0x0]] =
      some [.send (wsHsAccept ++ chars "s3pPLMBiTxaQ9kYGzzhZRbK+xOo=\r\n\r\n"),
        .send [0x88, 0x0], .onclose] := by
  obtain ⟨r, htext, hresponse⟩ : ∃ r : OpeningRequest,
      r.text = chars "GET / HTTP/1.1\r\nSec-WebSocket-Key: dGhlIHNhbXBsZSBub25jZQ==\r\n\r\n" ∧
      r.response = wsHsAccept ++ chars "s3pPLMBiTxaQ9kYGzzhZRbK+xOo=\r\n\r\n" :=
    ⟨⟨[chars "GET / HTTP/1.1"], chars "dGhlIHNhbXBsZSBub25jZQ==", [], by decide, by decide,
      by decide, by decide⟩, by decide, by decide +kernel⟩
  have hinput : [0x88, 0x80, 0x0, 0x0, 0x0, 0x0] ++ stream [] =
      encodeAll [(some [0x0, 0x0, 0x0, 0x0], ⟨true, 0, 0x8, 0, []⟩)] := rfl
  obtain ⟨hframes, hwrap⟩ := frames_of_client (by decide) hinput
  have hcalls := @handshake_accepts ⟨fun _ ↦ true, fun _ ↦ true⟩ 3 (fun _ _ _ ↦ rfl)
    ⟨Sha1.initial, 0, 0, 0, fun _ ↦ 0, false, 0⟩ r (by rw [htext]; decide)
    [0x88, 0x80, 0x0, 0x0, 0x0, 0x0] [] hwrap (by rw [hframes]; decide)
  rw [htext, hframes, hresponse] at hcalls
  exact hcalls

end GameBloat
