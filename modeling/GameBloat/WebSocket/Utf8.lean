import GameBloat.Library.Unicode
import GameBloat.Machine

/-!
# The UTF-8 validator

wsServer checks the text a client sends with a table-driven automaton, `utf8.c`.  State 0 is
between characters, state 1 is a dead end, and each of the states from 2 to 8 waits for
continuation bytes, the first of them in a range of its own (`pending`).

`isUtf8Len_iff` says that the automaton accepts the encodings of Unicode text and nothing else,
and `fragmentsState_iff` that the dead end is reached as soon as, and only if, no continuation
could make text of what there is.  That is what the receiver needs: it checks a message fragment
by fragment, and drops it at the first dead end.

The table has 400 numbers and no explanation.  A byte has one of twelve types, and a transition
depends on the state and the type only.  So the table is looked at in two small ways, and then no
more: `decode_zero` is about all the bytes at the beginning of a character, and
`nextState_pending` about all the states in a character, where the ranges are made up of whole
types (`pending_range`).  From there on the automaton is `lead` and `pending`, with the bounds
that are in the standard: no surrogates after 0xED, nothing above U+10FFFF after 0xF4, no form
that is too long after 0xE0 and 0xF0.

The two directions are different.

* **What is encoded is accepted.**  The decoder is run over the bytes of a character, with the
  code point in it: `foldl_decode_utf8` says more than acceptance, it says that the code point is
  the character again.  The cases are the four lengths.
* **What is accepted is encoded.**  `uncons_of_accepts` takes the first byte of an accepted string
  and the bytes that it asks for, and finds the character of which they are the encoding.  The
  rest is accepted, and is shorter.
* **Fragments.**  A state that is not the dead end can be brought to acceptance by a few bytes,
  `completion`; hence a string is the beginning of text unless it has reached the dead end
  (`rejects_iff`).
-/

set_option autoImplicit false

namespace GameBloat

open Unicode

/-- `UTF8_ACCEPT`. -/
def utf8Accept : ℕ := 0

/-- `UTF8_REJECT`. -/
def utf8Reject : ℕ := 1

/-- `utf8d`: the types of the bytes, and from 256 on the transitions, 16 for each state. -/
def utf8d : List ℕ := [
  0, 0, 0, 0, 0, 0, 0, 0, 0, 0, 0, 0, 0, 0, 0, 0,
  0, 0, 0, 0, 0, 0, 0, 0, 0, 0, 0, 0, 0, 0, 0, 0, -- 00..1f
  0, 0, 0, 0, 0, 0, 0, 0, 0, 0, 0, 0, 0, 0, 0, 0,
  0, 0, 0, 0, 0, 0, 0, 0, 0, 0, 0, 0, 0, 0, 0, 0, -- 20..3f
  0, 0, 0, 0, 0, 0, 0, 0, 0, 0, 0, 0, 0, 0, 0, 0,
  0, 0, 0, 0, 0, 0, 0, 0, 0, 0, 0, 0, 0, 0, 0, 0, -- 40..5f
  0, 0, 0, 0, 0, 0, 0, 0, 0, 0, 0, 0, 0, 0, 0, 0,
  0, 0, 0, 0, 0, 0, 0, 0, 0, 0, 0, 0, 0, 0, 0, 0, -- 60..7f
  1, 1, 1, 1, 1, 1, 1, 1, 1, 1, 1, 1, 1, 1, 1, 1,
  9, 9, 9, 9, 9, 9, 9, 9, 9, 9, 9, 9, 9, 9, 9, 9, -- 80..9f
  7, 7, 7, 7, 7, 7, 7, 7, 7, 7, 7, 7, 7, 7, 7, 7,
  7, 7, 7, 7, 7, 7, 7, 7, 7, 7, 7, 7, 7, 7, 7, 7, -- a0..bf
  8, 8, 2, 2, 2, 2, 2, 2, 2, 2, 2, 2, 2, 2, 2, 2,
  2, 2, 2, 2, 2, 2, 2, 2, 2, 2, 2, 2, 2, 2, 2, 2, -- c0..df
  0xa, 0x3, 0x3, 0x3, 0x3, 0x3, 0x3, 0x3, 0x3, 0x3, 0x3, 0x3, 0x3, 0x4, 0x3, 0x3, -- e0..ef
  0xb, 0x6, 0x6, 0x6, 0x5, 0x8, 0x8, 0x8, 0x8, 0x8, 0x8, 0x8, 0x8, 0x8, 0x8, 0x8, -- f0..ff
  0x0, 0x1, 0x2, 0x3, 0x5, 0x8, 0x7, 0x1, 0x1, 0x1, 0x4, 0x6, 0x1, 0x1, 0x1, 0x1, -- s0..s0
  1, 1, 1, 1, 1, 1, 1, 1, 1, 1, 1, 1, 1, 1, 1, 1,
  1, 0, 1, 1, 1, 1, 1, 0, 1, 0, 1, 1, 1, 1, 1, 1, -- s1..s2
  1, 2, 1, 1, 1, 1, 1, 2, 1, 2, 1, 1, 1, 1, 1, 1,
  1, 1, 1, 1, 1, 1, 1, 2, 1, 1, 1, 1, 1, 1, 1, 1, -- s3..s4
  1, 2, 1, 1, 1, 1, 1, 1, 1, 2, 1, 1, 1, 1, 1, 1,
  1, 1, 1, 1, 1, 1, 1, 3, 1, 3, 1, 1, 1, 1, 1, 1, -- s5..s6
  1, 3, 1, 1, 1, 1, 1, 3, 1, 3, 1, 1, 1, 1, 1, 1,
  1, 3, 1, 1, 1, 1, 1, 1, 1, 1, 1, 1, 1, 1, 1, 1] -- s7..s8

/-- The type of a byte. -/
def byteType (byte : Byte) : ℕ := utf8d.getD byte.toNat 0

/-- The transition of a state. -/
def nextState (state : ℕ) (byte : Byte) : ℕ := utf8d.getD (256 + state * 16 + byteType byte) 0

/-- `decode`, on the state and the code point.  Between characters the type of the byte says how
many of its bits belong to the code point. -/
def decode (x : ℕ × BitVec 32) (byte : Byte) : ℕ × BitVec 32 :=
  let codep := if x.1 ≠ utf8Accept then (byte.setWidth 32 &&& (0x3F : BitVec 32)) ||| (x.2 <<< 6)
    else ((0xFF : BitVec 32) >>> byteType byte) &&& byte.setWidth 32
  (nextState x.1 byte, codep)

/-- `is_utf8_len_state`.  The code point is not initialised in the source, and it has no part in
the result. -/
def isUtf8LenState (s : List Byte) (state : ℕ) (codepoint : BitVec 32 := 0) : ℕ :=
  (s.foldl decode (state, codepoint)).1

/-- `is_utf8_len`. -/
def isUtf8Len (s : List Byte) : Bool := isUtf8LenState s 0 = utf8Accept

/-! ## The automaton -/

/-- The range of the byte that the state waits for, and the state after it.  The states that wait
for none have an empty range. -/
def pending : ℕ → ℕ × ℕ × ℕ
  | 2 => (0x80, 0xBF, 0)
  | 3 => (0x80, 0xBF, 2)
  | 4 => (0xA0, 0xBF, 2)
  | 5 => (0x80, 0x9F, 2)
  | 6 => (0x90, 0xBF, 3)
  | 7 => (0x80, 0xBF, 3)
  | 8 => (0x80, 0x8F, 3)
  | _ => (1, 0, 1)

/-- The state after the first byte of a character. -/
def lead (byte : ℕ) : ℕ :=
  if byte < 0x80 then 0
  else if byte < 0xC2 then 1
  else if byte < 0xE0 then 2
  else if byte = 0xE0 then 4
  else if byte = 0xED then 5
  else if byte < 0xF0 then 3
  else if byte = 0xF0 then 6
  else if byte < 0xF4 then 7
  else if byte = 0xF4 then 8
  else 1

/-- What the first byte of a character adds to its bits, by the state after it. -/
def leadOffset : ℕ → ℕ
  | 0 => 0
  | 2 => 0xC0
  | 3 | 4 | 5 => 0xE0
  | _ => 0xF0

/-- All the first bytes, by a look at the table. -/
theorem decode_zero (byte : Byte) :
    nextState 0 byte = lead byte.toNat ∧ (lead byte.toNat ≠ 1 →
      ((0xFF : BitVec 32) >>> byteType byte) &&& byte.setWidth 32 =
        BitVec.ofNat 32 (byte.toNat - leadOffset (lead byte.toNat))) := by
  revert byte
  decide +kernel

/-- The continuation bytes are of three types, and no other bytes are. -/
theorem byteType_cases (byte : Byte) :
    byteType byte = 1 ∧ 0x80 ≤ byte.toNat ∧ byte.toNat ≤ 0x8F ∨
    byteType byte = 9 ∧ 0x90 ≤ byte.toNat ∧ byte.toNat ≤ 0x9F ∨
    byteType byte = 7 ∧ 0xA0 ≤ byte.toNat ∧ byte.toNat ≤ 0xBF ∨
    (byteType byte < 12 ∧ byteType byte ≠ 1 ∧ byteType byte ≠ 9 ∧ byteType byte ≠ 7) ∧
      (byte.toNat < 0x80 ∨ 0xC0 ≤ byte.toNat) := by
  revert byte
  decide +kernel

/-- There is no way out of the dead end. -/
theorem nextState_one (byte : Byte) : nextState 1 byte = 1 := by
  have hrow : ∀ type < 12, utf8d.getD (256 + 1 * 16 + type) 0 = 1 := by decide +kernel
  have htype : byteType byte < 12 := by
    have := byteType_cases byte
    omega
  exact hrow _ htype

/-- The state goes on with the types of bytes that lie in its range. -/
def Continues (state type : ℕ) : Prop :=
  type = 1 ∧ (pending state).1 ≤ 0x80 ∧ 0x8F ≤ (pending state).2.1 ∨
  type = 9 ∧ (pending state).1 ≤ 0x90 ∧ 0x9F ≤ (pending state).2.1 ∨
  type = 7 ∧ (pending state).1 ≤ 0xA0 ∧ 0xBF ≤ (pending state).2.1

instance (state type : ℕ) : Decidable (Continues state type) :=
  inferInstanceAs (Decidable (_ ∨ _))

/-- The range of a state is made up of whole types. -/
theorem pending_range : ∀ state ∈ List.range' 2 7,
    ((pending state).1 = 0x80 ∨ (pending state).1 = 0x90 ∨ (pending state).1 = 0xA0) ∧
      ((pending state).2.1 = 0x8F ∨ (pending state).2.1 = 0x9F ∨ (pending state).2.1 = 0xBF) := by
  decide

/-- All the other bytes of a character. -/
theorem nextState_pending {state : ℕ} (hlo : 2 ≤ state) (hhi : state ≤ 8) (byte : Byte) :
    nextState state byte =
      if (pending state).1 ≤ byte.toNat ∧ byte.toNat ≤ (pending state).2.1
      then (pending state).2.2 else 1 := by
  have hrow : ∀ state ∈ List.range' 2 7, ∀ type < 12, utf8d.getD (256 + state * 16 + type) 0 =
      if Continues state type then (pending state).2.2 else 1 := by decide +kernel
  have hstate : state ∈ List.range' 2 7 := by
    rw [List.mem_range'_1]
    omega
  have hrange := pending_range state hstate
  have htype := byteType_cases byte
  rw [nextState, hrow state hstate _ (by omega)]
  refine if_congr ?_ rfl rfl
  rw [Continues]
  omega

/-- The code point is not looked at: the state is a fold of the transitions alone. -/
theorem isUtf8LenState_eq (s : List Byte) (state : ℕ) (codepoint : BitVec 32) :
    isUtf8LenState s state codepoint = s.foldl nextState state := by
  induction s generalizing state codepoint with
  | nil => rfl
  | cons byte s ih => exact ih _ _

/-- What the validator says, in these terms. -/
theorem isUtf8Len_eq_true_iff (s : List Byte) :
    isUtf8Len s = true ↔ s.foldl nextState 0 = 0 := by
  rw [isUtf8Len, decide_eq_true_iff, isUtf8LenState_eq, utf8Accept]

/-- No string leads out of the dead end. -/
theorem foldl_nextState_one (s : List Byte) : s.foldl nextState 1 = 1 := by
  induction s with
  | nil => rfl
  | cons byte s ih => rw [List.foldl_cons, nextState_one, ih]

/-- Between a state and the end of the text lies the byte it waits for. -/
theorem pending_of_accepts {state : ℕ} (hlo : 2 ≤ state) (hhi : state ≤ 8) {s : List Byte}
    (h : s.foldl nextState state = 0) :
    ∃ byte rest, s = byte :: rest ∧ (pending state).1 ≤ byte.toNat ∧
      byte.toNat ≤ (pending state).2.1 ∧ rest.foldl nextState (pending state).2.2 = 0 := by
  cases s with
  | nil =>
    rw [List.foldl_nil] at h
    omega
  | cons byte rest =>
    rw [List.foldl_cons, nextState_pending hlo hhi] at h
    split at h
    · exact ⟨byte, rest, rfl, by omega, by omega, h⟩
    · rw [foldl_nextState_one] at h
      omega

/-- The state after the first byte, if it is no dead end, says how many bytes there are to come. -/
theorem lead_cases (byte : ℕ) :
    lead byte = 0 ∧ byte < 0x80 ∨
    lead byte = 1 ∧ (0x80 ≤ byte ∧ byte < 0xC2 ∨ 0xF4 < byte) ∨
    lead byte = 2 ∧ 0xC2 ≤ byte ∧ byte ≤ 0xDF ∨
    lead byte = 3 ∧ 0xE1 ≤ byte ∧ byte ≤ 0xEF ∧ byte ≠ 0xED ∨
    lead byte = 4 ∧ byte = 0xE0 ∨ lead byte = 5 ∧ byte = 0xED ∨
    lead byte = 6 ∧ byte = 0xF0 ∨ lead byte = 7 ∧ 0xF1 ≤ byte ∧ byte ≤ 0xF3 ∨
    lead byte = 8 ∧ byte = 0xF4 := by
  rw [lead]
  split_ifs <;> omega

/-- After the first of three bytes. -/
theorem pending_three : ∀ state ∈ [3, 4, 5], 2 ≤ state ∧ state ≤ 8 ∧ (pending state).2.2 = 2 ∧
    leadOffset state = 0xE0 ∧
    ((pending state).1 = 0xA0 ∧ state = 4 ∨ (pending state).1 = 0x80 ∧ state ≠ 4) ∧
    ((pending state).2.1 = 0x9F ∧ state = 5 ∨ (pending state).2.1 = 0xBF ∧ state ≠ 5) := by
  decide

/-- After the first of four. -/
theorem pending_four : ∀ state ∈ [6, 7, 8], 2 ≤ state ∧ state ≤ 8 ∧ (pending state).2.2 = 3 ∧
    leadOffset state = 0xF0 ∧
    ((pending state).1 = 0x90 ∧ state = 6 ∨ (pending state).1 = 0x80 ∧ state ≠ 6) ∧
    ((pending state).2.1 = 0x8F ∧ state = 8 ∨ (pending state).2.1 = 0xBF ∧ state ≠ 8) := by
  decide

/-- A character of three bytes, from the state after the first of them.  The two exceptions, forms
that are too long and surrogates, have states of their own. -/
theorem accepts_three {a : Byte} {s : List Byte} {state : ℕ} (hstate : state ∈ [3, 4, 5])
    (ha : 0xE0 ≤ a.toNat) (ha' : a.toNat ≤ 0xEF) (hfew : a.toNat = 0xE0 → state = 4)
    (hsurrogate : a.toNat = 0xED → state = 5) (h : s.foldl nextState state = 0) :
    ∃ c rest, IsScalar c ∧ a :: s = utf8 c ++ rest ∧ rest.foldl nextState 0 = 0 := by
  obtain ⟨hlo, hhi, hnext, -, hmin, hmax⟩ := pending_three state hstate
  obtain ⟨b, s, rfl, hb, hb', h⟩ := pending_of_accepts hlo hhi h
  rw [hnext] at h
  obtain ⟨c, rest, rfl, hc, hc', h⟩ := pending_of_accepts (by decide) (by decide) h
  obtain ⟨n, hn, hbytes⟩ := exists_utf8_three (a := a) (b := b) (c := c) ha ha' (by omega)
    (by omega) (by omega) (by omega) hc hc'
  exact ⟨n, rest, hn, by rw [hbytes]; rfl, h⟩

/-- And one of four.  The exceptions here are forms that are too long and numbers that are too
large. -/
theorem accepts_four {a : Byte} {s : List Byte} {state : ℕ} (hstate : state ∈ [6, 7, 8])
    (ha : 0xF0 ≤ a.toNat) (ha' : a.toNat ≤ 0xF4) (hfew : a.toNat = 0xF0 → state = 6)
    (hmany : a.toNat = 0xF4 → state = 8) (h : s.foldl nextState state = 0) :
    ∃ c rest, IsScalar c ∧ a :: s = utf8 c ++ rest ∧ rest.foldl nextState 0 = 0 := by
  obtain ⟨hlo, hhi, hnext, -, hmin, hmax⟩ := pending_four state hstate
  obtain ⟨b, s, rfl, hb, hb', h⟩ := pending_of_accepts hlo hhi h
  rw [hnext] at h
  obtain ⟨c, s, rfl, hc, hc', h⟩ := pending_of_accepts (by decide) (by decide) h
  obtain ⟨d, rest, rfl, hd, hd', h⟩ := pending_of_accepts (by decide) (by decide) h
  obtain ⟨n, hn, hbytes⟩ := exists_utf8_four (a := a) (b := b) (c := c) (d := d) ha ha' (by omega)
    (by omega) (by omega) (by omega) hc hc' hd hd'
  exact ⟨n, rest, hn, by rw [hbytes]; rfl, h⟩

/-- What is accepted is a character and more that is accepted. -/
theorem uncons_of_accepts {a : Byte} {s : List Byte} (h : (a :: s).foldl nextState 0 = 0) :
    ∃ c rest, IsScalar c ∧ a :: s = utf8 c ++ rest ∧ rest.foldl nextState 0 = 0 := by
  rw [List.foldl_cons, (decode_zero a).1] at h
  rcases lead_cases a.toNat with ⟨hl, ha⟩ | ⟨hl, -⟩ | ⟨hl, ha⟩ | ⟨hl, ha⟩ | ⟨hl, ha⟩ | ⟨hl, ha⟩ |
    ⟨hl, ha⟩ | ⟨hl, ha⟩ | ⟨hl, ha⟩ <;> rw [hl] at h
  · refine ⟨a.toNat, s, .inl (by omega), ?_, h⟩
    rw [utf8_one ha, BitVec.ofNat_toNat, BitVec.setWidth_eq]
    rfl
  · rw [foldl_nextState_one] at h
    exact absurd h (by decide)
  · obtain ⟨b, rest, rfl, hb, hb', h⟩ := pending_of_accepts (by decide) (by decide) h
    obtain ⟨n, hn, hbytes⟩ := exists_utf8_two ha.1 ha.2 hb hb'
    exact ⟨n, rest, hn, by rw [hbytes]; rfl, h⟩
  · exact accepts_three (by decide) (by omega) (by omega) (by omega) (by omega) h
  · exact accepts_three (by decide) (by omega) (by omega) (by omega) (by omega) h
  · exact accepts_three (by decide) (by omega) (by omega) (by omega) (by omega) h
  · exact accepts_four (by decide) (by omega) (by omega) (by omega) (by omega) h
  · exact accepts_four (by decide) (by omega) (by omega) (by omega) (by omega) h
  · exact accepts_four (by decide) (by omega) (by omega) (by omega) (by omega) h

/-! ## Characters -/

/-- A continuation byte adds six bits to the code point. -/
theorem decode_continuation {state n : ℕ} (hlo : 2 ≤ state) (hhi : state ≤ 8) (byte : Byte)
    (hbyte : (pending state).1 ≤ byte.toNat) (hbyte' : byte.toNat ≤ (pending state).2.1)
    (hn : n < 0x4000000) :
    decode (state, BitVec.ofNat 32 n) byte =
      ((pending state).2.2, BitVec.ofNat 32 (64 * n + byte.toNat % 64)) := by
  have hbits : ∀ byte : Byte, byte.setWidth 32 &&& (0x3F : BitVec 32) =
      BitVec.ofNat 32 (byte.toNat % 64) := by
    decide
  have hstate : state ≠ utf8Accept := by
    rw [utf8Accept]
    omega
  have hlt : byte.toNat % 64 < 2 ^ 6 := Nat.mod_lt _ (by decide)
  refine Prod.ext ?_ ?_
  · exact (nextState_pending hlo hhi byte).trans (if_pos ⟨hbyte, hbyte'⟩)
  · refine (if_pos hstate).trans (BitVec.eq_of_toNat_eq ?_)
    show (byte.setWidth 32 &&& (0x3F : BitVec 32) ||| BitVec.ofNat 32 n <<< 6).toNat =
      (BitVec.ofNat 32 (64 * n + byte.toNat % 64)).toNat
    have hor := Nat.shiftLeft_add_eq_or_of_lt hlt n
    rw [Nat.shiftLeft_eq] at hor
    rw [hbits, BitVec.or_comm, BitVec.toNat_or, BitVec.toNat_shiftLeft, BitVec.toNat_ofNat,
      BitVec.toNat_ofNat, BitVec.toNat_ofNat, Nat.shiftLeft_eq, Nat.mod_eq_of_lt (by omega : n < _),
      Nat.mod_eq_of_lt (by omega : n * 2 ^ 6 < _), Nat.mod_eq_of_lt (by omega : byte.toNat % 64 < _),
      ← hor]
    omega

/-- The first byte of a character starts a code point. -/
theorem decode_lead {byte : Byte} {state : ℕ} (h : lead byte.toNat = state) (hstate : state ≠ 1)
    (codepoint : BitVec 32) :
    decode (0, codepoint) byte = (state, BitVec.ofNat 32 (byte.toNat - leadOffset state)) := by
  obtain ⟨hnext, hbits⟩ := decode_zero byte
  rw [h] at hnext hbits
  exact Prod.ext hnext (hbits hstate)

/-- A number that is a byte. -/
theorem toNat_byte {n : ℕ} (h : n < 256) : (BitVec.ofNat 8 n).toNat = n := by
  rw [BitVec.toNat_ofNat, Nat.mod_eq_of_lt h]

/-- The last continuation byte. -/
theorem decode_last {n k : ℕ} (hk : k < 64) (hn : n < 0x4000000) :
    decode (2, BitVec.ofNat 32 n) (BitVec.ofNat 8 (0x80 + k)) =
      (0, BitVec.ofNat 32 (64 * n + k)) := by
  have hbyte : (BitVec.ofNat 8 (0x80 + k)).toNat = 0x80 + k := toNat_byte (by omega)
  have hdecode := decode_continuation (by decide : 2 ≤ 2) (by decide) (BitVec.ofNat 8 (0x80 + k))
    (by simp only [hbyte, pending]; omega)
    (by simp only [hbyte, pending]; omega) hn
  rw [hdecode, hbyte]
  exact congrArg (fun k ↦ (0, BitVec.ofNat 32 (64 * n + k))) (by omega)

/-- **The decoder decodes**: over the encoding of a character it comes back to the state between
characters, with the code point of the character. -/
theorem foldl_decode_utf8 {c : ℕ} (hc : IsScalar c) (codepoint : BitVec 32) :
    (utf8 c).foldl decode (0, codepoint) = (0, BitVec.ofNat 32 c) := by
  rw [IsScalar] at hc
  rcases Nat.lt_or_ge c 0x80 with h | h
  · have hbyte : (BitVec.ofNat 8 c).toNat = c := toNat_byte (by omega)
    have hstate : lead (BitVec.ofNat 8 c).toNat = 0 := by rw [hbyte, lead, if_pos h]
    rw [utf8_one h, List.foldl_cons, decode_lead hstate (by decide), hbyte]
    rfl
  rcases Nat.lt_or_ge c 0x800 with h' | h'
  · have hbyte : (BitVec.ofNat 8 (0xC0 + c / 64)).toNat = 0xC0 + c / 64 := toNat_byte (by omega)
    have hstate : lead (BitVec.ofNat 8 (0xC0 + c / 64)).toNat = 2 := by
      have := lead_cases (0xC0 + c / 64)
      rw [hbyte]
      omega
    have hsum : 64 * (0xC0 + c / 64 - leadOffset 2) + c % 64 = c := by
      rw [leadOffset]
      omega
    rw [utf8_two h h', List.foldl_cons, decode_lead hstate (by decide), hbyte, List.foldl_cons,
      decode_last (Nat.mod_lt _ (by decide)) (by omega), hsum]
    rfl
  rcases Nat.lt_or_ge c 0x10000 with h'' | h''
  · have hbyte : (BitVec.ofNat 8 (0xE0 + c / 4096)).toNat = 0xE0 + c / 4096 :=
      toNat_byte (by omega)
    have hsecond : (BitVec.ofNat 8 (0x80 + c / 64 % 64)).toNat = 0x80 + c / 64 % 64 :=
      toNat_byte (by omega)
    obtain ⟨state, hstate, hmem, hfew, hsurrogate⟩ : ∃ state, lead (0xE0 + c / 4096) = state ∧
        state ∈ [3, 4, 5] ∧ (state = 4 → c / 4096 = 0) ∧ (state = 5 → c / 4096 = 13) := by
      have := lead_cases (0xE0 + c / 4096)
      refine ⟨_, rfl, ?_, by omega, by omega⟩
      simp only [List.mem_cons, List.not_mem_nil, or_false]
      omega
    obtain ⟨hlo, hhi, hnext, hoffset, hmin, hmax⟩ := pending_three state hmem
    have hmiddle := decode_continuation hlo hhi (BitVec.ofNat 8 (0x80 + c / 64 % 64))
      (by omega) (by omega) (by omega : 0xE0 + c / 4096 - leadOffset state < 0x4000000)
    have hsum : 64 * (64 * (0xE0 + c / 4096 - leadOffset state) + (0x80 + c / 64 % 64) % 64) +
        c % 64 = c := by omega
    rw [utf8_three h' h'', List.foldl_cons, decode_lead (hbyte ▸ hstate) (by omega), hbyte,
      List.foldl_cons, hmiddle, hnext, hsecond, List.foldl_cons,
      decode_last (Nat.mod_lt _ (by decide)) (by omega), hsum]
    rfl
  · have hbyte : (BitVec.ofNat 8 (0xF0 + c / 262144)).toNat = 0xF0 + c / 262144 :=
      toNat_byte (by omega)
    have hsecond : (BitVec.ofNat 8 (0x80 + c / 4096 % 64)).toNat = 0x80 + c / 4096 % 64 :=
      toNat_byte (by omega)
    have hthird : (BitVec.ofNat 8 (0x80 + c / 64 % 64)).toNat = 0x80 + c / 64 % 64 :=
      toNat_byte (by omega)
    obtain ⟨state, hstate, hmem, hfew, hmany⟩ : ∃ state, lead (0xF0 + c / 262144) = state ∧
        state ∈ [6, 7, 8] ∧ (state = 6 → c / 262144 = 0) ∧ (state = 8 → c / 262144 = 4) := by
      have := lead_cases (0xF0 + c / 262144)
      refine ⟨_, rfl, ?_, by omega, by omega⟩
      simp only [List.mem_cons, List.not_mem_nil, or_false]
      omega
    obtain ⟨hlo, hhi, hnext, hoffset, hmin, hmax⟩ := pending_four state hmem
    have hmiddle := decode_continuation hlo hhi (BitVec.ofNat 8 (0x80 + c / 4096 % 64))
      (by omega) (by omega) (by omega : 0xF0 + c / 262144 - leadOffset state < 0x4000000)
    have hmiddle' := decode_continuation (by decide : 2 ≤ 3) (by decide)
      (BitVec.ofNat 8 (0x80 + c / 64 % 64)) (by simp only [hthird, pending]; omega)
      (by simp only [hthird, pending]; omega)
      (by omega : 64 * (0xF0 + c / 262144 - leadOffset state) + (0x80 + c / 4096 % 64) % 64 <
        0x4000000)
    have hsum : 64 * (64 * (64 * (0xF0 + c / 262144 - leadOffset state) +
        (0x80 + c / 4096 % 64) % 64) + (0x80 + c / 64 % 64) % 64) + c % 64 = c := by omega
    have hlast : (pending 3).2.2 = 2 := rfl
    rw [utf8_four h'', List.foldl_cons, decode_lead (hbyte ▸ hstate) (by omega), hbyte,
      List.foldl_cons, hmiddle, hnext, hsecond, List.foldl_cons, hmiddle', hlast, hthird,
      List.foldl_cons, decode_last (Nat.mod_lt _ (by decide)) (by omega), hsum]
    rfl

/-! ## Text -/

/-- The encoding of a character is accepted. -/
theorem accepts_utf8 {c : ℕ} (hc : IsScalar c) : (utf8 c).foldl nextState 0 = 0 := by
  rw [← isUtf8LenState_eq _ _ 0]
  exact congrArg Prod.fst (foldl_decode_utf8 hc 0)

/-- Acceptance is being UTF-8, by induction on the text in one direction and on the string in the
other. -/
theorem accepts_iff (s : List Byte) : s.foldl nextState 0 = 0 ↔ IsUtf8 s := by
  constructor
  · intro h
    induction hlength : s.length using Nat.strong_induction_on generalizing s with
    | _ length ih =>
      cases s with
      | nil => exact .nil
      | cons a s =>
        obtain ⟨c, rest, hc, heq, hrest⟩ := uncons_of_accepts h
        have hlt : rest.length < length := by
          have := utf8_length_pos c
          rw [← hlength, heq, List.length_append]
          omega
        rw [heq]
        exact (ih _ hlt rest hrest rfl).cons hc
  · rintro ⟨text, htext, rfl⟩
    induction text with
    | nil => rfl
    | cons c text ih =>
      rw [List.forall_mem_cons] at htext
      rw [List.flatMap_cons, List.foldl_append, accepts_utf8 htext.1, ih htext.2]

instance : DecidablePred IsUtf8 := fun s ↦ decidable_of_iff _ (accepts_iff s)

/-- **The validator accepts UTF-8 and nothing else**: no surrogates, nothing above U+10FFFF, no
character in more bytes than it needs, and no character that is cut off.  The text may have any
length, and what is compared with is the definition of the encoding and not another automaton. -/
theorem isUtf8Len_iff (s : List Byte) : isUtf8Len s = true ↔ IsUtf8 s := by
  rw [isUtf8Len_eq_true_iff, accepts_iff]

/-! ## Fragments -/

/-- No state is reached that is not in the table. -/
theorem foldl_nextState_le {state : ℕ} (h : state ≤ 8) (s : List Byte) :
    s.foldl nextState state ≤ 8 := by
  induction s generalizing state with
  | nil => exact h
  | cons byte s ih =>
    refine ih ?_
    rcases (by omega : state = 0 ∨ state = 1 ∨ 2 ≤ state) with rfl | rfl | hlo
    · have := lead_cases byte.toNat
      rw [(decode_zero byte).1]
      omega
    · rw [nextState_one]
      decide
    · have hnext : ∀ state ≤ 8, (pending state).2.2 ≤ 8 := by decide
      rw [nextState_pending hlo h]
      split_ifs
      exacts [hnext state h, by decide]

/-- Bytes that complete the character at hand. -/
def completion : ℕ → List Byte
  | 0 | 1 => []
  | 2 => [0x80]
  | 3 | 5 => [0x80, 0x80]
  | 4 => [0xA0, 0x80]
  | 6 => [0x90, 0x80, 0x80]
  | _ => [0x80, 0x80, 0x80]

/-- The bytes complete the character. -/
theorem foldl_completion : ∀ state ≤ 8, state ≠ 1 → (completion state).foldl nextState state = 0 := by
  decide +kernel

/-- The dead end is reached just if nothing that may follow makes text of the string. -/
theorem rejects_iff (s : List Byte) : s.foldl nextState 0 = 1 ↔ ¬IsUtf8Prefix s := by
  simp only [IsUtf8Prefix, ← accepts_iff, List.foldl_append]
  constructor
  · rintro h ⟨rest, hrest⟩
    rw [h, foldl_nextState_one] at hrest
    exact absurd hrest (by decide)
  · intro h
    by_contra hstate
    exact h ⟨_, foldl_completion _ (foldl_nextState_le (by decide) s) hstate⟩

instance : DecidablePred IsUtf8Prefix := fun s ↦
  decidable_of_iff (¬s.foldl nextState 0 = 1) (by rw [rejects_iff, Classical.not_not])

/-- The validator as it is run on the fragments of a message, each from the state that the one
before it ended in.  The code point is lost in between, and does no harm, as it has no part in the
state. -/
def fragmentsState (fragments : List (List Byte)) : ℕ :=
  fragments.foldl (fun state s ↦ isUtf8LenState s state) 0

/-- Where the fragments are cut does not matter. -/
theorem fragmentsState_eq (fragments : List (List Byte)) :
    fragmentsState fragments = fragments.flatten.foldl nextState 0 := by
  rw [fragmentsState, List.foldl_flatten]
  exact congrArg (fun f ↦ fragments.foldl f 0)
    (funext fun state ↦ funext fun s ↦ isUtf8LenState_eq s state 0)

/-- **Text can be checked as it comes in**: over the fragments of a message, wherever characters are
cut, the validator ends up accepting just if the message is UTF-8, and is in its dead end just if
nothing that may follow could make it so. -/
theorem fragmentsState_iff (fragments : List (List Byte)) :
    (fragmentsState fragments = utf8Accept ↔ IsUtf8 fragments.flatten) ∧
      (fragmentsState fragments = utf8Reject ↔ ∀ rest, ¬ IsUtf8 (fragments.flatten ++ rest)) := by
  rw [fragmentsState_eq, utf8Accept, utf8Reject, accepts_iff, rejects_iff, IsUtf8Prefix, not_exists]
  exact ⟨Iff.rfl, Iff.rfl⟩

end GameBloat
