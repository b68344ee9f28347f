import GameBloat.Library.Base64
import GameBloat.Machine
import Mathlib.Tactic.IntervalCases

/-!
# The text of the handshake

`base64.c` writes bytes as text, with a line feed after 72 characters and after the last line, and
reads such a text back.  Both functions allocate a buffer before they know what they will store
there.

The encoder takes the size of its buffer from the length of the data: four characters for three
bytes, and one line feed for 72 of them.  The size is worked out in 64 bits, where the product by
four may wrap round, and the one check against that is `olen < len`.  The decoder takes the size
from a first pass over the text, which counts the characters that belong to it; the second pass
stores three bytes for each four of them.  So there are two questions that have nothing to do with
the alphabet: whether the sizes are enough, and what is read back.

* **The encoder.**  `base64Lines_eq` says that the loop and what comes after it, taken together,
  store the text of the data with its line feeds.  The text of `Library.Base64` is written without
  lines, so that the breaking of lines is a function of its own, `breakLines`, and the induction
  carries the length of the line at hand, which is less than 72 and divisible by four.
* **The check.**  `encodedSize_lt_iff`: the comparison finds an overflow of the product exactly if
  there is one, as the other operations cannot overflow.  With `length_breakLines_lt` the text and
  its NUL fit (`base64_encode_fits`).
* **The decoder.**  Characters outside of the alphabet are skipped by both passes
  (`base64DecodeLoop_filter`), and the rest is taken in groups of four.  `base64DecodeLoop_length`
  is the invariant of the second pass, for texts of any kind; `base64_decode_fits` follows.
* **The round trip.**  `base64DecodeLoop_encodeText` follows the groups of three bytes, with the
  padding of the last one; then `base64_round_trip` has the line feeds and other foreign
  characters.
-/

set_option autoImplicit false

namespace GameBloat

open Base64

/-! ## The code -/

/-- `base64_table`. -/
def base64Table : List Byte :=
  "ABCDEFGHIJKLMNOPQRSTUVWXYZabcdefghijklmnopqrstuvwxyz0123456789+/".toList.map fun c ↦
    .ofNat 8 c.toNat

/-- `base64_table[i]`. -/
def base64Char (i : Byte) : Byte := base64Table.getD i.toNat 0

/-- A buffer with its size, the bytes that are stored there, and `out_len`.  The decoder may store
bytes that it does not return: a group with padding stores three of them, and the length is less. -/
structure Base64Buffer where
  size : ℕ
  stored : List Byte
  outLen : ℕ
  deriving DecidableEq

/-- What is returned. -/
def Base64Buffer.out (buffer : Base64Buffer) : List Byte := buffer.stored.take buffer.outLen

/-- `olen` in `base64_encode`, a `size_t`: the characters, the line feeds, and the NUL. -/
def encodedSize (len : BitVec 64) : BitVec 64 :=
  let olen := len * 4 / 3 + 4
  let olen := olen + olen / 72
  olen + 1

/-- The loop of `base64_encode`: what it has stored, `line_len`, and what is left.  It takes three
bytes at a time, and a line ends as soon as it has 72 characters. -/
def base64EncodeLoop : List Byte → List Byte → ℕ → List Byte × ℕ × List Byte
  | in0 :: in1 :: in2 :: bytes, out, lineLen =>
    let out := out ++ [base64Char (in0 >>> 2), base64Char ((in0 &&& 0x03) <<< 4 ||| in1 >>> 4),
      base64Char ((in1 &&& 0x0F) <<< 2 ||| in2 >>> 6), base64Char (in2 &&& 0x3F)]
    let lineLen := lineLen + 4
    if 72 ≤ lineLen then base64EncodeLoop bytes (out ++ [0x0A]) 0
    else base64EncodeLoop bytes out lineLen
  | bytes, out, lineLen => (out, lineLen, bytes)

/-- What is left after the loop of `base64_encode`, at most two bytes. -/
def base64EncodeRest (out : List Byte) (lineLen : ℕ) : List Byte → List Byte × ℕ
  | [] => (out, lineLen)
  | [in0] => (out ++ [base64Char (in0 >>> 2), base64Char ((in0 &&& 0x03) <<< 4), 0x3D, 0x3D],
      lineLen + 4)
  | in0 :: in1 :: _ => (out ++ [base64Char (in0 >>> 2),
      base64Char ((in0 &&& 0x03) <<< 4 ||| in1 >>> 4), base64Char ((in1 &&& 0x0F) <<< 2), 0x3D],
      lineLen + 4)

/-- What `base64_encode` has stored before the NUL. -/
def base64Lines (src out : List Byte) (lineLen : ℕ) : List Byte :=
  let (out, lineLen, bytes) := base64EncodeLoop src out lineLen
  let (out, lineLen) := base64EncodeRest out lineLen bytes
  if lineLen ≠ 0 then out ++ [0x0A] else out

/-- `base64_encode`. -/
def base64Encode (allocates : ℕ → Bool) (src : List Byte) : Option Base64Buffer :=
  let olen := encodedSize (.ofNat 64 src.length)
  if olen < .ofNat 64 src.length then none
  else if allocates olen.toNat then
    let out := base64Lines src [] 0
    some ⟨olen.toNat, out ++ [0], out.length⟩
  else none

/-- The array `dtable` of `base64_decode`. -/
def dtable : Byte → Byte :=
  Function.update ((List.range 64).foldl (fun dtable i ↦
    Function.update dtable (base64Table.getD i 0) (.ofNat 8 i)) fun _ ↦ 0x80) 0x3D 0

/-- The second loop of `base64_decode`, with what there is of `block`; false is `NULL`.  A
character that is not in the table is skipped.  The padding counts as a character of value zero,
and the group in which there is some is the last. -/
def base64DecodeLoop : List Byte → List Byte → ℕ → List Byte → Option (List Byte × ℕ)
  | [], _, _, out => some (out, out.length)
  | c :: src, block, pad, out =>
    let tmp := dtable c
    if tmp = 0x80 then base64DecodeLoop src block pad out
    else
      let pad := if c = 0x3D then pad + 1 else pad
      match block ++ [tmp] with
      | [block0, block1, block2, block3] =>
        let out := out ++ [block0 <<< 2 ||| block1 >>> 4, block1 <<< 4 ||| block2 >>> 2,
          block2 <<< 6 ||| block3]
        if pad = 0 then base64DecodeLoop src [] pad out
        else if pad = 1 then some (out, out.length - 1)
        else if pad = 2 then some (out, out.length - 2)
        else none
      | block => base64DecodeLoop src block pad out

/-- `base64_decode`. -/
def base64Decode (allocates : ℕ → Bool) (src : List Byte) : Option Base64Buffer :=
  let count := src.countP (dtable · ≠ 0x80)
  if count = 0 ∨ count % 4 ≠ 0 then none
  else
    let olen := count / 4 * 3
    if allocates olen then
      (base64DecodeLoop src [] 0 []).map fun p ↦ ⟨olen, p.1, p.2⟩
    else none

/-! ## Six bits -/

/-- The table of the source is the alphabet of the format. -/
theorem base64Table_eq : base64Table = alphabet := by decide

/-- The index of each of the four characters. -/
theorem groups_eq (a b c : Byte) :
    (groups a b c).map (BitVec.setWidth 8) = [a >>> 2, (a &&& 0x03) <<< 4 ||| b >>> 4,
      (b &&& 0x0F) <<< 2 ||| c >>> 6, c &&& 0x3F] := by
  simp only [groups, List.map_cons, List.map_nil, List.cons.injEq, and_true]
  refine ⟨?_, ?_, ?_, ?_⟩ <;>
  · refine BitVec.eq_of_getLsbD_eq fun i hi ↦ ?_
    simp only [BitVec.getLsbD_setWidth, BitVec.getLsbD_extractLsb', BitVec.getLsbD_append]
    interval_cases i <;> simp

/-- A character for six bits. -/
theorem base64Char_setWidth (bits : BitVec 6) : base64Char (bits.setWidth 8) = symbol bits := by
  have hbits := bits.isLt
  rw [base64Char, base64Table_eq, symbol, BitVec.toNat_setWidth, Nat.mod_eq_of_lt (by omega)]

/-- The expressions of the encoder for the four characters of three bytes. -/
theorem map_symbol_groups (a b c : Byte) :
    (groups a b c).map symbol = [base64Char (a >>> 2), base64Char ((a &&& 0x03) <<< 4 ||| b >>> 4),
      base64Char ((b &&& 0x0F) <<< 2 ||| c >>> 6), base64Char (c &&& 0x3F)] := by
  have hmap := congrArg (List.map base64Char) (groups_eq a b c)
  rw [List.map_map] at hmap
  exact (List.map_congr_left fun bits _ ↦ (base64Char_setWidth bits).symm).trans hmap

/-! ## Encoding -/

/-- The loop stops when less than three bytes are left. -/
theorem base64Lines_of_rest {bytes out out' : List Byte} {lineLen lineLen' : ℕ}
    (h : bytes.length < 3) (hrest : base64EncodeRest out lineLen bytes = (out', lineLen')) :
    base64Lines bytes out lineLen = if lineLen' ≠ 0 then out' ++ [0x0A] else out' := by
  have hloop : base64EncodeLoop bytes out lineLen = (out, lineLen, bytes) := by
    rw [base64EncodeLoop]
    rintro a b c bytes rfl
    simp only [List.length_cons] at h
    omega
  rw [base64Lines, hloop]
  simp only [hrest]

/-- The last four characters. -/
theorem base64Lines_last {bytes out four : List Byte} {lineLen : ℕ} (hlt : lineLen < 72)
    (hmod : lineLen % 4 = 0) (h : bytes.length < 3) (hfour : four.length = 4)
    (hrest : base64EncodeRest out lineLen bytes = (out ++ four, lineLen + 4)) :
    base64Lines bytes out lineLen = out ++ breakLines 72 lineLen four := by
  have hne : four ≠ [] := List.length_pos_iff.1 (by omega)
  rw [base64Lines_of_rest h hrest, if_pos (by omega), breakLines_last hne (by omega),
    List.append_assoc]
  rfl

/-- **What is stored** are the lines of the text. -/
theorem base64Lines_eq {lineLen : ℕ} (hlt : lineLen < 72) (hmod : lineLen % 4 = 0)
    (src out : List Byte) :
    base64Lines src out lineLen = out ++ breakLines 72 lineLen (encodeText src) := by
  induction src using encodeText.induct generalizing out lineLen with
  | case1 =>
    rw [base64Lines_of_rest (by decide) rfl, encodeText, breakLines, ite_not]
    split_ifs
    · rw [List.append_nil]
    · rfl
  | case2 a =>
    have hor : ∀ x : Byte, x ||| (0 : Byte) >>> 4 = x := fun _ ↦ BitVec.or_zero
    refine base64Lines_last hlt hmod (by simp) rfl ?_
    rw [base64EncodeRest, encodeText, List.map_take, map_symbol_groups, hor]
    rfl
  | case3 a b =>
    have hor : ∀ x : Byte, x ||| (0 : Byte) >>> 6 = x := fun _ ↦ BitVec.or_zero
    refine base64Lines_last hlt hmod (by simp) rfl ?_
    rw [base64EncodeRest, encodeText, List.map_take, map_symbol_groups, hor]
    rfl
  | case4 a b c bytes ih =>
    have hfour : ((groups a b c).map symbol).length = 4 := rfl
    have hnext : base64Lines (a :: b :: c :: bytes) out lineLen = if 72 ≤ lineLen + 4 then
          base64Lines bytes (out ++ (groups a b c).map symbol ++ [0x0A]) 0
        else base64Lines bytes (out ++ (groups a b c).map symbol) (lineLen + 4) := by
      rw [base64Lines, base64EncodeLoop, map_symbol_groups]
      split_ifs <;> rfl
    rw [hnext, encodeText]
    split_ifs with hfull
    · rw [ih (by decide) (by decide), breakLines_fill (by simp [groups]) (by omega),
        List.append_assoc, List.append_assoc]
      rfl
    · rw [ih (by omega) (by omega), breakLines_append (by omega), hfour, List.append_assoc]

/-- Only the first of the operations can overflow. -/
theorem toNat_encodedSize (len : ℕ) :
    (encodedSize (.ofNat 64 len)).toNat =
      len * 4 % 2 ^ 64 / 3 + 4 + (len * 4 % 2 ^ 64 / 3 + 4) / 72 + 1 := by
  have hmul : (BitVec.ofNat 64 len * 4).toNat = len * 4 % 2 ^ 64 := by
    rw [BitVec.toNat_mul, BitVec.toNat_ofNat, Nat.mod_mul_mod]
    rfl
  have hlt := Nat.mod_lt (len * 4) (Nat.two_pow_pos 64)
  simp only [encodedSize, BitVec.toNat_add, BitVec.toNat_udiv, hmul]
  generalize len * 4 % 2 ^ 64 = n at hlt ⊢
  show (((n / 3 + 4) % 2 ^ 64 + (n / 3 + 4) % 2 ^ 64 / 72) % 2 ^ 64 + 1) % 2 ^ 64 = _
  rw [Nat.mod_eq_of_lt (by omega : n / 3 + 4 < 2 ^ 64),
    Nat.mod_eq_of_lt (by omega : n / 3 + 4 + (n / 3 + 4) / 72 < 2 ^ 64),
    Nat.mod_eq_of_lt (by omega)]

/-- **The check for an overflow** is right: the size is less than the length if and only if it
overflows. -/
theorem encodedSize_lt_iff {len : ℕ} (h : len < 2 ^ 64) :
    encodedSize (.ofNat 64 len) < .ofNat 64 len ↔ 2 ^ 62 ≤ len := by
  rw [BitVec.lt_def, toNat_encodedSize, BitVec.toNat_ofNat, Nat.mod_eq_of_lt h]
  omega

/-- The text fits into the buffer.  For every 54 bytes there are 72 characters and a line feed,
and the four characters that the size has in reserve are enough for the group at the end. -/
theorem length_breakLines_lt {src : List Byte} (h : src.length < 2 ^ 62) :
    (breakLines 72 0 (encodeText src)).length < (encodedSize (.ofNat 64 src.length)).toNat := by
  rw [length_breakLines (by decide), length_encodeText, toNat_encodedSize,
    Nat.mod_eq_of_lt (by omega)]
  omega

/-- The encoder as a whole: it stores the lines of the text and a NUL if the size does not
overflow and if there is memory for it, and it stores nothing otherwise. -/
theorem base64Encode_eq (allocates : ℕ → Bool) {src : List Byte} (h : src.length < 2 ^ 64) :
    base64Encode allocates src =
      if src.length < 2 ^ 62 ∧ allocates (encodedSize (.ofNat 64 src.length)).toNat then
        some ⟨(encodedSize (.ofNat 64 src.length)).toNat, breakLines 72 0 (encodeText src) ++ [0],
          (breakLines 72 0 (encodeText src)).length⟩
      else none := by
  rw [base64Encode, base64Lines_eq (by decide) rfl, List.nil_append]
  rcases Nat.lt_or_ge src.length (2 ^ 62) with hlt | hge
  · have hsize := (encodedSize_lt_iff h).not.2 (Nat.not_le.2 hlt)
    simp only [hsize, hlt, if_false, true_and]
  · rw [if_pos ((encodedSize_lt_iff h).2 hge), if_neg fun hlt ↦ Nat.not_lt.2 hge hlt.1]

/-- **The encoder never writes outside its buffer**, and there is none only if the text would be
too long or if there is no memory for it.  What it returns is the text of the data, in lines of 72
characters, and the NUL behind it is not counted. -/
theorem base64_encode_fits (allocates : ℕ → Bool) {src : List Byte} (h : src.length < 2 ^ 64) :
    (base64Encode allocates src = none ↔
      2 ^ 62 ≤ src.length ∨ allocates (encodedSize (.ofNat 64 src.length)).toNat = false) ∧
    ∀ text, base64Encode allocates src = some text →
      allocates text.size ∧ text.stored.length ≤ text.size ∧
        text.stored = text.out ++ [0] ∧ text.out = breakLines 72 0 (encodeText src) := by
  rw [base64Encode_eq allocates h]
  split_ifs with hcond
  · refine ⟨iff_of_false (by simp) ?_, ?_⟩
    · rintro (hge | hfalse)
      · exact Nat.not_lt.2 hge hcond.1
      · exact Bool.false_ne_true (hfalse.symm.trans hcond.2)
    · rintro text ⟨⟩
      refine ⟨hcond.2, ?_, ?_, ?_⟩
      · rw [List.length_append, List.length_singleton]
        exact length_breakLines_lt hcond.1
      · rw [Base64Buffer.out, List.take_left]
      · exact List.take_left
  · rw [not_and_or, Nat.not_lt, Bool.not_eq_true] at hcond
    exact ⟨iff_of_true rfl hcond, nofun⟩

/-- Two bytes, in a text of one line. -/
theorem base64_encode_fits_two :
    ∃ text, base64Encode (fun _ ↦ true) [0x68, 0x69] = some text ∧ text.stored.length ≤ text.size ∧
      text.out = [0x61, 0x47, 0x6B, 0x3D, 0x0A] := by
  have hlt : ([0x68, 0x69] : List Byte).length < 2 ^ 64 := by decide
  have hfits := base64_encode_fits (fun _ ↦ true) hlt
  obtain ⟨text, htext⟩ := Option.ne_none_iff_exists'.1 (hfits.1.not.2 (by decide))
  obtain ⟨-, hlength, -, hout⟩ := hfits.2 text htext
  exact ⟨text, htext, hlength, hout.trans (by decide)⟩

/-! ## Decoding -/

/-- The table of the decoder is the inverse of the one of the encoder. -/
theorem dtable_symbol (bits : BitVec 6) : dtable (symbol bits) = bits.setWidth 8 := by
  revert bits
  decide +kernel

/-- The places that a loop leaves as they were. -/
theorem foldl_update_of_forall_ne {l : List ℕ} {key : ℕ → Byte} {value : ℕ → Byte} {c : Byte}
    (h : ∀ i ∈ l, key i ≠ c) (f : Byte → Byte) :
    l.foldl (fun f i ↦ Function.update f (key i) (value i)) f c = f c := by
  induction l generalizing f with
  | nil => rfl
  | cons i l ih =>
    rw [List.forall_mem_cons] at h
    rw [List.foldl_cons, ih h.2, Function.update_of_ne h.1.symm]

/-- What is not in the table does not belong to the text. -/
theorem dtable_eq_iff (c : Byte) : dtable c = 0x80 ↔ ¬IsSymbol c := by
  by_cases hc : c = padding
  · rw [hc]
    exact iff_of_false (by decide) (not_not.2 (.inr rfl))
  · by_cases hmem : c ∈ alphabet
    · obtain ⟨bits, rfl⟩ := mem_alphabet_iff.1 hmem
      have hbits := bits.isLt
      refine iff_of_false (fun h ↦ ?_) (not_not.2 (.inl hmem))
      have hnat := congrArg BitVec.toNat ((dtable_symbol bits).symm.trans h)
      rw [BitVec.toNat_setWidth, Nat.mod_eq_of_lt (by omega)] at hnat
      exact absurd hnat (by simp; omega)
    · have hne : c ≠ 0x3D := hc
      refine iff_of_true ?_ (not_or.2 ⟨hmem, hc⟩)
      rw [dtable, Function.update_of_ne hne]
      refine foldl_update_of_forall_ne (fun i hi h ↦ hmem ?_) _
      rw [← h, base64Table_eq, List.getD_eq_getElem _ _ (List.mem_range.1 hi)]
      exact List.getElem_mem _

/-- The padding is not in the alphabet. -/
theorem symbol_ne_padding (bits : BitVec 6) : symbol bits ≠ 0x3D := by
  revert bits
  decide +kernel

/-- Characters that do not belong to the text are skipped, wherever they stand in a group. -/
theorem base64DecodeLoop_filter (src block : List Byte) (pad : ℕ) (out : List Byte) :
    base64DecodeLoop (src.filter (IsSymbol ·)) block pad out =
      base64DecodeLoop src block pad out := by
  induction src generalizing block pad out with
  | nil => rfl
  | cons c src ih =>
    by_cases hc : IsSymbol c
    · rw [List.filter_cons_of_pos (by simpa using hc)]
      simp only [base64DecodeLoop, ih]
    · rw [List.filter_cons_of_neg (by simpa using hc), ih, base64DecodeLoop,
        if_pos ((dtable_eq_iff c).2 hc)]

/-- The three bytes of four characters. -/
theorem bytes_of_groups (a b c : Byte) :
    (a >>> 2) <<< 2 ||| ((a &&& 0x03) <<< 4 ||| b >>> 4) >>> 4 = a ∧
    ((a &&& 0x03) <<< 4 ||| b >>> 4) <<< 4 ||| ((b &&& 0x0F) <<< 2 ||| c >>> 6) >>> 2 = b ∧
    ((b &&& 0x0F) <<< 2 ||| c >>> 6) <<< 6 ||| (c &&& 0x3F) = c := by
  refine ⟨?_, ?_, ?_⟩ <;>
  · refine BitVec.eq_of_getLsbD_eq fun i hi ↦ ?_
    interval_cases i <;> simp

/-- A character that does not complete a block. -/
theorem base64DecodeLoop_more {c : Byte} (hc : IsSymbol c) {block : List Byte}
    (hblock : block.length < 3) (src : List Byte) (pad : ℕ) (out : List Byte) :
    base64DecodeLoop (c :: src) block pad out = base64DecodeLoop src (block ++ [dtable c])
      (if c = 0x3D then pad + 1 else pad) out := by
  rw [base64DecodeLoop, if_neg ((dtable_eq_iff c).not.2 (not_not.2 hc))]
  match block, hblock with
  | [], _ => rfl
  | [_], _ => rfl
  | [_, _], _ => rfl

/-- A character that completes a block. -/
theorem base64DecodeLoop_full {c : Byte} (hc : IsSymbol c) (block0 block1 block2 : Byte)
    (src : List Byte) (pad : ℕ) (out : List Byte) :
    base64DecodeLoop (c :: src) [block0, block1, block2] pad out =
      let pad := if c = 0x3D then pad + 1 else pad
      let out := out ++ [block0 <<< 2 ||| block1 >>> 4, block1 <<< 4 ||| block2 >>> 2,
        block2 <<< 6 ||| dtable c]
      if pad = 0 then base64DecodeLoop src [] pad out
      else if pad = 1 then some (out, out.length - 1)
      else if pad = 2 then some (out, out.length - 2)
      else none := by
  rw [base64DecodeLoop, if_neg ((dtable_eq_iff c).not.2 (not_not.2 hc))]
  rfl

/-- Four characters with the values of three bytes, the first two of which are no padding. -/
theorem base64DecodeLoop_four {a b c c0 c1 c2 c3 : Byte}
    (hvalues : [c0, c1, c2, c3].map dtable = (groups a b c).map (BitVec.setWidth 8))
    (hsymbols : ∀ c ∈ [c0, c1, c2, c3], IsSymbol c) (h0 : c0 ≠ 0x3D) (h1 : c1 ≠ 0x3D)
    (src out : List Byte) :
    base64DecodeLoop (c0 :: c1 :: c2 :: c3 :: src) [] 0 out =
      let pad := if c3 = 0x3D then (if c2 = 0x3D then 1 else 0) + 1
        else if c2 = 0x3D then 1 else 0
      let out := out ++ [a, b, c]
      if pad = 0 then base64DecodeLoop src [] pad out
      else if pad = 1 then some (out, out.length - 1)
      else if pad = 2 then some (out, out.length - 2)
      else none := by
  obtain ⟨hs0, hs1, hs2, hs3⟩ : IsSymbol c0 ∧ IsSymbol c1 ∧ IsSymbol c2 ∧ IsSymbol c3 := by
    simpa using hsymbols
  obtain ⟨ha, hb, hc⟩ := bytes_of_groups a b c
  rw [groups_eq] at hvalues
  obtain ⟨hv0, hv1, hv2, hv3⟩ : dtable c0 = a >>> 2 ∧ dtable c1 = (a &&& 0x03) <<< 4 ||| b >>> 4 ∧
      dtable c2 = (b &&& 0x0F) <<< 2 ||| c >>> 6 ∧ dtable c3 = c &&& 0x3F := by
    simpa using hvalues
  rw [base64DecodeLoop_more hs0 (by decide), base64DecodeLoop_more hs1 (by simp),
    base64DecodeLoop_more hs2 (by simp), if_neg h0, if_neg h1]
  refine (base64DecodeLoop_full hs3 _ _ _ _ _ _).trans ?_
  rw [hv0, hv1, hv2, hv3, ha, hb, hc]

/-- **What has been encoded is decoded.** -/
theorem base64DecodeLoop_encodeText (src out : List Byte) :
    ∃ rest, base64DecodeLoop (encodeText src) [] 0 out =
      some (out ++ src ++ rest, (out ++ src).length) := by
  have hsymbol (bits : BitVec 6) : IsSymbol (symbol bits) := .inl (mem_alphabet_iff.2 ⟨bits, rfl⟩)
  have hpadding : IsSymbol padding := .inr rfl
  have hzero : dtable padding = 0 := by decide
  have hne (bits : BitVec 6) : symbol bits ≠ 61#8 := symbol_ne_padding bits
  have hlast (a b : Byte) : ((a ++ b ++ 0#8).extractLsb' 0 6).setWidth 8 = 0#8 :=
    congrArg (List.getD · 3 0) (groups_eq a b 0)
  induction src using encodeText.induct generalizing out with
  | case1 => exact ⟨[], by simp [encodeText, base64DecodeLoop]⟩
  | case2 a =>
    have hthird : ((a ++ 0#8 ++ 0#8).extractLsb' 6 6).setWidth 8 = 0#8 :=
      congrArg (List.getD · 2 0) (groups_eq a 0 0)
    refine ⟨[0, 0], (base64DecodeLoop_four (a := a) (b := 0) (c := 0) ?_ ?_ (symbol_ne_padding _)
      (symbol_ne_padding _) [] out).trans ?_⟩
    · simp [groups, dtable_symbol, hzero, hthird, hlast]
    · simp [hsymbol, hpadding]
    · simp [padding]
  | case3 a b =>
    refine ⟨[0], (base64DecodeLoop_four (a := a) (b := b) (c := 0) ?_ ?_ (symbol_ne_padding _)
      (symbol_ne_padding _) [] out).trans ?_⟩
    · simp [groups, dtable_symbol, hzero, hlast]
    · simp [hsymbol, hpadding]
    · simp [padding, hne]
  | case4 a b c bytes ih =>
    obtain ⟨rest, hrest⟩ := ih (out ++ [a, b, c])
    refine ⟨rest, (base64DecodeLoop_four (a := a) (b := b) (c := c) ?_ ?_ (symbol_ne_padding _)
      (symbol_ne_padding _) (encodeText bytes) out).trans ?_⟩
    · simp [groups, dtable_symbol]
    · simp [hsymbol]
    · simp [hne, hrest]

/-- **The decoder never writes outside its buffer.**  Whatever the text, three bytes are stored
only if four characters have been read that the first pass has counted as well. -/
theorem base64DecodeLoop_length {src block out stored : List Byte} {pad len : ℕ}
    (hblock : block.length < 4) (h : base64DecodeLoop src block pad out = some (stored, len)) :
    stored.length ≤ out.length + (block.length + src.countP (IsSymbol ·)) / 4 * 3 ∧
      len ≤ stored.length := by
  induction src generalizing block pad out with
  | nil =>
    rw [base64DecodeLoop] at h
    cases h
    exact ⟨Nat.le_add_right _ _, Nat.le_refl _⟩
  | cons c src ih =>
    by_cases hc : IsSymbol c
    · rw [List.countP_cons_of_pos (by simpa using hc)]
      rcases Nat.lt_or_ge block.length 3 with hlt | hge
      · rw [base64DecodeLoop_more hc hlt] at h
        have hlength := ih (by rw [List.length_append, List.length_singleton]; omega) h
        rw [List.length_append, List.length_singleton] at hlength
        omega
      · match block, hblock, hge with
        | [block0, block1, block2], _, _ =>
          rw [base64DecodeLoop_full hc] at h
          generalize (if c = 0x3D then pad + 1 else pad) = pad at h
          have hcount : ([block0, block1, block2].length + (src.countP (IsSymbol ·) + 1)) / 4 =
              src.countP (IsSymbol ·) / 4 + 1 := by
            rw [List.length_cons, List.length_cons, List.length_singleton]
            omega
          rw [hcount]
          simp only at h
          split_ifs at h
          · have hlength := ih (by decide) h
            rw [List.length_append, List.length_nil, Nat.zero_add] at hlength
            refine ⟨hlength.1.trans ?_, hlength.2⟩
            rw [List.length_cons, List.length_cons, List.length_singleton]
            omega
          all_goals
            cases h
            rw [List.length_append, List.length_cons, List.length_cons, List.length_singleton]
            omega
    · rw [List.countP_cons_of_neg (by simpa using hc)]
      rw [base64DecodeLoop, if_pos ((dtable_eq_iff c).2 hc)] at h
      exact ih hblock h

/-- The first pass counts the characters of the text. -/
theorem countP_dtable (src : List Byte) :
    src.countP (dtable · ≠ 0x80) = src.countP (IsSymbol ·) := by
  refine List.countP_congr fun c _ ↦ ?_
  rw [decide_eq_true_iff, decide_eq_true_iff, Ne, dtable_eq_iff, not_not]

/-- **A round trip.**  What has been encoded is decoded, whatever characters that do not belong to
the text are put into it or taken out.  The line feeds of the encoder are such characters, and so
the text may come back in other lines. -/
theorem base64_round_trip {allocates : ℕ → Bool} (hall : ∀ n, allocates n = true) {src : List Byte}
    (hne : src ≠ []) (hlength : src.length < 2 ^ 62) :
    ∃ text, base64Encode allocates src = some text ∧
      ∀ received, received.filter (IsSymbol ·) = text.out.filter (IsSymbol ·) →
        ∃ data, base64Decode allocates received = some data ∧ data.out = src := by
  have hencode := @base64Encode_eq allocates src (by omega)
  rw [if_pos ⟨hlength, hall _⟩] at hencode
  refine ⟨_, hencode, fun received hreceived ↦ ?_⟩
  have htext : received.filter (IsSymbol ·) = encodeText src := by
    rw [hreceived, Base64Buffer.out, List.take_left, filter_breakLines (by decide)]
    exact List.filter_eq_self.2 fun c hc ↦ by simpa using isSymbol_of_mem_encodeText hc
  have hpos := List.length_pos_iff.2 hne
  have hcount : received.countP (dtable · ≠ 0x80) = 4 * ((src.length + 2) / 3) := by
    rw [← length_encodeText, ← htext, ← List.countP_eq_length_filter, countP_dtable]
  obtain ⟨rest, hrest⟩ := base64DecodeLoop_encodeText src []
  rw [← htext, base64DecodeLoop_filter] at hrest
  rw [base64Decode, hcount, if_neg (by omega)]
  simp only [hall, if_true, hrest]
  exact ⟨_, rfl, List.take_left⟩

/-- The line feed is taken out, and a blank is put in. -/
theorem base64_round_trip_blank :
    ∃ data, base64Decode (fun _ ↦ true) [0x61, 0x41, 0x20, 0x3D, 0x3D] = some data ∧
      data.out = [0x68] := by
  obtain ⟨text, htext, hdecode⟩ := @base64_round_trip (fun _ ↦ true) (fun _ ↦ rfl) [0x68]
    (List.cons_ne_nil _ _) (by decide)
  have hencode : base64Encode (fun _ ↦ true) [0x68] =
      some ⟨6, [0x61, 0x41, 0x3D, 0x3D, 0x0A, 0], 5⟩ := by decide
  obtain rfl := Option.some.inj (htext.symm.trans hencode)
  exact hdecode _ (by decide)

/-- **The decoder never writes outside its buffer**, whatever it is given.  The first pass has
counted all the characters that the second stores bytes for, which may end earlier, at the
padding. -/
theorem base64_decode_fits {allocates : ℕ → Bool} {src : List Byte} {data : Base64Buffer}
    (h : base64Decode allocates src = some data) :
    allocates data.size ∧ data.stored.length ≤ data.size ∧ data.outLen ≤ data.stored.length := by
  rw [base64Decode, countP_dtable] at h
  simp only at h
  split_ifs at h with hcount hall
  obtain ⟨⟨stored, outLen⟩, hloop, rfl⟩ := Option.map_eq_some_iff.1 h
  obtain ⟨hstored, hlen⟩ := base64DecodeLoop_length (by decide) hloop
  rw [List.length_nil, Nat.zero_add, Nat.zero_add] at hstored
  exact ⟨hall, hstored, hlen⟩

/-- A text with an exclamation mark in it. -/
theorem base64_decode_fits_mark :
    ∃ data, base64Decode (fun _ ↦ true) [0x61, 0x41, 0x3D, 0x21, 0x3D] = some data ∧
      data.stored.length ≤ data.size ∧ data.out = [0x68] := by
  have hdata : base64Decode (fun _ ↦ true) [0x61, 0x41, 0x3D, 0x21, 0x3D] =
      some ⟨3, [0x68, 0, 0], 1⟩ := by decide
  exact ⟨_, hdata, (base64_decode_fits hdata).2.1, rfl⟩

end GameBloat
