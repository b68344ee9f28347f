import Mathlib.Data.BitVec
import Mathlib.Data.Nat.Notation

/-!
# UTF-8

Text is a list of Unicode scalar values, and UTF-8 writes each of them as one to four bytes
(`Unicode.utf8`).  `Unicode.IsUtf8` says of a list of bytes that it is the encoding of some text.

* `IsUtf8.cons` and `IsUtf8.append`: a character and more text are text, and so are two texts.
* `exists_utf8_two`, `exists_utf8_three`, `exists_utf8_four`: which bytes are the encoding of one
  character.

The definition is by the encoder.  It has no tables of ranges for the second byte, and none of the
exceptions that make validators hard to get right: that an encoding must not be longer than
necessary, that the surrogates are left out, and that there is nothing above U+10FFFF.  They
follow from the ranges of the scalar values and from the encoder's choice of a length, and appear
as hypotheses of the three lemmas above, one for each.

`IsUtf8Prefix` is for text that is still to be continued, and is defined by there being a
continuation.
-/

set_option autoImplicit false

namespace Unicode

/-- A code point other than the surrogates. -/
def IsScalar (c : ℕ) : Prop := c < 0xD800 ∨ 0xE000 ≤ c ∧ c < 0x110000

/-- The encoding of a scalar value: the shortest of the four forms that has room for its bits. -/
def utf8 (c : ℕ) : List (BitVec 8) :=
  if c < 0x80 then [BitVec.ofNat 8 c]
  else if c < 0x800 then [BitVec.ofNat 8 (0xC0 + c / 64), BitVec.ofNat 8 (0x80 + c % 64)]
  else if c < 0x10000 then
    [BitVec.ofNat 8 (0xE0 + c / 4096), BitVec.ofNat 8 (0x80 + c / 64 % 64),
      BitVec.ofNat 8 (0x80 + c % 64)]
  else
    [BitVec.ofNat 8 (0xF0 + c / 262144), BitVec.ofNat 8 (0x80 + c / 4096 % 64),
      BitVec.ofNat 8 (0x80 + c / 64 % 64), BitVec.ofNat 8 (0x80 + c % 64)]

/-- The bytes are the encoding of some text. -/
def IsUtf8 (bytes : List (BitVec 8)) : Prop :=
  ∃ text : List ℕ, (∀ c ∈ text, IsScalar c) ∧ text.flatMap utf8 = bytes

/-- The bytes can be completed to the encoding of some text.  Every encoding is such a prefix of
itself. -/
def IsUtf8Prefix (bytes : List (BitVec 8)) : Prop := ∃ rest, IsUtf8 (bytes ++ rest)

instance (c : ℕ) : Decidable (IsScalar c) := inferInstanceAs (Decidable (_ ∨ _))

theorem IsUtf8.nil : IsUtf8 [] := ⟨[], List.forall_mem_nil _, rfl⟩

theorem IsUtf8.cons {c : ℕ} (hc : IsScalar c) {rest : List (BitVec 8)} (h : IsUtf8 rest) :
    IsUtf8 (utf8 c ++ rest) := by
  obtain ⟨text, htext, rfl⟩ := h
  exact ⟨c :: text, List.forall_mem_cons.2 ⟨hc, htext⟩, rfl⟩

theorem IsUtf8.append {bytes rest : List (BitVec 8)} (h : IsUtf8 bytes) (hrest : IsUtf8 rest) :
    IsUtf8 (bytes ++ rest) := by
  obtain ⟨text, htext, rfl⟩ := h
  obtain ⟨text', htext', rfl⟩ := hrest
  exact ⟨text ++ text', List.forall_mem_append.2 ⟨htext, htext'⟩, List.flatMap_append⟩

/-! ## One character -/

theorem utf8_one {c : ℕ} (h : c < 0x80) : utf8 c = [BitVec.ofNat 8 c] := if_pos h

theorem utf8_two {c : ℕ} (h : 0x80 ≤ c) (h' : c < 0x800) :
    utf8 c = [BitVec.ofNat 8 (0xC0 + c / 64), BitVec.ofNat 8 (0x80 + c % 64)] := by
  rw [utf8, if_neg (Nat.not_lt_of_le h), if_pos h']

theorem utf8_three {c : ℕ} (h : 0x800 ≤ c) (h' : c < 0x10000) :
    utf8 c = [BitVec.ofNat 8 (0xE0 + c / 4096), BitVec.ofNat 8 (0x80 + c / 64 % 64),
      BitVec.ofNat 8 (0x80 + c % 64)] := by
  rw [utf8, if_neg (by omega), if_neg (Nat.not_lt_of_le h), if_pos h']

theorem utf8_four {c : ℕ} (h : 0x10000 ≤ c) :
    utf8 c = [BitVec.ofNat 8 (0xF0 + c / 262144), BitVec.ofNat 8 (0x80 + c / 4096 % 64),
      BitVec.ofNat 8 (0x80 + c / 64 % 64), BitVec.ofNat 8 (0x80 + c % 64)] := by
  rw [utf8, if_neg (by omega), if_neg (by omega), if_neg (Nat.not_lt_of_le h)]

theorem utf8_length_pos (c : ℕ) : 0 < (utf8 c).length := by
  rw [utf8]
  split_ifs <;> exact Nat.succ_pos _

theorem ofNat_eq {n : ℕ} {b : BitVec 8} (h : n = b.toNat) : BitVec.ofNat 8 n = b := by
  rw [h, BitVec.ofNat_toNat, BitVec.setWidth_eq]

section

variable {a b c d : BitVec 8}

/-- The bytes of a character below U+0800. -/
theorem exists_utf8_two (ha : 0xC2 ≤ a.toNat) (ha' : a.toNat ≤ 0xDF) (hb : 0x80 ≤ b.toNat)
    (hb' : b.toNat ≤ 0xBF) : ∃ n, IsScalar n ∧ utf8 n = [a, b] := by
  refine ⟨(a.toNat - 0xC0) * 64 + (b.toNat - 0x80), .inl (by omega), ?_⟩
  rw [utf8_two (by omega) (by omega), ofNat_eq (by omega : _ = a.toNat),
    ofNat_eq (by omega : _ = b.toNat)]

/-- The bytes of a character from U+0800 to U+FFFF: not too few bits, and no surrogate. -/
theorem exists_utf8_three (ha : 0xE0 ≤ a.toNat) (ha' : a.toNat ≤ 0xEF) (hb : 0x80 ≤ b.toNat)
    (hb' : b.toNat ≤ 0xBF) (hfew : a.toNat = 0xE0 → 0xA0 ≤ b.toNat)
    (hsurrogate : a.toNat = 0xED → b.toNat ≤ 0x9F) (hc : 0x80 ≤ c.toNat) (hc' : c.toNat ≤ 0xBF) :
    ∃ n, IsScalar n ∧ utf8 n = [a, b, c] := by
  refine ⟨(a.toNat - 0xE0) * 4096 + (b.toNat - 0x80) * 64 + (c.toNat - 0x80), ?_, ?_⟩
  · rw [IsScalar]
    omega
  · rw [utf8_three (by omega) (by omega), ofNat_eq (by omega : _ = a.toNat),
      ofNat_eq (by omega : _ = b.toNat), ofNat_eq (by omega : _ = c.toNat)]

/-- The bytes of a character from U+10000 on: not too few bits, and not too many. -/
theorem exists_utf8_four (ha : 0xF0 ≤ a.toNat) (ha' : a.toNat ≤ 0xF4) (hb : 0x80 ≤ b.toNat)
    (hb' : b.toNat ≤ 0xBF) (hfew : a.toNat = 0xF0 → 0x90 ≤ b.toNat)
    (hmany : a.toNat = 0xF4 → b.toNat ≤ 0x8F) (hc : 0x80 ≤ c.toNat) (hc' : c.toNat ≤ 0xBF)
    (hd : 0x80 ≤ d.toNat) (hd' : d.toNat ≤ 0xBF) : ∃ n, IsScalar n ∧ utf8 n = [a, b, c, d] := by
  refine ⟨(a.toNat - 0xF0) * 262144 + (b.toNat - 0x80) * 4096 + (c.toNat - 0x80) * 64 +
    (d.toNat - 0x80), .inr (by omega), ?_⟩
  rw [utf8_four (by omega), ofNat_eq (by omega : _ = a.toNat), ofNat_eq (by omega : _ = b.toNat),
    ofNat_eq (by omega : _ = c.toNat), ofNat_eq (by omega : _ = d.toNat)]

end

end Unicode
