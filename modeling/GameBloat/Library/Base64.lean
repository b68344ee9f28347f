import Mathlib.Data.List.GetD
import Mathlib.Tactic.SplitIfs
import Mathlib.Data.Nat.Notation

/-!
# Base64

The encoding of bytes as text: three bytes are four groups of six bits, each of which is a symbol
of the `alphabet`, and a text that ends in the middle of such a group is filled up with `padding`.
Mail breaks the text into `breakLines` that are not too long.

The definitions are those of the format, on lists of bytes and without a buffer: an encoder that
writes into memory is compared with `encodeText`, and one that breaks lines with `breakLines width
0 (encodeText bytes)`.  The recursion of `encodeText` is by three bytes, with the two short
endings as cases of their own, which is also the shape of an encoder's loop and of the proof about
it.

* `mem_alphabet_iff` and `isSymbol_of_mem_encodeText`: an encoded text has symbols and padding
  only.
* `length_encodeText`: its length is four for every three bytes begun.
* `length_breakLines`: how many line feeds are added, whatever the column the text starts in.
* `filter_breakLines`: taking out line feeds undoes the breaking, so a decoder that skips what is
  not a symbol reads the same text.
* `breakLines_append`, `breakLines_fill` and `breakLines_last` break a text a few characters at a
  time, as a loop that keeps the column does.
-/

set_option autoImplicit false

namespace Base64

/-- The 64 symbols: letters, digits, plus and slash. -/
def alphabet : List (BitVec 8) :=
  ((List.range 26).map (0x41 + ·) ++ (List.range 26).map (0x61 + ·) ++
    (List.range 10).map (0x30 + ·) ++ [0x2B, 0x2F]).map (BitVec.ofNat 8)

/-- The equals sign. -/
def padding : BitVec 8 := 0x3D

/-- The line feed. -/
def lineFeed : BitVec 8 := 0x0A

/-- What belongs to a text. -/
def IsSymbol (c : BitVec 8) : Prop := c ∈ alphabet ∨ c = padding

instance : DecidablePred IsSymbol := fun c ↦
  inferInstanceAs (Decidable (c ∈ alphabet ∨ c = padding))

/-- The symbol of six bits.  The alphabet has 64 symbols, so the default of the lookup is not
used. -/
def symbol (bits : BitVec 6) : BitVec 8 := alphabet.getD bits.toNat 0

/-- Three bytes as four times six bits, from the top of the first byte to the bottom of the last. -/
def groups (a b c : BitVec 8) : List (BitVec 6) :=
  [18, 12, 6, 0].map fun start ↦ (a ++ b ++ c).extractLsb' start 6

/-- The text of some bytes. -/
def encodeText : List (BitVec 8) → List (BitVec 8)
  | [] => []
  | [a] => ((groups a 0 0).take 2).map symbol ++ [padding, padding]
  | [a, b] => ((groups a b 0).take 3).map symbol ++ [padding]
  | a :: b :: c :: bytes => (groups a b c).map symbol ++ encodeText bytes

/-- Every symbol of the alphabet is the symbol of some six bits. -/
theorem mem_alphabet_iff {c : BitVec 8} : c ∈ alphabet ↔ ∃ bits, symbol bits = c := by
  have hget (bits : BitVec 6) (h : bits.toNat < alphabet.length) :
      symbol bits = alphabet[bits.toNat] := List.getD_eq_getElem _ _ h
  constructor
  · intro hc
    obtain ⟨i, hi, rfl⟩ := List.mem_iff_getElem.1 hc
    have hbits : (BitVec.ofNat 6 i).toNat = i := Nat.mod_eq_of_lt hi
    refine ⟨.ofNat 6 i, (hget _ (by rwa [hbits])).trans ?_⟩
    simp only [hbits]
  · rintro ⟨bits, rfl⟩
    exact (hget bits bits.isLt).symm ▸ List.getElem_mem _

theorem isSymbol_of_mem_encodeText {bytes : List (BitVec 8)} {c : BitVec 8}
    (h : c ∈ encodeText bytes) :
    IsSymbol c := by
  have hsymbol : ∀ {gs : List (BitVec 6)}, c ∈ gs.map symbol → IsSymbol c := by
    intro gs hc
    obtain ⟨bits, -, rfl⟩ := List.mem_map.1 hc
    exact .inl (mem_alphabet_iff.2 ⟨bits, rfl⟩)
  induction bytes using encodeText.induct with
  | case1 => cases h
  | case2 a =>
    rcases List.mem_append.1 h with h | h
    · exact hsymbol h
    · exact .inr (List.eq_of_mem_replicate (n := 2) h)
  | case3 a b =>
    rcases List.mem_append.1 h with h | h
    · exact hsymbol h
    · exact .inr (List.mem_singleton.1 h)
  | case4 a b c bytes ih =>
    rcases List.mem_append.1 h with h | h
    · exact hsymbol h
    · exact ih h

theorem length_encodeText (bytes : List (BitVec 8)) :
    (encodeText bytes).length = 4 * ((bytes.length + 2) / 3) := by
  induction bytes using encodeText.induct with
  | case1 => rfl
  | case2 a => simp [encodeText, groups]
  | case3 a b => simp [encodeText, groups]
  | case4 a b c bytes ih =>
    rw [encodeText, List.length_append, ih, List.length_map, List.length_cons, List.length_cons,
      List.length_cons]
    show 4 + _ = _
    omega

/-! ## Lines -/

/-- The text with a line feed after so many characters, and after what is left. -/
def breakLines (width : ℕ) : ℕ → List (BitVec 8) → List (BitVec 8)
  | column, [] => if column = 0 then [] else [lineFeed]
  | column, c :: text =>
    if column + 1 = width then c :: lineFeed :: breakLines width 0 text
    else c :: breakLines width (column + 1) text

variable {width column : ℕ}

/-- The text gets a line feed for every line begun. -/
theorem length_breakLines (h : column < width) (text : List (BitVec 8)) :
    (breakLines width column text).length =
      text.length + (column + text.length + (width - 1)) / width := by
  induction text generalizing column with
  | nil =>
    rw [breakLines, List.length_nil, Nat.zero_add, Nat.add_zero]
    split_ifs with h0
    · rw [h0, Nat.zero_add, Nat.div_eq_of_lt (by omega), List.length_nil]
    · rw [List.length_singleton]
      refine (Nat.div_eq_of_lt_le ?_ ?_).symm <;> omega
  | cons c text ih =>
    rw [breakLines, List.length_cons]
    split_ifs with hend
    · have hdiv : column + (text.length + 1) + (width - 1) =
          0 + text.length + (width - 1) + width := by omega
      rw [List.length_cons, List.length_cons, ih (by omega), hdiv,
        Nat.add_div_right _ (by omega)]
      omega
    · have hdiv : column + (text.length + 1) + (width - 1) =
          column + 1 + text.length + (width - 1) := by omega
      rw [List.length_cons, ih (by omega), hdiv]
      omega

/-- Line feeds are all that is added. -/
theorem filter_breakLines {p : BitVec 8 → Bool} (hp : p lineFeed = false) (column : ℕ)
    (text : List (BitVec 8)) : (breakLines width column text).filter p = text.filter p := by
  induction text generalizing column with
  | nil =>
    rw [breakLines]
    split_ifs
    · rfl
    · rw [List.filter_cons_of_neg (by rw [hp]; exact Bool.false_ne_true), List.filter_nil]
  | cons c text ih =>
    rw [breakLines]
    split_ifs
    · rw [List.filter_cons, List.filter_cons_of_neg (by rw [hp]; exact Bool.false_ne_true), ih,
        List.filter_cons]
    · rw [List.filter_cons, ih, List.filter_cons]

/-- Characters that do not fill the line. -/
theorem breakLines_append {front : List (BitVec 8)} (h : column + front.length < width)
    (text : List (BitVec 8)) :
    breakLines width column (front ++ text) =
      front ++ breakLines width (column + front.length) text := by
  induction front generalizing column with
  | nil => rfl
  | cons c front ih =>
    rw [List.length_cons] at h
    rw [List.cons_append, breakLines, if_neg (by omega), ih (by omega), List.length_cons,
      List.cons_append, Nat.add_right_comm, Nat.add_assoc]

/-- Characters that fill the line. -/
theorem breakLines_fill {front : List (BitVec 8)} (hne : front ≠ [])
    (h : column + front.length = width) (text : List (BitVec 8)) :
    breakLines width column (front ++ text) = front ++ lineFeed :: breakLines width 0 text := by
  obtain ⟨front, c, rfl⟩ : ∃ front' c, front = front' ++ [c] :=
    ⟨_, _, (List.dropLast_concat_getLast hne).symm⟩
  rw [List.length_append, List.length_singleton] at h
  rw [List.append_assoc, breakLines_append (by omega), List.singleton_append, breakLines,
    if_pos (by omega), List.append_assoc, List.singleton_append]

/-- The last line. -/
theorem breakLines_last {front : List (BitVec 8)} (hne : front ≠ [])
    (h : column + front.length ≤ width) :
    breakLines width column front = front ++ [lineFeed] := by
  have hpos := List.length_pos_iff.2 hne
  rw [← List.append_nil front]
  rcases Nat.lt_or_eq_of_le h with hlt | heq
  · rw [breakLines_append hlt, breakLines, if_neg (by omega), List.append_nil]
  · rw [breakLines_fill hne heq, breakLines, if_pos rfl, List.append_nil]

end Base64
