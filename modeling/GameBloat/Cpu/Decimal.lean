import GameBloat.Cpu.MultiByte

/-!
# Packed decimal arithmetic

`daa` is to correct the result of an addition or subtraction of packed decimals, and to leave in
the carry flag what the next byte is owed.  The digits it leaves are right unless there is a carry
out of the byte, but the carry is not: `daa` looks for it in bit 8 of an 8-bit register, and so
clears the flag every time.

A number of several bytes is computed by the instruction and `daa`, byte after byte, as a program
would do it.  The specification is the sum or difference itself in base 100, digit by digit, with
a carry between the digits: the same `serialSum` that specifies binary arithmetic, with another
base.  The code and the specification are two systems that go over the same list of bytes, and the
library of `GameBloat.Library.Slips` knows what to do with a pair of systems that agree until one
of them slips: it asks for a lemma about a step that keeps in step, one about the step that slips,
and one that says that afterwards nothing is made good.

* `PackedDecimal` is a byte of two decimal digits, so that the operands need no hypothesis.
* `daa_A` is the function `daa` on `A`, and `toNat_add_decimal` the addition followed by it, as
  numbers.
* `add_decimal` and `sub_decimal`: what fits into two digits comes out right.
* `decimal_wrong`: with a carry that the flag does not show, no column comes out right but one
  that hands the carry on in its turn, so that the last byte or the final carry is wrong.
* `decimalSerial_slips` collects these three.
* `decimal_iff`: decimal arithmetic is right exactly when no byte has a carry or a borrow.

For subtraction `daa` has a second defect, in the branch with a carry, where it makes 0x60 of
whatever is in `A`.  The carry is set there by the subtraction itself, so the branch is taken
exactly when the column borrows, and it is wrong for the digits as well.
-/

set_option autoImplicit false

namespace GameBloat

open Cpu (flagZero flagNegative flagHalfCarry flagCarry)

/-! ## Packed decimals -/

/-- A byte of two decimal digits.  It is a subtype, so a list of packed decimals is a decimal
number and needs no hypothesis that says so. -/
def PackedDecimal : Type := {byte : Byte // byte.toNat / 16 ≤ 9 ∧ byte.toNat % 16 ≤ 9}

namespace PackedDecimal

variable (x : PackedDecimal)

/-- The digit in the high nibble. -/
def high : ℕ := x.1.toNat / 16

/-- The digit in the low nibble. -/
def low : ℕ := x.1.toNat % 16

/-- The number that the two digits stand for. -/
def value : ℕ := 10 * x.high + x.low

theorem high_le : x.high ≤ 9 := x.2.1

theorem low_le : x.low ≤ 9 := x.2.2

theorem toNat_eq : x.1.toNat = 16 * x.high + x.low := (Nat.div_add_mod _ 16).symm

theorem value_lt : x.value < 100 := by
  have hhigh := x.high_le
  have hlow := x.low_le
  rw [value]
  omega

end PackedDecimal

/-- The byte of two decimal digits that stands for a number below 100. -/
def packed (v : ℕ) : Byte := BitVec.ofNat 8 (16 * (v / 10) + v % 10)

theorem packed_low (v : ℕ) : (packed v).toNat % 16 = v % 10 := by
  rw [packed, BitVec.toNat_ofNat]
  omega

/-- The number that a list of packed decimals stands for, the least significant first. -/
def decimalNumber (bytes : List PackedDecimal) : ℕ :=
  Nat.ofDigits 100 (bytes.map PackedDecimal.value)

/-- The bytes of pairs of packed decimals. -/
def packedPairs (pairs : List (PackedDecimal × PackedDecimal)) : List (Byte × Byte) :=
  pairs.map fun pair ↦ (pair.1.1, pair.2.1)

/-- The lowest `n` packed decimals of an integer, the least significant first.  For a negative
integer these are the digits of its complement, as the processor would have them.  There is one
such list for each integer, whatever its size, and this is what makes the digits of a difference a
specification. -/
def lowDecimals (n : ℕ) (v : ℤ) : List Byte := (lowDigits 100 n v).map packed

/-! ## DAA -/

/-- `daa` looks for a carry where there cannot be one. -/
theorem carryIn_daa (r : Registers) : (Cpu.daa r).carryIn = 0 := by
  have hbit : ∀ A : Byte, ¬(A.setWidth 16 : Word) &&& 0x0100 = 0x100 := by decide
  have hF : (Cpu.daa r).F = flagged (flagged (Cpu.daaAdjust r).F flagCarry false) flagZero
      (decide ((Cpu.daaAdjust r).A = 0)) &&& ~~~flagHalfCarry := by
    simp only [Cpu.daa, writeFlag_eq, hbit, decide_false]
    rfl
  have hkept : ~~~flagHalfCarry &&& flagCarry = flagCarry := by decide
  refine if_neg ?_
  rw [Registers.HasFlag, hF, BitVec.and_assoc, hkept, flagged_and_of_disjoint (by decide),
    flagged_and_self_ne_zero_iff (by decide)]
  exact Bool.noConfusion

theorem checkFlag_ne_zero_iff (r : Registers) (flag : Byte) :
    Cpu.checkFlag r flag ≠ 0 ↔ r.HasFlag flag := by
  rw [checkFlag_eq]
  split
  · exact iff_of_true (by decide) ‹_›
  · exact iff_of_false (by decide) ‹_›

/-- What `daa` makes of `A`.  After a subtraction with a carry, that is 0x60 whatever `A` was. -/
theorem daa_A (r : Registers) : (Cpu.daa r).A =
    if r.HasFlag flagNegative then
      if r.HasFlag flagCarry then 0x60 else if r.HasFlag flagHalfCarry then r.A - 0x06 else r.A
    else
      let A := if r.HasFlag flagHalfCarry ∨ 9 < r.A.toNat % 16 then r.A + 0x06 else r.A
      if r.HasFlag flagCarry ∨ 0x9F < A.toNat then A + 0x60 else A := by
  have hdaa : (Cpu.daa r).A = (Cpu.daaAdjust r).A := by
    simp only [Cpu.daa, writeFlag_eq]
    rfl
  have hflag (A : Byte) (flag : Byte) :
      Cpu.checkFlag { r with A } flag ≠ 0 ↔ r.HasFlag flag := checkFlag_ne_zero_iff _ flag
  have hcancel (A : Byte) : A - (A - 0x60) = 0x60 := by bv_omega
  have hmask (A : Byte) : A &&& 0xFF = A := by
    revert A
    decide
  have hite (c : Prop) [Decidable c] (a b : Registers) :
      (if c then a else b).A = if c then a.A else b.A := apply_ite Registers.A c a b
  rw [hdaa, Cpu.daaAdjust]
  by_cases hn : r.HasFlag flagNegative
  · by_cases hh : r.HasFlag flagHalfCarry <;>
      simp only [checkFlag_ne_zero_iff, hn, hh, if_true, if_false, hflag, hmask, hite, hcancel]
  · by_cases hlow : r.HasFlag flagHalfCarry ∨ 9 < r.A.toNat % 16 <;>
      simp only [checkFlag_ne_zero_iff, toNat_and_lowNibble, hn, hlow, if_true, if_false, hflag,
        hite]

/-! ## One byte -/

/-- An operation and its correction, with no carry coming in. -/
def Arith.decimal (op : Arith) (r : Registers) (s : Byte) : Registers := Cpu.daa (op.next r s)

section

variable {r : Registers} (hcarry : r.carryIn = 0) (x y : PackedDecimal)

include hcarry

/-- Addition and `daa`, as numbers. -/
theorem toNat_add_decimal :
    (loadAndApply Arith.add.decimal r (x.1, y.1)).A.toNat =
      let sum := x.1.toNat + y.1.toNat
      let low := if 16 ≤ x.low + y.low ∨ 9 < sum % 16 then (sum + 6) % 256 else sum % 256
      if 256 ≤ sum ∨ 0x9F < low then (low + 0x60) % 256 else low := by
  have hspec := Arith.add.loadAndApply_spec r (x.1, y.1)
  rw [hcarry] at hspec
  dsimp only [Arith.digit, Arith.apply] at hspec
  let r' := loadAndApply Arith.add.next r (x.1, y.1)
  have hnegative : ¬r'.HasFlag flagNegative := fun h ↦ absurd (hspec.negative.1 h) (by decide)
  have hflagC : r'.HasFlag flagCarry ↔ 256 ≤ x.1.toNat + y.1.toNat := by
    rw [hspec.carry, InRange]
    omega
  have hflagH : r'.HasFlag flagHalfCarry ↔ 16 ≤ x.low + y.low := by
    rw [hspec.halfCarry, InRange, PackedDecimal.low, PackedDecimal.low]
    omega
  have hsum : r'.A.toNat = (x.1.toNat + y.1.toNat) % 256 := by
    rw [hspec.result, BitVec.toNat_ofInt]
    omega
  have hmod : (x.1.toNat + y.1.toNat) % 256 % 16 = (x.1.toNat + y.1.toNat) % 16 := by omega
  have hsix : (r'.A + 0x06).toNat = (x.1.toNat + y.1.toNat + 6) % 256 := by
    rw [BitVec.toNat_add, hsum]
    exact Nat.mod_add_mod _ _ _
  show (Cpu.daa r').A.toNat = _
  rw [daa_A, if_neg hnegative]
  simp only [hflagC, hflagH, hsum, hmod, apply_ite BitVec.toNat, hsix, BitVec.toNat_add]
  rfl

/-- Whatever is lost, the low digit is the last digit of the sum. -/
theorem add_decimal_low :
    (loadAndApply Arith.add.decimal r (x.1, y.1)).A.toNat % 16 = (x.low + y.low) % 10 := by
  have hx := x.toNat_eq
  have hy := y.toNat_eq
  have hxlow := x.low_le
  have hylow := y.low_le
  rw [toNat_add_decimal hcarry]
  dsimp only
  split_ifs <;> omega

/-- A sum that fits comes out right. -/
theorem add_decimal (h : x.value + y.value < 100) :
    (loadAndApply Arith.add.decimal r (x.1, y.1)).A = packed (x.value + y.value) := by
  have hx := x.toNat_eq
  have hy := y.toNat_eq
  have hxlow := x.low_le
  have hylow := y.low_le
  refine BitVec.eq_of_toNat_eq ?_
  rw [toNat_add_decimal hcarry, packed, BitVec.toNat_ofNat]
  rw [PackedDecimal.value, PackedDecimal.value] at h ⊢
  dsimp only
  split_ifs <;> omega

/-- A difference that fits comes out right. -/
theorem sub_decimal (h : y.value ≤ x.value) :
    (loadAndApply Arith.sub.decimal r (x.1, y.1)).A = packed (x.value - y.value) := by
  have hx := x.toNat_eq
  have hy := y.toNat_eq
  have hxlow := x.low_le
  have hylow := y.low_le
  have hle : y.1.toNat ≤ x.1.toNat := by
    rw [PackedDecimal.value, PackedDecimal.value] at h
    omega
  have hspec := Arith.sub.loadAndApply_spec r (x.1, y.1)
  rw [hcarry] at hspec
  dsimp only [Arith.digit, Arith.apply] at hspec
  let r' := loadAndApply Arith.sub.next r (x.1, y.1)
  have hnegative : r'.HasFlag flagNegative := hspec.negative.2 rfl
  have hflagC : ¬r'.HasFlag flagCarry := by
    rw [hspec.carry, InRange]
    omega
  have hflagH : r'.HasFlag flagHalfCarry ↔ x.low < y.low := by
    rw [hspec.halfCarry, InRange, PackedDecimal.low, PackedDecimal.low]
    omega
  have hdiff : r'.A.toNat = x.1.toNat - y.1.toNat := by
    rw [hspec.result, BitVec.toNat_ofInt]
    omega
  have hsix : (0x06 : Byte).toNat = 6 := rfl
  show (Cpu.daa r').A = _
  refine BitVec.eq_of_toNat_eq ?_
  rw [daa_A, if_pos hnegative, if_neg hflagC, packed, BitVec.toNat_ofNat]
  rw [PackedDecimal.value, PackedDecimal.value] at h ⊢
  simp only [hflagH, apply_ite BitVec.toNat, BitVec.toNat_sub, hdiff, hsix]
  split_ifs <;> omega

end

/-! ## What should come out -/

namespace Arith

variable (op : Arith)

/-- The sum or difference of two packed decimals. -/
def decimalColumn (pair : PackedDecimal × PackedDecimal) : ℤ := op.apply pair.1.value pair.2.value

/-- The sum or difference of two numbers of packed decimals. -/
def decimalTotal (pairs : List (PackedDecimal × PackedDecimal)) : ℤ :=
  op.apply (decimalNumber (pairs.map Prod.fst)) (decimalNumber (pairs.map Prod.snd))

/-- **Arithmetic on packed decimals**: the digits of the result are collected, and C is set if it
does not fit.  What Z and H are is left open, since `daa` does not promise anything about them
that a program could use. -/
structure ComputesDecimal (pairs : List (PackedDecimal × PackedDecimal))
    (result : List Byte × Registers) : Prop where
  digits : result.1 = lowDecimals pairs.length (op.decimalTotal pairs % 100 ^ pairs.length)
  carry : result.2.HasFlag flagCarry ↔ ¬InRange (100 ^ pairs.length) (op.decimalTotal pairs)

/-- The instructions of decimal arithmetic, byte after byte. -/
def decimalSerial : System Registers (PackedDecimal × PackedDecimal) Byte :=
  (byteSerial op.decimal).comap fun pair ↦ (pair.1.1, pair.2.1)

/-- Both carries are clear: that of the specification and that of the processor.  Since `daa`
clears the flag, this is the only way in which they can agree. -/
def NoCarry (r : Registers) (carry : ℤ) : Prop := r.carryIn = 0 ∧ carry = 0

/-- There is a carry, and the flag is clear: what is owed to the next byte has been lost. -/
def Lost (r : Registers) (carry : ℤ) : Prop := r.carryIn = 0 ∧ carry = op.apply 0 1

/-- The column has no carry to hand on. -/
def NoneOut (carry : ℤ) (pair : PackedDecimal × PackedDecimal) : Prop :=
  InRange 100 (op.decimalColumn pair + carry)

/-- What leaves a column is at most one. -/
theorem decimalColumn_ediv (x y : PackedDecimal) (h : ¬InRange 100 (op.decimalColumn (x, y))) :
    op.decimalColumn (x, y) / 100 = op.apply 0 1 := by
  have hx := x.value_lt
  have hy := y.value_lt
  simp only [InRange, decimalColumn] at h ⊢
  cases op <;> simp only [apply] at h ⊢ <;> omega

/-- A column without a carry, in itself in range, comes out right. -/
theorem decimal_right {r : Registers} (hr : r.carryIn = 0) (x y : PackedDecimal)
    (h : InRange 100 (op.decimalColumn (x, y))) :
    (loadAndApply op.decimal r (x.1, y.1)).A = packed (op.decimalColumn (x, y) % 100).toNat := by
  simp only [InRange, decimalColumn] at h ⊢
  cases op with
  | add =>
    simp only [apply] at h ⊢
    rw [add_decimal hr x y (by omega)]
    refine congrArg packed ?_
    omega
  | sub =>
    simp only [apply] at h ⊢
    rw [sub_decimal hr x y (by omega)]
    refine congrArg packed ?_
    omega

/-- With a carry that the flag does not show, no column comes out right but one that hands it on. -/
theorem decimal_wrong {r : Registers} (hr : r.carryIn = 0) (x y : PackedDecimal)
    (h : (loadAndApply op.decimal r (x.1, y.1)).A =
      packed ((op.decimalColumn (x, y) + op.apply 0 1) % 100).toNat) :
    (op.decimalColumn (x, y) + op.apply 0 1) / 100 = op.apply 0 1 := by
  have hx := x.value_lt
  have hy := y.value_lt
  have hnibble := congrArg (fun byte : Byte ↦ byte.toNat % 16) h
  simp only [decimalColumn] at hnibble ⊢
  cases op with
  | add =>
    simp only [apply] at hnibble ⊢
    rw [add_decimal_low hr, packed_low] at hnibble
    rw [PackedDecimal.value, PackedDecimal.value] at hnibble
    omega
  | sub =>
    simp only [apply] at hnibble ⊢
    by_cases hle : y.value ≤ x.value
    · rw [sub_decimal hr x y hle, packed_low, packed_low] at hnibble
      omega
    · omega

/-- **A decimal carry is never made good.** The three cases of a slip: in step and no carry, in
step with a carry, which is lost, and out of step.  The last of them never comes back into step
within the number, so one slip is enough for the result to be wrong. -/
theorem decimalSerial_slips : Slips op.decimalSerial (serialSum 100 op.decimalColumn) packed
    NoCarry op.Lost op.NoneOut := by
  refine ⟨fun _ _ _ ↦ rfl, ?_, ?_, ?_, ?_⟩
  · rintro r _ ⟨x, y⟩ ⟨hr, rfl⟩ hfits
    have hcolumn : InRange 100 (op.decimalColumn (x, y)) := by rwa [NoneOut, Int.add_zero] at hfits
    refine ⟨?_, carryIn_daa _, Int.ediv_eq_zero_of_lt hfits.1 hfits.2⟩
    show [(loadAndApply op.decimal r (x.1, y.1)).A] =
      [packed ((op.decimalColumn (x, y) + 0) % 100).toNat]
    rw [op.decimal_right hr x y hcolumn, Int.add_zero]
  · rintro r _ ⟨x, y⟩ ⟨hr, rfl⟩ hslip -
    rw [NoneOut, Int.add_zero] at hslip
    refine ⟨carryIn_daa _, ?_⟩
    show (op.decimalColumn (x, y) + 0) / 100 = op.apply 0 1
    rw [Int.add_zero, op.decimalColumn_ediv x y hslip]
  · rintro r _ ⟨x, y⟩ ⟨hr, rfl⟩ hout
    exact ⟨carryIn_daa _, op.decimal_wrong hr x y (List.singleton_inj.1 hout)⟩
  · rintro r _ ⟨hr, rfl⟩ ⟨-, hcarry⟩
    cases op <;> exact absurd hcarry (by decide)

/-! ## The numbers come out right -/

theorem decimalColumns_eq (pairs : List (PackedDecimal × PackedDecimal)) :
    columns 100 op.decimalColumn pairs = op.decimalTotal pairs :=
  op.columns_apply 100 PackedDecimal.value pairs

/-- No column has a carry exactly when none has one by itself. -/
theorem along_noneOut_iff (pairs : List (PackedDecimal × PackedDecimal)) :
    (serialSum 100 op.decimalColumn).Along op.NoneOut 0 pairs ↔
      ∀ pair ∈ pairs, InRange 100 (op.decimalColumn pair) := by
  rw [System.along_iff_forall fun pair h ↦ Int.ediv_eq_zero_of_lt h.1 h.2]
  simp only [NoneOut, Int.add_zero]

/-- What `daa` has left of the carry. -/
theorem carryIn_decimalSerial {r : Registers} (hr : r.carryIn = 0)
    (pairs : List (PackedDecimal × PackedDecimal)) :
    (op.decimalSerial.run r pairs).carryIn = 0 := by
  induction pairs generalizing r with
  | nil => exact hr
  | cons pair pairs ih => exact ih (carryIn_daa _)

/-- With the flag clear, the carry is right if the result fits. -/
theorem noCarry_iff {r : Registers} (hr : r.carryIn = 0)
    (pairs : List (PackedDecimal × PackedDecimal)) :
    NoCarry r ((serialSum 100 op.decimalColumn).run 0 pairs) ↔
      (r.HasFlag flagCarry ↔ ¬InRange (100 ^ pairs.length) (op.decimalTotal pairs)) := by
  have hclear : ¬r.HasFlag flagCarry := fun h ↦ by
    rw [Registers.carryIn, if_pos h] at hr
    exact Nat.one_ne_zero hr
  have hpos : (0 : ℤ) < 100 ^ pairs.length := Int.pow_pos (by decide)
  have hrun : (serialSum 100 op.decimalColumn).run 0 pairs =
      op.decimalTotal pairs / 100 ^ pairs.length := by
    rw [serialSum_run op.decimalColumn (by decide), decimalColumns_eq, Int.add_zero]
    rfl
  rw [NoCarry, hrun, and_iff_right hr, iff_false_left hclear, not_not]
  constructor
  · intro hdiv
    have hsplit := Int.emod_add_mul_ediv (op.decimalTotal pairs) (100 ^ pairs.length)
    rw [hdiv, Int.mul_zero, Int.add_zero] at hsplit
    rw [← hsplit]
    refine ⟨Int.emod_nonneg _ (Int.ne_of_gt hpos), ?_⟩
    exact_mod_cast Int.emod_lt_of_pos _ hpos
  · rintro ⟨hlo, hhi⟩
    exact Int.ediv_eq_zero_of_lt hlo (by exact_mod_cast hhi)

/-- **When decimal arithmetic is right**: no byte has a carry. -/
theorem computesDecimal_iff (r : Registers) {pairs : List (PackedDecimal × PackedDecimal)}
    (hpairs : pairs ≠ []) :
    op.ComputesDecimal pairs (multiByte (fun r s ↦ Cpu.daa (op.first r s)) op.decimal r
        (packedPairs pairs)) ↔
      ∀ pair ∈ pairs, InRange 100 (op.decimalColumn pair) := by
  have hfirst (r : Registers) (s : Byte) :
      Cpu.daa (op.first r s) = op.decimal (Cpu.removeFlag r flagCarry) s :=
    congrArg Cpu.daa (op.first_eq_next r s)
  have hclear := r.carryIn_removeFlag
  have hdigits : lowDecimals pairs.length (op.decimalTotal pairs % 100 ^ pairs.length) =
      ((serialSum 100 op.decimalColumn).history 0 pairs).map packed := by
    rw [serialSum_history op.decimalColumn (by decide), decimalColumns_eq, Int.add_zero,
      lowDecimals]
    exact congrArg (List.map packed) (lowDigits_emod (b := 100) (by decide) _ _)
  rw [← along_noneOut_iff, ← op.decimalSerial_slips.same_iff_along ⟨hclear, rfl⟩,
    op.noCarry_iff (op.carryIn_decimalSerial hclear pairs), ← hdigits,
    multiByte_eq hfirst r (by simpa [packedPairs] using hpairs), packedPairs, System.history_map,
    System.run_map]
  exact ⟨fun h ↦ ⟨h.digits, h.carry⟩, fun h ↦ ⟨h.1, h.2⟩⟩

end Arith

/-- The carry of 99 + 1 does not reach the second byte: 0099 + 0001 comes out as 0000. -/
theorem daa_loses_carry :
    let x : List PackedDecimal := [⟨0x99, by decide⟩, ⟨0x00, by decide⟩]
    let y : List PackedDecimal := [⟨0x01, by decide⟩, ⟨0x00, by decide⟩]
    ¬Arith.add.ComputesDecimal (x.zip y) (multiByte (fun r s ↦ Cpu.daa (Cpu.addS r s))
      (fun r s ↦ Cpu.daa (Cpu.adcS r s)) Machine.powerOn.registers (packedPairs (x.zip y))) := by
  intro x y h
  exact absurd h.digits (by decide)

/-- **When decimal arithmetic is right.**  For numbers of any length, in both directions: no byte
of the sum, taken by itself, exceeds 99, and no byte of the difference is below 0.  A carry that
comes in from below cannot be needed then, as there is none. -/
theorem decimal_iff (r : Registers) (low : PackedDecimal × PackedDecimal)
    (high : List (PackedDecimal × PackedDecimal)) :
    (Arith.add.ComputesDecimal (low :: high) (multiByte (fun r s ↦ Cpu.daa (Cpu.addS r s))
        (fun r s ↦ Cpu.daa (Cpu.adcS r s)) r (packedPairs (low :: high))) ↔
      ∀ pair ∈ low :: high, pair.1.value + pair.2.value < 100) ∧
    (Arith.sub.ComputesDecimal (low :: high) (multiByte (fun r s ↦ Cpu.daa (Cpu.subS r s))
        (fun r s ↦ Cpu.daa (Cpu.sbcS r s)) r (packedPairs (low :: high))) ↔
      ∀ pair ∈ low :: high, pair.2.value ≤ pair.1.value) := by
  constructor
  · refine (Arith.add.computesDecimal_iff r (List.cons_ne_nil low high)).trans ?_
    refine forall₂_congr fun pair _ ↦ ?_
    simp only [InRange, Arith.decimalColumn, Arith.apply]
    omega
  · refine (Arith.sub.computesDecimal_iff r (List.cons_ne_nil low high)).trans ?_
    refine forall₂_congr fun pair _ ↦ ?_
    have hlt := pair.1.value_lt
    simp only [InRange, Arith.decimalColumn, Arith.apply]
    omega

end GameBloat
