import GameBloat.Cpu.Operands
import Mathlib.Algebra.Group.Nat.Defs

/-!
# What addition and subtraction leave behind

`add_s` and `sub_s` are exact: the result, and the four flags, are those of the numbers
(`addS_spec`, `subS_spec`).  `adc_s` and `sbc_s` add the carry flag to their operand first, in an
8-bit variable.  The result does not suffer, but the flags are those of the operand that comes
out: with the carry set, an operand 0xFF turns into 0 and loses the carry, and an operand that
ends in 0xF loses the half-carry (`Arith.next_spec`).

The module is the interface between the bit operations of the source and the numbers that the
modules about longer operands compute with.  A flag is computed in the source by masks and
comparisons of promoted values, one after the other and in an order that differs between the
functions; `flags4` writes the four of them down at once, and `Outcome` states what they mean.
After this module nobody looks at a mask of `add_s` or `sub_s` again.

* `addS_eq` and `subS_eq` evaluate the functions to a result and four flags.
* `addS_spec` and `subS_spec` read the flags as conditions on numbers.
* `toNat_add_checkFlag` is the one place where the 8-bit variable matters.
* `Arith.next_spec` is both functions with a carry, with addition and subtraction told apart by
  `Arith`, so that a statement about one is a statement about the other.
-/

set_option autoImplicit false

namespace GameBloat

open Cpu (flagZero flagNegative flagHalfCarry flagCarry)

/-! ## Flags -/

/-- Whether a flag is set. -/
def Registers.HasFlag (r : Registers) (flag : Byte) : Prop := r.F &&& flag ≠ 0

instance (r : Registers) (flag : Byte) : Decidable (r.HasFlag flag) :=
  inferInstanceAs (Decidable (_ ≠ _))

theorem checkFlag_eq (r : Registers) (flag : Byte) :
    Cpu.checkFlag r flag = if r.HasFlag flag then 1 else 0 := rfl

/-- The four flags, one after the other.  The order is that in which most of the functions write
them, and it does not matter, since the masks are disjoint. -/
def flags4 (F : Byte) (n c h z : Bool) : Byte :=
  flagged (flagged (flagged (flagged F flagNegative n) flagCarry c) flagHalfCarry h) flagZero z

theorem flags4_spec (F : Byte) (n c h z : Bool) :
    (flags4 F n c h z &&& flagNegative ≠ 0 ↔ n = true) ∧
      (flags4 F n c h z &&& flagCarry ≠ 0 ↔ c = true) ∧
      (flags4 F n c h z &&& flagHalfCarry ≠ 0 ↔ h = true) ∧
      (flags4 F n c h z &&& flagZero ≠ 0 ↔ z = true) := by
  refine ⟨?_, ?_, ?_, flagged_and_self_ne_zero_iff (by decide) _ z⟩
  · rw [flags4, flagged_and_of_disjoint (by decide), flagged_and_of_disjoint (by decide),
      flagged_and_of_disjoint (by decide)]
    exact flagged_and_self_ne_zero_iff (by decide) F n
  · rw [flags4, flagged_and_of_disjoint (by decide), flagged_and_of_disjoint (by decide)]
    exact flagged_and_self_ne_zero_iff (by decide) _ c
  · rw [flags4, flagged_and_of_disjoint (by decide)]
    exact flagged_and_self_ne_zero_iff (by decide) _ h

/-- The low half of a byte. -/
theorem toNat_and_lowNibble (s : Byte) : (s &&& Cpu.lowNibble).toNat = s.toNat % 16 := by
  revert s
  decide

/-- The low nibble of a 16-bit value. -/
theorem toNat_and_lowNibble16 (w : Word) : (w &&& Cpu.lowNibble.setWidth 16).toNat = w.toNat % 16 :=
  (BitVec.toNat_and w _).trans (Nat.and_two_pow_sub_one_eq_mod w.toNat 4)

/-- A value meets a mask of all bits from `k` on just if it is at least 2ᵏ.  This is how the
source tests for a carry: it adds in a wider type and looks at the upper half. -/
theorem and_highMask_ne_zero_iff {n k : ℕ} {mask : BitVec n}
    (hmask : ∀ i < n, mask.getLsbD i = decide (k ≤ i)) (w : BitVec n) :
    w &&& mask ≠ 0 ↔ 2 ^ k ≤ w.toNat := by
  rw [← Nat.not_lt]
  refine not_congr ⟨fun h ↦ Nat.lt_pow_two_of_testBit _ fun i hi ↦ ?_, fun h ↦ ?_⟩
  · rcases Nat.lt_or_ge i n with hin | hin
    · have hbit := congrArg (·.getLsbD i) h
      rw [BitVec.getLsbD_and, hmask i hin, decide_eq_true hi, Bool.and_true] at hbit
      exact hbit.trans BitVec.getLsbD_zero
    · exact BitVec.getLsbD_of_ge w i hin
  · refine BitVec.eq_of_getLsbD_eq fun i hin ↦ ?_
    rw [BitVec.getLsbD_and, hmask i hin]
    by_cases hi : k ≤ i
    · have hbit : w.getLsbD i = false :=
        Nat.testBit_lt_two_pow (Nat.lt_of_lt_of_le h (Nat.pow_le_pow_right (by decide) hi))
      simp [hbit]
    · simp [hi]

/-! ## Addition and subtraction -/

/-- An operation leaves the result `A`, with the flags as given, and Z if the result is 0.  The
flags are propositions, so that a specification can state them about numbers.  An operation has
one outcome for given operands, and so two functions with the same outcome are the same on them. -/
structure Outcome (r : Registers) (A : Byte) (negative carry halfCarry : Prop) : Prop where
  result : r.A = A
  negative : r.HasFlag flagNegative ↔ negative
  carry : r.HasFlag flagCarry ↔ carry
  halfCarry : r.HasFlag flagHalfCarry ↔ halfCarry
  zero : r.HasFlag flagZero ↔ A = 0

theorem Outcome.of_flags4 {r : Registers} {F : Byte} {n c h z : Bool} {negative carry half : Prop}
    (hF : r.F = flags4 F n c h z) (hn : n = true ↔ negative) (hc : c = true ↔ carry)
    (hh : h = true ↔ half) (hz : z = true ↔ r.A = 0) : Outcome r r.A negative carry half := by
  obtain ⟨hn', hc', hh', hz'⟩ := flags4_spec F n c h z
  rw [← hF] at hn' hc' hh' hz'
  exact ⟨rfl, hn'.trans hn, hc'.trans hc, hh'.trans hh, hz'.trans hz⟩

/-- Addition with its flags, those of the numbers. -/
theorem addS_eq (r : Registers) (s : Byte) :
    Cpu.addS r s = { r with
      A := r.A + s
      F := flags4 r.F false (256 ≤ r.A.toNat + s.toNat) (16 ≤ r.A.toNat % 16 + s.toNat % 16)
        (r.A + s = 0) } := by
  let sum : Word := r.A.setWidth 16 + s.setWidth 16
  have hsum : sum.toNat = r.A.toNat + s.toNat := by
    simp only [sum]
    bv_omega
  have hcarry : sum &&& Cpu.highByteMask ≠ 0 ↔ 256 ≤ r.A.toNat + s.toNat := by
    rw [and_highMask_ne_zero_iff (k := 8) (by decide), hsum]
    exact Iff.rfl
  have hhalf : Cpu.lowNibble.toNat < (r.A &&& Cpu.lowNibble).toNat + (s &&& Cpu.lowNibble).toNat ↔
      16 ≤ r.A.toNat % 16 + s.toNat % 16 := by
    rw [toNat_and_lowNibble, toNat_and_lowNibble]
    exact Iff.rfl
  have hresult : ((sum &&& Cpu.lowByteMask).setWidth 8 : Byte) = r.A + s := by
    refine (setWidth_and_lowByte sum).trans (BitVec.eq_of_toNat_eq ?_)
    rw [toNat_lowByte, hsum, BitVec.toNat_add]
  have hbody : Cpu.addS r s = { r with
      A := (sum &&& Cpu.lowByteMask).setWidth 8
      F := flags4 r.F false (sum &&& Cpu.highByteMask ≠ 0)
        (Cpu.lowNibble.toNat < (r.A &&& Cpu.lowNibble).toNat + (s &&& Cpu.lowNibble).toNat)
        (((sum &&& Cpu.lowByteMask).setWidth 8 : Byte) = 0) } := by
    simp only [Cpu.addS, writeFlag_eq]
    rfl
  rw [hbody, hresult, decide_eq_decide.2 hcarry, decide_eq_decide.2 hhalf]

/-- Subtraction with its flags. -/
theorem subS_eq (r : Registers) (s : Byte) :
    Cpu.subS r s = { r with
      A := r.A - s
      F := flags4 r.F true (r.A.toNat < s.toNat) (r.A.toNat % 16 < s.toNat % 16)
        (r.A - s = 0) } := by
  have hbody : Cpu.subS r s = { r with
      A := r.A - s
      F := flags4 r.F true (r.A.toNat < s.toNat)
        ((r.A &&& Cpu.lowNibble).toNat < (s &&& Cpu.lowNibble).toNat) (r.A - s = 0) } := by
    simp only [Cpu.subS, writeFlag_eq]
    rfl
  rw [hbody]
  simp only [toNat_and_lowNibble]

theorem addS_spec (r : Registers) (s : Byte) :
    Outcome (Cpu.addS r s) (r.A + s) False (256 ≤ r.A.toNat + s.toNat)
      (16 ≤ r.A.toNat % 16 + s.toNat % 16) := by
  rw [addS_eq]
  exact .of_flags4 rfl (by simp) decide_eq_true_iff decide_eq_true_iff decide_eq_true_iff

theorem subS_spec (r : Registers) (s : Byte) :
    Outcome (Cpu.subS r s) (r.A - s) True (r.A.toNat < s.toNat)
      (r.A.toNat % 16 < s.toNat % 16) := by
  rw [subS_eq]
  exact .of_flags4 rfl (by simp) decide_eq_true_iff decide_eq_true_iff decide_eq_true_iff

/-- Whatever the flags were, addition and subtraction write all four of them, so clearing the
carry beforehand makes no difference to the result. -/
theorem flags4_and_not_carry (F : Byte) (n c h z : Bool) :
    flags4 (F &&& ~~~flagCarry) n c h z = flags4 F n c h z := by
  rw [flags4, flagged_and_not_of_disjoint (by decide), flagged_and_not_self]
  rfl

/-! ## With a carry -/

/-- The carry flag as a number. -/
def Registers.carryIn (r : Registers) : ℕ := if r.HasFlag flagCarry then 1 else 0

theorem Registers.carryIn_le (r : Registers) : r.carryIn ≤ 1 := by
  rw [carryIn]
  split <;> decide

theorem Registers.carryIn_removeFlag (r : Registers) :
    (Cpu.removeFlag r flagCarry).carryIn = 0 := by
  have hbit : ∀ F : Byte, (F &&& ~~~flagCarry) &&& flagCarry = 0 := by decide
  exact if_neg (not_not.2 (hbit r.F))

theorem toNat_checkFlag_carry (r : Registers) :
    (Cpu.checkFlag r flagCarry).toNat = r.carryIn := by
  rw [checkFlag_eq, Registers.carryIn]
  split <;> rfl

/-- An operand to which the carry has been added, in 8 bits. -/
theorem toNat_add_checkFlag (r : Registers) (s : Byte) :
    (s + Cpu.checkFlag r flagCarry).toNat =
      if r.carryIn = 1 ∧ s.toNat = 0xFF then 0 else s.toNat + r.carryIn := by
  have hlt := s.isLt
  have hle := r.carryIn_le
  rw [BitVec.toNat_add, toNat_checkFlag_carry]
  split <;> omega

/-- The two operations of arithmetic. -/
inductive Arith
  | add | sub
  deriving DecidableEq

namespace Arith

/-- The operation on numbers. -/
def apply : Arith → ℤ → ℤ → ℤ
  | add, x, y => x + y
  | sub, x, y => x - y

/-- The instruction for the lowest byte. -/
def first : Arith → Registers → Byte → Registers
  | add => Cpu.addS
  | sub => Cpu.subS

/-- The instruction for the bytes above. -/
def next : Arith → Registers → Byte → Registers
  | add => Cpu.adcS
  | sub => Cpu.sbcS

end Arith

/-- The number has a place among the first `m`: nothing is carried or borrowed.  The same
condition serves addition and subtraction, since it is violated on the one side or on the other.
Its negation is the carry of an addition and the borrow of a subtraction. -/
def InRange (m : ℕ) (v : ℤ) : Prop := 0 ≤ v ∧ v < m

instance (m : ℕ) (v : ℤ) : Decidable (InRange m v) := inferInstanceAs (Decidable (_ ∧ _))

/-- The operation on two digits and a carry. -/
def Arith.digit (op : Arith) (x y carry : ℕ) : ℤ := op.apply (op.apply x y) carry

/-- **ADC and SBC.**  Result, N and Z are those of the numbers; the carry is lost if it meets an
operand 0xFF, and the half-carry if it meets an operand that ends in 0xF. -/
theorem Arith.next_spec (op : Arith) (r : Registers) (s : Byte) :
    Outcome (op.next r s) (BitVec.ofInt 8 (op.digit r.A.toNat s.toNat r.carryIn)) (op = .sub)
      (¬InRange 256 (op.digit r.A.toNat s.toNat r.carryIn) ∧ ¬(r.carryIn = 1 ∧ s.toNat = 0xFF))
      (¬InRange 16 (op.digit (r.A.toNat % 16) (s.toNat % 16) r.carryIn) ∧
        ¬(r.carryIn = 1 ∧ s.toNat % 16 = 0xF)) := by
  have hoperand := toNat_add_checkFlag r s
  have hle := r.carryIn_le
  have hA := r.A.isLt
  have hlt := s.isLt
  cases op with
  | add =>
    obtain ⟨hresult, hnegative, hcarry, hhalf, hzero⟩ :=
      addS_spec r (s + Cpu.checkFlag r flagCarry)
    have hsame : r.A + (s + Cpu.checkFlag r flagCarry) =
        BitVec.ofInt 8 (Arith.add.digit r.A.toNat s.toNat r.carryIn) := by
      refine BitVec.eq_of_toNat_eq ?_
      rw [BitVec.toNat_add, BitVec.toNat_ofInt, hoperand, digit, apply, apply]
      split <;> omega
    rw [hsame] at hresult hzero
    refine ⟨hresult, hnegative.trans (by simp), hcarry.trans ?_, hhalf.trans ?_, hzero⟩ <;>
      · rw [hoperand, InRange, digit, apply, apply]
        split <;> omega
  | sub =>
    have hflag : Cpu.checkFlag (Cpu.setFlag r flagNegative) flagCarry =
        Cpu.checkFlag r flagCarry := by
      have hbit : ∀ F : Byte, (F ||| flagNegative) &&& flagCarry = F &&& flagCarry := by decide
      exact if_congr (by rw [Cpu.setFlag, hbit]) rfl rfl
    obtain ⟨hresult, hnegative, hcarry, hhalf, hzero⟩ :=
      subS_spec r (s + Cpu.checkFlag r flagCarry)
    have hsame : r.A - (s + Cpu.checkFlag r flagCarry) =
        BitVec.ofInt 8 (Arith.sub.digit r.A.toNat s.toNat r.carryIn) := by
      refine BitVec.eq_of_toNat_eq ?_
      rw [BitVec.toNat_sub, BitVec.toNat_ofInt, hoperand, digit, apply, apply]
      split <;> omega
    rw [hsame] at hresult hzero
    have hnext : Arith.sub.next r s = Cpu.subS r (s + Cpu.checkFlag r flagCarry) := by
      rw [next, Cpu.sbcS, hflag]
    rw [hnext]
    refine ⟨hresult, hnegative.trans (by simp), hcarry.trans ?_, hhalf.trans ?_, hzero⟩ <;>
      · rw [hoperand, InRange, digit, apply, apply]
        split <;> omega

/-- The first instruction is the next one without a carry. -/
theorem Arith.first_eq_next (op : Arith) (r : Registers) (s : Byte) :
    op.first r s = op.next (Cpu.removeFlag r flagCarry) s := by
  have hbit : ∀ F : Byte, (F &&& ~~~flagCarry) &&& flagCarry = 0 := by decide
  have hbit' : ∀ F : Byte, (F &&& ~~~flagCarry ||| flagNegative) &&& flagCarry = 0 := by decide
  have hadd : s + 0 = s := BitVec.add_zero s
  cases op with
  | add =>
    have hflag : Cpu.checkFlag (Cpu.removeFlag r flagCarry) flagCarry = 0 :=
      if_neg (not_not.2 (hbit r.F))
    rw [first, next, Cpu.adcS, hflag, hadd, addS_eq, addS_eq]
    simp only [Cpu.removeFlag, flags4_and_not_carry]
    rfl
  | sub =>
    have hflag : Cpu.checkFlag (Cpu.setFlag (Cpu.removeFlag r flagCarry) flagNegative)
        flagCarry = 0 := if_neg (not_not.2 (hbit' r.F))
    rw [first, next, Cpu.sbcS, hflag, hadd, subS_eq, subS_eq]
    simp only [Cpu.removeFlag, flags4_and_not_carry]
    rfl

end GameBloat
