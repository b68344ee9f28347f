import GameBloat.Cpu.Arithmetic
import GameBloat.Library.DigitSerial
import GameBloat.Library.Slips

/-!
# Arithmetic on several bytes

A program adds two numbers of several bytes with `add_s` on the lowest bytes and `adc_s` on the
others, and subtracts them with `sub_s` and `sbc_s`.  What should come out is the sum or
difference itself, in base 256: `serialSum` is the specification, and the processor slips where it
loses a carry.

A lost carry is never made good (`byteSerial_slips`), so the bytes and the carry at the end are
right exactly if no carry meets an operand 0xFF on the way.

The hard direction is the second one: a result that is right, byte by byte and in its flags, must
have been computed without a slip.  After a slip the processor has the wrong carry, and the byte
after it comes out wrong by one; if there is no byte after it, the carry at the end is the wrong
one.  `Slips` of the library packs this into an equivalence by induction on the list, so that here
remain three lemmas about one byte.

* `number` and `lowBytes` go between bytes and integers, with the least significant byte first.
* `byteSerial` is the sequence of instructions as a system that outputs `A` after each.
* `loadAndApply_spec` is one byte, on numbers.
* `byteSerial_out` and `byteSerial_out_ne`: the byte collected is right for the carry in the flag,
  and so wrong for the other one.
* `serialSum_run_eq` and `along_iff` say what the carries of the specification are: those out of
  the sums of the lower bytes.
* `run_last_spec` adds the flags of the last instruction, where the half-carry has a condition of
  its own.
* `computes_iff` is the law, for addition and subtraction together; `addBytes_iff` and
  `subBytes_iff` are its two cases.

Both orders of the operands matter: the condition is on the bytes of the *second* number, since it
is to those that the carry is added.
-/

set_option autoImplicit false

namespace GameBloat

open Cpu (flagZero flagNegative flagHalfCarry flagCarry)

/-! ## Numbers of several bytes -/

/-- The number that a list of bytes stands for, the least significant first. -/
def number (bytes : List Byte) : ℕ := Nat.ofDigits 256 (bytes.map BitVec.toNat)

/-- The lowest `n` bytes of an integer, the least significant first. -/
def lowBytes (n : ℕ) (v : ℤ) : List Byte := (lowDigits 256 n v).map (BitVec.ofNat 8)

/-- A digit in base 256 as a byte. -/
theorem ofNat_emod (v : ℤ) : BitVec.ofNat 8 (v % 256).toNat = BitVec.ofInt 8 v := by
  refine BitVec.eq_of_toNat_eq ?_
  rw [BitVec.toNat_ofNat, BitVec.toNat_ofInt]
  omega

theorem number_lt (bytes : List Byte) : number bytes < 256 ^ bytes.length := by
  have h := Nat.ofDigits_lt_base_pow_length (b := 256) (l := bytes.map BitVec.toNat) (by decide)
    (by simpa using fun byte _ ↦ byte.isLt)
  rwa [List.length_map] at h

theorem lowBytes_emod (n : ℕ) (v : ℤ) : lowBytes n (v % 256 ^ n) = lowBytes n v :=
  congrArg (List.map _) (lowDigits_emod (b := 256) (by decide) n v)

/-! ## The sequence of instructions -/

/-- Load `A` with the first byte of a pair, and apply an instruction to the second. -/
def loadAndApply (instruction : Registers → Byte → Registers) (r : Registers)
    (pair : Byte × Byte) : Registers := instruction (Cpu.ldRS r .A pair.1) pair.2

/-- An instruction, byte after byte, with `A` collected after each.  Between two bytes a program
loads `A` and perhaps stores it, which leaves the flags alone; so the carry flag is what the bytes
have in common. -/
def byteSerial (instruction : Registers → Byte → Registers) :
    System Registers (Byte × Byte) Byte where
  step := loadAndApply instruction
  out r pair := [(loadAndApply instruction r pair).A]

/-- One instruction for the lowest byte and another for the bytes above: the bytes collected, and
the registers at the end.  This is the program as it would be written, in terms of the functions
of `cpu.c`. -/
def multiByte (first next : Registers → Byte → Registers) (r : Registers) :
    List (Byte × Byte) → List Byte × Registers
  | [] => ([], r)
  | low :: high =>
    let r := loadAndApply first r low
    (r.A :: (byteSerial next).history r high, (byteSerial next).run r high)

/-- If the first instruction is the next one without a carry, they are all the next one. -/
theorem multiByte_eq {first next : Registers → Byte → Registers}
    (h : ∀ r s, first r s = next (Cpu.removeFlag r flagCarry) s) (r : Registers)
    {pairs : List (Byte × Byte)} (hpairs : pairs ≠ []) :
    multiByte first next r pairs =
      ((byteSerial next).history (Cpu.removeFlag r flagCarry) pairs,
        (byteSerial next).run (Cpu.removeFlag r flagCarry) pairs) := by
  cases pairs with
  | nil => exact absurd rfl hpairs
  | cons low high =>
    have hlow : loadAndApply first r low = loadAndApply next (Cpu.removeFlag r flagCarry) low :=
      h (Cpu.ldRS r .A low.1) low.2
    rw [multiByte, hlow]
    rfl

/-! ## What should come out -/

namespace Arith

variable (op : Arith)

/-- The sum or difference of two numbers, given byte by byte. -/
def total (pairs : List (Byte × Byte)) : ℤ :=
  op.apply (number (pairs.map Prod.fst)) (number (pairs.map Prod.snd))

/-- What is carried, or borrowed, out of two numbers.  It is 0 or 1, whatever their length: two
numbers of `n` bytes have a sum below twice `256 ^ n`, and a difference above its negative. -/
def carryOut (pairs : List (Byte × Byte)) : ℕ :=
  if InRange (256 ^ pairs.length) (op.total pairs) then 0 else 1

/-- **Arithmetic on the numbers**, `last` being their most significant bytes: the bytes of the
result are collected, C is set if it does not fit, N says what the operation was, and Z and H are
those of the last bytes with their carry. -/
structure Computes (init : List (Byte × Byte)) (last : Byte × Byte)
    (result : List Byte × Registers) : Prop where
  bytes : result.1 =
    lowBytes (init.length + 1) (op.total (init ++ [last]) % 256 ^ (init.length + 1))
  carry : result.2.HasFlag flagCarry ↔
    ¬InRange (256 ^ (init.length + 1)) (op.total (init ++ [last]))
  negative : result.2.HasFlag flagNegative ↔ op = .sub
  zero : result.2.HasFlag flagZero ↔
    op.digit last.1.toNat last.2.toNat (op.carryOut init) % 256 = 0
  halfCarry : result.2.HasFlag flagHalfCarry ↔
    ¬InRange 16 (op.digit (last.1.toNat % 16) (last.2.toNat % 16) (op.carryOut init))

/-- The column sum of two bytes. -/
def column (pair : Byte × Byte) : ℤ := op.apply pair.1.toNat pair.2.toNat

/-- Numbers are added and subtracted column by column. -/
theorem columns_apply {α : Type*} (b : ℕ) (v : α → ℕ) (pairs : List (α × α)) :
    columns b (fun pair ↦ op.apply (v pair.1) (v pair.2)) pairs =
      op.apply ((Nat.ofDigits b ((pairs.map Prod.fst).map v) : ℕ) : ℤ)
        ((Nat.ofDigits b ((pairs.map Prod.snd).map v) : ℕ) : ℤ) := by
  induction pairs with
  | nil => cases op <;> rfl
  | cons pair pairs ih =>
    have hcolumns : columns b (fun pair ↦ op.apply (v pair.1) (v pair.2)) (pair :: pairs) =
        op.apply (v pair.1) (v pair.2) +
          b * columns b (fun pair ↦ op.apply (v pair.1) (v pair.2)) pairs := rfl
    simp only [hcolumns, ih, List.map_cons, Nat.ofDigits_cons, Nat.cast_add, Nat.cast_mul]
    cases op with
    | add =>
      simp only [apply, Int.mul_add]
      omega
    | sub =>
      simp only [apply, Int.mul_sub]
      omega

theorem columns_eq (pairs : List (Byte × Byte)) : columns 256 op.column pairs = op.total pairs :=
  op.columns_apply 256 BitVec.toNat pairs

/-- The carry out of a digit of `m` values, or a number of them, is 0 or 1. -/
theorem ediv_eq_carry {m : ℕ} {v : ℤ} (hlo : op.apply 0 m ≤ v ∨ 0 ≤ v)
    (hhi : v < m ∨ v < m + op.apply 0 m) :
    v / m = op.apply 0 ((if InRange m v then 0 else 1 : ℕ) : ℤ) := by
  by_cases h : InRange m v
  · rw [if_pos h, Int.ediv_eq_zero_of_lt h.1 h.2]
    cases op <;> rfl
  · rw [if_neg h]
    have hout : v < 0 ∨ (m : ℤ) ≤ v := by
      rw [InRange] at h
      omega
    cases op with
    | add =>
      simp only [apply] at hlo hhi ⊢
      have hm : (m : ℤ) ≠ 0 := by omega
      have h := Int.add_mul_ediv_left (v - m) 1 hm
      have hrest : (v - m) / m = 0 := Int.ediv_eq_zero_of_lt (by omega) (by omega)
      rwa [Int.mul_one, Int.sub_add_cancel, hrest] at h
    | sub =>
      simp only [apply] at hlo hhi ⊢
      have hm : (m : ℤ) ≠ 0 := by omega
      have h := Int.add_mul_ediv_left (v + m) (-1) hm
      have hrest : (v + m) / m = 0 := Int.ediv_eq_zero_of_lt (by omega) (by omega)
      rwa [Int.mul_neg_one, Int.add_neg_cancel_right, hrest] at h

/-- What leaves the numbers is at most one. -/
theorem total_ediv (pairs : List (Byte × Byte)) :
    op.total pairs / 256 ^ pairs.length = op.apply 0 (op.carryOut pairs) := by
  have hfst := number_lt (pairs.map Prod.fst)
  have hsnd := number_lt (pairs.map Prod.snd)
  rw [List.length_map] at hfst hsnd
  have h := op.ediv_eq_carry (m := 256 ^ pairs.length) (v := op.total pairs)
  rw [Nat.cast_pow] at h
  refine h ?_ ?_ <;> cases op <;> simp only [total, apply] <;> omega

/-- A column with its carry. -/
theorem digit_ediv {x y carry : ℕ} (hx : x < 256) (hy : y < 256) (hcarry : carry ≤ 1) :
    op.digit x y carry / 256 =
      op.apply 0 ((if InRange 256 (op.digit x y carry) then 0 else 1 : ℕ) : ℤ) := by
  refine op.ediv_eq_carry (m := 256) ?_ ?_ <;> cases op <;> simp only [digit, apply] <;> omega

/-- The carry of the specification is that of the flag. -/
def Agrees (r : Registers) (carry : ℤ) : Prop := carry = op.apply 0 r.carryIn

/-- One of them is a carry, and the other is not. -/
def Differs (r : Registers) (carry : ℤ) : Prop :=
  carry = op.apply 0 ((1 - r.carryIn : ℕ) : ℤ)

/-- No carry meets an operand 0xFF.  An operand 0xFF with a carry is 0x100, which is 0 in 8 bits:
the result is right, since adding 0x100 is adding nothing, but the carry out of it is gone. -/
def Kept (carry : ℤ) (pair : Byte × Byte) : Prop := ¬(carry ≠ 0 ∧ pair.2.toNat = 0xFF)

theorem loadAndApply_spec (r : Registers) (pair : Byte × Byte) :
    Outcome (loadAndApply op.next r pair)
      (BitVec.ofInt 8 (op.digit pair.1.toNat pair.2.toNat r.carryIn)) (op = .sub)
      (¬InRange 256 (op.digit pair.1.toNat pair.2.toNat r.carryIn) ∧
        ¬(r.carryIn = 1 ∧ pair.2.toNat = 0xFF))
      (¬InRange 16 (op.digit (pair.1.toNat % 16) (pair.2.toNat % 16) r.carryIn) ∧
        ¬(r.carryIn = 1 ∧ pair.2.toNat % 16 = 0xF)) :=
  op.next_spec (Cpu.ldRS r .A pair.1) pair.2

/-- The column with its carry is what the instruction computes. -/
theorem digit_of_agrees {r : Registers} {carry : ℤ} (h : op.Agrees r carry) (pair : Byte × Byte) :
    op.digit pair.1.toNat pair.2.toNat r.carryIn = op.column pair + carry := by
  rw [h, digit, column]
  cases op <;> simp only [apply] <;> omega

theorem ne_zero_iff_of_agrees {r : Registers} {carry : ℤ} (h : op.Agrees r carry) :
    carry ≠ 0 ↔ r.carryIn = 1 := by
  have hle := r.carryIn_le
  rw [Agrees] at h
  cases op <;> simp only [apply] at h <;> omega

/-- The result is right for the carry that the flag has. -/
theorem byteSerial_out (r : Registers) (pair : Byte × Byte) {carry : ℤ} (h : op.Agrees r carry) :
    (byteSerial op.next).out r pair =
      ((serialSum 256 op.column).out carry pair).map (BitVec.ofNat 8) := by
  show [(loadAndApply op.next r pair).A] = [BitVec.ofNat 8 ((op.column pair + carry) % 256).toNat]
  rw [(op.loadAndApply_spec r pair).result, op.digit_of_agrees h, ofNat_emod]

/-- And so wrong for the other carry. -/
theorem byteSerial_out_ne (r : Registers) (pair : Byte × Byte) {carry : ℤ}
    (h : op.Differs r carry) : (byteSerial op.next).out r pair ≠
      ((serialSum 256 op.column).out carry pair).map (BitVec.ofNat 8) := by
  show [(loadAndApply op.next r pair).A] ≠ [BitVec.ofNat 8 ((op.column pair + carry) % 256).toNat]
  rw [(op.loadAndApply_spec r pair).result, ofNat_emod]
  intro heq
  have hbyte := congrArg BitVec.toNat (List.singleton_inj.1 heq)
  rw [BitVec.toNat_ofInt, BitVec.toNat_ofInt, h, digit, column] at hbyte
  have hle := r.carryIn_le
  cases op <;> simp only [apply] at hbyte <;> omega

/-- The carry flag afterwards. -/
theorem carryIn_loadAndApply (r : Registers) (pair : Byte × Byte) :
    (loadAndApply op.next r pair).carryIn =
      if InRange 256 (op.digit pair.1.toNat pair.2.toNat r.carryIn) ∨
        (r.carryIn = 1 ∧ pair.2.toNat = 0xFF) then 0 else 1 := by
  have hcarry := (op.loadAndApply_spec r pair).carry
  rw [← not_or] at hcarry
  rw [Registers.carryIn]
  simp only [hcarry, ite_not]

/-- The carry of the specification afterwards. -/
theorem step_of_agrees {r : Registers} {carry : ℤ} (h : op.Agrees r carry) (pair : Byte × Byte) :
    (serialSum 256 op.column).step carry pair = op.apply 0
      ((if InRange 256 (op.digit pair.1.toNat pair.2.toNat r.carryIn) then 0 else 1 : ℕ) : ℤ) := by
  rw [← op.digit_ediv pair.1.isLt pair.2.isLt r.carryIn_le, op.digit_of_agrees h]
  rfl

/-- **A lost carry is never made good.** The processor follows the specification until a carry
meets an operand 0xFF; the next byte is wrong then, or there is none, and then the carry is.  This
is the form of argument that the library has for digits in general, with the carry as the state. -/
theorem byteSerial_slips : Slips (byteSerial op.next) (serialSum 256 op.column) (BitVec.ofNat 8)
    op.Agrees op.Differs Kept := by
  refine ⟨fun _ _ _ ↦ rfl, fun r carry pair hagrees hkept ↦ ?_,
    fun r carry pair hagrees hslip _ ↦ ?_,
    fun r carry pair h hout ↦ absurd hout (op.byteSerial_out_ne r pair h), fun r carry h h' ↦ ?_⟩
  · refine ⟨op.byteSerial_out r pair hagrees, ?_⟩
    rw [Kept, op.ne_zero_iff_of_agrees hagrees] at hkept
    show (serialSum 256 op.column).step carry pair =
      op.apply 0 (loadAndApply op.next r pair).carryIn
    rw [op.step_of_agrees hagrees, carryIn_loadAndApply]
    simp only [hkept, or_false]
  · rw [Kept, not_not, op.ne_zero_iff_of_agrees hagrees] at hslip
    have hcarry : (loadAndApply op.next r pair).carryIn = 0 := by
      rw [carryIn_loadAndApply, if_pos (.inr hslip)]
    have hout : ¬InRange 256 (op.digit pair.1.toNat pair.2.toNat r.carryIn) := by
      have hx := pair.1.isLt
      rw [hslip.1, hslip.2, InRange, digit]
      cases op <;> simp only [apply] <;> omega
    show (serialSum 256 op.column).step carry pair =
      op.apply 0 ((1 - (loadAndApply op.next r pair).carryIn : ℕ) : ℤ)
    rw [op.step_of_agrees hagrees, if_neg hout, hcarry]
  · have hle := r.carryIn_le
    rw [Agrees] at h
    rw [Differs, h] at h'
    cases op <;> simp only [apply] at h' <;> omega

/-! ## The numbers come out right -/

/-- The carry into each byte, when the bytes below have been computed right. -/
theorem serialSum_run_eq (pairs : List (Byte × Byte)) :
    (serialSum 256 op.column).run 0 pairs = op.apply 0 (op.carryOut pairs) := by
  rw [serialSum_run op.column (by decide), columns_eq, Int.add_zero]
  exact op.total_ediv pairs

theorem apply_carryOut_ne_zero_iff (pairs : List (Byte × Byte)) :
    op.apply 0 (op.carryOut pairs) ≠ 0 ↔ op.carryOut pairs = 1 := by
  rw [carryOut]
  split <;> cases op <;> decide

theorem agrees_removeFlag (r : Registers) : op.Agrees (Cpu.removeFlag r flagCarry) 0 := by
  rw [Agrees, r.carryIn_removeFlag]
  cases op <;> rfl

theorem agrees_iff (r : Registers) (pairs : List (Byte × Byte)) :
    op.Agrees r (op.apply 0 (op.carryOut pairs)) ↔
      (r.HasFlag flagCarry ↔ ¬InRange (256 ^ pairs.length) (op.total pairs)) := by
  rw [Agrees, carryOut, Registers.carryIn]
  by_cases hflag : r.HasFlag flagCarry <;>
    by_cases hrange : InRange (256 ^ pairs.length) (op.total pairs) <;>
    simp only [hflag, hrange, if_true, if_false] <;> cases op <;> decide

/-- The run of the specification next to that of the processor: all bytes and the final carry are
right just if no carry is lost along the specification.  The condition speaks of the carries that
there should be, not of those that the processor has. -/
theorem same_iff_along (r : Registers) (pairs : List (Byte × Byte)) :
    (byteSerial op.next).history (Cpu.removeFlag r flagCarry) pairs =
        lowBytes pairs.length (op.total pairs % 256 ^ pairs.length) ∧
      op.Agrees ((byteSerial op.next).run (Cpu.removeFlag r flagCarry) pairs)
        (op.apply 0 (op.carryOut pairs)) ↔
    (serialSum 256 op.column).Along Kept 0 pairs := by
  rw [← op.byteSerial_slips.same_iff_along (op.agrees_removeFlag r), serialSum_run_eq,
    serialSum_history op.column (by decide), columns_eq, Int.add_zero, lowBytes_emod]
  rfl

/-- Along the specification, in terms of the numbers. -/
theorem along_iff (pairs : List (Byte × Byte)) :
    (serialSum 256 op.column).Along Kept 0 pairs ↔ ∀ i (hi : i < pairs.length),
      op.carryOut (pairs.take i) = 1 → (pairs[i]).2.toNat ≠ 0xFF := by
  rw [System.along_iff_getElem]
  refine forall₂_congr fun i hi ↦ ?_
  rw [Kept, serialSum_run_eq, apply_carryOut_ne_zero_iff, not_and]

/-- What the last instruction leaves, if the bytes below have come out right. -/
theorem run_last_spec (r : Registers) {init : List (Byte × Byte)} {last : Byte × Byte}
    (h : (serialSum 256 op.column).Along Kept 0 (init ++ [last])) :
    ∃ A carry, Outcome ((byteSerial op.next).run (Cpu.removeFlag r flagCarry) (init ++ [last]))
      A (op = .sub) carry
      (¬InRange 16 (op.digit (last.1.toNat % 16) (last.2.toNat % 16) (op.carryOut init)) ∧
        ¬(op.carryOut init = 1 ∧ last.2.toNat % 16 = 0xF)) ∧
      (A = 0 ↔ op.digit last.1.toNat last.2.toNat (op.carryOut init) % 256 = 0) := by
  have hagrees := ((op.same_iff_along r init).2 (System.along_append.1 h).1).2
  have hcarry : ((byteSerial op.next).run (Cpu.removeFlag r flagCarry) init).carryIn =
      op.carryOut init := by
    rw [Agrees] at hagrees
    cases op <;> simp only [apply] at hagrees <;> omega
  have hspec := op.loadAndApply_spec
    ((byteSerial op.next).run (Cpu.removeFlag r flagCarry) init) last
  rw [hcarry] at hspec
  rw [System.run_append]
  refine ⟨_, _, hspec, ?_⟩
  have hzero : (0 : Byte).toNat = 0 := rfl
  rw [← BitVec.toNat_inj, BitVec.toNat_ofInt, hzero]
  omega

/-- **When arithmetic on several bytes is right**: no carry is added to a byte 0xFF of the second
number, nor to a last byte that ends in 0xF. -/
theorem computes_iff (r : Registers) (init : List (Byte × Byte)) (last : Byte × Byte) :
    op.Computes init last (multiByte op.first op.next r (init ++ [last])) ↔
      (∀ i (hi : i < (init ++ [last]).length), op.carryOut ((init ++ [last]).take i) = 1 →
        ((init ++ [last])[i]).2.toNat ≠ 0xFF) ∧
      (op.carryOut init = 1 → last.2.toNat % 16 ≠ 0xF) := by
  have hlength : (init ++ [last]).length = init.length + 1 := List.length_append
  rw [← along_iff, multiByte_eq op.first_eq_next r (by simp)]
  constructor
  · intro h
    have halong : (serialSum 256 op.column).Along Kept 0 (init ++ [last]) := by
      rw [← op.same_iff_along r, agrees_iff, hlength]
      exact ⟨h.bytes, h.carry⟩
    refine ⟨halong, fun hcarry hnibble ↦ ?_⟩
    -- the half-carry flag is clear, and there is a half-carry
    obtain ⟨A, _, hspec, -⟩ := op.run_last_spec r halong
    have hflag := h.halfCarry.symm.trans hspec.halfCarry
    have hhalf :
        ¬InRange 16 (op.digit (last.1.toNat % 16) (last.2.toNat % 16) (op.carryOut init)) := by
      rw [hcarry, hnibble, InRange, digit]
      cases op <;> simp only [apply] <;> omega
    exact (hflag.1 hhalf).2 ⟨hcarry, hnibble⟩
  · rintro ⟨halong, hnibble⟩
    have hsame := (op.same_iff_along r _).2 halong
    rw [agrees_iff, hlength] at hsame
    obtain ⟨A, _, hspec, hzero⟩ := op.run_last_spec r halong
    refine ⟨hsame.1, hsame.2, hspec.negative, hspec.zero.trans hzero, hspec.halfCarry.trans ?_⟩
    exact and_iff_left fun h ↦ hnibble h.1 h.2

end Arith

/-! ## Addition -/

/-- A carry meets 0xFF in the second byte: 0x0001 and 0xFFFF. -/
theorem adc_loses_carry : ¬Arith.add.Computes [(0x01, 0xFF)] (0x00, 0xFF)
    (multiByte Cpu.addS Cpu.adcS Machine.powerOn.registers [(0x01, 0xFF), (0x00, 0xFF)]) := by
  intro h
  exact absurd h.carry (by decide)

/-- **When addition on several bytes is right.**  The carry is added to the operand before the
sum, in eight bits, and so the carry into a byte 0xFF is lost.  At the last byte, where the flags
are looked at, it may also spoil the half-carry, if the low half of the operand is 0xF. -/
theorem addBytes_iff (r : Registers) (init : List (Byte × Byte)) (last : Byte × Byte) :
    Arith.add.Computes init last (multiByte Cpu.addS Cpu.adcS r (init ++ [last])) ↔
      (∀ i (hi : i < (init ++ [last]).length), Arith.add.carryOut ((init ++ [last]).take i) = 1 →
        ((init ++ [last])[i]).2.toNat ≠ 0xFF) ∧
      (Arith.add.carryOut init = 1 → last.2.toNat % 16 ≠ 0xF) :=
  Arith.add.computes_iff r init last

/-! ## Subtraction -/

/-- A borrow meets 0xFF in the second byte: 0x0000 and 0xFF01. -/
theorem sbc_loses_borrow : ¬Arith.sub.Computes [(0x00, 0x01)] (0x00, 0xFF)
    (multiByte Cpu.subS Cpu.sbcS Machine.powerOn.registers [(0x00, 0x01), (0x00, 0xFF)]) := by
  intro h
  exact absurd h.carry (by decide)

/-- **When subtraction on several bytes is right.**  As in an addition, the borrow is added to the
operand in eight bits: it is lost at a byte 0xFF, and at the last byte a low half of 0xF with a
borrow makes the half-carry wrong. -/
theorem subBytes_iff (r : Registers) (init : List (Byte × Byte)) (last : Byte × Byte) :
    Arith.sub.Computes init last (multiByte Cpu.subS Cpu.sbcS r (init ++ [last])) ↔
      (∀ i (hi : i < (init ++ [last]).length), Arith.sub.carryOut ((init ++ [last]).take i) = 1 →
        ((init ++ [last])[i]).2.toNat ≠ 0xFF) ∧
      (Arith.sub.carryOut init = 1 → last.2.toNat % 16 ≠ 0xF) :=
  Arith.sub.computes_iff r init last

end GameBloat
