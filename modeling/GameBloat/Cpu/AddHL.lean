import GameBloat.Cpu.Arithmetic

/-!
# ADD HL,ss

`add_HL_ss` takes the carry from bit 15, as it should, but the half-carry from bit 3 of the 16-bit
sum, where an 8-bit addition has it.  The half-carry of a 16-bit addition is out of bit 11, so H
is right for the operands that have both or neither (`addHLSs_adds_iff`).

What the instruction should do is the structure `AddsToHL`, on numbers: the sum modulo 2¹⁶, the
two carries as comparisons, N cleared, and a frame that names the three registers that may change.
Z is in the frame, since the instruction leaves it alone, and so are the four bits below the
flags.

* `addHLSs_eq` evaluates the function: the sum in `HL` and the flags as three writes to `F`.
* `addHLSs_flags` reads these flags.
* `addHLSs_adds_iff` is the law for the function, for every register file and operand.
* `baseOpcodeTable_addHL` finds the function in the table, with the register pair of each of the
  four opcodes, and `addHL_iff` has the law for both.

The exact condition is `SameHalfCarry`, that the sum of the low nibbles overflows just when the
sum of the low twelve bits does.  Nothing simpler would be equivalent, as neither overflow implies
the other.
-/

set_option autoImplicit false

namespace GameBloat

open BaseOpcode (baseOpcodeTable)
open Cpu (flagZero flagNegative flagHalfCarry flagCarry)

/-- From `r` to `r'`, `ss` is added to `HL`: C and H are the carries out of the 16 and the lowest
12 bits, N is clear, and Z and everything else stays as it is.  This is what the manuals of the
processor say of the instruction; nothing in it is taken from the code. -/
structure AddsToHL (ss : Word) (r r' : Registers) : Prop where
  result : r'.HL.toNat = (r.HL.toNat + ss.toNat) % 65536
  carry : r'.HasFlag flagCarry ↔ 65535 < r.HL.toNat + ss.toNat
  halfCarry : r'.HasFlag flagHalfCarry ↔ 4095 < r.HL.toNat % 4096 + ss.toNat % 4096
  negative : ¬r'.HasFlag flagNegative
  others : r'.F &&& 0x8F = r.F &&& 0x8F
  registers : r' = { r with H := r'.H, L := r'.L, F := r'.F }

/-- The carry out of the lowest 4 bits of a sum is that out of the lowest 12: the operands for
which it makes no difference that the code looks at the wrong one. -/
def SameHalfCarry (x y : Word) : Prop :=
  15 < x.toNat % 16 + y.toNat % 16 ↔ 4095 < x.toNat % 4096 + y.toNat % 4096

instance (x y : Word) : Decidable (SameHalfCarry x y) := inferInstanceAs (Decidable (_ ↔ _))

/-- The function as the sum in `HL` and three writes to the flag register, one after the other.
The carry is tested in a 32-bit sum. -/
theorem addHLSs_eq (r : Registers) (ss : Word) :
    Cpu.addHLSs r ss = { r.setHL (r.HL + ss) with
      F := flagged (flagged (r.F &&& ~~~flagNegative) flagCarry
        (65535 < r.HL.toNat + ss.toNat)) flagHalfCarry
          (15 < r.HL.toNat % 16 + ss.toNat % 16) } := by
  let sum : BitVec 32 := r.HL.setWidth 32 + ss.setWidth 32
  have hsum : sum.toNat = r.HL.toNat + ss.toNat := by
    simp only [sum]
    bv_omega
  have hcarry : sum &&& Cpu.highWordMask ≠ 0 ↔ 65535 < r.HL.toNat + ss.toNat := by
    rw [and_highMask_ne_zero_iff (k := 16) (by decide), hsum]
    exact Iff.rfl
  have hresult : sum.setWidth 16 = r.HL + ss := by
    refine BitVec.eq_of_toNat_eq ?_
    rw [BitVec.toNat_setWidth, hsum, BitVec.toNat_add]
  have hbody : Cpu.addHLSs r ss = { r.setHL (sum.setWidth 16) with
      F := flagged (flagged (r.F &&& ~~~flagNegative) flagCarry (sum &&& Cpu.highWordMask ≠ 0))
        flagHalfCarry (Cpu.lowNibble.toNat < (r.HL &&& Cpu.lowNibble.setWidth 16).toNat +
          (ss &&& Cpu.lowNibble.setWidth 16).toNat) } := by
    simp only [Cpu.addHLSs, writeFlag_eq]
    rfl
  rw [hbody, hresult, decide_eq_decide.2 hcarry]
  simp only [toNat_and_lowNibble16]
  rfl

theorem addHLSs_flags (F : Byte) (c h : Bool) :
    let F' := flagged (flagged (F &&& ~~~flagNegative) flagCarry c) flagHalfCarry h
    (F' &&& flagCarry ≠ 0 ↔ c = true) ∧ (F' &&& flagHalfCarry ≠ 0 ↔ h = true) ∧
      F' &&& flagNegative = 0 ∧ F' &&& 0x8F = F &&& 0x8F := by
  revert F
  cases c <;> cases h <;> decide

/-- All is right but the half-carry. -/
theorem addHLSs_adds_iff (r : Registers) (ss : Word) :
    AddsToHL ss r (Cpu.addHLSs r ss) ↔ SameHalfCarry r.HL ss := by
  obtain ⟨hcarry, hhalf, hnegative, hothers⟩ := addHLSs_flags r.F
    (65535 < r.HL.toNat + ss.toNat) (15 < r.HL.toNat % 16 + ss.toNat % 16)
  have hflag : (Cpu.addHLSs r ss).HasFlag flagHalfCarry ↔
      15 < r.HL.toNat % 16 + ss.toNat % 16 := by
    rw [addHLSs_eq]
    exact hhalf.trans decide_eq_true_iff
  constructor
  · exact fun h ↦ hflag.symm.trans h.halfCarry
  · intro h
    refine ⟨?_, ?_, hflag.trans h, ?_, ?_, ?_⟩ <;> rw [addHLSs_eq]
    · show ((r.setHL (r.HL + ss)).HL).toNat = _
      rw [Registers.HL_setHL, BitVec.toNat_add]
    · exact hcarry.trans decide_eq_true_iff
    · exact not_not.2 hnegative
    · exact hothers
    · rfl

/-! ## The opcodes -/

/-- The register pairs that can be added. -/
def addends : Vector Reg16 4 := #v[.BC, .DE, .HL, .SP]

/-- The opcodes 0x09, 0x19, 0x29 and 0x39. -/
def addHLOpcode (i : Fin 4) : Byte := BitVec.ofNat 8 (0x09 + 0x10 * i)

theorem baseOpcodeTable_addHL (i : Fin 4) : baseOpcodeTable.get (addHLOpcode i).toFin =
    .noOperands fun m ↦ m.onRegisters fun r ↦ Cpu.addHLSs r (r.get16 (addends.get i)) := by
  match i with
  | 0 | 1 | 2 | 3 => rfl

/-- 0x0008 + 0x0008: there is a carry out of bit 3, and H is set. -/
theorem addHLSs_half_carry :
    let r := { Machine.powerOn.registers with H := 0x00, L := 0x08 }
    ¬AddsToHL 0x0008 r (Cpu.addHLSs r 0x0008) := by
  intro r h
  exact absurd h.halfCarry (by decide)

/-- **When ADD HL,ss is right**: `add_HL_ss`, and the four opcodes with their register pairs,
which change nothing but the registers.  The sum and the carry are right for all operands; the
half-carry is taken at bit 4, and belongs at bit 12. -/
theorem addHL_iff (m : Machine) (ss : Word) (i : Fin 4) (operand : Word) :
    (AddsToHL ss m.registers (Cpu.addHLSs m.registers ss) ↔ SameHalfCarry m.registers.HL ss) ∧
    let m' := executeOpcode m (baseOpcodeTable.get (addHLOpcode i).toFin) operand
    let pair := m.registers.get16 (addends.get i)
    m' = { m with registers := Cpu.addHLSs m.registers pair } ∧
      (AddsToHL pair m.registers m'.registers ↔ SameHalfCarry m.registers.HL pair) := by
  refine ⟨addHLSs_adds_iff m.registers ss, ?_⟩
  rw [baseOpcodeTable_addHL]
  exact ⟨rfl, addHLSs_adds_iff _ _⟩

end GameBloat
