import GameBloat.Cpu.Operands

/-!
# The regular half of the base table as a decoder

The opcodes from 0x40 to 0xBF are made of two fields: the low one names the operand that is read,
and the middle one the operand it is copied to, or the arithmetic operation it is used in.
`BaseOpcodeTable.c` writes the 127 instructions out one by one.  `decodeRegular` is the formula,
and `baseOpcodeTable_regular` says that the table is nothing else.

The comparison is one of tables, done once: the list of entries between two opcodes is equal to
the list of what the decoder makes of these opcodes (`baseOpcodeTable_loads` and
`baseOpcodeTable_arithmetic`).  Each side is a closed list of functions, and the entries agree by
definition.  `get_of_take_drop` then turns the equation of lists into one for each opcode, so that
no proof has 127 cases.  The place of `LD (HL),(HL)` is taken by HALT, which has no fields; the
two stretches lie on either side of it.

What is left is to say what the operations touch, in terms that do not depend on the decoder:

* a load changes the operand that it writes, and no other register and no flag;
* an operation changes `A` and the flags only (`operations_get`);
* a comparison changes the flags only, and they are those of a subtraction (`cmpS_eq_subS`).

A missing row or a row with the wrong operand would have shown up as an entry that is not equal;
in this quarter of the table there is none.
-/

set_option autoImplicit false

namespace GameBloat

open BaseOpcode (baseOpcodeTable)

/-! ## The decoder -/

/-- The numbering of the arithmetic operations: ADD, ADC, SUB, SBC, AND, XOR, OR and CP. -/
def operations : Vector (Registers → Byte → Registers) 8 :=
  #v[Cpu.addS, Cpu.adcS, Cpu.subS, Cpu.sbcS, Cpu.andS, Cpu.xorS, Cpu.orS, Cpu.cmpS]

/-- The operand a load writes. -/
def targetOf (op : Byte) : Operand := operands.get (middleField op)

/-- The effect of a regular opcode, from its fields: up to 0x7F a copy from the operand in the low
field to that in the middle one, and from 0x80 on the operation in the middle field, on `A` and
the operand. -/
def decodeRegular (op : Byte) (m : Machine) : Machine :=
  if op.toNat < 0x80 then (targetOf op).put m ((operandOf op).get m)
  else m.onRegisters (operations.get (middleField op) · ((operandOf op).get m))

/-! ## The table -/

-- the two sides are compared entry by entry, down to the functions of `cpu.c`
seal storeByte mmuReadByte mmuWriteByte in
set_option maxRecDepth 4000 in
/-- The opcodes before HALT. -/
theorem baseOpcodeTable_loads : (baseOpcodeTable.toList.drop 0x40).take 0x36 =
    (List.range' 0x40 0x36).map fun op ↦ .noOperands (decodeRegular (BitVec.ofNat 8 op)) := by
  rfl

seal storeByte mmuReadByte mmuWriteByte in
set_option maxRecDepth 4000 in
/-- The opcodes after HALT. -/
theorem baseOpcodeTable_arithmetic : (baseOpcodeTable.toList.drop 0x77).take 0x49 =
    (List.range' 0x77 0x49).map fun op ↦ .noOperands (decodeRegular (BitVec.ofNat 8 op)) := by
  rfl

theorem baseOpcodeTable_get {op : Byte} (hlo : 0x40 ≤ op.toNat) (hhi : op.toNat < 0xC0)
    (hhalt : op ≠ 0x76) : baseOpcodeTable.get op.toFin = .noOperands (decodeRegular op) := by
  have hne : op.toNat ≠ 0x76 := fun h ↦ hhalt (BitVec.eq_of_toNat_eq h)
  rcases Nat.lt_or_gt_of_ne hne with h | h
  · exact get_of_take_drop (f := fun op ↦ .noOperands (decodeRegular op)) baseOpcodeTable_loads
      hlo (by omega)
  · exact get_of_take_drop (f := fun op ↦ .noOperands (decodeRegular op))
      baseOpcodeTable_arithmetic (by omega) (by omega)

/-! ## What the operations touch -/

/-- An arithmetic operation changes `A` and `F` only. -/
theorem operations_get (i : Fin 8) (r : Registers) (s : Byte) :
    ∃ A F, operations.get i r s = { r with A, F } := by
  have hadd (s : Byte) : ∃ A F, Cpu.addS r s = { r with A, F } := by
    simp only [Cpu.addS, writeFlag_eq]
    exact ⟨_, _, rfl⟩
  have hsub (s : Byte) : ∃ A F, Cpu.subS r s = { r with A, F } := by
    simp only [Cpu.subS, writeFlag_eq]
    exact ⟨_, _, rfl⟩
  have hlogic (op : Byte → Byte → Byte) : ∃ A F, Cpu.logicS op r s = { r with A, F } := by
    simp only [Cpu.logicS, writeFlag_eq]
    exact ⟨_, _, rfl⟩
  match i with
  | 0 => exact hadd s
  | 1 => exact hadd _
  | 2 => exact hsub s
  | 3 => exact hsub _
  | 4 =>
    show ∃ A F, Cpu.andS r s = { r with A, F }
    simp only [Cpu.andS, writeFlag_eq]
    exact ⟨_, _, rfl⟩
  | 5 => exact hlogic _
  | 6 => exact hlogic _
  | 7 =>
    show ∃ A F, Cpu.cmpS r s = { r with A, F }
    simp only [Cpu.cmpS, writeFlag_eq]
    exact ⟨_, _, rfl⟩

/-- Comparing is subtracting for the flags alone. -/
theorem cmpS_eq_subS (r : Registers) (s : Byte) :
    Cpu.cmpS r s = { r with F := (Cpu.subS r s).F } := by
  have hzero : r.A - s = 0 ↔ r.A = s := by
    rw [BitVec.sub_eq_iff_eq_add, show 0 + s = s from BitVec.zero_add s]
  have hA : (Cpu.setFlag r Cpu.flagNegative).A = r.A := rfl
  simp only [Cpu.cmpS, Cpu.subS, writeFlag_eq, hA, hzero]
  rfl

/-- **The regular half of the base table is a decoder.**  Every opcode from 0x40 to 0xBF, HALT
apart, does what its fields say: up to 0x7F it copies an operand to an operand and changes no other
register; from 0x80 on it changes `A` and `F` only, and from 0xB8 on `F` only, as a subtraction
would. -/
theorem baseOpcodeTable_regular {op : Byte} (hlo : 0x40 ≤ op.toNat) (hhi : op.toNat < 0xC0)
    (hhalt : op ≠ 0x76) (m : Machine) (operand : Word) :
    let m' := executeOpcode m (baseOpcodeTable.get op.toFin) operand
    m' = decodeRegular op m ∧
    (op.toNat < 0x80 →
      m' = (targetOf op).put m ((operandOf op).get m) ∧
      m'.registers.F = m.registers.F ∧ m'.registers.SP = m.registers.SP ∧
      m'.registers.PC = m.registers.PC ∧
      ∀ ptr, targetOf op ≠ .reg ptr → m'.registers.get8 ptr = m.registers.get8 ptr) ∧
    (0x80 ≤ op.toNat →
      m' = m.onRegisters (operations.get (middleField op) · ((operandOf op).get m)) ∧
      ∃ A F, m' = m.onRegisters fun r ↦ { r with A, F }) ∧
    (0xB8 ≤ op.toNat →
      m' = m.onRegisters fun r ↦ { r with F := (Cpu.subS r ((operandOf op).get m)).F }) := by
  rw [baseOpcodeTable_get hlo hhi hhalt]
  have hload (h : op.toNat < 0x80) :
      decodeRegular op m = (targetOf op).put m ((operandOf op).get m) := if_pos h
  have hoperation (h : 0x80 ≤ op.toNat) : decodeRegular op m =
      m.onRegisters (operations.get (middleField op) · ((operandOf op).get m)) :=
    if_neg (Nat.not_lt_of_le h)
  refine ⟨rfl, fun h ↦ ⟨hload h, ?_⟩, fun h ↦ ⟨hoperation h, ?_⟩, fun h ↦ ?_⟩
  · show (decodeRegular op m).registers.F = _ ∧ (decodeRegular op m).registers.SP = _ ∧
      (decodeRegular op m).registers.PC = _ ∧
      ∀ ptr, _ → (decodeRegular op m).registers.get8 ptr = _
    rw [hload h]
    exact (targetOf op).put_registers m _
  · obtain ⟨A, F, hAF⟩ := operations_get (middleField op) m.registers ((operandOf op).get m)
    exact ⟨A, F, (hoperation h).trans (Machine.onRegisters_congr hAF)⟩
  · have hfield : middleField op = 7 := by
      apply Fin.ext
      rw [toNat_middleField]
      show op.toNat / 8 % 8 = 7
      omega
    refine (hoperation (by omega)).trans (Machine.onRegisters_congr ?_)
    rw [hfield]
    exact cmpS_eq_subS _ _

/-- `CP (HL)`. -/
theorem baseOpcodeTable_regular_be :
    executeOpcode Machine.powerOn (baseOpcodeTable.get (0xBE : Byte).toFin) 0 =
      Machine.powerOn.onRegisters fun r ↦
        { r with F := (Cpu.subS r ((operandOf 0xBE).get Machine.powerOn)).F } :=
  (baseOpcodeTable_regular (by decide) (by decide) (by decide) Machine.powerOn 0).2.2.2 (by decide)

end GameBloat
