import GameBloat.Cpu.Operands

/-!
# BIT, RES and SET as one family

`CBOpcodeTable.c` has one function for each bit of each operand, 192 in all.  The opcodes from
0x40 on are made of two fields, the low one for the operand and the middle one for the bit, and
`decodeBit` is the formula.  What it does to the operand is said bit by bit in
`cbOpcodeTable_bitFamily`.

The proof has three layers, as for the base table.  That the table is the formula is one equation
of lists (`cbOpcodeTable_bits`), whose sides agree entry by entry by definition.  What the formula
does to the machine is an assignment to an operand (`resOn_eq`, `setOn_eq`) or to the flags alone
(`bitOn_eq`).  And what the assigned value is, is said of single bits: `getLsbD_res` and
`getLsbD_set` have the bit in question and all others in one equation.

The operand may be the byte at `HL`.  Then an assignment is a store, which does what an assignment
should only if `HL` points to memory and not to a register of the hardware; this is the hypothesis
`Plain`, and `Operand.Updated` is the frame that comes with it: no other register, and no byte of
memory that is not the same cell.
-/

set_option autoImplicit false

namespace GameBloat

open CBOpcode (cbOpcodeTable)

/-! ## The decoder -/

/-- `BIT b, x`, on a register or through `HL`: the two functions of `cpu.c` that the rows of the
table call. -/
def bitOn (b : ℕ) (x : Operand) (m : Machine) : Machine :=
  match x with
  | .reg ptr => m.onRegisters (Cpu.bitBS · b ptr)
  | .mHL => Cpu.bitBSHL m b

/-- `RES b, x`. -/
def resOn (b : ℕ) (x : Operand) (m : Machine) : Machine :=
  match x with
  | .reg ptr => m.onRegisters (Cpu.resBS · b ptr)
  | .mHL => Cpu.resBSHL m b

/-- `SET b, x`. -/
def setOn (b : ℕ) (x : Operand) (m : Machine) : Machine :=
  match x with
  | .reg ptr => m.onRegisters (Cpu.setBS · b ptr)
  | .mHL => Cpu.setBSHL m b

/-- The bit that bits 3 to 5 of an opcode name. -/
def bitOf (cb : Byte) : ℕ := (middleField cb).val

/-- The effect of a CB opcode from 0x40 on, from its fields. -/
def decodeBit (cb : Byte) : Machine → Machine :=
  if cb.toNat < 0x80 then bitOn (bitOf cb) (operandOf cb)
  else if cb.toNat < 0xC0 then resOn (bitOf cb) (operandOf cb)
  else setOn (bitOf cb) (operandOf cb)

seal storeByte mmuReadByte mmuWriteByte in
set_option maxRecDepth 4000 in
/-- The table is the decoder. -/
theorem cbOpcodeTable_bits : (cbOpcodeTable.toList.drop 0x40).take 0xC0 =
    (List.range' 0x40 0xC0).map fun cb ↦ .noOperands (decodeBit (BitVec.ofNat 8 cb)) := by
  rfl

theorem cbOpcodeTable_get {cb : Byte} (h : 0x40 ≤ cb.toNat) :
    cbOpcodeTable.get cb.toFin = .noOperands (decodeBit cb) :=
  get_of_take_drop (f := fun cb ↦ .noOperands (decodeBit cb)) cbOpcodeTable_bits h cb.isLt

/-! ## One bit -/

section

variable (value : Byte) {b : ℕ} (hb : b < 8)

include hb

theorem and_bit_eq_zero_iff : value &&& (1 : Byte) <<< b = 0 ↔ value.getLsbD b = false := by
  have htwo : (1 : Byte) <<< b = BitVec.twoPow 8 b := (BitVec.twoPow_eq 8 b).symm
  rw [htwo, BitVec.and_twoPow]
  cases hbit : value.getLsbD b with
  | false => exact iff_of_true rfl rfl
  | true =>
    refine iff_of_false (fun h ↦ ?_) (by simp)
    have := congrArg (·.getLsbD b) h
    simp [hb] at this

/-- Clearing a bit. -/
theorem getLsbD_res {i : ℕ} (hi : i < 8) :
    (value &&& ~~~((1 : Byte) <<< b)).getLsbD i = if i = b then false else value.getLsbD i := by
  have htwo : (1 : Byte) <<< b = BitVec.twoPow 8 b := (BitVec.twoPow_eq 8 b).symm
  rw [htwo, BitVec.getLsbD_and, BitVec.getLsbD_not, BitVec.getLsbD_twoPow]
  by_cases h : i = b
  · simp [h, hb]
  · simp [h, Ne.symm h, hi]

/-- Setting a bit. -/
theorem getLsbD_set {i : ℕ} :
    (value ||| (1 : Byte) <<< b).getLsbD i = if i = b then true else value.getLsbD i := by
  have htwo : (1 : Byte) <<< b = BitVec.twoPow 8 b := (BitVec.twoPow_eq 8 b).symm
  rw [htwo, BitVec.getLsbD_or, BitVec.getLsbD_twoPow]
  by_cases h : i = b
  · simp [h, hb]
  · simp [h, Ne.symm h]

end

/-- The flags after a BIT: `zero` goes to Z, N is cleared, H is set and the rest kept, which
includes the carry. -/
theorem flagged_bit (F : Byte) (zero : Bool) :
    let F' := flagged (F &&& ~~~Cpu.flagNegative ||| Cpu.flagHalfCarry) Cpu.flagZero zero
    (F' &&& Cpu.flagZero ≠ 0 ↔ zero = true) ∧ F' &&& Cpu.flagNegative = 0 ∧
      F' &&& Cpu.flagHalfCarry ≠ 0 ∧ F' &&& 0x1F = F &&& 0x1F := by
  revert F
  cases zero <;> decide

/-! ## The instructions -/

/-- BIT changes the flags only. -/
theorem bitOn_eq (b : ℕ) (x : Operand) (m : Machine) :
    bitOn b x m = m.onRegisters fun r ↦ { r with
      F := flagged (r.F &&& ~~~Cpu.flagNegative ||| Cpu.flagHalfCarry) Cpu.flagZero
        (decide (x.get m &&& (1 : Byte) <<< b = 0)) } := by
  cases x with
  | reg ptr =>
    show m.onRegisters (Cpu.bitBS · b ptr) = _
    refine Machine.onRegisters_congr ?_
    have hget : (Cpu.setFlag (Cpu.removeFlag m.registers Cpu.flagNegative)
        Cpu.flagHalfCarry).get8 ptr = m.registers.get8 ptr := by cases ptr <;> rfl
    simp only [Cpu.bitBS, writeFlag_eq, hget]
    rfl
  | mHL =>
    show Cpu.bitBSHL m b = _
    simp only [Cpu.bitBSHL, writeFlag_eq]
    rfl

/-- RES and SET assign the operand. -/
theorem resOn_eq (b : ℕ) (x : Operand) (m : Machine) :
    resOn b x m = x.put m (x.get m &&& ~~~((1 : Byte) <<< b)) := by
  cases x <;> rfl

theorem setOn_eq (b : ℕ) (x : Operand) (m : Machine) :
    setOn b x m = x.put m (x.get m ||| (1 : Byte) <<< b) := by
  cases x <;> rfl

/-- Assigning an operand alone leaves the flags as they are, and everything else but the operand. -/
theorem Operand.updated_put (x : Operand) {m : Machine} (hHL : Plain m.registers.HL)
    (value : Byte) : x.Updated m (x.put m value) value m.registers.F := by
  have h := x.updated hHL value m.registers.F
  have hput : ((x.put m value).onRegisters fun r ↦ { r with F := m.registers.F }) =
      x.put m value := by
    rw [← (x.put_registers m value).1]
    rfl
  rwa [hput] at h

/-- **BIT, RES and SET.**  For every CB opcode from 0x40 on, the middle field is a bit and the low
one an operand: BIT leaves the bit's complement in Z, clears N, sets H and changes nothing else; RES
clears the bit and SET sets it, and the operand's other bits, the flags, the other registers and the
rest of memory stay as they are. -/
theorem cbOpcodeTable_bitFamily {cb : Byte} (hcb : 0x40 ≤ cb.toNat) (m : Machine)
    (hHL : Plain m.registers.HL) (operand : Word) :
    let m' := executeOpcode m (cbOpcodeTable.get cb.toFin) operand
    let b := cb.toNat / 8 % 8
    let x := operands.get (lowField cb)
    (cb.toNat < 0x80 → ∃ F, m' = m.onRegisters (fun r ↦ { r with F }) ∧
      (F &&& Cpu.flagZero ≠ 0 ↔ (x.get m).getLsbD b = false) ∧ F &&& Cpu.flagNegative = 0 ∧
      F &&& Cpu.flagHalfCarry ≠ 0 ∧ F &&& 0x1F = m.registers.F &&& 0x1F) ∧
    (0x80 ≤ cb.toNat → ∃ value, x.Updated m m' value m.registers.F ∧
      ∀ i < 8, value.getLsbD i =
        if i = b then decide (0xC0 ≤ cb.toNat) else (x.get m).getLsbD i) := by
  rw [cbOpcodeTable_get hcb, ← toNat_middleField]
  have hb : bitOf cb < 8 := (middleField cb).isLt
  refine ⟨fun h ↦ ?_, fun h ↦ ?_⟩
  · have hbit : decodeBit cb m = bitOn (bitOf cb) (operandOf cb) m := by rw [decodeBit, if_pos h]
    refine ⟨_, hbit.trans (bitOn_eq _ _ m), ?_⟩
    have hflags := flagged_bit m.registers.F
      (decide ((operandOf cb).get m &&& (1 : Byte) <<< bitOf cb = 0))
    exact ⟨hflags.1.trans (decide_eq_true_iff.trans (and_bit_eq_zero_iff _ hb)), hflags.2⟩
  · rcases Nat.lt_or_ge cb.toNat 0xC0 with hlt | hge
    · have hres : decodeBit cb m = resOn (bitOf cb) (operandOf cb) m := by
        rw [decodeBit, if_neg (by omega), if_pos hlt]
      have hput := (operandOf cb).updated_put hHL
        ((operandOf cb).get m &&& ~~~((1 : Byte) <<< bitOf cb))
      rw [← resOn_eq, ← hres] at hput
      refine ⟨_, hput, fun i hi ↦ ?_⟩
      rw [getLsbD_res _ hb hi, decide_eq_false (Nat.not_le_of_lt hlt)]
      rfl
    · have hset : decodeBit cb m = setOn (bitOf cb) (operandOf cb) m := by
        rw [decodeBit, if_neg (by omega), if_neg (by omega)]
      have hput := (operandOf cb).updated_put hHL ((operandOf cb).get m ||| (1 : Byte) <<< bitOf cb)
      rw [← setOn_eq, ← hset] at hput
      refine ⟨_, hput, fun i hi ↦ ?_⟩
      rw [getLsbD_set _ hb, decide_eq_true hge]
      rfl

/-- `RES 7, (HL)` on the first byte of work RAM. -/
theorem cbOpcodeTable_bitFamily_be :
    let m := Machine.powerOn.onRegisters fun r ↦ { r with H := 0xC0 }
    ∃ value, Operand.mHL.Updated m
        (executeOpcode m (cbOpcodeTable.get (0xBE : Byte).toFin) 0) value m.registers.F ∧
      ∀ i < 8, value.getLsbD i = if i = 7 then false else (Operand.mHL.get m).getLsbD i :=
  (cbOpcodeTable_bitFamily (show 0x40 ≤ (0xBE : Byte).toNat by decide)
    (Machine.powerOn.onRegisters fun r ↦ { r with H := 0xC0 }) (by decide) 0).2 (by decide)

end GameBloat
