import GameBloat.Cpu.Calls

/-!
# Conditional control transfer

The processor has four kinds of control transfer, and each of them a conditional form whose opcode
names the condition in bits 3 and 4.  In the source every such opcode has a function of its own
that passes a flag and the value to compare it with; `Transfer.tested` says which condition that
is (`execute_conditional`).  It is the one in the opcode for all of them but `CALL C`, which tests
what `CALL NC` does.  `JP (HL)` is the other stray: it jumps to the word stored at `HL`.

The law of a conditional transfer compares two opcodes: with the condition, it does what the
unconditional opcode of its kind does on the same operand, and without it, it moves past the
instruction.  Ticks are left open on both sides, since a taken branch costs more.  Stating it by
comparison has the advantage that the law does not repeat what a call or a return is.

* The first section follows `cpuStep` for an opcode that is known, with and without the prefix;
  `cpuStep_base` and `cpuStep_cb` are used wherever a single instruction is traced.
* `Cond` and `Transfer` are the documented conditions and kinds, with the numbers they have in the
  opcode, and `tested` is the one place where the table is not what the opcode says.
* `Transfer.lawful_iff` and `lawful_jpMHL_iff` are the law with its exact exceptions: every state
  in which `CALL C` runs is one where it goes wrong, while `JP (HL)` is right if `HL` points at
  its own value.
* `Transfer.takes_xor_iff`: of two opposite conditions exactly one is taken, unless the pair is
  `CALL NC` and `CALL C`, of which both are or neither is.
* `controlTransfer_iff` is all of it.

That `CALL C` breaks the law in every state is seen from `SP`: a call that should not be made
lowers it by two, and one that should be made and is not leaves it alone.
-/

set_option autoImplicit false

namespace GameBloat

open BaseOpcode (baseOpcodeTable baseOpcodeTicks)
open CBOpcode (cbOpcodeTable cbOpcodeTicks)
open Cpu (flagZero flagCarry flagIsSet flagNotSet)

/-! ## Fetching -/

/-- The machine past an instruction of `length` bytes, with `ticks` charged.  Nothing else has
changed: fetching reads memory and writes `PC` and the tick counter. -/
def Machine.past (m : Machine) (length ticks : ℕ) : Machine :=
  Cpu.addTicks (m.onRegisters fun r ↦ { r with PC := r.PC + BitVec.ofNat 16 length }) ticks

theorem cpuStep_eq_executeOpcode (m : Machine) :
    (cpuStep m).1 = executeOpcode m.fetched.1 (determineOpcode m).1 m.fetched.2 := rfl

section

variable {m : Machine} {op : Byte} (hop : mmuReadByte m m.registers.PC = op) (hcb : op ≠ 0xCB)

include hop hcb

theorem determineOpcode_base :
    determineOpcode m =
      (baseOpcodeTable.get op.toFin, Cpu.addTicks m.incPC (baseOpcodeTicks.get op.toFin)) := by
  rw [determineOpcode]
  simp only [hop, hcb, if_false]

/-- Fetching moves `PC` past the instruction, whatever the operand. -/
theorem fetched_base : m.fetched.1 =
    m.past (1 + (baseOpcodeTable.get op.toFin).operandType) (baseOpcodeTicks.get op.toFin) := by
  show (determineOperand (determineOpcode m).2 (determineOpcode m).1).2 = _
  rw [determineOpcode_base hop hcb, Machine.past, BitVec.ofNat_add]
  simp only [determineOperand, ← BitVec.add_assoc]
  rfl

theorem cpuStep_base :
    (cpuStep m).1 = executeOpcode m.fetched.1 (baseOpcodeTable.get op.toFin) m.fetched.2 := by
  rw [cpuStep_eq_executeOpcode, determineOpcode_base hop hcb]

/-- An opcode without an operand. -/
theorem cpuStep_noOperands {t : ℕ} {f : Machine → Machine}
    (hentry : baseOpcodeTable.get op.toFin = .noOperands f)
    (hticks : baseOpcodeTicks.get op.toFin = t) :
    (cpuStep m).1 = f (Cpu.addTicks m.incPC t) := by
  have hfetched : m.fetched.1 = Cpu.addTicks m.incPC t := by
    rw [fetched_base hop hcb, hentry, hticks]
    rfl
  rw [cpuStep_base hop hcb, hentry, hfetched]
  rfl

/-- An opcode with a one-byte operand. -/
theorem cpuStep_operandChar {t : ℕ} {f : Machine → Byte → Machine} {operand : Byte}
    (hentry : baseOpcodeTable.get op.toFin = .operandChar f)
    (hticks : baseOpcodeTicks.get op.toFin = t)
    (hoperand : mmuReadByte m (m.registers.PC + 1) = operand) :
    (cpuStep m).1 = f (Cpu.addTicks m.incPC.incPC t) operand := by
  have hfetched : m.fetched.1 = Cpu.addTicks m.incPC.incPC t := by
    rw [fetched_base hop hcb, hentry, hticks, Machine.past, BitVec.ofNat_add]
    simp only [← BitVec.add_assoc]
    rfl
  have hword : m.fetched.2 = operand.setWidth 16 := by
    show (determineOperand (determineOpcode m).2 (determineOpcode m).1).1 = _
    rw [determineOpcode_base hop hcb, hentry, ← hoperand]
    rfl
  rw [cpuStep_base hop hcb, hentry, hfetched, hword, executeOpcode,
    BitVec.setWidth_setWidth_of_le _ (by decide), BitVec.setWidth_eq]

end

/-- No CB opcode has an operand. -/
theorem operandType_cb (cb : Byte) : (cbOpcodeTable.get cb.toFin).operandType = 0 := by
  rcases Nat.lt_or_ge cb.toNat 0x40 with h | h
  · rw [cbOpcodeTable_get_shift h]
    rfl
  · rw [cbOpcodeTable_get h]
    rfl

section

variable {m : Machine} (hop : mmuReadByte m m.registers.PC = 0xCB)

include hop

theorem determineOpcode_cb :
    determineOpcode m =
      (cbOpcodeTable.get (mmuReadByte m (m.registers.PC + 1)).toFin,
        Cpu.addTicks m.incPC.incPC
          (cbOpcodeTicks.get (mmuReadByte m (m.registers.PC + 1)).toFin)) := by
  rw [determineOpcode]
  simp only [hop, if_true]
  rfl

theorem fetched_cb : m.fetched.1 =
    m.past 2 (cbOpcodeTicks.get (mmuReadByte m (m.registers.PC + 1)).toFin) := by
  show (determineOperand (determineOpcode m).2 (determineOpcode m).1).2 = _
  rw [determineOpcode_cb hop]
  simp only [determineOperand, operandType_cb]
  rw [Machine.past, show (2 : ℕ) = 1 + 1 + 0 from rfl, BitVec.ofNat_add, BitVec.ofNat_add]
  simp only [← BitVec.add_assoc]
  rfl

theorem cpuStep_cb :
    (cpuStep m).1 = executeOpcode m.fetched.1
      (cbOpcodeTable.get (mmuReadByte m (m.registers.PC + 1)).toFin) m.fetched.2 := by
  rw [cpuStep_eq_executeOpcode, determineOpcode_cb hop]

end

/-- Fetching moves `PC` and charges ticks, and does nothing else. -/
theorem exists_fetched_eq_past (m : Machine) :
    ∃ length ticks, m.fetched.1 = m.past length ticks := by
  by_cases hop : mmuReadByte m m.registers.PC = 0xCB
  · exact ⟨_, _, fetched_cb hop⟩
  · exact ⟨_, _, fetched_base rfl hop⟩

/-! ## Conditions -/

/-- The condition codes, in the order of their numbers. -/
inductive Cond
  | NZ | Z | NC | C
  deriving DecidableEq

namespace Cond

/-- The number in the opcode. -/
def number : Cond → Byte
  | NZ => 0
  | Z => 1
  | NC => 2
  | C => 3

/-- The opposite condition. -/
def not : Cond → Cond
  | NZ => Z
  | Z => NZ
  | NC => C
  | C => NC

/-- The condition holds of a flag register, as the processor means it.  What the code tests is
`checkFlag` against 0 or 1, and `checkFlag_eq_condition_iff` says that this is the same.  The two
are kept apart because a wrong constant in the code would otherwise be a wrong constant in the
law. -/
def Holds (cc : Cond) (F : Byte) : Prop :=
  match cc with
  | NZ => F &&& flagZero = 0
  | Z => F &&& flagZero ≠ 0
  | NC => F &&& flagCarry = 0
  | C => F &&& flagCarry ≠ 0

instance (F : Byte) : (cc : Cond) → Decidable (cc.Holds F)
  | NZ => inferInstanceAs (Decidable (F &&& flagZero = 0))
  | Z => inferInstanceAs (Decidable (F &&& flagZero ≠ 0))
  | NC => inferInstanceAs (Decidable (F &&& flagCarry = 0))
  | C => inferInstanceAs (Decidable (F &&& flagCarry ≠ 0))

/-- Of two opposite conditions exactly one holds. -/
theorem holds_not_iff (cc : Cond) (F : Byte) : cc.not.Holds F ↔ ¬cc.Holds F := by
  cases cc with
  | NZ | NC => exact Iff.rfl
  | Z | C => exact not_not.symm

/-- The flag that the functions of `cpu.c` are given for the condition. -/
def flag : Cond → Byte
  | NZ | Z => flagZero
  | NC | C => flagCarry

/-- The value that they compare the flag with. -/
def condition : Cond → Byte
  | NZ | NC => flagNotSet
  | Z | C => flagIsSet

theorem checkFlag_eq_condition_iff (cc : Cond) (r : Registers) :
    Cpu.checkFlag r cc.flag = cc.condition ↔ cc.Holds r.F := by
  rw [Cpu.checkFlag]
  cases cc with
  | NZ | NC =>
    split
    · exact iff_of_false (by decide) ‹_›
    · exact iff_of_true rfl (not_not.1 ‹_›)
  | Z | C =>
    split
    · exact iff_of_true rfl ‹_›
    · exact iff_of_false (by decide) ‹_›

end Cond

/-! ## Transfers -/

/-- The kinds of control transfer that have a conditional form. -/
inductive Transfer
  | jr | jp | call | ret
  deriving DecidableEq

namespace Transfer

/-- The opcode of the unconditional form. -/
def unconditional : Transfer → Byte
  | jr => 0x18
  | jp => 0xC3
  | call => 0xCD
  | ret => 0xC9

/-- The opcode of the form with condition `NZ`. -/
def base : Transfer → Byte
  | jr => 0x20
  | jp => 0xC2
  | call => 0xC4
  | ret => 0xC0

/-- The opcode with the condition in bits 3 and 4. -/
def conditional (k : Transfer) (cc : Cond) : Byte := k.base + 8 * cc.number

/-- The number of operand bytes. -/
def operandBytes : Transfer → ℕ
  | jr => 1
  | jp | call => 2
  | ret => 0

/-- The ticks a transfer that is taken costs on top. -/
def surcharge : Transfer → ℕ
  | jr | jp => 4
  | call | ret => 12

/-- The condition that the function in the table tests.  It is written down from the table;
`execute_conditional` is the proof that the table has it. -/
def tested : Transfer → Cond → Cond
  | call, .C => .NC
  | _, cc => cc

theorem conditional_ne_cb (k : Transfer) (cc : Cond) : k.conditional cc ≠ 0xCB := by
  cases k <;> cases cc <;> decide

/-- The unconditional form on a machine that has fetched it.  This is what a conditional transfer
is measured against. -/
def always (k : Transfer) (m : Machine) (operand : Word) : Machine :=
  executeOpcode m (baseOpcodeTable.get k.unconditional.toFin) operand

theorem operandType_conditional (k : Transfer) (cc : Cond) :
    (baseOpcodeTable.get (k.conditional cc).toFin).operandType = k.operandBytes := by
  cases k <;> cases cc <;> rfl

/-- **What the conditional opcodes do.** All sixteen of them at once: the condition tested, the
body of the unconditional opcode, and the surcharge.  It is a case analysis over the table, done
once; the law of the conditional opcodes goes through it. -/
theorem execute_conditional (k : Transfer) (cc : Cond) (m : Machine) (operand : Word) :
    executeOpcode m (baseOpcodeTable.get (k.conditional cc).toFin) operand =
      if (k.tested cc).Holds m.registers.F then Cpu.addTicks (k.always m operand) k.surcharge
      else m := by
  simp only [← Cond.checkFlag_eq_condition_iff]
  cases k <;> cases cc <;> rfl

@[simp] theorem always_tickCounter (k : Transfer) (m : Machine) (operand : Word) :
    (k.always m operand).tickCounter = m.tickCounter := by
  cases k with
  | jr | jp => rfl
  | call =>
    show (Cpu.callNn m operand).tickCounter = m.tickCounter
    rw [Cpu.callNn_eq]
    exact (storeByte_tickCounter _ _ _).trans (storeByte_tickCounter _ _ _)
  | ret =>
    show (Cpu.ret m).tickCounter = m.tickCounter
    rw [Cpu.ret_eq]
    rfl

/-- A call lowers `SP` by two, which tells a call that is made from one that is not. -/
theorem always_call_sp (m : Machine) (operand : Word) :
    (call.always m operand).registers.SP = m.registers.SP - 1 - 1 := by
  show (Cpu.callNn m operand).registers.SP = _
  rw [Cpu.callNn_eq, Machine.onRegisters_registers, pushWord_registers]

/-- The transfer is made, at its surcharge. -/
def Takes (k : Transfer) (cc : Cond) (m : Machine) (operand : Word) : Prop :=
  executeOpcode m (baseOpcodeTable.get (k.conditional cc).toFin) operand =
    Cpu.addTicks (k.always m operand) k.surcharge

theorem takes_iff (k : Transfer) (cc : Cond) (m : Machine) (operand : Word) :
    k.Takes cc m operand ↔ (k.tested cc).Holds m.registers.F := by
  rw [Takes, execute_conditional]
  split
  · exact iff_of_true rfl ‹_›
  · refine iff_of_false (fun h ↦ ?_) ‹_›
    -- only the transfer has its surcharge
    have hticks := congrArg Machine.tickCounter h
    rw [Cpu.addTicks, always_tickCounter] at hticks
    cases k <;> simp only [surcharge] at hticks <;> bv_omega

end Transfer

/-! ## The law -/

/-- What a conditional transfer is to do: with the condition the same as the unconditional one, and
without it nothing but to move past the instruction, where ticks do not count. -/
structure Transfer.Lawful (k : Transfer) (cc : Cond) (m : Machine) : Prop where
  taken : cc.Holds m.registers.F →
    ∃ tickCounter, (cpuStep m).1 = { k.always m.fetched.1 m.fetched.2 with tickCounter }
  passed : ¬cc.Holds m.registers.F →
    ∃ tickCounter, (cpuStep m).1 =
      { m.onRegisters fun r ↦ { r with PC := r.PC + BitVec.ofNat 16 (1 + k.operandBytes) } with
        tickCounter }

/-- The opcodes with a law. -/
inductive ControlOp
  | conditional (k : Transfer) (cc : Cond)
  | jr
  | jpMHL
  deriving DecidableEq

/-- The opcode byte. -/
def ControlOp.opcode : ControlOp → Byte
  | conditional k cc => k.conditional cc
  | jr => 0x18
  | jpMHL => 0xE9

/-- The law of the opcode, in a machine about to execute it.  `JR` adds its signed operand, modulo
2¹⁶; `JP (HL)` does what `JP nn` does with `HL` for `nn`. -/
def ControlOp.Lawful (x : ControlOp) (m : Machine) : Prop :=
  match x with
  | conditional k cc => k.Lawful cc m
  | jr => ∃ tickCounter, (cpuStep m).1 =
      { m.onRegisters fun r ↦ { r with
          PC := BitVec.ofInt 16 (r.PC.toNat + 2 + (mmuReadByte m (r.PC + 1)).toInt) } with
        tickCounter }
  | jpMHL => (cpuStep m).1.registers.PC = m.registers.HL ∧
      ∃ tickCounter, (cpuStep m).1 =
        { Transfer.jp.always m.fetched.1 m.registers.HL with tickCounter }

section

variable {m : Machine}

theorem Transfer.cpuStep_conditional {k : Transfer} {cc : Cond}
    (hop : mmuReadByte m m.registers.PC = k.conditional cc) :
    (cpuStep m).1 =
      if (k.tested cc).Holds m.registers.F then
        Cpu.addTicks (k.always m.fetched.1 m.fetched.2) k.surcharge
      else m.past (1 + k.operandBytes) (baseOpcodeTicks.get (k.conditional cc).toFin) := by
  have hfetched := fetched_base hop (k.conditional_ne_cb cc)
  rw [operandType_conditional] at hfetched
  have hF : m.fetched.1.registers.F = m.registers.F := by rw [hfetched]; rfl
  rw [cpuStep_base hop (k.conditional_ne_cb cc), execute_conditional, hF, ← hfetched]

/-- The law holds where the function tests the condition in the opcode, and only there: a transfer
that should not be made moves `SP`, and one that should be and is not leaves it. -/
theorem Transfer.lawful_iff {k : Transfer} {cc : Cond}
    (hop : mmuReadByte m m.registers.PC = k.conditional cc) :
    k.Lawful cc m ↔ ¬(k = .call ∧ cc = .C) := by
  have hstep := cpuStep_conditional hop
  constructor
  · rintro h ⟨rfl, rfl⟩
    have hfetched := fetched_base hop (conditional_ne_cb _ _)
    have hsp : m.fetched.1.registers.SP = m.registers.SP := by rw [hfetched]; rfl
    have htested : (call.tested .C).Holds m.registers.F ↔ ¬Cond.C.Holds m.registers.F :=
      Cond.holds_not_iff .C _
    by_cases hcarry : Cond.C.Holds m.registers.F
    · obtain ⟨_, htaken⟩ := h.taken hcarry
      rw [hstep, if_neg fun h ↦ htested.1 h hcarry] at htaken
      have hmoved := congrArg (·.registers.SP) htaken
      simp only [always_call_sp, hsp] at hmoved
      change m.registers.SP = m.registers.SP - 1 - 1 at hmoved
      bv_omega
    · obtain ⟨_, hpassed⟩ := h.passed hcarry
      rw [hstep, if_pos (htested.2 hcarry)] at hpassed
      have hmoved := congrArg (·.registers.SP) hpassed
      change (call.always m.fetched.1 m.fetched.2).registers.SP = m.registers.SP at hmoved
      rw [always_call_sp, hsp] at hmoved
      bv_omega
  · intro h
    have hcc : k.tested cc = cc := by
      cases k <;> cases cc <;> first | rfl | exact absurd ⟨rfl, rfl⟩ h
    rw [hcc] at hstep
    refine ⟨fun hcond ↦ ?_, fun hcond ↦ ?_⟩
    · rw [hstep, if_pos hcond]
      exact ⟨_, rfl⟩
    · rw [hstep, if_neg hcond]
      exact ⟨_, rfl⟩

/-- Of the opcodes for a condition and its opposite exactly one is taken, except that `CALL NC` and
`CALL C` go together. -/
theorem Transfer.takes_xor_iff (k : Transfer) (cc : Cond) (m : Machine) (operand : Word) :
    Xor (k.Takes cc m operand) (k.Takes cc.not m operand) ↔
      ¬(k = .call ∧ (cc = .NC ∨ cc = .C)) := by
  rw [takes_iff, takes_iff]
  by_cases h : k = .call ∧ (cc = .NC ∨ cc = .C)
  · have hsame : k.tested cc.not = k.tested cc := by
      obtain ⟨rfl, rfl | rfl⟩ := h <;> rfl
    rw [hsame, xor_self]
    exact iff_of_false id (not_not.2 h)
  · have hnot : k.tested cc.not = (k.tested cc).not := by
      cases k <;> cases cc <;> first | rfl | exact absurd (by decide) h
    rw [hnot, Cond.holds_not_iff, xor_not_right]
    exact iff_of_true Iff.rfl h

/-- Adding a signed byte to `PC` modulo 2¹⁶, as a number and as a sign extension. -/
theorem ofInt_toNat_add (w : Word) (e : Byte) :
    BitVec.ofInt 16 (w.toNat + 2 + e.toInt) = w + 2 + e.signExtend 16 := by
  rw [BitVec.ofInt_add, BitVec.ofInt_add, BitVec.ofInt_natCast, BitVec.ofNat_toNat,
    BitVec.setWidth_eq]
  rfl

theorem lawful_jr (hop : mmuReadByte m m.registers.PC = 0x18) : ControlOp.jr.Lawful m := by
  have hnext (w : Word) : w + 2 = w + 1 + 1 := (BitVec.add_assoc w 1 1).symm
  refine ⟨m.tickCounter + 12, ?_⟩
  rw [cpuStep_operandChar hop (by decide) (f := fun m n ↦ m.onRegisters (Cpu.jrE · n)) (t := 12)
    rfl rfl rfl]
  simp only [ofInt_toNat_add, hnext]
  rfl

theorem lawful_jpMHL_iff (hop : mmuReadByte m m.registers.PC = 0xE9) :
    ControlOp.jpMHL.Lawful m ↔ mmuReadShort m m.registers.HL = m.registers.HL := by
  have hfetched := fetched_base hop (by decide)
  have hstep : (cpuStep m).1 =
      m.fetched.1.onRegisters (Cpu.jpNn · (mmuReadShort m m.registers.HL)) := by
    rw [cpuStep_base hop (by decide), hfetched]
    rfl
  have hPC : (cpuStep m).1.registers.PC = mmuReadShort m m.registers.HL := by rw [hstep]; rfl
  constructor
  · rintro ⟨h, -⟩
    exact hPC.symm.trans h
  · intro h
    refine ⟨hPC.trans h, m.fetched.1.tickCounter, ?_⟩
    rw [hstep, h]
    rfl

theorem ControlOp.lawful_iff {x : ControlOp} (hop : mmuReadByte m m.registers.PC = x.opcode) :
    x.Lawful m ↔ x ≠ .conditional .call .C ∧
      (x = .jpMHL → mmuReadShort m m.registers.HL = m.registers.HL) := by
  cases x with
  | conditional k cc =>
    refine (Transfer.lawful_iff hop).trans ?_
    simp
  | jr => exact iff_of_true (lawful_jr hop) ⟨by decide, fun h ↦ by cases h⟩
  | jpMHL =>
    refine (lawful_jpMHL_iff hop).trans ?_
    simp

end

/-- **When control transfers do what they say.**  The law of an opcode holds in every machine about
to execute it, unless it is that of `CALL C`, or that of `JP (HL)` and `HL` does not point at its
own value; and of the opcodes for a condition and its opposite exactly one is taken, unless they are
`CALL NC` and `CALL C`. -/
theorem controlTransfer_iff (m : Machine) :
    (∀ x : ControlOp, mmuReadByte m m.registers.PC = x.opcode →
      (x.Lawful m ↔ x ≠ .conditional .call .C ∧
        (x = .jpMHL → mmuReadShort m m.registers.HL = m.registers.HL))) ∧
    ∀ (k : Transfer) (cc : Cond) (operand : Word),
      Xor (k.Takes cc m operand) (k.Takes cc.not m operand) ↔
        ¬(k = .call ∧ (cc = .NC ∨ cc = .C)) :=
  ⟨fun _ hop ↦ ControlOp.lawful_iff hop, fun k cc operand ↦ k.takes_xor_iff cc m operand⟩

/-- A machine that is about to execute the opcode `op` in work RAM, with the carry flag set and `HL`
pointing at the word `w`. -/
def aboutTo (op : Byte) (w : Word) : Machine :=
  { Machine.powerOn with
    registers := ⟨0, 0x10, 0, 0, 0, 0, 0xC0, 0x10, 0xD000, 0xC000⟩
    wRAM := fun i ↦
      if i = 0 then op else if i = 0x10 then lowByte w else if i = 0x11 then highByte w else 0 }

/-- With the carry set, `CALL C` does not call; and `JP (HL)` goes where `HL` points.  There is
room on the stack in this state, so it is not for want of it that the call fails. -/
theorem call_C_not_taken :
    StackArea (aboutTo 0xDC 0).registers.SP 2 ∧
      ¬(ControlOp.conditional .call .C).Lawful (aboutTo 0xDC 0) ∧
      ¬ControlOp.jpMHL.Lawful (aboutTo 0xE9 0x1234) := by
  refine ⟨by decide, fun h ↦ ?_, fun h ↦ ?_⟩
  · exact (Transfer.lawful_iff (by decide)).1 h ⟨rfl, rfl⟩
  · exact absurd ((lawful_jpMHL_iff (by decide)).1 h) (by decide)

/-- `HL` points at its own value. -/
theorem controlTransfer_iff_self : ControlOp.jpMHL.Lawful (aboutTo 0xE9 0xC010) :=
  ((controlTransfer_iff (aboutTo 0xE9 0xC010)).1 .jpMHL (by decide)).2
    ⟨by decide, fun _ ↦ by decide⟩

end GameBloat
