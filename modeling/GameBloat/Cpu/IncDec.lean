import GameBloat.Cpu.Arithmetic
import GameBloat.Cpu.RotateFamily

/-!
# INC and DEC, operand by operand

Two columns of the base table increment and decrement the eight operands.  The functions of
`cpu.c` behind them do so for a register and for memory alike (`stepOn_byOne`), but one of the
sixteen functions in between calls the wrong one: `dec_E` increments.

What INC and DEC should do is `ByOne`: the operand is one more or one less modulo 256, Z, N and H
say so, and C, the other registers and the rest of memory stay.  Increments and decrements are
told apart by `Arith`, as addition and subtraction are, so there is one statement and one proof
for both.

* `Arith.stepped` is the operation as a function of the operand's byte and the flags, and
  `Arith.stepped_flags` reads its flags as conditions on numbers.
* `stepOn_eq` says that the four functions of `cpu.c` are this function applied to the operand.
* `stepOn_byOne` says that they do what they should, for all operands.
* `get_stepOn_stepOn` runs two of them after each other, which is what the inverse property needs.
* `baseOpcodeTable_incDec` finds the functions in the table, `dec_E` included, and `incDec_iff`
  draws the conclusion.

For memory the operand must be plain, as for the other operations on `(HL)`: a store to a register
of the hardware does not leave the value there.
-/

set_option autoImplicit false

namespace GameBloat

open BaseOpcode (baseOpcodeTable)
open Cpu (flagZero flagNegative flagHalfCarry flagCarry lowNibble)

/-! ## What an increment or decrement is -/

/-- One more, or one less. -/
def Arith.stepByte : Arith → Byte → Byte
  | .add, s => s + 1
  | .sub, s => s - 1

/-- From `m` to `m'`, the operand is one more or one less, the flags say so, and C, the other
registers and the rest of memory stay as they are.  The half-carry is that of the low digit, 16
for an increment and below 0 for a decrement. -/
structure ByOne (op : Arith) (x : Operand) (m m' : Machine) : Prop where
  updated : x.Updated m m' (op.stepByte (x.get m)) m'.registers.F
  zero : m'.registers.HasFlag flagZero ↔ op.stepByte (x.get m) = 0
  negative : m'.registers.HasFlag flagNegative ↔ op = .sub
  halfCarry : m'.registers.HasFlag flagHalfCarry ↔
    ¬InRange 16 (op.apply ((x.get m).toNat % 16 : ℕ) 1)
  others : m'.registers.F &&& 0x1F = m.registers.F &&& 0x1F

/-! ## The functions of cpu.c -/

/-- `inc_s` and `inc_sHL`, `dec_s` and `dec_sHL`. -/
def stepOn (op : Arith) (x : Operand) (m : Machine) : Machine :=
  match op, x with
  | .add, .reg ptr => m.onRegisters (Cpu.incS · ptr)
  | .add, .mHL => Cpu.incSHL m
  | .sub, .reg ptr => m.onRegisters (Cpu.decS · ptr)
  | .sub, .mHL => Cpu.decSHL m

/-- The half-carry, as the functions look for it: in the operand before the step, by its low
nibble. -/
def Arith.stepHalf : Arith → Byte → Bool
  | .add, s => s &&& lowNibble = lowNibble
  | .sub, s => s &&& lowNibble = 0

/-- An increment or decrement as a function of the operand and the flags. -/
def Arith.stepped (op : Arith) (s F : Byte) : Byte × Byte :=
  (op.stepByte s, flagged (flagged (flagged F flagNegative (op = .sub)) flagHalfCarry
    (op.stepHalf s)) flagZero (op.stepByte s = 0))

/-- On a register, wherever `HL` points. -/
theorem stepOn_reg (op : Arith) (ptr : Reg8) (m : Machine) :
    stepOn op (.reg ptr) m = (Operand.reg ptr).modify op.stepped m := by
  let sF := op.stepped (m.registers.get8 ptr) m.registers.F
  cases op with
  | add =>
    refine Machine.onRegisters_congr (f := (Cpu.incS · ptr))
      (g := fun r ↦ { r.set8 ptr sF.1 with F := sF.2 }) ?_
    simp only [Cpu.incS, writeFlag_eq, get8_set8_self]
    cases ptr <;> rfl
  | sub =>
    refine Machine.onRegisters_congr (f := (Cpu.decS · ptr))
      (g := fun r ↦ { r.set8 ptr sF.1 with F := sF.2 }) ?_
    simp only [Cpu.decS, writeFlag_eq, get8_set8_self]
    cases ptr <;> rfl

theorem stepOn_eq (op : Arith) (x : Operand) {m : Machine} (hHL : Plain m.registers.HL) :
    stepOn op x m = x.modify op.stepped m := by
  cases x with
  | reg ptr => exact stepOn_reg op ptr m
  | mHL =>
    let s := mmuReadByte m m.registers.HL
    let F (r : Registers) : Byte :=
      flagged (flagged r.F flagNegative (op = .sub)) flagHalfCarry (op.stepHalf s)
    -- the flags before the store and after it
    have hbody : stepOn op .mHL m =
        (storeByte (m.onRegisters fun r ↦ { r with F := F r }) m.registers.HL
          (op.stepByte s)).onRegisters fun r ↦
            { r with F := flagged r.F flagZero (op.stepByte s = 0) } := by
      cases op <;> simp only [stepOn, Cpu.incSHL, Cpu.decSHL, writeFlag_eq] <;> rfl
    rw [hbody, storeByte_onRegisters _ _ hHL, Machine.onRegisters_onRegisters]
    refine Machine.onRegisters_congr ?_
    rw [storeByte_registers]
    rfl

/-- The flags are those of the numbers. -/
theorem Arith.stepped_flags (op : Arith) (s F : Byte) :
    ((op.stepped s F).2 &&& flagZero ≠ 0 ↔ op.stepByte s = 0) ∧
    ((op.stepped s F).2 &&& flagNegative ≠ 0 ↔ op = .sub) ∧
    ((op.stepped s F).2 &&& flagHalfCarry ≠ 0 ↔ ¬InRange 16 (op.apply (s.toNat % 16 : ℕ) 1)) ∧
    (op.stepped s F).2 &&& 0x1F = F &&& 0x1F := by
  have hhalf : op.stepHalf s = true ↔ ¬InRange 16 (op.apply (s.toNat % 16 : ℕ) 1) := by
    revert s
    cases op <;> decide
  refine ⟨?_, ?_, ?_, ?_⟩
  · exact (flagged_and_self_ne_zero_iff (by decide) _ _).trans decide_eq_true_iff
  · rw [stepped, flagged_and_of_disjoint (by decide), flagged_and_of_disjoint (by decide)]
    exact (flagged_and_self_ne_zero_iff (by decide) _ _).trans decide_eq_true_iff
  · rw [stepped, flagged_and_of_disjoint (by decide)]
    exact (flagged_and_self_ne_zero_iff (by decide) _ _).trans hhalf
  · rw [stepped, flagged_and_of_disjoint (by decide), flagged_and_of_disjoint (by decide),
      flagged_and_of_disjoint (by decide)]

/-- **The functions of `cpu.c`** treat all operands alike. -/
theorem stepOn_byOne (op : Arith) (x : Operand) {m : Machine} (hHL : Plain m.registers.HL) :
    ByOne op x m (stepOn op x m) := by
  have hupdated := x.updated hHL (op.stepped (x.get m) m.registers.F).1
    (op.stepped (x.get m) m.registers.F).2
  have hmodify : stepOn op x m = _ := stepOn_eq op x hHL
  obtain ⟨hzero, hnegative, hhalf, hothers⟩ := op.stepped_flags (x.get m) m.registers.F
  rw [hmodify]
  exact ⟨hupdated, hzero, hnegative, hhalf, hothers⟩

/-! ## One after the other -/

theorem get_stepOn (op : Arith) (x : Operand) {m : Machine} (h : x = .mHL → Plain m.registers.HL) :
    x.get (stepOn op x m) = op.stepByte (x.get m) := by
  cases x with
  | reg ptr =>
    rw [stepOn_reg]
    exact (get8_with_F _ _ ptr).trans (get8_set8_self _ ptr _)
  | mHL => exact (stepOn_byOne op .mHL (h rfl)).updated.value

theorem get_stepOn_stepOn (op op' : Arith) (x : Operand) {m : Machine}
    (hHL : Plain m.registers.HL) :
    x.get (stepOn op' x (stepOn op x m)) = op'.stepByte (op.stepByte (x.get m)) := by
  have hkept : x = .mHL → Plain (stepOn op x m).registers.HL := by
    rintro rfl
    have hsame : (stepOn op .mHL m).registers.HL = m.registers.HL :=
      (stepOn_byOne op .mHL hHL).updated.HL (by simp) (by simp)
    exact hsame.symm ▸ hHL
  rw [get_stepOn op' x hkept, get_stepOn op x fun _ ↦ hHL]

/-! ## The table -/

/-- The opcode of INC for the operand `r`. -/
def incOpcode (r : Fin 8) : Byte := BitVec.ofNat 8 (0x04 + 8 * r)

/-- The opcode of DEC. -/
def decOpcode (r : Fin 8) : Byte := BitVec.ofNat 8 (0x05 + 8 * r)

seal storeByte mmuReadByte mmuWriteByte in
/-- The two columns: `dec_E` is an increment. -/
theorem baseOpcodeTable_incDec (r : Fin 8) :
    baseOpcodeTable.get (incOpcode r).toFin = .noOperands (stepOn .add (operands.get r)) ∧
    baseOpcodeTable.get (decOpcode r).toFin =
      .noOperands (stepOn (if r = 3 then .add else .sub) (operands.get r)) := by
  match r with
  | 0 | 1 | 2 | 3 | 4 | 5 | 6 | 7 => exact ⟨rfl, rfl⟩

/-- `DEC E` increments. -/
theorem dec_E_increments :
    let m := Machine.powerOn.onRegisters fun r ↦ { r with H := 0xC0 }
    m.registers.HL = 0xC000 ∧ operands.get 3 = .reg .E ∧
      ¬ByOne .sub (operands.get 3) m
        (executeOpcode m (baseOpcodeTable.get (decOpcode 3).toFin) 0) := by
  refine ⟨by decide, rfl, fun h ↦ ?_⟩
  exact absurd h.negative (by decide)

/-- **When INC and DEC are right**: for every operand but `E`.  The three parts are INC, DEC, and
that each undoes the other; for `E` the second and the third fail in every state.  Its DEC calls
the function of INC. -/
theorem incDec_iff (r : Fin 8) {m : Machine} (hHL : Plain m.registers.HL) (operand : Word) :
    let inc (m : Machine) := executeOpcode m (baseOpcodeTable.get (incOpcode r).toFin) operand
    let dec (m : Machine) := executeOpcode m (baseOpcodeTable.get (decOpcode r).toFin) operand
    let x := operands.get r
    ByOne .add x m (inc m) ∧ (ByOne .sub x m (dec m) ↔ r ≠ 3) ∧
      (x.get (dec (inc m)) = x.get m ∧ x.get (inc (dec m)) = x.get m ↔ r ≠ 3) := by
  intro inc dec x
  have hinc (m : Machine) : inc m = stepOn .add x m := by
    simp only [inc, (baseOpcodeTable_incDec r).1]
    rfl
  have hdec (m : Machine) : dec m = stepOn (if r = 3 then .add else .sub) x m := by
    simp only [dec, (baseOpcodeTable_incDec r).2]
    rfl
  rw [hinc, hdec, hdec, hinc, get_stepOn_stepOn _ _ x hHL, get_stepOn_stepOn _ _ x hHL]
  refine ⟨stepOn_byOne .add x hHL, ?_⟩
  by_cases hr : r = 3
  · rw [if_pos hr]
    refine ⟨iff_of_false (fun h ↦ ?_) fun h ↦ h hr, iff_of_false (fun h ↦ ?_) fun h ↦ h hr⟩
    · -- N is clear after an increment
      have hnegative := h.negative.symm.trans (stepOn_byOne .add x hHL).negative
      exact absurd (hnegative.1 rfl) (by decide)
    · have htwo : ∀ s : Byte, s + 1 + 1 ≠ s := by decide
      exact htwo _ h.1
  · rw [if_neg hr]
    refine ⟨iff_of_true (stepOn_byOne .sub x hHL) hr, iff_of_true ⟨?_, ?_⟩ hr⟩
    · exact BitVec.add_sub_cancel _ _
    · exact BitVec.sub_add_cancel _ _

/-- INC and DEC of a byte in high RAM. -/
theorem incDec_iff_hRAM :
    let m := Machine.powerOn.onRegisters fun r ↦ { r with H := 0xFF, L := 0x80 }
    ByOne .sub (operands.get 6) m (executeOpcode m (baseOpcodeTable.get (decOpcode 6).toFin) 0) :=
  (incDec_iff 6 (m := Machine.powerOn.onRegisters fun r ↦ { r with H := 0xFF, L := 0x80 })
    (by decide) 0).2.1.2 (by decide)

end GameBloat
