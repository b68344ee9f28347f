import GameBloat.Cpu.Operands
import GameBloat.Cpu.Stack

/-!
# Rotates and shifts, operand by operand

The first quarter of `CBOpcodeTable.c` has eight kinds of rotates and shifts, each for eight
operands.  A kind is meant to be one function of the operand's byte and the flags (`Applies`), and
for seven operands it is.  For the accumulator the table uses the functions of the one-byte
opcodes RLCA, RRCA, RLA and RRA, which clear the zero flag instead of writing it: four of the
kinds go wrong exactly when they leave 0 in `A` (`cbOpcodeTable_shiftFamily_iff`).

The statement has an existential in it: there is one function for each kind that all operands
follow.  It is the same function in every state and for every opcode of the kind, so the exception
cannot be explained away by choosing another one: for `A` = 0 the function is pinned down by the
other seven operands.

* `cbOpcodeTable_shifts` says that the 64 entries are the formula `decodeShift`, by one equation
  of lists.
* `shifted` is what a shift makes of a byte and the flags, and `swapped` the same for SWAP.
* `Moves` takes care of an order in the source: the carry flag is written first, and the operand
  is moved after that, so a rotate brings in the bit that has just gone out.
* `shiftS_eq`, `shiftA_eq` and `shiftSHL_eq` evaluate the three bodies; the one for `A` differs in
  the zero flag.
* `kinds_get_iff` has the exact exception for every kind and operand.

That RL and RR do not bring in the old carry, and that SRL always sets it, is no exception here:
all operands agree about it.  What follows for numbers of several bytes is in
`GameBloat.Cpu.MultiByteShift`.
-/

set_option autoImplicit false

namespace GameBloat

open CBOpcode (cbOpcodeTable)
open Cpu (topBit bottomBit rotateLeft rotateRight flagZero flagNegative flagHalfCarry flagCarry)

/-! ## The table -/

/-- A rotate or shift as most operands have it. -/
def shiftOn (carry : Byte → Bool) (move : Registers → Byte → Byte) (x : Operand) (m : Machine) :
    Machine :=
  match x with
  | .reg ptr => m.onRegisters (Cpu.shiftS carry move · ptr)
  | .mHL => Cpu.shiftSHL carry move m

/-- A rotate with a function of its own for `A`. -/
def rotateOn (carry : Byte → Bool) (move : Registers → Byte → Byte) (x : Operand) (m : Machine) :
    Machine :=
  if x = .reg .A then m.onRegisters (Cpu.shiftA carry move) else shiftOn carry move x m

/-- `SWAP x`. -/
def swapOn (x : Operand) (m : Machine) : Machine :=
  match x with
  | .reg ptr => m.onRegisters (Cpu.swapS · ptr)
  | .mHL => Cpu.swapSHL m

/-- The eight kinds, RLC, RRC, RL, RR, SLA, SRA, SWAP and SRL. -/
def kinds : Vector (Operand → Machine → Machine) 8 :=
  #v[rotateOn topBit rotateLeft, rotateOn bottomBit rotateRight,
    rotateOn topBit fun _ s ↦ s <<< 1, rotateOn bottomBit fun _ s ↦ s >>> 1,
    shiftOn topBit fun _ s ↦ s <<< 1, shiftOn bottomBit fun _ s ↦ s >>> 1 ||| s &&& 0x80,
    swapOn, shiftOn (fun _ ↦ true) fun _ s ↦ s >>> 1]

/-- The effect of a CB opcode below 0x40, from its fields. -/
def decodeShift (cb : Byte) : Machine → Machine := kinds.get (middleField cb) (operandOf cb)

seal storeByte mmuReadByte mmuWriteByte in
set_option maxRecDepth 4000 in
/-- The table is the decoder. -/
theorem cbOpcodeTable_shifts : (cbOpcodeTable.toList.drop 0).take 0x40 =
    (List.range' 0 0x40).map fun cb ↦ .noOperands (decodeShift (BitVec.ofNat 8 cb)) := by
  rfl

theorem cbOpcodeTable_get_shift {cb : Byte} (h : cb.toNat < 0x40) :
    cbOpcodeTable.get cb.toFin = .noOperands (decodeShift cb) :=
  get_of_take_drop (f := fun cb ↦ .noOperands (decodeShift cb)) cbOpcodeTable_shifts
    (Nat.zero_le _) (by omega)

/-! ## What a kind does to a byte -/

/-- The flags of a shift before it looks for zero: N and H are cleared, and the bit that is moved
out goes to C. -/
def carried (carry : Bool) (F : Byte) : Byte :=
  flagged (F &&& ~~~(flagNegative ||| flagHalfCarry)) flagCarry carry

/-- What a shift makes of an operand `s` and the flags, if it moves `s` to `value s`: N and H are
cleared, C is the bit that goes out, and Z says whether nothing is left. -/
def shifted (carry : Byte → Bool) (value : Byte → Byte) (s F : Byte) : Byte × Byte :=
  (value s, flagged (carried (carry s) F) flagZero (decide (value s = 0)))

/-- What SWAP makes of an operand `s` and the flags. -/
def swapped (s F : Byte) : Byte × Byte :=
  (Cpu.swapNibbles s, flagged (F &&& ~~~(flagNegative ||| flagHalfCarry ||| flagCarry)) flagZero
    (decide (Cpu.swapNibbles s = 0)))

/-- Once the carry has been written, `move` moves `s` to `value s`.  For a rotate the value
depends on the carry flag, but this is the bit of `s` that has just been moved into it. -/
def Moves (carry : Byte → Bool) (move : Registers → Byte → Byte) (value : Byte → Byte) : Prop :=
  ∀ (r : Registers) (s F : Byte), r.F = flagged F flagCarry (carry s) → move r s = value s

/-- Replace an operand and the flags by what `f` makes of them. -/
def Operand.modify (x : Operand) (f : Byte → Byte → Byte × Byte) (m : Machine) : Machine :=
  (x.put m (f (x.get m) m.registers.F).1).onRegisters fun r ↦
    { r with F := (f (x.get m) m.registers.F).2 }

theorem checkFlag_flagged {r : Registers} {F : Byte} {c : Bool}
    (h : r.F = flagged F flagCarry c) : Cpu.checkFlag r flagCarry = if c then 1 else 0 := by
  rw [Cpu.checkFlag, h]
  exact if_congr (flagged_and_self_ne_zero_iff (by decide) F c) rfl rfl

theorem moves_rotateLeft (carry : Byte → Bool) :
    Moves carry rotateLeft fun s ↦ s <<< 1 + if carry s then 1 else 0 := by
  intro r s F h
  rw [rotateLeft, checkFlag_flagged h]

theorem moves_rotateRight (carry : Byte → Bool) :
    Moves carry rotateRight fun s ↦ if carry s then s >>> 1 ||| 0x80 else s >>> 1 := by
  intro r s F h
  rw [rotateRight, checkFlag_flagged h]
  show _ = if carry s then _ else _
  cases carry s <;> rfl

theorem moves_shift (carry : Byte → Bool) (value : Byte → Byte) :
    Moves carry (fun _ ↦ value) value := fun _ _ _ _ ↦ rfl

section

variable {carry : Byte → Bool} {move : Registers → Byte → Byte} {value : Byte → Byte}
  (hmove : Moves carry move value)

include hmove

theorem shiftS_eq (r : Registers) (ptr : Reg8) :
    Cpu.shiftS carry move r ptr =
      { r.set8 ptr (value (r.get8 ptr)) with
        F := (shifted carry value (r.get8 ptr) r.F).2 } := by
  let W := Cpu.writeFlag (Cpu.removeFlag r (flagNegative ||| flagHalfCarry)) flagCarry
    (carry (r.get8 ptr))
  have hW : W = { r with F := carried (carry (r.get8 ptr)) r.F } := by
    simp only [W, writeFlag_eq, Bool.decide_eq_true]
    rfl
  have hget : W.get8 ptr = r.get8 ptr := by rw [hW]; cases ptr <;> rfl
  have hvalue : move W (W.get8 ptr) = value (r.get8 ptr) := by
    rw [hget]
    exact hmove W _ _ (congrArg Registers.F hW)
  have hbody : Cpu.shiftS carry move r ptr =
      Cpu.writeFlag (W.set8 ptr (move W (W.get8 ptr))) flagZero
        ((W.set8 ptr (move W (W.get8 ptr))).get8 ptr = 0) := by
    cases ptr <;> rfl
  rw [hbody, writeFlag_eq, get8_set8_self, hvalue, hW]
  cases ptr <;> rfl

/-- For `A` the zero flag is cleared, whatever the value. -/
theorem shiftA_eq (r : Registers) :
    Cpu.shiftA carry move r =
      { r with A := value r.A, F := flagged (carried (carry r.A) r.F) flagZero false } := by
  let W := Cpu.writeFlag (Cpu.removeFlag r (flagZero ||| flagNegative ||| flagHalfCarry)) flagCarry
    (carry r.A)
  have hflags : ∀ F : Byte, ∀ c : Bool,
      flagged (F &&& ~~~(flagZero ||| flagNegative ||| flagHalfCarry)) flagCarry c =
        flagged (carried c F) flagZero false := by
    intro F c
    revert F
    cases c <;> decide
  let F := flagged (r.F &&& ~~~(flagZero ||| flagNegative ||| flagHalfCarry)) flagCarry (carry r.A)
  have hW : W = { r with F } := by
    simp only [W, writeFlag_eq, Bool.decide_eq_true]
    rfl
  have hvalue : move W r.A = value r.A := hmove W _ _ (congrArg Registers.F hW)
  have hbody : Cpu.shiftA carry move r = { W with A := move W W.A } := rfl
  have hA : W.A = r.A := by rw [hW]
  rw [hbody, hA, hvalue, hW, ← hflags]

/-- In memory: the flags are written before the store and after it. -/
theorem shiftSHL_eq (m : Machine) :
    Cpu.shiftSHL carry move m =
      (storeByte (m.onRegisters fun r ↦
          { r with F := carried (carry (mmuReadByte m m.registers.HL)) r.F })
        m.registers.HL (value (mmuReadByte m m.registers.HL))).onRegisters
          (Cpu.writeFlag · flagZero (value (mmuReadByte m m.registers.HL) = 0)) := by
  let s := mmuReadByte m m.registers.HL
  let M := m.onRegisters fun r ↦
    Cpu.writeFlag (Cpu.removeFlag r (flagNegative ||| flagHalfCarry)) flagCarry (carry s)
  have hM : M = m.onRegisters fun r ↦ { r with F := carried (carry s) r.F } := by
    simp only [M, writeFlag_eq, Bool.decide_eq_true]
    rfl
  have hvalue : move M.registers s = value s :=
    hmove _ _ _ (congrArg (fun m : Machine ↦ m.registers.F) hM)
  have hbody : Cpu.shiftSHL carry move m =
      (storeByte M M.registers.HL (move M.registers s)).onRegisters
        (Cpu.writeFlag · flagZero (move M.registers s = 0)) := rfl
  have hHL : M.registers.HL = m.registers.HL := by rw [hM]; rfl
  rw [hbody, hvalue, hHL, hM]

section

variable {m : Machine} (hHL : Plain m.registers.HL)

include hHL

theorem shiftOn_eq (x : Operand) :
    shiftOn carry move x m = x.modify (shifted carry value) m := by
  cases x with
  | reg ptr =>
    let sF := shifted carry value (m.registers.get8 ptr) m.registers.F
    exact Machine.onRegisters_congr (f := (Cpu.shiftS carry move · ptr))
      (g := fun r ↦ { r.set8 ptr sF.1 with F := sF.2 }) (shiftS_eq hmove m.registers ptr)
  | mHL =>
    show Cpu.shiftSHL carry move m = _
    rw [shiftSHL_eq hmove, storeByte_onRegisters _ _ hHL, Machine.onRegisters_onRegisters]
    refine Machine.onRegisters_congr ?_
    rw [writeFlag_eq, storeByte_registers]
    rfl

end

/-- The two ways to rotate `A` agree unless the result is 0. -/
theorem rotateOn_A_eq_iff (m : Machine) :
    rotateOn carry move (.reg .A) m = (Operand.reg .A).modify (shifted carry value) m ↔
      value m.registers.A ≠ 0 := by
  let G := carried (carry m.registers.A) m.registers.F
  have hrotate : rotateOn carry move (.reg .A) m = m.onRegisters fun r ↦
      { r with A := value m.registers.A, F := flagged G flagZero false } :=
    Machine.onRegisters_congr (f := Cpu.shiftA carry move) (shiftA_eq hmove m.registers)
  have hmodify : (Operand.reg .A).modify (shifted carry value) m = m.onRegisters fun r ↦
      { r with
        A := value m.registers.A
        F := flagged G flagZero (decide (value m.registers.A = 0)) } := rfl
  have hflag : ∀ G : Byte, flagged G flagZero false ≠ flagged G flagZero true := by decide
  rw [hrotate, hmodify]
  constructor
  · intro h hzero
    rw [decide_eq_true hzero] at h
    exact hflag G (congrArg (fun m : Machine ↦ m.registers.F) h)
  · intro h
    rw [decide_eq_false h]

theorem rotateOn_eq_iff {m : Machine} (hHL : Plain m.registers.HL) (x : Operand) :
    rotateOn carry move x m = x.modify (shifted carry value) m ↔
      ¬(x = .reg .A ∧ value m.registers.A = 0) := by
  by_cases hx : x = .reg .A
  · rw [hx, rotateOn_A_eq_iff hmove, not_and, forall_prop_of_true rfl]
  · rw [rotateOn, if_neg hx]
    exact iff_of_true (shiftOn_eq hmove hHL x) fun h ↦ hx h.1

end

/-! ## SWAP -/

section

variable {m : Machine} (hHL : Plain m.registers.HL)

include hHL

theorem swapOn_eq (x : Operand) : swapOn x m = x.modify swapped m := by
  cases x with
  | reg ptr =>
    let sF := swapped (m.registers.get8 ptr) m.registers.F
    refine Machine.onRegisters_congr (f := (Cpu.swapS · ptr))
      (g := fun r ↦ { r.set8 ptr sF.1 with F := sF.2 }) ?_
    simp only [Cpu.swapS, writeFlag_eq, get8_set8_self]
    cases ptr <;> rfl
  | mHL =>
    let s := mmuReadByte m m.registers.HL
    show Cpu.swapSHL m = _
    have hbody : Cpu.swapSHL m =
        (storeByte (m.onRegisters (Cpu.removeFlag ·
          (flagNegative ||| flagHalfCarry ||| flagCarry))) m.registers.HL
          (Cpu.swapNibbles s)).onRegisters
            (Cpu.writeFlag · flagZero (Cpu.swapNibbles s = 0)) := rfl
    rw [hbody, storeByte_onRegisters _ _ hHL, Machine.onRegisters_onRegisters]
    refine Machine.onRegisters_congr ?_
    rw [writeFlag_eq, storeByte_registers]
    rfl

end

/-! ## The family -/

/-- The eight kinds as functions of the operand's byte and the flags. -/
def kindFunctions : Vector (Byte → Byte → Byte × Byte) 8 :=
  #v[shifted topBit fun s ↦ s <<< 1 + if topBit s then 1 else 0,
    shifted bottomBit fun s ↦ if bottomBit s then s >>> 1 ||| 0x80 else s >>> 1,
    shifted topBit (· <<< 1), shifted bottomBit (· >>> 1), shifted topBit (· <<< 1),
    shifted bottomBit fun s ↦ s >>> 1 ||| s &&& 0x80, swapped, shifted (fun _ ↦ true) (· >>> 1)]

/-- From `m` to `m'`, `f` is applied to the operand `x` and the flags, Z tells whether the new
operand is 0, and no other register and no other byte of memory changes.  A kind of shift is
lawful if it applies one function to all eight of its operands. -/
def Applies (f : Byte → Byte → Byte × Byte) (x : Operand) (m m' : Machine) : Prop :=
  x.Updated m m' (f (x.get m) m.registers.F).1 (f (x.get m) m.registers.F).2 ∧
    (m'.registers.F &&& flagZero ≠ 0 ↔ x.get m' = 0)

/-- The kind `k` makes 0 of `A`, with a function that does not say so in the zero flag.  The
condition is on `A` before the shift: which bits may be set so that the shift leaves none. -/
def LosesZero (k : Fin 8) (A : Byte) : Prop :=
  match k with
  | 0 | 1 => A = 0
  | 2 => A &&& 0x7F = 0
  | 3 => A &&& 0xFE = 0
  | _ => False

theorem kindFunctions_zero (k : Fin 8) (s F : Byte) :
    (kindFunctions.get k s F).2 &&& flagZero ≠ 0 ↔ (kindFunctions.get k s F).1 = 0 := by
  match k with
  | 0 | 1 | 2 | 3 | 4 | 5 | 6 | 7 =>
    exact (flagged_and_self_ne_zero_iff (by decide) _ _).trans decide_eq_true_iff

/-- A kind of shift is its function, except where it loses the zero flag.  For `A` and the four
kinds that have a function of their own, that is if the result is 0; for everything else never. -/
theorem kinds_get_iff (k : Fin 8) (x : Operand) {m : Machine} (hHL : Plain m.registers.HL) :
    kinds.get k x m = x.modify (kindFunctions.get k) m ↔
      ¬(x = .reg .A ∧ LosesZero k m.registers.A) := by
  have hrotl : ∀ s : Byte, (s <<< 1 + if topBit s then 1 else 0) = 0 ↔ s = 0 := by decide
  have hrotr : ∀ s : Byte, (if bottomBit s then s >>> 1 ||| 0x80 else s >>> 1) = 0 ↔ s = 0 := by
    decide
  have hleft : ∀ s : Byte, s <<< 1 = 0 ↔ s &&& 0x7F = 0 := by decide
  have hright : ∀ s : Byte, s >>> 1 = 0 ↔ s &&& 0xFE = 0 := by decide
  match k with
  | 0 =>
    exact (rotateOn_eq_iff (moves_rotateLeft _) hHL x).trans
      (not_congr (and_congr_right' (hrotl _)))
  | 1 =>
    exact (rotateOn_eq_iff (moves_rotateRight _) hHL x).trans
      (not_congr (and_congr_right' (hrotr _)))
  | 2 =>
    exact (rotateOn_eq_iff (moves_shift _ _) hHL x).trans
      (not_congr (and_congr_right' (hleft _)))
  | 3 =>
    exact (rotateOn_eq_iff (moves_shift _ _) hHL x).trans
      (not_congr (and_congr_right' (hright _)))
  | 4 | 5 | 7 => exact iff_of_true (shiftOn_eq (moves_shift _ _) hHL x) fun h ↦ h.2
  | 6 => exact iff_of_true (swapOn_eq hHL x) fun h ↦ h.2

/-- **When rotates and shifts treat all operands alike**: each kind is one function of the operand
and the flags, for every opcode and state, except that RLC, RRC, RL and RR of an `A` that becomes 0
lose the zero flag. -/
theorem cbOpcodeTable_shiftFamily_iff (k : Fin 8) :
    ∃ f : Byte → Byte → Byte × Byte, ∀ cb : Byte, cb.toNat / 8 = k → ∀ m : Machine,
      Plain m.registers.HL → ∀ operand : Word,
        (Applies f (operandOf cb) m (executeOpcode m (cbOpcodeTable.get cb.toFin) operand) ↔
          ¬(operandOf cb = .reg .A ∧ LosesZero k m.registers.A)) := by
  refine ⟨kindFunctions.get k, fun cb hcb m hHL operand ↦ ?_⟩
  have hk := k.isLt
  have hfield : middleField cb = k := Fin.ext (by rw [toNat_middleField]; omega)
  rw [cbOpcodeTable_get_shift (by omega), ← kinds_get_iff k _ hHL]
  show Applies _ _ m (decodeShift cb m) ↔ _
  rw [decodeShift, hfield]
  constructor
  · intro h
    exact h.1.machine
  · intro h
    rw [h]
    have hupdated := (operandOf cb).updated hHL
      (kindFunctions.get k ((operandOf cb).get m) m.registers.F).1
      (kindFunctions.get k ((operandOf cb).get m) m.registers.F).2
    refine ⟨hupdated, ?_⟩
    have hzero := kindFunctions_zero k ((operandOf cb).get m) m.registers.F
    rw [← hupdated.value, ← hupdated.flags] at hzero
    exact hzero

/-- `RLC A` with 0 in `A`: whatever the function, Z is not what it should be. -/
theorem rlc_A_loses_zero :
    let m := Machine.powerOn.onRegisters fun r ↦ { r with H := 0xC0 }
    m.registers.HL = 0xC000 ∧ m.registers.A = 0 ∧ operandOf 0x07 = .reg .A ∧
      ∀ f, ¬Applies f (operandOf 0x07) m
        (executeOpcode m (cbOpcodeTable.get (0x07 : Byte).toFin) 0) := by
  refine ⟨by decide, rfl, by decide, fun f h ↦ ?_⟩
  have hzero := h.2
  revert hzero
  decide

/-- `RLC B` in the same state. -/
theorem cbOpcodeTable_shiftFamily_iff_rlc_B :
    ∃ f, Applies f (operandOf 0x00) (Machine.powerOn.onRegisters fun r ↦ { r with H := 0xC0 })
      (executeOpcode (Machine.powerOn.onRegisters fun r ↦ { r with H := 0xC0 })
        (cbOpcodeTable.get (0x00 : Byte).toFin) 0) := by
  obtain ⟨f, hf⟩ := cbOpcodeTable_shiftFamily_iff 0
  exact ⟨f, (hf 0x00 (by decide) _ (by decide) 0).2 fun h ↦ absurd h.1 (by decide)⟩

end GameBloat
