import GameBloat.Cpu.ControlFlow

/-!
# What an instruction does to `PC` and to the flags

Most instructions leave `PC` where fetching has put it, and most write the flag register through
the masks of the four flags, so that its low half stays clear.  `Steady` says both of a step from
one register file to another, `baseFlows` names the opcodes that are different, and
`baseOpcodeTable_flows` checks the names against the table.

The two properties go together because they have the same exceptions to look for.  `PC` is written
by jumps, calls, restarts and returns, by `halt` when interrupts are off, and by nothing else.
The flag register is written through `setFlag` and `removeFlag` with one of the four masks, which
cannot bring in a low bit, except by `POP AF`, which loads it from the stack whole.  So 32 of the
256 entries of the base table are special, and the CB table has none.

* `Steady` is a relation on register files that is reflexive, transitive and closed under every
  assignment the functions of `cpu.c` make; the section that follows it has one lemma for each of
  these functions, on the register file first and on the machine after that.
* `cbOpcodeTable_steady` says it of all CB opcodes.
* `baseOpcodeTable_flows` walks over the base table with the list `baseFlows` beside it, and
  `baseFlows_get` turns the list into a test on the opcode byte.
* `cpuStep_onlyFlags_iff` is the outcome for the flags: after an instruction the low half of `F`
  is clear exactly if it is not `POP AF`, or the byte on the stack happens to have it clear.

What the flow of `PC` is good for is found in `GameBloat.Programs.StraightLine`, where a program
without transfers is followed from its first byte to its last.
-/

set_option autoImplicit false

namespace GameBloat

open BaseOpcode (baseOpcodeTable)
open CBOpcode (cbOpcodeTable)

/-- The flag register has only flags: the four bits below them, which the processor does not have,
are clear. -/
def OnlyFlags (F : Byte) : Prop := F &&& 0x0F = 0

instance (F : Byte) : Decidable (OnlyFlags F) := inferInstanceAs (Decidable (_ = _))

/-- From `r` to `r'` the program counter stays, and the flag register gets no bit but flags.  The
second half is an implication, so that steps compose whether or not `F` was clean to begin with.
Both are closed under composition, and a body of several statements is treated statement by
statement. -/
structure Steady (r r' : Registers) : Prop where
  pc : r'.PC = r.PC
  flags : OnlyFlags r.F → OnlyFlags r'.F

namespace Steady

variable {r r' r'' : Registers}

theorem refl (r : Registers) : Steady r r := ⟨rfl, id⟩

theorem trans (h : Steady r r') (h' : Steady r' r'') : Steady r r'' :=
  ⟨h'.pc.trans h.pc, fun hr ↦ h'.flags (h.flags hr)⟩

/-- Assignments to other registers: what `r''` has in common with `r'` is all that counts. -/
theorem assign (h : Steady r r') (hPC : r''.PC = r'.PC) (hF : r''.F = r'.F) : Steady r r'' :=
  ⟨hPC.trans h.pc, fun hr ↦ hF ▸ h.flags hr⟩

theorem setA (h : Steady r r') (A : Byte) : Steady r { r' with A } := h.assign rfl rfl

theorem setSP (h : Steady r r') (SP : Word) : Steady r { r' with SP } := h.assign rfl rfl

theorem setHL (h : Steady r r') (w : Word) : Steady r (r'.setHL w) := h.assign rfl rfl

theorem set8 (h : Steady r r') (ptr : Reg8) (n : Byte) : Steady r (r'.set8 ptr n) :=
  h.assign (set8_PC r' ptr n) (set8_F r' ptr n)

/-- Loading a register pair is steady for all pairs but `AF`, whose low byte is the flag
register. -/
theorem set16 (h : Steady r r') {ptr : Reg16} (hptr : ptr ≠ .AF) (nn : Word) :
    Steady r (r'.set16 ptr nn) := by
  cases ptr with
  | AF => exact absurd rfl hptr
  | BC | DE | HL | SP => exact h.assign rfl rfl

theorem ite {a b : Registers} {c : Prop} [Decidable c] (ha : Steady r a) (hb : Steady r b) :
    Steady r (if c then a else b) := by
  split
  · exact ha
  · exact hb

theorem setFlag (h : Steady r r') {flag : Byte} (hflag : OnlyFlags flag) :
    Steady r (Cpu.setFlag r' flag) := by
  refine ⟨h.pc, fun hr ↦ ?_⟩
  show (r'.F ||| flag) &&& 0x0F = 0
  rw [BitVec.and_or_distrib_right, show r'.F &&& 0x0F = 0 from h.flags hr,
    show flag &&& 0x0F = 0 from hflag]
  rfl

theorem removeFlag (h : Steady r r') (flag : Byte) : Steady r (Cpu.removeFlag r' flag) := by
  refine ⟨h.pc, fun hr ↦ ?_⟩
  show r'.F &&& ~~~flag &&& 0x0F = 0
  rw [BitVec.and_assoc, BitVec.and_comm (~~~flag), ← BitVec.and_assoc,
    show r'.F &&& 0x0F = 0 from h.flags hr]
  exact BitVec.zero_and

theorem writeFlag (h : Steady r r') {flag : Byte} (hflag : OnlyFlags flag) (c : Prop)
    [Decidable c] : Steady r (Cpu.writeFlag r' flag c) := by
  rw [Cpu.writeFlag]
  exact .ite (h.setFlag hflag) (h.removeFlag flag)

/-! ## The functions of cpu.c on the register file -/

theorem zero : OnlyFlags Cpu.flagZero := rfl

theorem negative : OnlyFlags Cpu.flagNegative := rfl

theorem halfCarry : OnlyFlags Cpu.flagHalfCarry := rfl

theorem carry : OnlyFlags Cpu.flagCarry := rfl

section

variable (r : Registers)

theorem addS (s : Byte) : Steady r (Cpu.addS r s) :=
  ((((refl r).removeFlag _).writeFlag carry _).writeFlag halfCarry _).setA _ |>.writeFlag zero _

theorem subS (s : Byte) : Steady r (Cpu.subS r s) :=
  ((((refl r).setFlag negative).writeFlag carry _).writeFlag halfCarry _).setA _
    |>.writeFlag zero _

theorem andS (s : Byte) : Steady r (Cpu.andS r s) :=
  (((refl r).removeFlag _).setFlag halfCarry).setA _ |>.writeFlag zero _

theorem logicS (op : Byte → Byte → Byte) (s : Byte) : Steady r (Cpu.logicS op r s) :=
  (((refl r).removeFlag _).setA _).writeFlag zero _

theorem cmpS (s : Byte) : Steady r (Cpu.cmpS r s) :=
  ((((refl r).setFlag negative).writeFlag carry _).writeFlag halfCarry _).writeFlag zero _

theorem incS (s : Reg8) : Steady r (Cpu.incS r s) :=
  ((((refl r).removeFlag _).writeFlag halfCarry _).set8 s _).writeFlag zero _

theorem decS (s : Reg8) : Steady r (Cpu.decS r s) :=
  ((((refl r).setFlag negative).writeFlag halfCarry _).set8 s _).writeFlag zero _

theorem addHLSs (ss : Word) : Steady r (Cpu.addHLSs r ss) :=
  ((((refl r).removeFlag _).writeFlag carry _).writeFlag halfCarry _).setHL _

theorem addSPE (e : Byte) : Steady r (Cpu.addSPE r e) :=
  ((((refl r).removeFlag _).writeFlag carry _).writeFlag halfCarry _).setSP _

theorem ldHLSPE (e : Byte) : Steady r (Cpu.ldHLSPE r e) :=
  ((((refl r).writeFlag carry _).writeFlag halfCarry _).removeFlag _).setHL _

theorem daaAdjust : Steady r (Cpu.daaAdjust r) := by
  rw [Cpu.daaAdjust]
  refine .ite ?_ ?_
  · have h : Steady r
        (if Cpu.checkFlag r Cpu.flagHalfCarry ≠ 0 then { r with A := (r.A - 0x06) &&& 0xFF }
          else r) := .ite ((refl r).setA _) (refl r)
    exact .ite (h.setA _) h
  · have h : Steady r
        (if Cpu.checkFlag r Cpu.flagHalfCarry ≠ 0 ∨
            9 < (r.A &&& Cpu.lowNibble).toNat then { r with A := r.A + 0x06 }
          else r) := .ite ((refl r).setA _) (refl r)
    exact .ite (h.setA _) h

theorem daa : Steady r (Cpu.daa r) :=
  (((daaAdjust r).writeFlag carry _).writeFlag zero _).removeFlag _

theorem cpl : Steady r (Cpu.cpl r) :=
  have hflags : OnlyFlags (Cpu.flagNegative ||| Cpu.flagHalfCarry) := rfl
  ((refl r).setFlag hflags).setA _

theorem ccf : Steady r (Cpu.ccf r) := ((refl r).writeFlag carry _).removeFlag _

theorem scf : Steady r (Cpu.scf r) := ((refl r).setFlag carry).removeFlag _

theorem swapS (ptrS : Reg8) : Steady r (Cpu.swapS r ptrS) :=
  (((refl r).removeFlag _).set8 ptrS _).writeFlag zero _

theorem shiftA (c : Byte → Bool) (move : Registers → Byte → Byte) :
    Steady r (Cpu.shiftA c move r) :=
  (((refl r).removeFlag _).writeFlag carry _).setA _

theorem shiftS (c : Byte → Bool) (move : Registers → Byte → Byte) (ptrS : Reg8) :
    Steady r (Cpu.shiftS c move r ptrS) :=
  ((((refl r).removeFlag _).writeFlag carry _).set8 ptrS _).writeFlag zero _

theorem bitBS (bitPosition : ℕ) (ptrS : Reg8) : Steady r (Cpu.bitBS r bitPosition ptrS) :=
  (((refl r).removeFlag _).setFlag halfCarry).writeFlag zero _

theorem ldRS (ptrR : Reg8) (n : Byte) : Steady r (Cpu.ldRS r ptrR n) := (refl r).set8 ptrR n

theorem ldDdNn {ptrDD : Reg16} (h : ptrDD ≠ .AF) (nn : Word) :
    Steady r (Cpu.ldDdNn r ptrDD nn) := (refl r).set16 h nn

theorem incSs {ptrSS : Reg16} (h : ptrSS ≠ .AF) : Steady r (Cpu.incSs r ptrSS) :=
  (refl r).set16 h _

theorem decSs {ptrSS : Reg16} (h : ptrSS ≠ .AF) : Steady r (Cpu.decSs r ptrSS) :=
  (refl r).set16 h _

end

/-! ## The functions of cpu.c on the machine -/

/-- A store leaves the register file alone. -/
theorem store {m : Machine} (h : Steady r m.registers) (address : Word) (value : Byte) :
    Steady r (storeByte m address value).registers := by
  rw [storeByte_registers]
  exact h

/-- A function on the register file, on the machine. -/
theorem on {m : Machine} (h : Steady r m.registers) {f : Registers → Registers}
    (hf : ∀ r, Steady r (f r)) : Steady r (m.onRegisters f).registers :=
  h.trans (hf m.registers)

section

variable (m : Machine)

theorem ldASs (memLocation : Word) : Steady m.registers (Cpu.ldASs m memLocation).registers :=
  (refl m.registers).setA _

theorem ldNnSP (nn : Word) : Steady m.registers (Cpu.ldNnSP m nn).registers :=
  ((refl m.registers).store nn _).store (nn + 1) _

theorem lddMHLA : Steady m.registers (Cpu.lddMHLA m).registers := by
  rw [Cpu.lddMHLA]
  exact ((refl m.registers).store _ _).on fun r ↦ (refl r).setHL _

theorem ldiMHLA : Steady m.registers (Cpu.ldiMHLA m).registers := by
  rw [Cpu.ldiMHLA]
  exact ((refl m.registers).store _ _).on fun r ↦ (refl r).setHL _

theorem lddAMHL : Steady m.registers (Cpu.lddAMHL m).registers :=
  ((refl m.registers).setA _).setHL _

theorem ldiAMHL : Steady m.registers (Cpu.ldiAMHL m).registers :=
  ((refl m.registers).setA _).setHL _

theorem pushSs (ss : Word) : Steady m.registers (Cpu.pushSs m ss).registers := by
  rw [Cpu.pushSs]
  have down (r : Registers) : Steady r { r with SP := r.SP - 1 } := (refl r).setSP _
  exact ((((refl m.registers).on down).store _ _).on down).store _ _

theorem popDd {ptrDD : Reg16} (h : ptrDD ≠ .AF) :
    Steady m.registers (Cpu.popDd m ptrDD).registers := by
  rw [Cpu.popDd_eq]
  exact ((refl m.registers).setSP _).set16 h _

theorem incSHL : Steady m.registers (Cpu.incSHL m).registers := by
  rw [Cpu.incSHL]
  exact ((((refl m.registers).on fun r ↦ (refl r).removeFlag _).on fun r ↦
    (refl r).writeFlag halfCarry _).store _ _).on fun r ↦ (refl r).writeFlag zero _

theorem decSHL : Steady m.registers (Cpu.decSHL m).registers := by
  rw [Cpu.decSHL]
  exact ((((refl m.registers).on fun r ↦ (refl r).setFlag negative).on fun r ↦
    (refl r).writeFlag halfCarry _).store _ _).on fun r ↦ (refl r).writeFlag zero _

theorem swapSHL : Steady m.registers (Cpu.swapSHL m).registers := by
  rw [Cpu.swapSHL]
  exact (((refl m.registers).on fun r ↦ (refl r).removeFlag _).store _ _).on fun r ↦
    (refl r).writeFlag zero _

theorem shiftSHL (c : Byte → Bool) (move : Registers → Byte → Byte) :
    Steady m.registers (Cpu.shiftSHL c move m).registers := by
  rw [Cpu.shiftSHL]
  exact ((((refl m.registers).on fun r ↦ (refl r).removeFlag _).on fun r ↦
    (refl r).writeFlag carry _).store _ _).on fun r ↦ (refl r).writeFlag zero _

theorem put (x : Operand) (value : Byte) : Steady m.registers (x.put m value).registers := by
  cases x with
  | reg ptr => exact (refl m.registers).set8 ptr value
  | mHL => exact (refl m.registers).store _ value

end

/-! ## The CB opcodes -/

theorem shiftOn (c : Byte → Bool) (move : Registers → Byte → Byte) (x : Operand) (m : Machine) :
    Steady m.registers (GameBloat.shiftOn c move x m).registers := by
  cases x with
  | reg ptr => exact shiftS m.registers c move ptr
  | mHL => exact shiftSHL m c move

theorem rotateOn (c : Byte → Bool) (move : Registers → Byte → Byte) (x : Operand) (m : Machine) :
    Steady m.registers (GameBloat.rotateOn c move x m).registers := by
  rw [GameBloat.rotateOn]
  split
  · exact shiftA m.registers c move
  · exact shiftOn c move x m

theorem kinds (k : Fin 8) (x : Operand) (m : Machine) :
    Steady m.registers (GameBloat.kinds.get k x m).registers := by
  match k with
  | 0 | 1 | 2 | 3 => exact rotateOn _ _ x m
  | 4 | 5 | 7 => exact shiftOn _ _ x m
  | 6 =>
    cases x with
    | reg ptr => exact swapS m.registers ptr
    | mHL => exact swapSHL m

theorem decodeBit (cb : Byte) (m : Machine) :
    Steady m.registers (GameBloat.decodeBit cb m).registers := by
  rw [GameBloat.decodeBit]
  split_ifs
  · cases operandOf cb with
    | reg ptr => exact bitBS m.registers _ ptr
    | mHL =>
      show Steady m.registers (Cpu.bitBSHL m _).registers
      rw [Cpu.bitBSHL]
      exact (((refl m.registers).on fun r ↦ (refl r).removeFlag _).on fun r ↦
        (refl r).setFlag halfCarry).on fun r ↦ (refl r).writeFlag zero _
  · rw [resOn_eq]
    exact put m _ _
  · rw [setOn_eq]
    exact put m _ _

end Steady

/-- Every CB opcode is steady: the rotates and shifts by their kinds, and `BIT`, `RES` and `SET`
by the fields of the opcode.  So a prefixed opcode needs no flow of its own. -/
theorem cbOpcodeTable_steady (cb : Byte) (m : Machine) (operand : Word) :
    Steady m.registers (executeOpcode m (cbOpcodeTable.get cb.toFin) operand).registers := by
  rcases Nat.lt_or_ge cb.toNat 0x40 with h | h
  · rw [cbOpcodeTable_get_shift h]
    exact .kinds _ _ m
  · rw [cbOpcodeTable_get h]
    exact .decodeBit cb m

/-! ## The base table -/

/-- What the opcodes of the base table do to `PC` and the flags. -/
inductive FlowKind
  /-- `PC` stays behind the instruction, and the flag register gets only flags. -/
  | on
  /-- A jump, call, restart or return: `PC` goes elsewhere, and the flags stay. -/
  | transfer
  | halt
  | popAF
  deriving DecidableEq

open FlowKind in
set_option maxRecDepth 2000 in
/-- The flows of the base table, entry by entry.  The list is checked against the table in
`baseOpcodeTable_flows`, so a wrong name here would not get through. -/
def baseFlows : Vector FlowKind 256 := #v[
  -- 0x00
  on, on, on, on, on, on, on, on, on, on, on, on, on, on, on, on,
  on, on, on, on, on, on, on, on, transfer, on, on, on, on, on, on, on,
  transfer, on, on, on, on, on, on, on, transfer, on, on, on, on, on, on, on,
  transfer, on, on, on, on, on, on, on, transfer, on, on, on, on, on, on, on,
  -- 0x40
  on, on, on, on, on, on, on, on, on, on, on, on, on, on, on, on,
  on, on, on, on, on, on, on, on, on, on, on, on, on, on, on, on,
  on, on, on, on, on, on, on, on, on, on, on, on, on, on, on, on,
  on, on, on, on, on, on, halt, on, on, on, on, on, on, on, on, on,
  -- 0x80
  on, on, on, on, on, on, on, on, on, on, on, on, on, on, on, on,
  on, on, on, on, on, on, on, on, on, on, on, on, on, on, on, on,
  on, on, on, on, on, on, on, on, on, on, on, on, on, on, on, on,
  on, on, on, on, on, on, on, on, on, on, on, on, on, on, on, on,
  -- 0xC0
  transfer, on, transfer, transfer, transfer, on, on, transfer,
  transfer, transfer, transfer, on, transfer, transfer, on, transfer,
  transfer, on, transfer, on, transfer, on, on, transfer,
  transfer, transfer, transfer, on, transfer, on, on, transfer,
  -- 0xE0
  on, on, on, on, on, on, on, transfer, on, transfer, on, on, on, on, on, transfer,
  on, popAF, on, on, on, on, on, transfer, on, on, on, on, on, on, on, transfer]

/-- The opcode does what the flow says, in every machine and with every operand.  For `halt` and
`POP AF` the flow is the function itself, since what these do depends on the state.  A flow says
where control goes and what becomes of the flags, and nothing of the values that are computed. -/
def Opcode.Flows (o : Opcode) (flow : FlowKind) : Prop :=
  ∀ (m : Machine) (operand : Word),
    match flow with
    | .on => Steady m.registers (executeOpcode m o operand).registers
    | .transfer => (executeOpcode m o operand).registers.F = m.registers.F
    | .halt => executeOpcode m o operand = Cpu.halt m
    | .popAF => executeOpcode m o operand = Cpu.popDd m .AF

/-! Transfers leave the flags alone. -/

section

variable (m : Machine)

theorem callNn_F (nn : Word) : (Cpu.callNn m nn).registers.F = m.registers.F := by
  rw [Cpu.callNn_eq, Machine.onRegisters_registers, pushWord_registers]

theorem rstF_F (f : Byte) : (Cpu.rstF m f).registers.F = m.registers.F := by
  rw [Cpu.rstF_eq, Machine.onRegisters_registers, pushWord_registers]

theorem ret_F : (Cpu.ret m).registers.F = m.registers.F := by
  rw [Cpu.ret_eq]
  rfl

theorem reti_F : (Cpu.reti m).registers.F = m.registers.F := ret_F m

/-- A transfer under a condition. -/
theorem ite_addTicks_F {c : Prop} [Decidable c] {m' : Machine} {n : ℕ}
    (h : m'.registers.F = m.registers.F) :
    (if c then Cpu.addTicks m' n else m).registers.F = m.registers.F := by
  split
  · exact h
  · rfl

end

-- an entry is recognised by the function of `cpu.c` it calls
seal storeByte mmuReadByte mmuWriteByte Cpu.checkFlag Cpu.addS Cpu.subS Cpu.andS Cpu.logicS
  Cpu.cmpS Cpu.incS Cpu.decS Cpu.addHLSs Cpu.addSPE Cpu.ldHLSPE Cpu.daa Cpu.cpl Cpu.ccf Cpu.scf
  Cpu.shiftA Cpu.ldRS Cpu.ldDdNn Cpu.incSs Cpu.decSs Cpu.ldNnSP Cpu.lddMHLA Cpu.ldiMHLA
  Cpu.lddAMHL Cpu.ldiAMHL Cpu.pushSs Cpu.popDd Cpu.incSHL Cpu.decSHL Cpu.halt Cpu.callNn Cpu.rstF
  Cpu.ret in
set_option maxRecDepth 4000 in
/-- Every entry of the base table has its flow: the walk over the table, with one of the lemmas
above for each line of it. -/
theorem baseOpcodeTable_flows :
    List.Forall₂ Opcode.Flows baseOpcodeTable.toList baseFlows.toList := by
  rw [baseOpcodeTable, baseFlows, Vector.toList_mk, Vector.toList_mk]
  repeat (refine List.Forall₂.cons ?_ ?_; swap)
  · exact .nil
  all_goals first
    | exact fun _ _ ↦ Steady.ldRS _ _ _
    | exact fun _ _ ↦ Steady.addS _ _
    | exact fun _ _ ↦ Steady.subS _ _
    | exact fun _ _ ↦ Steady.andS _ _
    | exact fun _ _ ↦ Steady.logicS _ _ _
    | exact fun _ _ ↦ Steady.cmpS _ _
    | exact fun _ _ ↦ Steady.incS _ _
    | exact fun _ _ ↦ Steady.decS _ _
    | exact fun _ _ ↦ Steady.shiftA _ _ _
    | exact fun _ _ ↦ Steady.addHLSs _ _
    | exact fun _ _ ↦ Steady.addSPE _ _
    | exact fun _ _ ↦ Steady.ldHLSPE _ _
    | exact fun _ _ ↦ Steady.ldDdNn _ (by decide) _
    | exact fun _ _ ↦ Steady.incSs _ (by decide)
    | exact fun _ _ ↦ Steady.decSs _ (by decide)
    | exact fun _ _ ↦ Steady.daa _
    | exact fun _ _ ↦ Steady.cpl _
    | exact fun _ _ ↦ Steady.ccf _
    | exact fun _ _ ↦ Steady.scf _
    | exact fun _ _ ↦ Steady.refl _
    | exact fun m _ ↦ (Steady.refl m.registers).store _ _
    | exact fun m _ ↦ (Steady.refl m.registers).setSP _
    | exact fun m _ ↦ Steady.ldASs m _
    | exact fun m _ ↦ Steady.ldNnSP m _
    | exact fun m _ ↦ Steady.lddMHLA m
    | exact fun m _ ↦ Steady.ldiMHLA m
    | exact fun m _ ↦ Steady.lddAMHL m
    | exact fun m _ ↦ Steady.ldiAMHL m
    | exact fun m _ ↦ Steady.pushSs m _
    | exact fun m _ ↦ Steady.popDd m (by decide)
    | exact fun m _ ↦ Steady.incSHL m
    | exact fun m _ ↦ Steady.decSHL m
    | exact fun m _ ↦ callNn_F m _
    | exact fun m _ ↦ rstF_F m _
    | exact fun m _ ↦ ret_F m
    | exact fun m _ ↦ reti_F m
    | exact fun m nn ↦ ite_addTicks_F m (callNn_F m nn)
    | exact fun m _ ↦ ite_addTicks_F m (ret_F m)
    | exact fun m n ↦ ite_addTicks_F m rfl
    | exact fun _ _ ↦ rfl

theorem flows_get (i : Fin 256) : (baseOpcodeTable.get i).Flows (baseFlows.get i) := by
  have := baseOpcodeTable_flows.get (i := i) (by simp) (by simp)
  simpa [Vector.get] using this

/-- The opcodes of jumps, calls, restarts and returns. -/
def transferOpcodes : List Byte :=
  [0x18, 0x20, 0x28, 0x30, 0x38, 0xC2, 0xC3, 0xCA, 0xD2, 0xDA, 0xE9, 0xC4, 0xCC, 0xCD, 0xD4, 0xDC,
   0xC7, 0xCF, 0xD7, 0xDF, 0xE7, 0xEF, 0xF7, 0xFF, 0xC0, 0xC8, 0xC9, 0xD0, 0xD8, 0xD9]

/-- The flow of an opcode. -/
def flowOf (op : Byte) : FlowKind :=
  if transferOpcodes.contains op then .transfer else if op = 0x76 then .halt
  else if op = 0xF1 then .popAF else .on

theorem baseFlows_toList :
    baseFlows.toList = (List.range 256).map fun op ↦ flowOf (BitVec.ofNat 8 op) := by
  decide +kernel

/-- The flow by the opcode byte.  The list is compared with `flowOf` as a whole, so that the
lookup is not computed 256 times. -/
theorem baseFlows_get (op : Byte) : baseFlows.get op.toFin = flowOf op := by
  have hentry := congrArg (·[op.toNat]?) baseFlows_toList
  simpa [Vector.get, op.isLt] using hentry

/-! ## cpuStep -/

/-- Skipping a byte does not touch the flags. -/
theorem halt_F (m : Machine) : (Cpu.halt m).registers.F = m.registers.F := by
  rw [Cpu.halt]
  split <;> rfl

/-- `POP AF` loads the flag register with the second byte on the stack. -/
theorem popDd_AF_F (m : Machine) :
    (Cpu.popDd m .AF).registers.F = mmuReadByte m (m.registers.SP + 1) := by
  have hlow : ∀ b : Byte, lowByte (b.setWidth 16) = b := by decide
  rw [Cpu.popDd_eq, mmuReadShort_eq, highByte_append]
  exact hlow _

/-- What an instruction leaves in `F` is only flags, unless it is `POP AF` and there is something
else on the stack. -/
theorem cpuStep_onlyFlags_iff {m : Machine} (h : OnlyFlags m.registers.F) :
    OnlyFlags (cpuStep m).1.registers.F ↔
      (mmuReadByte m m.registers.PC = 0xF1 → OnlyFlags (mmuReadByte m (m.registers.SP + 1))) := by
  obtain ⟨length, ticks, hpast⟩ := exists_fetched_eq_past m
  have hF : m.fetched.1.registers.F = m.registers.F := by rw [hpast]; rfl
  by_cases hcb : mmuReadByte m m.registers.PC = 0xCB
  · rw [cpuStep_cb hcb]
    refine iff_of_true ((cbOpcodeTable_steady _ _ _).flags (hF ▸ h)) fun hop ↦ ?_
    rw [hcb] at hop
    exact absurd hop (by decide)
  rw [cpuStep_base rfl hcb]
  have hflow := flows_get (mmuReadByte m m.registers.PC).toFin m.fetched.1 m.fetched.2
  rw [baseFlows_get, flowOf] at hflow
  split_ifs at hflow with htransfer hhalt hpop
  · rw [show (executeOpcode _ _ _).registers.F = _ from hflow, hF]
    refine iff_of_true h fun hop ↦ ?_
    rw [hop] at htransfer
    exact absurd htransfer (by decide)
  · rw [show executeOpcode _ _ _ = _ from hflow, halt_F, hF]
    refine iff_of_true h fun hop ↦ ?_
    rw [hhalt] at hop
    exact absurd hop (by decide)
  · have hread : mmuReadByte m.fetched.1 (m.fetched.1.registers.SP + 1) =
        mmuReadByte m (m.registers.SP + 1) := by rw [hpast]; rfl
    rw [show executeOpcode _ _ _ = _ from hflow, popDd_AF_F, hread]
    exact ⟨fun h _ ↦ h, fun h ↦ h hpop⟩
  · exact iff_of_true (hflow.flags (hF ▸ h)) fun hop ↦ absurd hop hpop

end GameBloat
