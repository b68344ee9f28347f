import GameBloat.Cartridge.Accesses
import GameBloat.Cpu.Flow
import GameBloat.Programs.Code

/-!
# Straight-line programs

Fetching cuts a program without jumps into the instructions it was encoded from: after `k` steps
`PC` is where instruction `k + 1` begins.  There is one exception, and it is made on purpose.  A
HALT that finds interrupts disabled skips a byte, and from then on the program is cut elsewhere.
`straightLine_iff` says that nothing else can move `PC` away.

A program is a list of `Instruction`, which may be any opcode of the base table that is not a
transfer, with an operand of the length its entry states, or any opcode of the CB table.  The side
conditions are fields, so a list of instructions is a program by its type, and every program of
the kind is such a list.

There is nothing to decode if the bytes do not stay where they are.  Instructions may store
anything anywhere, but bank 0 of the cartridge cannot be written to: a store there goes to the
controller, which never maps another bank to the first 16 KB (`cpuStep_bank0`).  This is the
invariant that carries a run, and with it every step reads the bytes of the next instruction.

* `cpuStep_instruction` is one step, from the flows of the two tables (`GameBloat.Cpu.Flow`).
* `run_codeAt` says that the program is still there.
* `straightLine_iff` is the induction on the number of steps, in both directions, with the byte
  that the first HALT skips as its second half.
-/

set_option autoImplicit false

namespace GameBloat

open BaseOpcode (baseOpcodeTable)
open CBOpcode (cbOpcodeTable)

/-! ## Programs -/

/-- An instruction that is not a jump, a call, a restart or a return.  Its operand is as long as
the entry of the table states, which is a part of the data, so that a program is a list of these
and nothing needs to be assumed of it. -/
inductive Instruction
  /-- An opcode of the base table, with an operand of the length that its entry states. -/
  | base (op : Byte) (operand : List Byte) (hcb : op ≠ 0xCB) (htransfer : op ∉ transferOpcodes)
      (hoperand : operand.length = (baseOpcodeTable.get op.toFin).operandType)
  | cb (op : Byte)

/-- The bytes of an instruction. -/
def Instruction.encode : Instruction → List Byte
  | base op operand _ _ _ => op :: operand
  | cb op => [0xCB, op]

/-- The instruction is a HALT. -/
def Instruction.IsHalt : Instruction → Prop
  | base op _ _ _ _ => op = 0x76
  | cb _ => False

instance : DecidablePred Instruction.IsHalt
  | .base op _ _ _ _ => inferInstanceAs (Decidable (op = 0x76))
  | .cb _ => inferInstanceAs (Decidable False)

/-- The bytes of a program. -/
def encode (prog : List Instruction) : List Byte := prog.flatMap Instruction.encode

/-- Where the instruction with index `k` begins, in a program at `L`: behind the bytes of those
before it. -/
def addressOf (L : Word) (prog : List Instruction) (k : ℕ) : Word :=
  L + BitVec.ofNat 16 (encode (prog.take k)).length

/-- The instruction is a HALT that finds interrupts disabled.  What `halt` tests is the master
enable alone. -/
def Skips (m : Machine) (i : Instruction) : Prop :=
  i.IsHalt ∧ m.interruptRegisters.masterEnable = 0

instance (m : Machine) (i : Instruction) : Decidable (Skips m i) :=
  inferInstanceAs (Decidable (_ ∧ _))

theorem encode_append (prog prog' : List Instruction) :
    encode (prog ++ prog') = encode prog ++ encode prog' := List.flatMap_append

theorem addressOf_succ (L : Word) {prog : List Instruction} {k : ℕ} (hk : k < prog.length) :
    addressOf L prog (k + 1) = addressOf L prog k + BitVec.ofNat 16 prog[k].encode.length := by
  have hone : encode [prog[k]] = prog[k].encode := List.flatMap_singleton _ _
  rw [addressOf, addressOf, ← List.take_append_getElem hk, encode_append, hone,
    List.length_append, BitVec.ofNat_add, BitVec.add_assoc]

/-- The bytes of an instruction lie where it begins. -/
theorem CodeAt.instruction {m : Machine} {L : Word} {prog : List Instruction}
    (h : CodeAt m L (encode prog)) {k : ℕ} (hk : k < prog.length) :
    CodeAt m (addressOf L prog k) prog[k].encode := by
  have hsplit : encode prog =
      encode (prog.take k) ++ (prog[k].encode ++ encode (prog.drop (k + 1))) := by
    have hcons : encode (prog[k] :: prog.drop (k + 1)) =
        prog[k].encode ++ encode (prog.drop (k + 1)) := List.flatMap_cons
    rw [← hcons, ← encode_append, List.getElem_cons_drop, List.take_append_drop]
  rw [hsplit] at h
  exact h.right.left

/-! ## The program stays where it is -/

/-- What is read in bank 0 depends on the ROM and the kind of controller only. -/
theorem mmuReadByte_bank0_congr {m m' : Machine} (hcontroller : m'.controller = m.controller)
    (hrom : m'.cartridge.rom = m.cartridge.rom) {address : Word} (h : address.toNat ≤ 0x3FFF) :
    mmuReadByte m' address = mmuReadByte m address := by
  have h32 : (address.setWidth 32 : BitVec 32).toNat = address.toNat := by
    rw [BitVec.toNat_setWidth]
    omega
  rw [mmuReadByte, mmuReadByte, if_pos (by omega), if_pos (by omega), mbcRead, mbcRead, hcontroller]
  cases m.controller with
  | none => rfl
  | some controller =>
    cases controller with
    | mbcNone =>
      have h7FFF : address.toNat ≤ 0x7FFF := by omega
      simp only [mbcNoneReadByte, h7FFF, if_true, hrom]
    | mbc1 => simp only [mbc1ReadByte, h32, h, if_true, hrom]
    | mbc3 => simp only [mbc3ReadByte, h32, h, if_true, hrom]
    | mbc2 | mbc4 | mbc5 => rfl

/-- No instruction changes what is read in bank 0.  The controllers write their registers, but the
low bank is fixed, also for MBC1 in its second mode as the source has it. -/
theorem cpuStep_bank0 (m : Machine) {address : Word} (h : address.toNat ≤ 0x3FFF) :
    mmuReadByte (cpuStep m).1 address = mmuReadByte m address := by
  obtain ⟨t, -, -, hmoves, -⟩ := cpuStep_moves m
  have hsame : (cpuStep m).1.controller = m.controller ∧
      (cpuStep m).1.cartridge.rom = m.cartridge.rom := by
    refine hmoves.preserves
      (P := fun m' ↦ m'.controller = m.controller ∧ m'.cartridge.rom = m.cartridge.rom)
      (fun m₁ n m₂ hmove h ↦ ?_) ⟨rfl, rfl⟩
    cases hmove with
    | write address value =>
      rw [storeByte_controller, storeByte_footprint]
      exact h
    | registers | ticks | interrupts | stop => exact h
  exact mmuReadByte_bank0_congr hsame.1 hsame.2 h

theorem run_codeAt {m : Machine} {L : Word} {code : List Byte} (h : CodeAt m L code)
    (hL : L.toNat + code.length ≤ 0x4000) (k : ℕ) : CodeAt (cpuMachine.run k m) L code := by
  induction k generalizing m with
  | zero => exact h
  | succ k ih =>
    refine ih fun i hi ↦ ?_
    have haddress : (L + BitVec.ofNat 16 i).toNat ≤ 0x3FFF := by bv_omega
    exact (cpuStep_bank0 m haddress).trans (h i hi)

/-! ## One instruction -/

/-- A HALT behind which fetching has left `PC`: it stays there, or it is moved on by one if
interrupts are disabled. -/
theorem halt_PC (m : Machine) : (Cpu.halt m).registers.PC =
    if m.interruptRegisters.masterEnable = 0 then m.registers.PC + 1 else m.registers.PC := by
  rw [Cpu.halt, ite_not]
  split <;> rfl

/-- **An instruction moves `PC` past itself**, and a HALT that finds interrupts disabled one byte
further. -/
theorem cpuStep_instruction {m : Machine} {i : Instruction}
    (h : CodeAt m m.registers.PC i.encode) :
    let next := m.registers.PC + BitVec.ofNat 16 i.encode.length
    (cpuStep m).1.registers.PC = if Skips m i then next + 1 else next := by
  have hfirst (op : Byte) (rest : List Byte) (h : CodeAt m m.registers.PC (op :: rest)) :
      mmuReadByte m m.registers.PC = op := by
    have := h 0 (Nat.succ_pos _)
    rwa [BitVec.add_zero] at this
  intro next
  cases i with
  | cb op =>
    have hop := hfirst _ _ h
    rw [if_neg fun hskip ↦ hskip.1, cpuStep_cb hop, (cbOpcodeTable_steady _ _ _).pc,
      fetched_cb hop]
    rfl
  | base op operand hcb htransfer hoperand =>
    have hop := hfirst _ _ h
    have hfetched : m.fetched.1.registers.PC = next := by
      rw [fetched_base hop hcb, ← hoperand, Nat.add_comm]
      rfl
    have hflow := flows_get op.toFin m.fetched.1 m.fetched.2
    rw [baseFlows_get, flowOf, if_neg (mt List.contains_iff_mem.1 htransfer)] at hflow
    rw [cpuStep_base hop hcb]
    by_cases hhalt : op = 0x76
    · rw [if_pos hhalt] at hflow
      have henable : m.fetched.1.interruptRegisters = m.interruptRegisters := by
        rw [fetched_base hop hcb]
        rfl
      rw [show executeOpcode _ _ _ = _ from hflow, halt_PC, henable, hfetched]
      exact if_congr (and_iff_right hhalt).symm rfl rfl
    · rw [if_neg hhalt] at hflow
      rw [if_neg fun hskip ↦ hhalt hskip.1]
      split_ifs at hflow
      · rw [show executeOpcode _ _ _ = _ from hflow, Cpu.popDd_eq, ← hfetched]
        rfl
      · rw [hflow.pc, hfetched]

/-! ## A program -/

/-- **Where a straight-line program gets.**  Up to step `k`, `PC` is at the first byte of the next
instruction every time if and only if no HALT before found interrupts disabled.  The first that does
leaves `PC` one byte further. -/
theorem straightLine_iff {m : Machine} {prog : List Instruction}
    (hcode : CodeAt m m.registers.PC (encode prog))
    (hfit : m.registers.PC.toNat + (encode prog).length ≤ 0x4000) {k : ℕ} (hk : k ≤ prog.length) :
    ((∀ j ≤ k, (cpuMachine.run j m).registers.PC = addressOf m.registers.PC prog j) ↔
        ∀ j (h : j < k), ¬Skips (cpuMachine.run j m) prog[j]) ∧
      ∀ h : k < prog.length, (∀ j (h : j < k), ¬Skips (cpuMachine.run j m) prog[j]) →
        Skips (cpuMachine.run k m) prog[k] →
        (cpuMachine.run (k + 1) m).registers.PC = addressOf m.registers.PC prog (k + 1) + 1 := by
  have hstart : (cpuMachine.run 0 m).registers.PC = addressOf m.registers.PC prog 0 :=
    (BitVec.add_zero _).symm
  have hstep {j : ℕ} (h : j < prog.length)
      (hPC : (cpuMachine.run j m).registers.PC = addressOf m.registers.PC prog j) :
      (cpuMachine.run (j + 1) m).registers.PC =
        if Skips (cpuMachine.run j m) prog[j] then addressOf m.registers.PC prog (j + 1) + 1
        else addressOf m.registers.PC prog (j + 1) := by
    have hinstruction : CodeAt (cpuMachine.run j m) (cpuMachine.run j m).registers.PC
        prog[j].encode := hPC ▸ (run_codeAt hcode hfit j).instruction h
    rw [TimedMachine.run_add, addressOf_succ _ h, ← hPC]
    exact cpuStep_instruction hinstruction
  -- `PC` stays on the instructions as long as nothing skips
  have hon (n : ℕ) (hn : n ≤ prog.length)
      (hskip : ∀ j (h : j < n), ¬Skips (cpuMachine.run j m) prog[j]) :
      (cpuMachine.run n m).registers.PC = addressOf m.registers.PC prog n := by
    induction n with
    | zero => exact hstart
    | succ n ih =>
      rw [hstep hn (ih (by omega) fun j h ↦ hskip j (by omega)), if_neg (hskip n (by omega))]
  refine ⟨⟨fun hPC j hj hskip ↦ ?_, fun hskip j hj ↦ ?_⟩, fun h hskip hlast ↦ ?_⟩
  · have hnext := hstep (by omega : j < prog.length) (hPC j (by omega))
    rw [hPC (j + 1) (by omega), if_pos hskip] at hnext
    bv_omega
  · exact hon j (by omega) fun i hi ↦ hskip i (by omega)
  · rw [hstep h (hon k hk hskip), if_pos hlast]

/-- A machine with the bytes `code` at the start of a plain cartridge, and interrupts as in
`masterEnable`. -/
def atCode (code : List Byte) (masterEnable : Byte) : Machine :=
  { Machine.powerOn with
    interruptRegisters := ⟨0, 0, masterEnable⟩
    cartridge := { Machine.powerOn.cartridge with
      romLength := 0x8000, rom := fun i ↦ code.getD i 0, mbc := true }
    MBC := some .mbcNone }

/-- HALT, `LD BC,0x1234` and `SET 0,B`. -/
def haltLoadSet : List Instruction :=
  [.base 0x76 [] (by decide) (by decide) rfl, .base 0x01 [0x34, 0x12] (by decide) (by decide) rfl,
    .cb 0xC0]

/-- With interrupts enabled, the three instructions are followed to their end. -/
theorem straightLine_iff_enabled :
    (cpuMachine.run 3 (atCode (encode haltLoadSet) 1)).registers.PC = 6 := by
  have hcode : CodeAt (atCode (encode haltLoadSet) 1)
      (atCode (encode haltLoadSet) 1).registers.PC (encode haltLoadSet) := by
    unfold CodeAt
    decide +kernel
  have h := straightLine_iff hcode (by decide) (k := 3) (by decide)
  exact h.1.2 (by decide +kernel) 3 le_rfl

/-- With interrupts disabled, the HALT skips the first byte of the next instruction. -/
theorem halt_skips_a_byte :
    let m := atCode (encode haltLoadSet) 0
    CodeAt m m.registers.PC (encode haltLoadSet) ∧
      m.registers.PC.toNat + (encode haltLoadSet).length ≤ 0x4000 ∧
      (cpuMachine.run 1 m).registers.PC ≠ addressOf m.registers.PC haltLoadSet 1 := by
  refine ⟨?_, by decide, by decide +kernel⟩
  unfold CodeAt
  decide +kernel

end GameBloat
