import GameBloat.Cpu.BitFamily
import GameBloat.Cpu.RotateFamily
import Mathlib.Data.List.Forall2

/-!
# The calls of an instruction

What an instruction does outside the register file, it does by calling `mmuWriteByte` and by
setting the interrupt master enable.  `cpuCalls` lists these calls for the next instruction, with
their arguments, before it is executed: `baseEffects` has an `Effect` for every opcode, and the CB
opcodes have a formula.  `cpuStep_performs` checks the list against the two opcode tables.

Whatever the rest of the machine undergoes in a `cpuStep`, it is the effect of these calls, one
after the other.  This is more than `GameBloat.Cpu.Moves` says, which allows any stores at all:
here the addresses and values are known from the state before the instruction.  It is what a
statement needs that has a condition on the stores of a program, such as that it stores nothing to
the interrupt registers, and it makes the condition one on the state before the step.

The arguments are those that the source computes, in its order, and three things about them are
easy to get wrong:

* a call stores the high byte of `PC` first, and `PC` is behind the instruction by then;
* `push_ss` stores the low byte of its operand first, at the higher address;
* the read-modify-write instructions on `(HL)` change flags before they read, which matters for
  the rotates that bring the carry in: the value stored depends on `F`, so `cbValue` has it as an
  argument.

The main results:

* `baseOpcodeTable_has` and `cbOpcodeTable_performs` check the lists, each by one walk over a
  table;
* `cpuStep_performs`: an instruction makes its calls and does nothing else outside the register
  file;
* `opcode_of_masterEnable_mem`: only `EI` and `RETI` turn interrupts on.
-/

set_option autoImplicit false

namespace GameBloat

open BaseOpcode (baseOpcodeTable)
open CBOpcode (cbOpcodeTable)
open Cpu (flagZero flagCarry flagIsSet flagNotSet)

/-! ## Calls -/

/-- What the CPU does outside its register file.  Ticks and the stop flag are left out: nothing
that is said about calls depends on them.  Stores are the calls that matter to the rest of the
machine, and how they are carried out is a matter of the memory map. -/
inductive CpuCall
  /-- `mmuWriteByte(address, value)`. -/
  | write (address : Word) (value : Byte)
  /-- `interruptRegisters.masterEnable = value;`. -/
  | masterEnable (value : Byte)

/-- The machine after a call. -/
def CpuCall.perform (m : Machine) : CpuCall → Machine
  | .write address value => storeByte m address value
  | .masterEnable value => { m with interruptRegisters.masterEnable := value }

/-- `m'` comes from `m` by making `calls` in this order; in between, only the register file, the
tick counter and the stop flag change.  The changes in between are arbitrary, so a proof about the
calls cannot use what the registers are afterwards. -/
inductive Performs (m : Machine) : List CpuCall → Machine → Prop
  | refl : Performs m [] m
  | registers {calls : List CpuCall} {m' : Machine} (h : Performs m calls m')
      (f : Registers → Registers) : Performs m calls (m'.onRegisters f)
  | ticks {calls : List CpuCall} {m' : Machine} (h : Performs m calls m') (n : ℕ) :
      Performs m calls (Cpu.addTicks m' n)
  | stop {calls : List CpuCall} {m' : Machine} (h : Performs m calls m') :
      Performs m calls (Cpu.stop m')
  | call {calls : List CpuCall} {m' : Machine} (h : Performs m calls m') (c : CpuCall) :
      Performs m (calls ++ [c]) (c.perform m')

/-- One sequence of calls after another. -/
theorem Performs.trans {m m' m'' : Machine} {calls calls' : List CpuCall}
    (h : Performs m calls m') (h' : Performs m' calls' m'') : Performs m (calls ++ calls') m'' := by
  induction h' with
  | refl => rwa [List.append_nil]
  | registers _ f ih => exact ih.registers f
  | ticks _ n ih => exact ih.ticks n
  | stop _ ih => exact ih.stop
  | call _ c ih =>
    rw [← List.append_assoc]
    exact ih.call c

/-! ## The base table -/

/-- The kinds of effects that the opcodes of the base table have outside the register file.  There
is one for each way in which the table's functions store, with the registers they take their
arguments from; most opcodes have none. -/
inductive Effect
  /-- Nothing outside the register file. -/
  | reg
  /-- A register is stored where a pair points. -/
  | store (address : Reg16) (ptr : Reg8)
  /-- The operand is stored at `HL`. -/
  | storeN
  | incMHL
  | decMHL
  /-- `ld_nn_SP`. -/
  | storeSP
  /-- `A` is stored at 0xFF00 plus the operand. -/
  | storeHighN
  /-- `A` is stored at 0xFF00 plus `C`. -/
  | storeHighC
  /-- `A` is stored at the operand. -/
  | storeNn
  | push (ss : Reg16)
  /-- A call or a restart, which store the same two bytes. -/
  | call
  | callIf (flag condition : Byte)
  | enable (value : Byte)
  deriving DecidableEq

namespace Effect

/-- The two stores of a call. -/
def callCalls (m : Machine) : List CpuCall :=
  [.write (m.registers.SP - 1) (highByte m.registers.PC),
    .write (m.registers.SP - 1 - 1) (lowByte m.registers.PC)]

/-- The calls of an effect, in the machine that is about to execute it. -/
def calls (e : Effect) (m : Machine) (operand : Word) : List CpuCall :=
  match e with
  | reg => []
  | store address ptr => [.write (m.registers.get16 address) (m.registers.get8 ptr)]
  | storeN => [.write m.registers.HL (operand.setWidth 8)]
  | incMHL => [.write m.registers.HL (mmuReadByte m m.registers.HL + 1)]
  | decMHL => [.write m.registers.HL (mmuReadByte m m.registers.HL - 1)]
  | storeSP =>
    [.write operand (lowByte m.registers.SP), .write (operand + 1) (highByte m.registers.SP)]
  | storeHighN => [.write (0xFF00 + (operand.setWidth 8).setWidth 16) m.registers.A]
  | storeHighC => [.write (0xFF00 + m.registers.C.setWidth 16) m.registers.A]
  | storeNn => [.write operand m.registers.A]
  | push ss =>
    [.write (m.registers.SP - 1) (lowByte (m.registers.get16 ss)),
      .write (m.registers.SP - 1 - 1) (highByte (m.registers.get16 ss))]
  | call => callCalls m
  | callIf flag condition =>
    if Cpu.checkFlag m.registers flag = condition then callCalls m else []
  | enable value => [.masterEnable value]

end Effect

open Effect in
set_option maxRecDepth 2000 in
/-- The effects of the base table, entry by entry and in its order; `baseOpcodeTable_has` checks
them. -/
def baseEffects : Vector Effect 256 := #v[
  -- 0x00
  reg, reg, store .BC .A, reg, reg, reg, reg, reg, storeSP, reg, reg, reg, reg, reg, reg, reg,
  -- 0x10
  reg, reg, store .DE .A, reg, reg, reg, reg, reg, reg, reg, reg, reg, reg, reg, reg, reg,
  -- 0x20
  reg, reg, store .HL .A, reg, reg, reg, reg, reg, reg, reg, reg, reg, reg, reg, reg, reg,
  -- 0x30
  reg, reg, store .HL .A, reg, incMHL, decMHL, storeN, reg,
  reg, reg, reg, reg, reg, reg, reg, reg,
  -- 0x40
  reg, reg, reg, reg, reg, reg, reg, reg, reg, reg, reg, reg, reg, reg, reg, reg,
  reg, reg, reg, reg, reg, reg, reg, reg, reg, reg, reg, reg, reg, reg, reg, reg,
  reg, reg, reg, reg, reg, reg, reg, reg, reg, reg, reg, reg, reg, reg, reg, reg,
  -- 0x70
  store .HL .B, store .HL .C, store .HL .D, store .HL .E, store .HL .H, store .HL .L, reg,
  store .HL .A, reg, reg, reg, reg, reg, reg, reg, reg,
  -- 0x80
  reg, reg, reg, reg, reg, reg, reg, reg, reg, reg, reg, reg, reg, reg, reg, reg,
  reg, reg, reg, reg, reg, reg, reg, reg, reg, reg, reg, reg, reg, reg, reg, reg,
  reg, reg, reg, reg, reg, reg, reg, reg, reg, reg, reg, reg, reg, reg, reg, reg,
  reg, reg, reg, reg, reg, reg, reg, reg, reg, reg, reg, reg, reg, reg, reg, reg,
  -- 0xC0
  reg, reg, reg, reg, callIf flagZero flagNotSet, push .BC, reg, call,
  reg, reg, reg, reg, callIf flagZero flagIsSet, call, reg, call,
  -- 0xD0; `call_C_nn` has the condition of `call_NC_nn`
  reg, reg, reg, reg, callIf flagCarry flagNotSet, push .DE, reg, call,
  reg, enable 1, reg, reg, callIf flagCarry flagNotSet, reg, reg, call,
  -- 0xE0
  storeHighN, reg, storeHighC, reg, reg, push .HL, reg, call,
  reg, reg, storeNn, reg, reg, reg, reg, call,
  -- 0xF0
  reg, reg, reg, enable 0, reg, push .AF, reg, call,
  reg, reg, reg, enable 1, reg, reg, reg, call]

/-- Executing the opcode makes the calls of the effect, and this in every machine and with every
operand. -/
def Opcode.Has (o : Opcode) (e : Effect) : Prop :=
  ∀ m operand, Performs m (e.calls m operand) (executeOpcode m o operand)

/-! The instructions that take more than one step. -/

namespace Performs

variable (m : Machine)

theorem write (address : Word) (value : Byte) :
    Performs m [.write address value] (storeByte m address value) := .call .refl (.write _ _)

theorem pushWord (w : Word) :
    Performs m [.write (m.registers.SP - 1) (highByte w),
      .write (m.registers.SP - 1 - 1) (lowByte w)] (pushWord m w) :=
  .registers (.call (.call .refl (.write _ _)) (.write _ _)) _

theorem callNn (nn : Word) : Performs m (Effect.callCalls m) (Cpu.callNn m nn) := by
  rw [Cpu.callNn_eq]
  exact (pushWord m m.registers.PC).registers _

theorem rstF (f : Byte) : Performs m (Effect.callCalls m) (Cpu.rstF m f) := by
  rw [Cpu.rstF_eq]
  exact (pushWord m m.registers.PC).registers _

theorem ret : Performs m [] (Cpu.ret m) := by
  rw [Cpu.ret_eq]
  exact .registers .refl _

theorem reti : Performs m [.masterEnable 1] (Cpu.reti m) := (ret m).call (.masterEnable 1)

theorem popDd (ptrDD : Reg16) : Performs m [] (Cpu.popDd m ptrDD) := by
  rw [Cpu.popDd_eq]
  exact .registers .refl _

theorem pushSs (ss : Word) :
    Performs m [.write (m.registers.SP - 1) (lowByte ss),
      .write (m.registers.SP - 1 - 1) (highByte ss)] (Cpu.pushSs m ss) := by
  simp only [Cpu.pushSs, setWidth_and_lowByte, setWidth_and_highByte,
    Machine.onRegisters_registers, storeByte_registers]
  exact .call (.registers (.call (.registers .refl _) (.write _ _)) _) (.write _ _)

/-- Read, modify, write: the flags may change before and after the store, as long as `HL` stays
what it was when the address was taken. -/
theorem modify {f g : Registers → Registers} (hf : (f m.registers).HL = m.registers.HL)
    (value : Byte) :
    Performs m [.write m.registers.HL value]
      ((storeByte (m.onRegisters f) (f m.registers).HL value).onRegisters g) := by
  rw [hf]
  exact .registers (.call (.registers .refl f) (.write _ _)) g

theorem incSHL :
    Performs m [.write m.registers.HL (mmuReadByte m m.registers.HL + 1)] (Cpu.incSHL m) :=
  modify m (f := fun r ↦ Cpu.writeFlag (Cpu.removeFlag r Cpu.flagNegative) Cpu.flagHalfCarry
    (mmuReadByte m m.registers.HL &&& Cpu.lowNibble = Cpu.lowNibble))
    (g := (Cpu.writeFlag · flagZero (mmuReadByte m m.registers.HL + 1 = 0)))
    (by rw [writeFlag_eq]; rfl) (mmuReadByte m m.registers.HL + 1)

theorem decSHL :
    Performs m [.write m.registers.HL (mmuReadByte m m.registers.HL - 1)] (Cpu.decSHL m) :=
  modify m (f := fun r ↦ Cpu.writeFlag (Cpu.setFlag r Cpu.flagNegative) Cpu.flagHalfCarry
    (mmuReadByte m m.registers.HL &&& Cpu.lowNibble = 0))
    (g := (Cpu.writeFlag · flagZero (mmuReadByte m m.registers.HL - 1 = 0)))
    (by rw [writeFlag_eq]; rfl) (mmuReadByte m m.registers.HL - 1)

theorem mmuWriteShort (address value : Word) :
    Performs m [.write address (lowByte value), .write (address + 1) (highByte value)]
      (mmuWriteShort m address value).1 := by
  rw [mmuWriteShort_eq]
  exact .call (.call .refl (.write _ _)) (.write _ _)

theorem ldASs (memLocation : Word) : Performs m [] (Cpu.ldASs m memLocation) :=
  .registers .refl _

theorem ldiAMHL : Performs m [] (Cpu.ldiAMHL m) := by
  rw [Cpu.ldiAMHL]
  exact .registers (.registers .refl _) _

theorem lddAMHL : Performs m [] (Cpu.lddAMHL m) := by
  rw [Cpu.lddAMHL]
  exact .registers (.registers .refl _) _

theorem ldiMHLA : Performs m [.write m.registers.HL m.registers.A] (Cpu.ldiMHLA m) := by
  rw [Cpu.ldiMHLA]
  exact .registers (write m _ _) _

theorem lddMHLA : Performs m [.write m.registers.HL m.registers.A] (Cpu.lddMHLA m) := by
  rw [Cpu.lddMHLA]
  exact .registers (write m _ _) _

theorem halt : Performs m [] (Cpu.halt m) := by
  rw [Cpu.halt]
  split
  · exact .refl
  · exact .registers .refl _

end Performs

namespace Opcode.Has

theorem jrCcE (flag condition : Byte) :
    Has (.operandChar (Cpu.jrCcE · · flag condition)) .reg := by
  intro m operand
  show Performs m [] (Cpu.jrCcE m _ flag condition)
  rw [Cpu.jrCcE]
  split
  · exact (Performs.refl.registers _).ticks 4
  · exact .refl

theorem jpCcNn (flag condition : Byte) :
    Has (.operandShort (Cpu.jpCcNn · · flag condition)) .reg := by
  intro m operand
  show Performs m [] (Cpu.jpCcNn m _ flag condition)
  rw [Cpu.jpCcNn]
  split
  · exact (Performs.refl.registers _).ticks 4
  · exact .refl

theorem retCc (flag condition : Byte) :
    Has (.noOperands (Cpu.retCc · flag condition)) .reg := by
  intro m operand
  show Performs m [] (Cpu.retCc m flag condition)
  rw [Cpu.retCc]
  split
  · exact (Performs.ret m).ticks 12
  · exact .refl

theorem callCcNn (flag condition : Byte) :
    Has (.operandShort (Cpu.callCcNn · · flag condition)) (.callIf flag condition) := by
  intro m operand
  show Performs m (if Cpu.checkFlag m.registers flag = condition then Effect.callCalls m else [])
    (Cpu.callCcNn m operand flag condition)
  rw [Cpu.callCcNn]
  split
  · exact (Performs.callNn m operand).ticks 12
  · exact .refl

/-! One rule for each way a line of the table is written. -/

variable {f : Machine → Machine} {g : Machine → Byte → Machine} {k : Machine → Word → Machine}

theorem reg (h : ∀ m, ∃ r, f m = m.onRegisters r) : Has (.noOperands f) .reg := by
  intro m operand
  obtain ⟨r, hr⟩ := h m
  show Performs m [] (f m)
  exact hr ▸ .registers .refl r

theorem regChar (h : ∀ m n, ∃ r, g m n = m.onRegisters r) : Has (.operandChar g) .reg := by
  intro m operand
  obtain ⟨r, hr⟩ := h m (operand.setWidth 8)
  show Performs m [] (g m (operand.setWidth 8))
  exact hr ▸ .registers .refl r

theorem regShort (h : ∀ m nn, ∃ r, k m nn = m.onRegisters r) : Has (.operandShort k) .reg := by
  intro m operand
  obtain ⟨r, hr⟩ := h m operand
  show Performs m [] (k m operand)
  exact hr ▸ .registers .refl r

theorem performs {e : Effect} (h : ∀ m operand, Performs m (e.calls m operand) (f m)) :
    Has (.noOperands f) e := h

theorem performsChar {e : Effect}
    (h : ∀ m (operand : Word), Performs m (e.calls m operand) (g m (operand.setWidth 8))) :
    Has (.operandChar g) e := h

theorem performsShort {e : Effect} (h : ∀ m operand, Performs m (e.calls m operand) (k m operand)) :
    Has (.operandShort k) e := h

end Opcode.Has

-- an entry is recognised by the function of `cpu.c` it calls
seal storeByte mmuReadByte mmuWriteByte Cpu.checkFlag in
set_option maxRecDepth 4000 in
/-- Every entry of the base table has its effect. -/
theorem baseOpcodeTable_has :
    List.Forall₂ Opcode.Has baseOpcodeTable.toList baseEffects.toList := by
  rw [baseOpcodeTable, baseEffects, Vector.toList_mk, Vector.toList_mk]
  repeat (refine List.Forall₂.cons ?_ ?_; swap)
  · exact .nil
  all_goals first
    | exact .reg fun _ ↦ ⟨_, rfl⟩
    | exact .regChar fun _ _ ↦ ⟨_, rfl⟩
    | exact .regShort fun _ _ ↦ ⟨_, rfl⟩
    | exact .performs fun _ _ ↦ .refl
    | exact .performsChar fun _ _ ↦ .refl
    | exact .performs fun m _ ↦ .write m _ _
    | exact .performsChar fun m _ ↦ .write m _ _
    | exact .performsShort fun m _ ↦ .write m _ _
    | exact .performs fun m _ ↦ .pushSs m _
    | exact .performs fun m _ ↦ .popDd m _
    | exact .performs fun m _ ↦ .rstF m _
    | exact .performs fun m _ ↦ .ldASs m _
    | exact .performsChar fun m _ ↦ .ldASs m _
    | exact .performsShort fun m _ ↦ .ldASs m _
    | exact .performs fun m _ ↦ .ldiAMHL m
    | exact .performs fun m _ ↦ .lddAMHL m
    | exact .performs fun m _ ↦ .ldiMHLA m
    | exact .performs fun m _ ↦ .lddMHLA m
    | exact .performs fun m _ ↦ .incSHL m
    | exact .performs fun m _ ↦ .decSHL m
    | exact .performs fun m _ ↦ .halt m
    | exact .performs fun m _ ↦ .stop .refl
    | exact .performs fun m _ ↦ .ret m
    | exact .performs fun m _ ↦ .reti m
    | exact .performs fun m _ ↦ .call .refl (.masterEnable _)
    | exact .performsShort fun m _ ↦ .mmuWriteShort m _ _
    | exact .performsShort fun m _ ↦ .callNn m _
    | exact .retCc _ _
    | exact .jrCcE _ _
    | exact .jpCcNn _ _
    | exact .callCcNn _ _

theorem has_get (i : Fin 256) : (baseOpcodeTable.get i).Has (baseEffects.get i) := by
  have := baseOpcodeTable_has.get (i := i) (by simp) (by simp)
  simpa [Vector.get] using this

/-! ## The CB table -/

/-- The calls of an assignment to an operand. -/
def Operand.calls (x : Operand) (m : Machine) (value : Byte) : List CpuCall :=
  match x with
  | .reg _ => []
  | .mHL => [.write m.registers.HL value]

/-- The value that a CB opcode other than a BIT gives its operand `s`.  The rotates bring the
carry in, so it depends on the flag register as well. -/
def cbValue (cb s F : Byte) : Byte :=
  if cb.toNat < 0x40 then (kindFunctions.get (middleField cb) s F).1
  else if cb.toNat < 0xC0 then s &&& ~~~((1 : Byte) <<< bitOf cb)
  else s ||| (1 : Byte) <<< bitOf cb

/-- The calls of a CB opcode. -/
def cbCalls (cb : Byte) (m : Machine) : List CpuCall :=
  if 0x40 ≤ cb.toNat ∧ cb.toNat < 0x80 then []
  else (operandOf cb).calls m (cbValue cb ((operandOf cb).get m) m.registers.F)

namespace Performs

variable (m : Machine)

theorem put (x : Operand) (value : Byte) : Performs m (x.calls m value) (x.put m value) := by
  cases x with
  | reg ptr => exact .registers .refl (·.set8 ptr value)
  | mHL => exact write m _ _

theorem shiftOn {carry : Byte → Bool} {move : Registers → Byte → Byte} {value : Byte → Byte}
    (hmove : Moves carry move value) (x : Operand) :
    Performs m (x.calls m (value (x.get m))) (shiftOn carry move x m) := by
  cases x with
  | reg ptr => exact .registers .refl (Cpu.shiftS carry move · ptr)
  | mHL =>
    show Performs m _ (Cpu.shiftSHL carry move m)
    rw [shiftSHL_eq hmove]
    exact .registers (.call (.registers .refl _) (.write _ _)) _

theorem rotateOn {carry : Byte → Bool} {move : Registers → Byte → Byte} {value : Byte → Byte}
    (hmove : Moves carry move value) (x : Operand) :
    Performs m (x.calls m (value (x.get m))) (rotateOn carry move x m) := by
  rw [GameBloat.rotateOn]
  split
  · have hA : x = .reg .A := by assumption
    subst hA
    exact .registers .refl (Cpu.shiftA carry move)
  · exact shiftOn m hmove x

theorem swapOn (x : Operand) :
    Performs m (x.calls m (Cpu.swapNibbles (x.get m))) (swapOn x m) := by
  cases x with
  | reg ptr => exact .registers .refl (Cpu.swapS · ptr)
  | mHL =>
    show Performs m _ (Cpu.swapSHL m)
    rw [Cpu.swapSHL]
    exact .registers (.call (.registers .refl _) (.write _ _)) _

theorem kinds (k : Fin 8) (x : Operand) :
    Performs m (x.calls m (kindFunctions.get k (x.get m) m.registers.F).1) (kinds.get k x m) := by
  match k with
  | 0 => exact rotateOn m (moves_rotateLeft _) x
  | 1 => exact rotateOn m (moves_rotateRight _) x
  | 2 => exact rotateOn m (moves_shift Cpu.topBit (· <<< 1)) x
  | 3 => exact rotateOn m (moves_shift Cpu.bottomBit (· >>> 1)) x
  | 4 => exact shiftOn m (moves_shift Cpu.topBit (· <<< 1)) x
  | 5 => exact shiftOn m (moves_shift Cpu.bottomBit fun s ↦ s >>> 1 ||| s &&& 0x80) x
  | 6 => exact swapOn m x
  | 7 => exact shiftOn m (moves_shift (fun _ ↦ true) (· >>> 1)) x

theorem bitOn (b : ℕ) (x : Operand) : Performs m [] (bitOn b x m) := by
  rw [bitOn_eq]
  exact .registers .refl _

end Performs

theorem cbOpcodeTable_performs (cb : Byte) (m : Machine) (operand : Word) :
    Performs m (cbCalls cb m) (executeOpcode m (cbOpcodeTable.get cb.toFin) operand) := by
  rw [cbCalls, cbValue]
  by_cases h : cb.toNat < 0x40
  · rw [if_neg (by omega), if_pos h, cbOpcodeTable_get_shift h]
    exact .kinds m _ _
  · rw [cbOpcodeTable_get (by omega), if_neg h]
    show Performs m _ (decodeBit cb m)
    rw [decodeBit]
    by_cases hbit : cb.toNat < 0x80
    · rw [if_pos (by omega), if_pos hbit]
      exact .bitOn m _ _
    · rw [if_neg (by omega), if_neg hbit]
      split
      · rw [resOn_eq]
        exact .put m _ _
      · rw [setOn_eq]
        exact .put m _ _

/-! ## cpuStep -/

/-- What `cpuStep` executes, and the machine and the operand it executes it with: `PC` is behind
the instruction, and the ticks of the opcode are charged.  It is the machine that the functions of
the tables are given, and most statements about single instructions begin with it. -/
def Machine.fetched (m : Machine) : Machine × Word :=
  let (aOpcode, m) := determineOpcode m
  let (aOperand, m) := determineOperand m aOpcode
  (m, aOperand)

/-- The calls of the next instruction.  Their arguments are taken from the machine that has
fetched it, which differs from `m` in `PC` and the tick counter only. -/
def cpuCalls (m : Machine) : List CpuCall :=
  let aInstruction := mmuReadByte m m.registers.PC
  if aInstruction = 0xCB then
    cbCalls (mmuReadByte m.incPC m.incPC.registers.PC) m.fetched.1
  else (baseEffects.get aInstruction.toFin).calls m.fetched.1 m.fetched.2

theorem fetched_performs (m : Machine) : Performs m [] m.fetched.1 := by
  have hopcode : Performs m [] (determineOpcode m).2 := by
    rw [determineOpcode]
    split
    · exact (((Performs.refl (m := m)).registers _).registers _).ticks _
    · exact ((Performs.refl (m := m)).registers _).ticks _
  exact hopcode.registers fun r ↦
    { r with PC := r.PC + BitVec.ofNat 16 (determineOpcode m).1.operandType }

/-- **An instruction makes its calls**, and does nothing else outside the register file.  What a
call does to memory is left to `mmuWriteByte`: this theorem does not know the memory map. -/
theorem cpuStep_performs (m : Machine) : Performs m (cpuCalls m) (cpuStep m).1 := by
  have hexecute : Performs m.fetched.1 (cpuCalls m)
      (executeOpcode m.fetched.1 (determineOpcode m).1 m.fetched.2) := by
    have hopcode : (determineOpcode m).1 =
        if mmuReadByte m m.registers.PC = 0xCB then
          cbOpcodeTable.get (mmuReadByte m.incPC m.incPC.registers.PC).toFin
        else baseOpcodeTable.get (mmuReadByte m m.registers.PC).toFin := by
      rw [determineOpcode]
      split <;> rfl
    rw [cpuCalls, hopcode]
    split
    · exact cbOpcodeTable_performs _ _ _
    · exact has_get _ _ _
  exact (fetched_performs m).trans hexecute

/-! ## Interrupts are enabled on purpose only -/

/-- What stores, the master enable and nothing else can change: a property of the interrupt
registers that each call keeps is kept by all of them. -/
theorem Performs.interruptRegisters {P : InterruptRegisters → Prop} {m m' : Machine}
    {calls : List CpuCall} (h : Performs m calls m')
    (hstep : ∀ (m : Machine), ∀ c ∈ calls, P m.interruptRegisters →
      P (c.perform m).interruptRegisters)
    (hm : P m.interruptRegisters) : P m'.interruptRegisters := by
  induction h with
  | refl => exact hm
  | registers _ f ih => exact ih hstep
  | ticks _ n ih => exact ih hstep
  | stop _ ih => exact ih hstep
  | call _ c ih =>
    exact hstep _ c (List.mem_append_right _ (List.mem_singleton_self c))
      (ih fun m d hd ↦ hstep m d (List.mem_append_left _ hd))

theorem masterEnable_mem_calls_iff (e : Effect) (m : Machine) (operand : Word) (value : Byte) :
    CpuCall.masterEnable value ∈ e.calls m operand ↔ e = .enable value := by
  cases e with
  | callIf flag condition =>
    rw [Effect.calls]
    split <;> simp [Effect.callCalls]
  | enable v => simp [Effect.calls, eq_comm]
  | _ => simp [Effect.calls, Effect.callCalls]

/-- No CB opcode touches the master enable. -/
theorem masterEnable_notMem_cbCalls (cb : Byte) (m : Machine) (value : Byte) :
    CpuCall.masterEnable value ∉ cbCalls cb m := by
  rw [cbCalls]
  split
  · simp
  · cases operandOf cb <;> simp [Operand.calls]

set_option maxRecDepth 2000 in
/-- In the whole table only EI and RETI turn interrupts on. -/
theorem baseEffects_enable : ∀ x ∈ baseEffects.toList.zipIdx, x.1 = .enable 1 →
    x.2 = 0xFB ∨ x.2 = 0xD9 := by
  decide

theorem baseEffects_get_enable {op : Byte} (h : baseEffects.get op.toFin = .enable 1) :
    op = 0xFB ∨ op = 0xD9 := by
  have hmem : (baseEffects.get op.toFin, op.toNat) ∈ baseEffects.toList.zipIdx := by
    rw [List.mem_zipIdx_iff_getElem?]
    simp [Vector.get]
  exact (baseEffects_enable _ hmem h).imp BitVec.eq_of_toNat_eq BitVec.eq_of_toNat_eq

/-- **Only EI and RETI turn interrupts on.** -/
theorem opcode_of_masterEnable_mem {m : Machine} (h : .masterEnable 1 ∈ cpuCalls m) :
    mmuReadByte m m.registers.PC = 0xFB ∨ mmuReadByte m m.registers.PC = 0xD9 := by
  rw [cpuCalls] at h
  split at h
  · exact absurd h (masterEnable_notMem_cbCalls _ _ _)
  · exact baseEffects_get_enable ((masterEnable_mem_calls_iff _ _ _ _).1 h)

end GameBloat
