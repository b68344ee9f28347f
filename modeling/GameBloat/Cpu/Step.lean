import GameBloat.Cpu.BaseOpcodeTable
import GameBloat.Cpu.CBOpcodeTable

/-!
# Fetch, decode, execute

`cpuStep` and the three functions it calls.  An opcode found in a table has already been charged
its ticks when it runs; the taken branch of a conditional jump adds its surcharge to the same
counter, and `cpuStep` reports how far the counter has moved.

The order in which `PC` moves is that of the source and matters twice.  `PC` is behind the opcode
and its operand before the function runs, so a relative jump counts from the next instruction and
a call pushes the address of it.  And both bytes of a prefixed opcode are fetched before anything
is charged, so the entry of the base table for the prefix has no effect.

All reads go through `mmuReadByte`, also those of code: a program that runs in video RAM or in the
registers of the GPU gets there what a load would get.

* `determineOpcode` reads one byte, or two behind the prefix, and charges the ticks.
* `determineOperand` reads as many bytes as the opcode takes.
* `executeOpcode` calls the function, with the operand narrowed to a byte if it takes one.
* `cpuStep` is the three in a row, with the ticks.

The visit to 0x282A, where `cpuStep` dumps video RAM to a file, leaves the machine alone, as does
what it keeps for the log: the name of the last opcode and its operand.
-/

set_option autoImplicit false

namespace GameBloat

open BaseOpcode (baseOpcodeTable baseOpcodeTicks)
open CBOpcode (cbOpcodeTable cbOpcodeTicks)

/-- `registers.PC++`. -/
def Machine.incPC (m : Machine) : Machine := m.onRegisters fun r ↦ { r with PC := r.PC + 1 }

/-- `operandType`: the number of operand bytes behind the opcode.  In C this is the tag that says
how to cast the function as well; here the constructor says it. -/
def Opcode.operandType : Opcode → ℕ
  | .noOperands _ => 0
  | .operandChar _ => 1
  | .operandShort _ => 2

/-- `DetermineOpcode`: the entry of the opcode byte, or of the byte behind it if that byte is the
prefix, and the machine with the bytes behind `PC` and the ticks on the counter.  The ticks of a
prefixed opcode are those of its own table, and nothing is charged for the prefix. -/
def determineOpcode (m : Machine) : Opcode × Machine :=
  let aInstruction := mmuReadByte m m.registers.PC
  let m := m.incPC
  if aInstruction = 0xCB then
    let aInstruction := mmuReadByte m m.registers.PC
    let m := m.incPC
    (cbOpcodeTable.get aInstruction.toFin,
      Cpu.addTicks m (cbOpcodeTicks.get aInstruction.toFin))
  else
    (baseOpcodeTable.get aInstruction.toFin,
      Cpu.addTicks m (baseOpcodeTicks.get aInstruction.toFin))

/-- `DetermineOperand`: the operand is read at `PC`, which then moves by the number of its bytes.
An opcode without operand gets 0, and its function never looks at it. -/
def determineOperand (m : Machine) (inOpcode : Opcode) : Word × Machine :=
  let aOperand : Word :=
    match inOpcode with
    | .noOperands _ => 0
    | .operandChar _ => (mmuReadByte m m.registers.PC).setWidth 16
    | .operandShort _ => mmuReadShort m m.registers.PC
  (aOperand,
    m.onRegisters fun r ↦ { r with PC := r.PC + BitVec.ofNat 16 inOpcode.operandType })

/-- `ExecuteOpcode`: a one-byte operand is narrowed on the way into the call. -/
def executeOpcode (m : Machine) (inOpcode : Opcode) (inOperand : Word) : Machine :=
  match inOpcode with
  | .operandChar function => function m (inOperand.setWidth 8)
  | .operandShort function => function m inOperand
  | .noOperands function => function m

/-- `cpuStep`: the machine after one instruction, and the ticks it reports.  `tickStart` is an
`int`; it is widened again, with its sign, to be subtracted from the `unsigned long` counter.  So
the difference is wrong in its upper half once the counter has passed 2 ^ 31, and the narrowing at
the end takes that away. -/
def cpuStep (m : Machine) : Machine × CInt :=
  let tickStart : CInt := m.tickCounter.setWidth 32
  let (aOpcode, m) := determineOpcode m
  let (aOperand, m) := determineOperand m aOpcode
  let m := executeOpcode m aOpcode aOperand
  let ticksUsed : CInt := (m.tickCounter - tickStart.signExtend 64).setWidth 32
  (m, ticksUsed)

end GameBloat
