import GameBloat.Cpu.Alu
import GameBloat.Memory.Map

/-!
# Instructions on the machine

The functions of `cpu.c` that read or write memory, take a conditional branch, or touch the
interrupt master enable.  Each is written statement by statement, `m` standing for the globals
after the statement before it.

The tests `if (!mmuWriteByte(…))` of the `_sHL` functions only log a message, so the stores here
are `storeByte`, which drops the returned value.

The order of the statements matters more than it seems, since memory and registers are one state.
A store may go to a register of the hardware, and a function that has changed the flags before a
read has changed nothing the read depends on; nothing of that is assumed here, and what follows
from the order is proved where it is needed.  Three functions look odd:

* `pop_dd` assigns `bytePair` twice, where the second should be combined with the first;
* `push_ss` puts the low byte first, at the higher address, while `call_nn`, `rst_f` and `ret` put
  the high byte there;
* `halt` does nothing if interrupts are enabled, and skips the next byte if they are not.

Conditional jumps, calls and returns add the extra ticks of a branch that is taken themselves; the
others get theirs from the table.  The rotates and shifts through `HL` share one body, with what
is moved and what is carried as parameters; `rl_sHL` and `rr_sHL` never bring the carry in, so
their parameters are those of a shift.
-/

set_option autoImplicit false

namespace GameBloat
namespace Cpu

/-- `FLAG_NOT_SET` of `enum Conditions`. -/
def flagNotSet : Byte := 0

/-- `FLAG_SET` of `enum Conditions`. -/
def flagIsSet : Byte := 1

/-! ## Loads -/

/-- `ld_d_r`: a register is stored through `HL`. -/
def ldDR (m : Machine) (r : Byte) : Machine := storeByte m m.registers.HL r

/-- `ld_d_n`. -/
def ldDN (m : Machine) (n : Byte) : Machine := storeByte m m.registers.HL n

/-- `ld_A_ss`. -/
def ldASs (m : Machine) (memLocation : Word) : Machine :=
  m.onRegisters fun r ↦ { r with A := mmuReadByte m memLocation }

/-- `ld_dd_A`. -/
def ldDdA (m : Machine) (memLocation : Word) : Machine := storeByte m memLocation m.registers.A

/-- `ldd_A_mHL`: a load through `HL`, which is decremented afterwards. -/
def lddAMHL (m : Machine) : Machine :=
  let m := m.onRegisters fun r ↦ { r with A := mmuReadByte m r.HL }
  m.onRegisters fun r ↦ r.setHL (r.HL - 1)

/-- `ldd_mHL_A`. -/
def lddMHLA (m : Machine) : Machine :=
  let m := storeByte m m.registers.HL m.registers.A
  m.onRegisters fun r ↦ r.setHL (r.HL - 1)

/-- `ldi_A_mHL`. -/
def ldiAMHL (m : Machine) : Machine :=
  let m := m.onRegisters fun r ↦ { r with A := mmuReadByte m r.HL }
  m.onRegisters fun r ↦ r.setHL (r.HL + 1)

/-- `ldi_mHL_A`. -/
def ldiMHLA (m : Machine) : Machine :=
  let m := storeByte m m.registers.HL m.registers.A
  m.onRegisters fun r ↦ r.setHL (r.HL + 1)

/-- `ldh_n_A`: a store to one of the addresses from 0xFF00 on. -/
def ldhNA (m : Machine) (n : Byte) : Machine :=
  let memLocation : Word := 0xFF00 + n.setWidth 16
  storeByte m memLocation m.registers.A

/-- `ldh_A_n`. -/
def ldhAN (m : Machine) (n : Byte) : Machine :=
  let memLocation : Word := 0xFF00 + n.setWidth 16
  m.onRegisters fun r ↦ { r with A := mmuReadByte m memLocation }

/-- `ld_nn_SP`, through `mmuWriteShort`, the low byte first. -/
def ldNnSP (m : Machine) (nn : Word) : Machine := (mmuWriteShort m nn m.registers.SP).1

/-- `push_ss`: the low byte goes to the higher address. -/
def pushSs (m : Machine) (ss : Word) : Machine :=
  let lowSS : Byte := (ss &&& 0xFF).setWidth 8
  let highSS : Byte := ((ss &&& 0xFF00) >>> 8).setWidth 8
  let m := m.onRegisters fun r ↦ { r with SP := r.SP - 1 }
  let m := storeByte m m.registers.SP lowSS
  let m := m.onRegisters fun r ↦ { r with SP := r.SP - 1 }
  storeByte m m.registers.SP highSS

/-- `pop_dd`: the second assignment to `bytePair` overwrites the first. -/
def popDd (m : Machine) (ptrDD : Reg16) : Machine :=
  let _bytePair : Word := (mmuReadByte m m.registers.SP).setWidth 16 <<< 8
  let m := m.onRegisters fun r ↦ { r with SP := r.SP + 1 }
  let bytePair : Word := (mmuReadByte m m.registers.SP).setWidth 16
  let m := m.onRegisters fun r ↦ { r with SP := r.SP + 1 }
  m.onRegisters fun r ↦ r.set16 ptrDD bytePair

/-! ## Read, modify, write -/

/-- `inc_sHL`.  The half-carry is set before the value is incremented, and Z after it has been
stored. -/
def incSHL (m : Machine) : Machine :=
  let m := m.onRegisters (removeFlag · flagNegative)
  let value := mmuReadByte m m.registers.HL
  let m := m.onRegisters (writeFlag · flagHalfCarry (value &&& lowNibble = lowNibble))
  let value := value + 1
  let m := storeByte m m.registers.HL value
  m.onRegisters (writeFlag · flagZero (value = 0))

/-- `dec_sHL`. -/
def decSHL (m : Machine) : Machine :=
  let m := m.onRegisters (setFlag · flagNegative)
  let value := mmuReadByte m m.registers.HL
  let m := m.onRegisters (writeFlag · flagHalfCarry (value &&& lowNibble = 0))
  let value := value - 1
  let m := storeByte m m.registers.HL value
  m.onRegisters (writeFlag · flagZero (value = 0))

/-- `swap_sHL`. -/
def swapSHL (m : Machine) : Machine :=
  let m := m.onRegisters (removeFlag · (flagNegative ||| flagHalfCarry ||| flagCarry))
  let value := swapNibbles (mmuReadByte m m.registers.HL)
  let m := storeByte m m.registers.HL value
  m.onRegisters (writeFlag · flagZero (value = 0))

/-- The shared body of `rlc_sHL`, `rl_sHL`, `rrc_sHL`, `rr_sHL`, `sla_sHL`, `sra_sHL` and
`srl_sHL`; `shiftS` is its counterpart on a register. -/
def shiftSHL (carry : Byte → Bool) (move : Registers → Byte → Byte) (m : Machine) : Machine :=
  let m := m.onRegisters (removeFlag · (flagNegative ||| flagHalfCarry))
  let value := mmuReadByte m m.registers.HL
  let m := m.onRegisters (writeFlag · flagCarry (carry value))
  let value := move m.registers value
  let m := storeByte m m.registers.HL value
  m.onRegisters (writeFlag · flagZero (value = 0))

/-- `rlc_sHL`. -/
def rlcSHL : Machine → Machine := shiftSHL topBit rotateLeft

/-- `rl_sHL`. -/
def rlSHL : Machine → Machine := shiftSHL topBit fun _ s ↦ s <<< 1

/-- `rrc_sHL`. -/
def rrcSHL : Machine → Machine := shiftSHL bottomBit rotateRight

/-- `rr_sHL`. -/
def rrSHL : Machine → Machine := shiftSHL bottomBit fun _ s ↦ s >>> 1

/-- `sla_sHL`. -/
def slaSHL : Machine → Machine := shiftSHL topBit fun _ s ↦ s <<< 1

/-- `sra_sHL`. -/
def sraSHL : Machine → Machine := shiftSHL bottomBit fun _ s ↦ s >>> 1 ||| s &&& 0x80

/-- `srl_sHL`. -/
def srlSHL : Machine → Machine := shiftSHL (fun _ ↦ true) fun _ s ↦ s >>> 1

/-- `bit_b_sHL`. -/
def bitBSHL (m : Machine) (bitPosition : ℕ) : Machine :=
  let m := m.onRegisters (removeFlag · flagNegative)
  let m := m.onRegisters (setFlag · flagHalfCarry)
  let value := mmuReadByte m m.registers.HL
  m.onRegisters (writeFlag · flagZero (value &&& (1 : Byte) <<< bitPosition = 0))

/-- `set_b_sHL`. -/
def setBSHL (m : Machine) (bitPosition : ℕ) : Machine :=
  let value := mmuReadByte m m.registers.HL
  storeByte m m.registers.HL (value ||| (1 : Byte) <<< bitPosition)

/-- `res_b_sHL`. -/
def resBSHL (m : Machine) (bitPosition : ℕ) : Machine :=
  let value := mmuReadByte m m.registers.HL
  storeByte m m.registers.HL (value &&& ~~~((1 : Byte) <<< bitPosition))

/-! ## Control -/

/-- `nop`. -/
def nop (m : Machine) : Machine := m

/-- `undefined`. -/
def undefined (m : Machine) : Machine := m

/-- `halt`: it never halts, and skips a byte when interrupts are off. -/
def halt (m : Machine) : Machine :=
  if m.interruptRegisters.masterEnable ≠ 0 then m
  else m.onRegisters fun r ↦ { r with PC := r.PC + 1 }

/-- `stop`: a variable is set, which nothing looks at. -/
def stop (m : Machine) : Machine := { m with stopped := 1 }

/-- `di`. -/
def di (m : Machine) : Machine := { m with interruptRegisters.masterEnable := 0 }

/-- `ei`. -/
def ei (m : Machine) : Machine := { m with interruptRegisters.masterEnable := 1 }

/-! ## Jumps, calls and returns -/

/-- `tickCounter += ticks`. -/
def addTicks (m : Machine) (ticks : ℕ) : Machine :=
  { m with tickCounter := m.tickCounter + BitVec.ofNat 64 ticks }

/-- `jp_cc_nn`. -/
def jpCcNn (m : Machine) (nn : Word) (flag condition : Byte) : Machine :=
  if checkFlag m.registers flag = condition then addTicks (m.onRegisters (jpNn · nn)) 4 else m

/-- `jr_cc_e`. -/
def jrCcE (m : Machine) (e : Byte) (flag condition : Byte) : Machine :=
  if checkFlag m.registers flag = condition then addTicks (m.onRegisters (jrE · e)) 4 else m

/-- `call_nn`: PC is pushed, the high byte first, and PC and SP are assigned at the end. -/
def callNn (m : Machine) (nn : Word) : Machine :=
  let memLocation := m.registers.SP - 0x01
  let pch : Byte := ((m.registers.PC &&& highByteMask) >>> 8).setWidth 8
  let m := storeByte m memLocation pch
  let memLocation := memLocation - 1
  let pcl : Byte := (m.registers.PC &&& lowByteMask).setWidth 8
  let m := storeByte m memLocation pcl
  m.onRegisters fun r ↦ { r with PC := nn, SP := memLocation }

/-- `call_cc_nn`. -/
def callCcNn (m : Machine) (nn : Word) (flag condition : Byte) : Machine :=
  if checkFlag m.registers flag = condition then addTicks (callNn m nn) 12 else m

/-- `rst_f`: like a call, to one of eight addresses in the first page. -/
def rstF (m : Machine) (f : Byte) : Machine :=
  let memLocation := m.registers.SP - 1
  let pch : Byte := ((m.registers.PC &&& highByteMask) >>> 8).setWidth 8
  let m := storeByte m memLocation pch
  let pcl : Byte := (m.registers.PC &&& lowByteMask).setWidth 8
  let memLocation := memLocation - 1
  let m := storeByte m memLocation pcl
  m.onRegisters fun r ↦ { r with PC := f.setWidth 16 &&& lowByteMask, SP := memLocation }

/-- `ret`: the low byte of PC is read first, and the assignments to PC and SP are made one after
the other. -/
def ret (m : Machine) : Machine :=
  let memLocation := m.registers.SP
  let valSP := mmuReadByte m memLocation
  let m := m.onRegisters fun r ↦ { r with PC := valSP.setWidth 16 &&& lowByteMask }
  let memLocation := memLocation + 1
  let valSP := mmuReadByte m memLocation
  let m := m.onRegisters fun r ↦
    { r with PC := r.PC ||| (valSP.setWidth 16 &&& lowByteMask) <<< 8 }
  m.onRegisters fun r ↦ { r with SP := memLocation + 1 }

/-- `ret_cc`. -/
def retCc (m : Machine) (flag condition : Byte) : Machine :=
  if checkFlag m.registers flag = condition then addTicks (ret m) 12 else m

/-- `reti`. -/
def reti (m : Machine) : Machine := ei (ret m)

end Cpu

/-! ## Table entries -/

/-- `struct opcode` without the name it shows in logs: `operandType`, and a `function` of the type
that `ExecuteOpcode` casts it to. -/
inductive Opcode
  | noOperands (function : Machine → Machine)
  | operandChar (function : Machine → Byte → Machine)
  | operandShort (function : Machine → Word → Machine)

end GameBloat
