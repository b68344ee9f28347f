import GameBloat.Machine

/-!
# Instructions on the register file

The functions of `cpu.c` that touch nothing but `registers`.  They are functions on `Registers`,
so that "changes nothing else" is part of their type; `Machine.onRegisters` runs one on the
machine.

A name is the C name in camel case, `add_s` becoming `addS` and `ld_HL_SP_e` becoming `ldHLSPE`.
Several C functions differ only in a mask or a shift; each of them is here the shared body applied
to its own.  The `if (…) setFlag(f); else removeFlag(f);` that ends most of them is `writeFlag`.

Statements stand in the order of the source, each `let r` for the registers after one assignment,
since a later test may read what an earlier one has written.  C promotes the operands of an
expression to `int`; where this shows, the sum is taken in a wider bit vector or as a number, and
narrowed where it is assigned.

What the functions do is not always what their names promise, and the definitions follow the code.
Among the things a reader will meet:

* `adc_s` and `sbc_s` add the carry to their operand in 8 bits;
* `rlc` and `rrc` bring in the carry flag, which has just been written, and so do rotate; `rl` and
  `rr` shift a zero in where the old carry should go;
* `srl_s` sets the carry in both branches of its test;
* `daa` looks for a bit of `A` that it does not have, and subtracts `A - 0x60` where it should
  subtract 0x60;
* `add_HL_ss`, `add_SP_e` and `ld_HL_SP_e` take the half-carry and the carry at other bits than
  the processor does.

What follows from each of these is the subject of a module of its own.
-/

set_option autoImplicit false

namespace GameBloat
namespace Cpu

/-! ## Constants of cpu_constants.c -/

/-- `LOW_NIBBLE`. -/
def lowNibble : Byte := 0x0F

/-- `HIGH_NIBBLE`. -/
def highNibble : Byte := 0xF0

/-- `LOW_BYTE`. -/
def lowByteMask : Word := 0x00FF

/-- `HIGH_BYTE`. -/
def highByteMask : Word := 0xFF00

/-- `LOW_WORD`. -/
def lowWordMask : Word := 0xFFFF

/-- `HIGH_WORD`. -/
def highWordMask : BitVec 32 := 0xFFFF0000

/-! ## Flags -/

/-- `flagZero`. -/
def flagZero : Byte := 0x80

/-- `flagNegative`. -/
def flagNegative : Byte := 0x40

/-- `flagHalfCarry`. -/
def flagHalfCarry : Byte := 0x20

/-- `flagCarry`. -/
def flagCarry : Byte := 0x10

/-- `setFlag`. -/
def setFlag (r : Registers) (flag : Byte) : Registers := { r with F := r.F ||| flag }

/-- `removeFlag`. -/
def removeFlag (r : Registers) (flag : Byte) : Registers := { r with F := r.F &&& ~~~flag }

/-- `checkFlag`: 1 if the flag is set and 0 otherwise, so that it can be added to an operand. -/
def checkFlag (r : Registers) (flag : Byte) : Byte := if r.F &&& flag ≠ 0 then 1 else 0

/-- `if (c) setFlag(flag); else removeFlag(flag);`.  The condition is a proposition, so the
definition can be read off the source and still be computed. -/
def writeFlag (r : Registers) (flag : Byte) (c : Prop) [Decidable c] : Registers :=
  if c then setFlag r flag else removeFlag r flag

/-! ## Loads -/

/-- `ld_r_s`. -/
def ldRS (r : Registers) (ptrR : Reg8) (n : Byte) : Registers := r.set8 ptrR n

/-- `ld_dd_nn`. -/
def ldDdNn (r : Registers) (ptrDD : Reg16) (nn : Word) : Registers := r.set16 ptrDD nn

/-- `ld_SP_HL`. -/
def ldSPHL (r : Registers) : Registers := { r with SP := r.HL }

/-- `ld_HL_SP_e`. -/
def ldHLSPE (r : Registers) (e : Byte) : Registers :=
  let signedE : Word := e.signExtend 16
  let value := r.SP + signedE
  let r := writeFlag r flagCarry
    (lowWordMask.toNat < (r.SP &&& lowWordMask).toNat + (signedE &&& lowWordMask).toNat)
  let r := writeFlag r flagHalfCarry
    (lowNibble.toNat < (r.SP &&& lowNibble.setWidth 16).toNat +
      (signedE &&& lowNibble.setWidth 16).toNat)
  let r := removeFlag r (flagZero ||| flagNegative)
  r.setHL value

/-! ## 8-bit arithmetic -/

/-- `add_s`. -/
def addS (r : Registers) (s : Byte) : Registers :=
  let sum : Word := r.A.setWidth 16 + s.setWidth 16
  let r := removeFlag r flagNegative
  let r := writeFlag r flagCarry (sum &&& highByteMask ≠ 0)
  let r := writeFlag r flagHalfCarry
    (lowNibble.toNat < (r.A &&& lowNibble).toNat + (s &&& lowNibble).toNat)
  let r := { r with A := (sum &&& lowByteMask).setWidth 8 }
  writeFlag r flagZero (r.A = 0)

/-- `adc_s`: after `s += checkFlag(flagCarry)` its statements are those of `add_s`. -/
def adcS (r : Registers) (s : Byte) : Registers := addS r (s + checkFlag r flagCarry)

/-- `sub_s`. -/
def subS (r : Registers) (s : Byte) : Registers :=
  let r := setFlag r flagNegative
  let r := writeFlag r flagCarry (r.A.toNat < s.toNat)
  let r := writeFlag r flagHalfCarry ((r.A &&& lowNibble).toNat < (s &&& lowNibble).toNat)
  let r := { r with A := r.A - s }
  writeFlag r flagZero (r.A = 0)

/-- `sbc_s`: after `s += checkFlag(flagCarry)` its statements are those of `sub_s`. -/
def sbcS (r : Registers) (s : Byte) : Registers :=
  subS r (s + checkFlag (setFlag r flagNegative) flagCarry)

/-- `and_s`. -/
def andS (r : Registers) (s : Byte) : Registers :=
  let r := removeFlag r (flagNegative ||| flagCarry)
  let r := setFlag r flagHalfCarry
  let r := { r with A := r.A &&& s }
  writeFlag r flagZero (r.A = 0)

/-- The shared body of `or_s` and `xor_s`. -/
def logicS (op : Byte → Byte → Byte) (r : Registers) (s : Byte) : Registers :=
  let r := removeFlag r (flagNegative ||| flagHalfCarry ||| flagCarry)
  let r := { r with A := op r.A s }
  writeFlag r flagZero (r.A = 0)

/-- `or_s`. -/
def orS : Registers → Byte → Registers := logicS (· ||| ·)

/-- `xor_s`. -/
def xorS : Registers → Byte → Registers := logicS (· ^^^ ·)

/-- `cmp_s`. -/
def cmpS (r : Registers) (s : Byte) : Registers :=
  let r := setFlag r flagNegative
  let r := writeFlag r flagCarry (r.A.toNat < s.toNat)
  let r := writeFlag r flagHalfCarry ((r.A &&& lowNibble).toNat < (s &&& lowNibble).toNat)
  writeFlag r flagZero (r.A = s)

/-- `inc_s`. -/
def incS (r : Registers) (s : Reg8) : Registers :=
  let r := removeFlag r flagNegative
  let r := writeFlag r flagHalfCarry (r.get8 s &&& lowNibble = lowNibble)
  let r := r.set8 s (r.get8 s + 1)
  writeFlag r flagZero (r.get8 s = 0)

/-- `dec_s`. -/
def decS (r : Registers) (s : Reg8) : Registers :=
  let r := setFlag r flagNegative
  let r := writeFlag r flagHalfCarry (r.get8 s &&& lowNibble = 0)
  let r := r.set8 s (r.get8 s - 1)
  writeFlag r flagZero (r.get8 s = 0)

/-! ## 16-bit arithmetic -/

/-- `add_HL_ss`. -/
def addHLSs (r : Registers) (ss : Word) : Registers :=
  let r := removeFlag r flagNegative
  let sum : BitVec 32 := r.HL.setWidth 32 + ss.setWidth 32
  let r := writeFlag r flagCarry (sum &&& highWordMask ≠ 0)
  let r := writeFlag r flagHalfCarry
    (lowNibble.toNat < (r.HL &&& lowNibble.setWidth 16).toNat +
      (ss &&& lowNibble.setWidth 16).toNat)
  r.setHL (sum.setWidth 16)

/-- `add_SP_e`. -/
def addSPE (r : Registers) (e : Byte) : Registers :=
  let r := removeFlag r (flagZero ||| flagNegative)
  let signedE : Word := e.signExtend 16
  let sum := r.SP + signedE
  let r := writeFlag r flagCarry
    (lowWordMask.toNat < (r.SP &&& lowWordMask).toNat + (signedE &&& lowWordMask).toNat)
  let r := writeFlag r flagHalfCarry
    (lowNibble.toNat < (sum &&& lowNibble.setWidth 16).toNat +
      (r.SP &&& lowNibble.setWidth 16).toNat)
  { r with SP := sum }

/-- `inc_ss`: no flags, unlike the increment of a byte. -/
def incSs (r : Registers) (ptrSS : Reg16) : Registers := r.set16 ptrSS (r.get16 ptrSS + 1)

/-- `dec_ss`. -/
def decSs (r : Registers) (ptrSS : Reg16) : Registers := r.set16 ptrSS (r.get16 ptrSS - 1)

/-! ## Miscellaneous -/

/-- Exchange the nibbles of a byte, as `swap_s` and `swap_sHL` do it. -/
def swapNibbles (s : Byte) : Byte := (s &&& highNibble) >>> 4 ||| (s &&& lowNibble) <<< 4

/-- `swap_s`. -/
def swapS (r : Registers) (ptrS : Reg8) : Registers :=
  let r := removeFlag r (flagNegative ||| flagHalfCarry ||| flagCarry)
  let r := r.set8 ptrS (swapNibbles (r.get8 ptrS))
  writeFlag r flagZero (r.get8 ptrS = 0)

/-- The adjustment `daa` makes to `A`.  After a subtraction with a carry it subtracts `A - 0x60`
from `A`, which leaves 0x60 whatever `A` was. -/
def daaAdjust (r : Registers) : Registers :=
  if checkFlag r flagNegative ≠ 0 then
    let r := if checkFlag r flagHalfCarry ≠ 0 then { r with A := (r.A - 0x06) &&& 0xFF } else r
    if checkFlag r flagCarry ≠ 0 then { r with A := r.A - (r.A - 0x60) } else r
  else
    let r :=
      if checkFlag r flagHalfCarry ≠ 0 ∨ 9 < (r.A &&& lowNibble).toNat then
        { r with A := r.A + 0x06 }
      else r
    if checkFlag r flagCarry ≠ 0 ∨ 0x9F < r.A.toNat then { r with A := r.A + 0x60 } else r

/-- `daa`.  The carry test looks for bit 8 in the 8-bit register, so the carry is always cleared. -/
def daa (r : Registers) : Registers :=
  let r := daaAdjust r
  let r := writeFlag r flagCarry ((r.A.setWidth 16 : Word) &&& 0x0100 = 0x100)
  let r := writeFlag r flagZero (r.A = 0)
  removeFlag r flagHalfCarry

/-- `cpl`. -/
def cpl (r : Registers) : Registers :=
  let r := setFlag r (flagNegative ||| flagHalfCarry)
  { r with A := ~~~r.A }

/-- `ccf`. -/
def ccf (r : Registers) : Registers :=
  let r := writeFlag r flagCarry (checkFlag r flagCarry = 0)
  removeFlag r (flagNegative ||| flagHalfCarry)

/-- `scf`. -/
def scf (r : Registers) : Registers :=
  let r := setFlag r flagCarry
  removeFlag r (flagNegative ||| flagHalfCarry)

/-! ## Rotates and shifts -/

/-- The top bit of the operand, which the left shifts move into the carry. -/
def topBit (s : Byte) : Bool := s &&& 0x80 ≠ 0

/-- The lowest bit of the operand, which the right shifts move into the carry. -/
def bottomBit (s : Byte) : Bool := s &&& 0x01 ≠ 0

/-- Shift left and add the carry flag. -/
def rotateLeft (r : Registers) (s : Byte) : Byte := s <<< 1 + checkFlag r flagCarry

/-- Shift right and put the carry flag on top. -/
def rotateRight (r : Registers) (s : Byte) : Byte :=
  if checkFlag r flagCarry ≠ 0 then s >>> 1 ||| 0x80 else s >>> 1

/-- The shared body of `rlc_A`, `rl_A`, `rrc_A` and `rr_A`: `carry` is the bit that goes into the
carry flag, `move` the new value of the operand.  Each of the four is this function with its own
two arguments. -/
def shiftA (carry : Byte → Bool) (move : Registers → Byte → Byte) (r : Registers) : Registers :=
  let r := removeFlag r (flagZero ||| flagNegative ||| flagHalfCarry)
  let r := writeFlag r flagCarry (carry r.A)
  { r with A := move r r.A }

/-- `rlc_A`. -/
def rlcA : Registers → Registers := shiftA topBit rotateLeft

/-- `rl_A`. -/
def rlA : Registers → Registers := shiftA topBit fun _ s ↦ s <<< 1

/-- `rrc_A`. -/
def rrcA : Registers → Registers := shiftA bottomBit rotateRight

/-- `rr_A`. -/
def rrA : Registers → Registers := shiftA bottomBit fun _ s ↦ s >>> 1

/-- The shared body of `rlc_s`, `rl_s`, `rrc_s`, `rr_s`, `sla_s`, `sra_s` and `srl_s`.  The carry
flag is written before the operand moves, so a rotate that brings the carry in gets the new one. -/
def shiftS (carry : Byte → Bool) (move : Registers → Byte → Byte) (r : Registers) (ptrS : Reg8) :
    Registers :=
  let r := removeFlag r (flagNegative ||| flagHalfCarry)
  let r := writeFlag r flagCarry (carry (r.get8 ptrS))
  let r := r.set8 ptrS (move r (r.get8 ptrS))
  writeFlag r flagZero (r.get8 ptrS = 0)

/-- `rlc_s`. -/
def rlcS : Registers → Reg8 → Registers := shiftS topBit rotateLeft

/-- `rl_s`. -/
def rlS : Registers → Reg8 → Registers := shiftS topBit fun _ s ↦ s <<< 1

/-- `rrc_s`. -/
def rrcS : Registers → Reg8 → Registers := shiftS bottomBit rotateRight

/-- `rr_s`. -/
def rrS : Registers → Reg8 → Registers := shiftS bottomBit fun _ s ↦ s >>> 1

/-- `sla_s`. -/
def slaS : Registers → Reg8 → Registers := shiftS topBit fun _ s ↦ s <<< 1

/-- `sra_s`. -/
def sraS : Registers → Reg8 → Registers := shiftS bottomBit fun _ s ↦ s >>> 1 ||| s &&& 0x80

/-- `srl_s`: both branches of its `if` set the carry. -/
def srlS : Registers → Reg8 → Registers := shiftS (fun _ ↦ true) fun _ s ↦ s >>> 1

/-! ## Bit instructions -/

/-- `bit_b_s`. -/
def bitBS (r : Registers) (bitPosition : ℕ) (ptrS : Reg8) : Registers :=
  let r := removeFlag r flagNegative
  let r := setFlag r flagHalfCarry
  writeFlag r flagZero (r.get8 ptrS &&& (1 : Byte) <<< bitPosition = 0)

/-- `set_b_s`. -/
def setBS (r : Registers) (bitPosition : ℕ) (ptrS : Reg8) : Registers :=
  r.set8 ptrS (r.get8 ptrS ||| (1 : Byte) <<< bitPosition)

/-- `res_b_s`. -/
def resBS (r : Registers) (bitPosition : ℕ) (ptrS : Reg8) : Registers :=
  r.set8 ptrS (r.get8 ptrS &&& ~~~((1 : Byte) <<< bitPosition))

/-! ## Jumps -/

/-- `jp_nn`. -/
def jpNn (r : Registers) (nn : Word) : Registers := { r with PC := nn }

/-- `jr_e`. -/
def jrE (r : Registers) (e : Byte) : Registers := { r with PC := r.PC + e.signExtend 16 }

end Cpu
end GameBloat
