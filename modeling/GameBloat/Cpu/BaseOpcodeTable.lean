import GameBloat.Cpu.Instructions

/-!
# The base opcode table

`BaseOpcodeTable.c`: one function per opcode, which calls the function of `cpu.c` that does the
work on the operands of that opcode, and the two tables indexed by the opcode byte.  The functions
stand in the order of the source.

The camel case of `ld_D_n` is that of `ld_d_n`, so the functions of the tables live in namespaces
of their own; a name that belongs to `cpu.c` is written with `Cpu.` where both exist.

A function of the table has one of three types, and an entry carries one of them: no operand, one
byte, or two bytes, low byte first.  C keeps the three in one pointer type and casts at the call,
by the `operandType` of the entry; here the type is that of the constructor of `Opcode`, so an
entry whose tag and function disagree cannot be written down.

The file is data, and its mistakes are part of it.  A reader who compares it with the source will
find these, each of which a later module has a result about:

* `decE` increments, as `dec_E` does;
* `halt` skips a byte if interrupts are off and is a `nop` otherwise;
* the entries for `CALL C` and `JP (HL)`, and the flags that the conditional forms test, are what
  the table says and not what the names promise (`GameBloat.Cpu.ControlFlow`);
* the opcodes that the processor does not have run `undefined`, which does nothing.

That the quarter of the table from 0x40 to 0xBF is the regular grid of loads and arithmetic that
the processor decodes is `GameBloat.Cpu.BaseDecoder`.
-/

set_option autoImplicit false

namespace GameBloat
namespace BaseOpcode

open Cpu

/-! ## 0x00 – 0x3F -/

def ldBCNn (m : Machine) (immediate : Word) : Machine := m.onRegisters (ldDdNn · .BC immediate)
def ldMBCA (m : Machine) : Machine := ldDdA m m.registers.BC
def incBC (m : Machine) : Machine := m.onRegisters (incSs · .BC)
def incB (m : Machine) : Machine := m.onRegisters (incS · .B)
def decB (m : Machine) : Machine := m.onRegisters (decS · .B)
def ldBN (m : Machine) (immediate : Byte) : Machine := m.onRegisters (ldRS · .B immediate)
def addHLBC (m : Machine) : Machine := m.onRegisters fun r ↦ addHLSs r r.BC
def ldAMBC (m : Machine) : Machine := ldASs m m.registers.BC
def decBC (m : Machine) : Machine := m.onRegisters (decSs · .BC)
def incC (m : Machine) : Machine := m.onRegisters (incS · .C)
def decC (m : Machine) : Machine := m.onRegisters (decS · .C)
def ldCN (m : Machine) (immediate : Byte) : Machine := m.onRegisters (ldRS · .C immediate)

def ldDENn (m : Machine) (immediate : Word) : Machine := m.onRegisters (ldDdNn · .DE immediate)
def ldMDEA (m : Machine) : Machine := ldDdA m m.registers.DE
def incDE (m : Machine) : Machine := m.onRegisters (incSs · .DE)
def incD (m : Machine) : Machine := m.onRegisters (incS · .D)
def decD (m : Machine) : Machine := m.onRegisters (decS · .D)
def ldDN (m : Machine) (immediate : Byte) : Machine := m.onRegisters (ldRS · .D immediate)
def addHLDE (m : Machine) : Machine := m.onRegisters fun r ↦ addHLSs r r.DE
def ldAMDE (m : Machine) : Machine := m.onRegisters (ldRS · .A (mmuReadByte m m.registers.DE))
def decDE (m : Machine) : Machine := m.onRegisters (decSs · .DE)
def incE (m : Machine) : Machine := m.onRegisters (incS · .E)

/-- `dec_E` calls `inc_s`, so the opcode 0x1D counts up; of the fourteen functions that step a
register by one it is the only one with the wrong call. -/
def decE (m : Machine) : Machine := m.onRegisters (incS · .E)

def ldEN (m : Machine) (immediate : Byte) : Machine := m.onRegisters (ldRS · .E immediate)

def jrNZN (m : Machine) (immediate : Byte) : Machine := jrCcE m immediate flagZero flagNotSet
def ldHLNn (m : Machine) (immediate : Word) : Machine := m.onRegisters (ldDdNn · .HL immediate)
def incHL (m : Machine) : Machine := m.onRegisters (incSs · .HL)
def incH (m : Machine) : Machine := m.onRegisters (incS · .H)
def decH (m : Machine) : Machine := m.onRegisters (decS · .H)
def ldHN (m : Machine) (immediate : Byte) : Machine := m.onRegisters (ldRS · .H immediate)
def jrZN (m : Machine) (immediate : Byte) : Machine := jrCcE m immediate flagZero flagIsSet
def addHLHL (m : Machine) : Machine := m.onRegisters fun r ↦ addHLSs r r.HL
def decHL (m : Machine) : Machine := m.onRegisters (decSs · .HL)
def incL (m : Machine) : Machine := m.onRegisters (incS · .L)
def decL (m : Machine) : Machine := m.onRegisters (decS · .L)
def ldLN (m : Machine) (immediate : Byte) : Machine := m.onRegisters (ldRS · .L immediate)

def jrNCN (m : Machine) (immediate : Byte) : Machine := jrCcE m immediate flagCarry flagNotSet
def ldSPNn (m : Machine) (immediate : Word) : Machine := m.onRegisters (ldDdNn · .SP immediate)
def incSP (m : Machine) : Machine := m.onRegisters (incSs · .SP)
def incMHL (m : Machine) : Machine := incSHL m
def decMHL (m : Machine) : Machine := decSHL m
def jrCN (m : Machine) (immediate : Byte) : Machine := jrCcE m immediate flagCarry flagIsSet
def addHLSP (m : Machine) : Machine := m.onRegisters fun r ↦ addHLSs r r.SP
def decSP (m : Machine) : Machine := m.onRegisters (decSs · .SP)
def incA (m : Machine) : Machine := m.onRegisters (incS · .A)
def decA (m : Machine) : Machine := m.onRegisters (decS · .A)
def ldAN (m : Machine) (immediate : Byte) : Machine := m.onRegisters (ldRS · .A immediate)

/-! ## 0x40 – 0x7F: loads -/

def ldBB (m : Machine) : Machine := m.onRegisters fun r ↦ ldRS r .B r.B
def ldBC (m : Machine) : Machine := m.onRegisters fun r ↦ ldRS r .B r.C
def ldBD (m : Machine) : Machine := m.onRegisters fun r ↦ ldRS r .B r.D
def ldBE (m : Machine) : Machine := m.onRegisters fun r ↦ ldRS r .B r.E
def ldBH (m : Machine) : Machine := m.onRegisters fun r ↦ ldRS r .B r.H
def ldBL (m : Machine) : Machine := m.onRegisters fun r ↦ ldRS r .B r.L
def ldBMHL (m : Machine) : Machine := m.onRegisters (ldRS · .B (mmuReadByte m m.registers.HL))
def ldBA (m : Machine) : Machine := m.onRegisters fun r ↦ ldRS r .B r.A

def ldCB (m : Machine) : Machine := m.onRegisters fun r ↦ ldRS r .C r.B
def ldCC (m : Machine) : Machine := m.onRegisters fun r ↦ ldRS r .C r.C
def ldCD (m : Machine) : Machine := m.onRegisters fun r ↦ ldRS r .C r.D
def ldCE (m : Machine) : Machine := m.onRegisters fun r ↦ ldRS r .C r.E
def ldCH (m : Machine) : Machine := m.onRegisters fun r ↦ ldRS r .C r.H
def ldCL (m : Machine) : Machine := m.onRegisters fun r ↦ ldRS r .C r.L
def ldCMHL (m : Machine) : Machine := m.onRegisters (ldRS · .C (mmuReadByte m m.registers.HL))
def ldCA (m : Machine) : Machine := m.onRegisters fun r ↦ ldRS r .C r.A

def ldDB (m : Machine) : Machine := m.onRegisters fun r ↦ ldRS r .D r.B
def ldDC (m : Machine) : Machine := m.onRegisters fun r ↦ ldRS r .D r.C
def ldDD (m : Machine) : Machine := m.onRegisters fun r ↦ ldRS r .D r.D
def ldDE (m : Machine) : Machine := m.onRegisters fun r ↦ ldRS r .D r.E
def ldDH (m : Machine) : Machine := m.onRegisters fun r ↦ ldRS r .D r.H
def ldDL (m : Machine) : Machine := m.onRegisters fun r ↦ ldRS r .D r.L
def ldDMHL (m : Machine) : Machine := m.onRegisters (ldRS · .D (mmuReadByte m m.registers.HL))
def ldDA (m : Machine) : Machine := m.onRegisters fun r ↦ ldRS r .D r.A

def ldEB (m : Machine) : Machine := m.onRegisters fun r ↦ ldRS r .E r.B
def ldEC (m : Machine) : Machine := m.onRegisters fun r ↦ ldRS r .E r.C
def ldED (m : Machine) : Machine := m.onRegisters fun r ↦ ldRS r .E r.D
def ldEE (m : Machine) : Machine := m.onRegisters fun r ↦ ldRS r .E r.E
def ldEH (m : Machine) : Machine := m.onRegisters fun r ↦ ldRS r .E r.H
def ldEL (m : Machine) : Machine := m.onRegisters fun r ↦ ldRS r .E r.L
def ldEMHL (m : Machine) : Machine := m.onRegisters (ldRS · .E (mmuReadByte m m.registers.HL))
def ldEA (m : Machine) : Machine := m.onRegisters fun r ↦ ldRS r .E r.A

def ldHB (m : Machine) : Machine := m.onRegisters fun r ↦ ldRS r .H r.B
def ldHC (m : Machine) : Machine := m.onRegisters fun r ↦ ldRS r .H r.C
def ldHD (m : Machine) : Machine := m.onRegisters fun r ↦ ldRS r .H r.D
def ldHE (m : Machine) : Machine := m.onRegisters fun r ↦ ldRS r .H r.E
def ldHH (m : Machine) : Machine := m.onRegisters fun r ↦ ldRS r .H r.H
def ldHL (m : Machine) : Machine := m.onRegisters fun r ↦ ldRS r .H r.L
def ldHMHL (m : Machine) : Machine := m.onRegisters (ldRS · .H (mmuReadByte m m.registers.HL))
def ldHA (m : Machine) : Machine := m.onRegisters fun r ↦ ldRS r .H r.A

def ldLB (m : Machine) : Machine := m.onRegisters fun r ↦ ldRS r .L r.B
def ldLC (m : Machine) : Machine := m.onRegisters fun r ↦ ldRS r .L r.C
def ldLD (m : Machine) : Machine := m.onRegisters fun r ↦ ldRS r .L r.D
def ldLE (m : Machine) : Machine := m.onRegisters fun r ↦ ldRS r .L r.E
def ldLH (m : Machine) : Machine := m.onRegisters fun r ↦ ldRS r .L r.H
def ldLL (m : Machine) : Machine := m.onRegisters fun r ↦ ldRS r .L r.L
def ldLMHL (m : Machine) : Machine := m.onRegisters (ldRS · .L (mmuReadByte m m.registers.HL))
def ldLA (m : Machine) : Machine := m.onRegisters fun r ↦ ldRS r .L r.A

def ldMHLB (m : Machine) : Machine := ldDR m m.registers.B
def ldMHLC (m : Machine) : Machine := ldDR m m.registers.C
def ldMHLD (m : Machine) : Machine := ldDR m m.registers.D
def ldMHLE (m : Machine) : Machine := ldDR m m.registers.E
def ldMHLH (m : Machine) : Machine := ldDR m m.registers.H
def ldMHLL (m : Machine) : Machine := ldDR m m.registers.L
def ldMHLA (m : Machine) : Machine := ldDR m m.registers.A

def ldAB (m : Machine) : Machine := m.onRegisters fun r ↦ ldRS r .A r.B
def ldAC (m : Machine) : Machine := m.onRegisters fun r ↦ ldRS r .A r.C
def ldAD (m : Machine) : Machine := m.onRegisters fun r ↦ ldRS r .A r.D
def ldAE (m : Machine) : Machine := m.onRegisters fun r ↦ ldRS r .A r.E
def ldAH (m : Machine) : Machine := m.onRegisters fun r ↦ ldRS r .A r.H
def ldAL (m : Machine) : Machine := m.onRegisters fun r ↦ ldRS r .A r.L
def ldAMHL (m : Machine) : Machine := m.onRegisters (ldRS · .A (mmuReadByte m m.registers.HL))
def ldAA (m : Machine) : Machine := m.onRegisters fun r ↦ ldRS r .A r.A

/-! ## 0x80 – 0xBF: arithmetic -/

def addAB (m : Machine) : Machine := m.onRegisters fun r ↦ addS r r.B
def addAC (m : Machine) : Machine := m.onRegisters fun r ↦ addS r r.C
def addAD (m : Machine) : Machine := m.onRegisters fun r ↦ addS r r.D
def addAE (m : Machine) : Machine := m.onRegisters fun r ↦ addS r r.E
def addAH (m : Machine) : Machine := m.onRegisters fun r ↦ addS r r.H
def addAL (m : Machine) : Machine := m.onRegisters fun r ↦ addS r r.L
def addAMHL (m : Machine) : Machine := m.onRegisters (addS · (mmuReadByte m m.registers.HL))
def addAA (m : Machine) : Machine := m.onRegisters fun r ↦ addS r r.A

def adcAB (m : Machine) : Machine := m.onRegisters fun r ↦ adcS r r.B
def adcAC (m : Machine) : Machine := m.onRegisters fun r ↦ adcS r r.C
def adcAD (m : Machine) : Machine := m.onRegisters fun r ↦ adcS r r.D
def adcAE (m : Machine) : Machine := m.onRegisters fun r ↦ adcS r r.E
def adcAH (m : Machine) : Machine := m.onRegisters fun r ↦ adcS r r.H
def adcAL (m : Machine) : Machine := m.onRegisters fun r ↦ adcS r r.L
def adcAMHL (m : Machine) : Machine := m.onRegisters (adcS · (mmuReadByte m m.registers.HL))
def adcAA (m : Machine) : Machine := m.onRegisters fun r ↦ adcS r r.A

def subAB (m : Machine) : Machine := m.onRegisters fun r ↦ subS r r.B
def subAC (m : Machine) : Machine := m.onRegisters fun r ↦ subS r r.C
def subAD (m : Machine) : Machine := m.onRegisters fun r ↦ subS r r.D
def subAE (m : Machine) : Machine := m.onRegisters fun r ↦ subS r r.E
def subAH (m : Machine) : Machine := m.onRegisters fun r ↦ subS r r.H
def subAL (m : Machine) : Machine := m.onRegisters fun r ↦ subS r r.L
def subAMHL (m : Machine) : Machine := m.onRegisters (subS · (mmuReadByte m m.registers.HL))
def subAA (m : Machine) : Machine := m.onRegisters fun r ↦ subS r r.A

def sbcAB (m : Machine) : Machine := m.onRegisters fun r ↦ sbcS r r.B
def sbcAC (m : Machine) : Machine := m.onRegisters fun r ↦ sbcS r r.C
def sbcAD (m : Machine) : Machine := m.onRegisters fun r ↦ sbcS r r.D
def sbcAE (m : Machine) : Machine := m.onRegisters fun r ↦ sbcS r r.E
def sbcAH (m : Machine) : Machine := m.onRegisters fun r ↦ sbcS r r.H
def sbcAL (m : Machine) : Machine := m.onRegisters fun r ↦ sbcS r r.L
def sbcAMHL (m : Machine) : Machine := m.onRegisters (sbcS · (mmuReadByte m m.registers.HL))
def sbcAA (m : Machine) : Machine := m.onRegisters fun r ↦ sbcS r r.A

def andB (m : Machine) : Machine := m.onRegisters fun r ↦ andS r r.B
def andC (m : Machine) : Machine := m.onRegisters fun r ↦ andS r r.C
def andD (m : Machine) : Machine := m.onRegisters fun r ↦ andS r r.D
def andE (m : Machine) : Machine := m.onRegisters fun r ↦ andS r r.E
def andH (m : Machine) : Machine := m.onRegisters fun r ↦ andS r r.H
def andL (m : Machine) : Machine := m.onRegisters fun r ↦ andS r r.L
def andMHL (m : Machine) : Machine := m.onRegisters (andS · (mmuReadByte m m.registers.HL))
def andA (m : Machine) : Machine := m.onRegisters fun r ↦ andS r r.A

def xorB (m : Machine) : Machine := m.onRegisters fun r ↦ xorS r r.B
def xorC (m : Machine) : Machine := m.onRegisters fun r ↦ xorS r r.C
def xorD (m : Machine) : Machine := m.onRegisters fun r ↦ xorS r r.D
def xorE (m : Machine) : Machine := m.onRegisters fun r ↦ xorS r r.E
def xorH (m : Machine) : Machine := m.onRegisters fun r ↦ xorS r r.H
def xorL (m : Machine) : Machine := m.onRegisters fun r ↦ xorS r r.L
def xorMHL (m : Machine) : Machine := m.onRegisters (xorS · (mmuReadByte m m.registers.HL))
def xorA (m : Machine) : Machine := m.onRegisters fun r ↦ xorS r r.A

def orB (m : Machine) : Machine := m.onRegisters fun r ↦ orS r r.B
def orC (m : Machine) : Machine := m.onRegisters fun r ↦ orS r r.C
def orD (m : Machine) : Machine := m.onRegisters fun r ↦ orS r r.D
def orE (m : Machine) : Machine := m.onRegisters fun r ↦ orS r r.E
def orH (m : Machine) : Machine := m.onRegisters fun r ↦ orS r r.H
def orL (m : Machine) : Machine := m.onRegisters fun r ↦ orS r r.L
def orMHL (m : Machine) : Machine := m.onRegisters (orS · (mmuReadByte m m.registers.HL))
def orA (m : Machine) : Machine := m.onRegisters fun r ↦ orS r r.A

def cmpB (m : Machine) : Machine := m.onRegisters fun r ↦ cmpS r r.B
def cmpC (m : Machine) : Machine := m.onRegisters fun r ↦ cmpS r r.C
def cmpD (m : Machine) : Machine := m.onRegisters fun r ↦ cmpS r r.D
def cmpE (m : Machine) : Machine := m.onRegisters fun r ↦ cmpS r r.E
def cmpH (m : Machine) : Machine := m.onRegisters fun r ↦ cmpS r r.H
def cmpL (m : Machine) : Machine := m.onRegisters fun r ↦ cmpS r r.L
def cmpMHL (m : Machine) : Machine := m.onRegisters (cmpS · (mmuReadByte m m.registers.HL))
def cmpA (m : Machine) : Machine := m.onRegisters fun r ↦ cmpS r r.A

/-! ## 0xC0 – 0xFF -/

def retNZ (m : Machine) : Machine := retCc m flagZero flagNotSet
def popBC (m : Machine) : Machine := popDd m .BC
def jpNZNn (m : Machine) (immediate : Word) : Machine := jpCcNn m immediate flagZero flagNotSet
def callNZNn (m : Machine) (immediate : Word) : Machine := callCcNn m immediate flagZero flagNotSet
def pushBC (m : Machine) : Machine := pushSs m m.registers.BC
def addAN (m : Machine) (immediate : Byte) : Machine := m.onRegisters (addS · immediate)
def rst0 (m : Machine) : Machine := rstF m 0x00
def retZ (m : Machine) : Machine := retCc m flagZero flagIsSet
def jpZNn (m : Machine) (immediate : Word) : Machine := jpCcNn m immediate flagZero flagIsSet

/-- `extOps` only logs: the 0xCB prefix is handled in `determineOpcode`. -/
def extOps (m : Machine) : Machine := m

def callZNn (m : Machine) (immediate : Word) : Machine := callCcNn m immediate flagZero flagIsSet
def adcAN (m : Machine) (immediate : Byte) : Machine := m.onRegisters (adcS · immediate)
def rst08 (m : Machine) : Machine := rstF m 0x08

def retNC (m : Machine) : Machine := retCc m flagCarry flagNotSet
def popDE (m : Machine) : Machine := popDd m .DE
def jpNCNn (m : Machine) (immediate : Word) : Machine := jpCcNn m immediate flagCarry flagNotSet
def callNCNn (m : Machine) (immediate : Word) : Machine := callCcNn m immediate flagCarry flagNotSet
def pushDE (m : Machine) : Machine := pushSs m m.registers.DE
def subAN (m : Machine) (immediate : Byte) : Machine := m.onRegisters (subS · immediate)
def rst10 (m : Machine) : Machine := rstF m 0x10
def retC (m : Machine) : Machine := retCc m flagCarry flagIsSet
def jpCNn (m : Machine) (immediate : Word) : Machine := jpCcNn m immediate flagCarry flagIsSet

/-- `call_C_nn` has the condition of `call_NC_nn`. -/
def callCNn (m : Machine) (immediate : Word) : Machine := callCcNn m immediate flagCarry flagNotSet

def sbcAN (m : Machine) (immediate : Byte) : Machine := m.onRegisters (sbcS · immediate)
def rst18 (m : Machine) : Machine := rstF m 0x18

def popHL (m : Machine) : Machine := popDd m .HL

/-- `ldh_mC_A` passes register `C` on as the immediate of `ldh_n_A`. -/
def ldhMCA (m : Machine) : Machine := ldhNA m m.registers.C

def pushHL (m : Machine) : Machine := pushSs m m.registers.HL
def andN (m : Machine) (immediate : Byte) : Machine := m.onRegisters (andS · immediate)
def rst20 (m : Machine) : Machine := rstF m 0x20

/-- `jp_mHL` jumps to the word stored at `HL`. -/
def jpMHL (m : Machine) : Machine := m.onRegisters (jpNn · (mmuReadShort m m.registers.HL))

def ldNnA (m : Machine) (immediate : Word) : Machine := ldDdA m immediate
def xorN (m : Machine) (immediate : Byte) : Machine := m.onRegisters (xorS · immediate)
def rst28 (m : Machine) : Machine := rstF m 0x28

def popAF (m : Machine) : Machine := popDd m .AF
def pushAF (m : Machine) : Machine := pushSs m m.registers.AF
def orN (m : Machine) (immediate : Byte) : Machine := m.onRegisters (orS · immediate)
def rst30 (m : Machine) : Machine := rstF m 0x30
def ldAMNn (m : Machine) (immediate : Word) : Machine := ldASs m immediate
def cpN (m : Machine) (immediate : Byte) : Machine := m.onRegisters (cmpS · immediate)
def rst38 (m : Machine) : Machine := rstF m 0x38

/-! ## The tables -/

set_option maxRecDepth 2000 in
/-- `baseOpcodeTicks`: what an instruction is charged when it is fetched.  For a conditional jump,
call or return this is the price of not taking the branch; the surcharge is added by the function
itself. -/
def baseOpcodeTicks : Vector ℕ 256 := #v[
  4, 12, 8, 8, 4, 4, 8, 4, 20, 8, 8, 8, 4, 4, 8, 4,
  4, 12, 8, 8, 4, 4, 8, 4, 12, 8, 8, 8, 4, 4, 8, 4,
  8, 12, 8, 8, 4, 4, 8, 4, 8, 8, 8, 8, 4, 4, 8, 4,
  8, 12, 8, 8, 12, 12, 12, 4, 8, 8, 8, 8, 4, 4, 8, 4,
  4, 4, 4, 4, 4, 4, 8, 4, 4, 4, 4, 4, 4, 4, 8, 4,
  4, 4, 4, 4, 4, 4, 8, 4, 4, 4, 4, 4, 4, 4, 8, 4,
  4, 4, 4, 4, 4, 4, 8, 4, 4, 4, 4, 4, 4, 4, 8, 4,
  8, 8, 8, 8, 8, 8, 4, 8, 4, 4, 4, 4, 4, 4, 8, 4,
  4, 4, 4, 4, 4, 4, 8, 4, 4, 4, 4, 4, 4, 4, 8, 4,
  4, 4, 4, 4, 4, 4, 8, 4, 4, 4, 4, 4, 4, 4, 8, 4,
  4, 4, 4, 4, 4, 4, 8, 4, 4, 4, 4, 4, 4, 4, 8, 4,
  4, 4, 4, 4, 4, 4, 8, 4, 4, 4, 4, 4, 4, 4, 8, 4,
  8, 12, 12, 16, 12, 16, 8, 16, 8, 16, 12, 4, 12, 24, 8, 16,
  8, 12, 12, 0, 12, 16, 8, 16, 8, 16, 12, 0, 12, 0, 8, 16,
  12, 12, 8, 0, 0, 16, 8, 16, 16, 4, 16, 0, 0, 0, 8, 16,
  12, 12, 8, 4, 0, 16, 8, 16, 12, 8, 16, 4, 0, 0, 8, 16]

set_option maxRecDepth 2000 in
/-- `baseOpcodeTable`, indexed by the opcode byte.  The entry for 0xCB is never used:
`determineOpcode` looks for that byte before it comes here.  The entries are in the order of the
source, sixteen to a block, so that they can be held against it line by line. -/
def baseOpcodeTable : Vector Opcode 256 := #v[
  -- 0x00
  .noOperands nop, .operandShort ldBCNn, .noOperands ldMBCA, .noOperands incBC,
  .noOperands incB, .noOperands decB, .operandChar ldBN, .noOperands (·.onRegisters rlcA),
  .operandShort ldNnSP, .noOperands addHLBC, .noOperands ldAMBC, .noOperands decBC,
  .noOperands incC, .noOperands decC, .operandChar ldCN, .noOperands (·.onRegisters rrcA),
  -- 0x10
  .noOperands stop, .operandShort ldDENn, .noOperands ldMDEA, .noOperands incDE,
  .noOperands incD, .noOperands decD, .operandChar ldDN, .noOperands (·.onRegisters rlA),
  .operandChar (fun m n ↦ m.onRegisters (jrE · n)), .noOperands addHLDE, .noOperands ldAMDE,
  .noOperands decDE, .noOperands incE, .noOperands decE, .operandChar ldEN,
  .noOperands (·.onRegisters rrA),
  -- 0x20
  .operandChar jrNZN, .operandShort ldHLNn, .noOperands ldiMHLA, .noOperands incHL,
  .noOperands incH, .noOperands decH, .operandChar ldHN, .noOperands (·.onRegisters daa),
  .operandChar jrZN, .noOperands addHLHL, .noOperands ldiAMHL, .noOperands decHL,
  .noOperands incL, .noOperands decL, .operandChar ldLN, .noOperands (·.onRegisters cpl),
  -- 0x30
  .operandChar jrNCN, .operandShort ldSPNn, .noOperands lddMHLA, .noOperands incSP,
  .noOperands incMHL, .noOperands decMHL, .operandChar Cpu.ldDN,
  .noOperands (·.onRegisters scf), .operandChar jrCN, .noOperands addHLSP, .noOperands lddAMHL,
  .noOperands decSP, .noOperands incA, .noOperands decA, .operandChar ldAN,
  .noOperands (·.onRegisters ccf),
  -- 0x40
  .noOperands ldBB, .noOperands ldBC, .noOperands ldBD, .noOperands ldBE, .noOperands ldBH,
  .noOperands ldBL, .noOperands ldBMHL, .noOperands ldBA, .noOperands ldCB, .noOperands ldCC,
  .noOperands ldCD, .noOperands ldCE, .noOperands ldCH, .noOperands ldCL, .noOperands ldCMHL,
  .noOperands ldCA,
  -- 0x50
  .noOperands ldDB, .noOperands ldDC, .noOperands ldDD, .noOperands ldDE, .noOperands ldDH,
  .noOperands ldDL, .noOperands ldDMHL, .noOperands ldDA, .noOperands ldEB, .noOperands ldEC,
  .noOperands ldED, .noOperands ldEE, .noOperands ldEH, .noOperands ldEL, .noOperands ldEMHL,
  .noOperands ldEA,
  -- 0x60
  .noOperands ldHB, .noOperands ldHC, .noOperands ldHD, .noOperands ldHE, .noOperands ldHH,
  .noOperands ldHL, .noOperands ldHMHL, .noOperands ldHA, .noOperands ldLB, .noOperands ldLC,
  .noOperands ldLD, .noOperands ldLE, .noOperands ldLH, .noOperands ldLL, .noOperands ldLMHL,
  .noOperands ldLA,
  -- 0x70
  .noOperands ldMHLB, .noOperands ldMHLC, .noOperands ldMHLD, .noOperands ldMHLE,
  .noOperands ldMHLH, .noOperands ldMHLL, .noOperands halt, .noOperands ldMHLA,
  .noOperands ldAB, .noOperands ldAC, .noOperands ldAD, .noOperands ldAE, .noOperands ldAH,
  .noOperands ldAL, .noOperands ldAMHL, .noOperands ldAA,
  -- 0x80
  .noOperands addAB, .noOperands addAC, .noOperands addAD, .noOperands addAE,
  .noOperands addAH, .noOperands addAL, .noOperands addAMHL, .noOperands addAA,
  .noOperands adcAB, .noOperands adcAC, .noOperands adcAD, .noOperands adcAE,
  .noOperands adcAH, .noOperands adcAL, .noOperands adcAMHL, .noOperands adcAA,
  -- 0x90
  .noOperands subAB, .noOperands subAC, .noOperands subAD, .noOperands subAE,
  .noOperands subAH, .noOperands subAL, .noOperands subAMHL, .noOperands subAA,
  .noOperands sbcAB, .noOperands sbcAC, .noOperands sbcAD, .noOperands sbcAE,
  .noOperands sbcAH, .noOperands sbcAL, .noOperands sbcAMHL, .noOperands sbcAA,
  -- 0xA0
  .noOperands andB, .noOperands andC, .noOperands andD, .noOperands andE, .noOperands andH,
  .noOperands andL, .noOperands andMHL, .noOperands andA, .noOperands xorB, .noOperands xorC,
  .noOperands xorD, .noOperands xorE, .noOperands xorH, .noOperands xorL, .noOperands xorMHL,
  .noOperands xorA,
  -- 0xB0
  .noOperands orB, .noOperands orC, .noOperands orD, .noOperands orE, .noOperands orH,
  .noOperands orL, .noOperands orMHL, .noOperands orA, .noOperands cmpB, .noOperands cmpC,
  .noOperands cmpD, .noOperands cmpE, .noOperands cmpH, .noOperands cmpL, .noOperands cmpMHL,
  .noOperands cmpA,
  -- 0xC0
  .noOperands retNZ, .noOperands popBC, .operandShort jpNZNn,
  .operandShort (fun m n ↦ m.onRegisters (jpNn · n)), .operandShort callNZNn,
  .noOperands pushBC, .operandChar addAN, .noOperands rst0, .noOperands retZ, .noOperands ret,
  .operandShort jpZNn, .operandChar (fun m _ ↦ extOps m), .operandShort callZNn,
  .operandShort callNn, .operandChar adcAN, .noOperands rst08,
  -- 0xD0
  .noOperands retNC, .noOperands popDE, .operandShort jpNCNn, .noOperands undefined,
  .operandShort callNCNn, .noOperands pushDE, .operandChar subAN, .noOperands rst10,
  .noOperands retC, .noOperands reti, .operandShort jpCNn, .noOperands undefined,
  .operandShort callCNn, .noOperands undefined, .operandChar sbcAN, .noOperands rst18,
  -- 0xE0
  .operandChar ldhNA, .noOperands popHL, .noOperands ldhMCA, .noOperands undefined,
  .noOperands undefined, .noOperands pushHL, .operandChar andN, .noOperands rst20,
  .operandChar (fun m n ↦ m.onRegisters (addSPE · n)), .noOperands jpMHL, .operandShort ldNnA,
  .noOperands undefined, .noOperands undefined, .noOperands undefined, .operandChar xorN,
  .noOperands rst28,
  -- 0xF0
  .operandChar ldhAN, .noOperands popAF, .noOperands undefined, .noOperands di,
  .noOperands undefined, .noOperands pushAF, .operandChar orN, .noOperands rst30,
  .operandChar (fun m n ↦ m.onRegisters (ldHLSPE · n)), .noOperands (·.onRegisters ldSPHL),
  .operandShort ldAMNn, .noOperands ei, .noOperands undefined, .noOperands undefined,
  .operandChar cpN, .noOperands rst38]

end BaseOpcode
end GameBloat
