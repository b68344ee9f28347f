import GameBloat.Cpu.Instructions

/-!
# The CB opcode table

`CBOpcodeTable.c`: the opcodes behind the 0xCB prefix.  The source writes one function for each
operation and operand, 252 of them, and lists their addresses in `CBOpcodeTable`, a table of 256
entries indexed by the byte that follows the prefix.  The four rotates of `A` are the functions of
`cpu.c` that the base table uses too, which is why the first four operations have no function for
`A` of their own here.

Every function is a single call, and the definitions below are that call and nothing else: the
operation of `cpu.c` (`rlcS`, `bitBS`, …) applied to the register, or its `_sHL` variant for the
byte that `HL` points to.  The bit operations take the bit number first, as in the source.  No
entry takes an operand byte, so all of them are `.noOperands`.

The table is written out rather than computed from a pattern, because the pattern is what has to
be proved.  That the 192 rows of `BIT`, `RES` and `SET` are the regular family they look like is
`GameBloat.Cpu.BitFamily`; that the 64 rows of rotates and shifts are not quite is
`GameBloat.Cpu.RotateFamily`.  The definitions stand in the order of the source, so that the two
files can be read side by side.

* `cbOpcodeTicks` is the table of ticks, charged when the opcode is fetched and before it runs.
* `cbOpcodeTable` is the table of functions.

Nothing is proved in this file.  What can be said of all 256 entries at once is proved where it is
needed, by one walk over the table that cites a lemma for each operation: `cbOpcodeTable_fits` for
the ticks, `cbOpcodeTable_blind` for what an instruction reads, `cbOpcodeTable_steady` for `PC`
and the flags.
-/

set_option autoImplicit false

namespace GameBloat
namespace CBOpcode

open Cpu

/-! ## Rotates and shifts -/

def rlcB (m : Machine) : Machine := m.onRegisters (rlcS · .B)
def rlcC (m : Machine) : Machine := m.onRegisters (rlcS · .C)
def rlcD (m : Machine) : Machine := m.onRegisters (rlcS · .D)
def rlcE (m : Machine) : Machine := m.onRegisters (rlcS · .E)
def rlcH (m : Machine) : Machine := m.onRegisters (rlcS · .H)
def rlcL (m : Machine) : Machine := m.onRegisters (rlcS · .L)
/-- `rlc_mHL`: the operations on the byte at `HL` go through the machine, since they read and
store it; those on a register need the register file only. -/
def rlcMHL (m : Machine) : Machine := rlcSHL m

def rrcB (m : Machine) : Machine := m.onRegisters (rrcS · .B)
def rrcC (m : Machine) : Machine := m.onRegisters (rrcS · .C)
def rrcD (m : Machine) : Machine := m.onRegisters (rrcS · .D)
def rrcE (m : Machine) : Machine := m.onRegisters (rrcS · .E)
def rrcH (m : Machine) : Machine := m.onRegisters (rrcS · .H)
def rrcL (m : Machine) : Machine := m.onRegisters (rrcS · .L)
def rrcMHL (m : Machine) : Machine := rrcSHL m

def rlB (m : Machine) : Machine := m.onRegisters (rlS · .B)
def rlC (m : Machine) : Machine := m.onRegisters (rlS · .C)
def rlD (m : Machine) : Machine := m.onRegisters (rlS · .D)
def rlE (m : Machine) : Machine := m.onRegisters (rlS · .E)
def rlH (m : Machine) : Machine := m.onRegisters (rlS · .H)
def rlL (m : Machine) : Machine := m.onRegisters (rlS · .L)
def rlMHL (m : Machine) : Machine := rlSHL m

def rrB (m : Machine) : Machine := m.onRegisters (rrS · .B)
def rrC (m : Machine) : Machine := m.onRegisters (rrS · .C)
def rrD (m : Machine) : Machine := m.onRegisters (rrS · .D)
def rrE (m : Machine) : Machine := m.onRegisters (rrS · .E)
def rrH (m : Machine) : Machine := m.onRegisters (rrS · .H)
def rrL (m : Machine) : Machine := m.onRegisters (rrS · .L)
def rrMHL (m : Machine) : Machine := rrSHL m

def slaB (m : Machine) : Machine := m.onRegisters (slaS · .B)
def slaC (m : Machine) : Machine := m.onRegisters (slaS · .C)
def slaD (m : Machine) : Machine := m.onRegisters (slaS · .D)
def slaE (m : Machine) : Machine := m.onRegisters (slaS · .E)
def slaH (m : Machine) : Machine := m.onRegisters (slaS · .H)
def slaL (m : Machine) : Machine := m.onRegisters (slaS · .L)
def slaMHL (m : Machine) : Machine := slaSHL m
def slaA (m : Machine) : Machine := m.onRegisters (slaS · .A)

def sraB (m : Machine) : Machine := m.onRegisters (sraS · .B)
def sraC (m : Machine) : Machine := m.onRegisters (sraS · .C)
def sraD (m : Machine) : Machine := m.onRegisters (sraS · .D)
def sraE (m : Machine) : Machine := m.onRegisters (sraS · .E)
def sraH (m : Machine) : Machine := m.onRegisters (sraS · .H)
def sraL (m : Machine) : Machine := m.onRegisters (sraS · .L)
def sraMHL (m : Machine) : Machine := sraSHL m
def sraA (m : Machine) : Machine := m.onRegisters (sraS · .A)

def swapB (m : Machine) : Machine := m.onRegisters (swapS · .B)
def swapC (m : Machine) : Machine := m.onRegisters (swapS · .C)
def swapD (m : Machine) : Machine := m.onRegisters (swapS · .D)
def swapE (m : Machine) : Machine := m.onRegisters (swapS · .E)
def swapH (m : Machine) : Machine := m.onRegisters (swapS · .H)
def swapL (m : Machine) : Machine := m.onRegisters (swapS · .L)
def swapMHL (m : Machine) : Machine := swapSHL m
def swapA (m : Machine) : Machine := m.onRegisters (swapS · .A)

def srlB (m : Machine) : Machine := m.onRegisters (srlS · .B)
def srlC (m : Machine) : Machine := m.onRegisters (srlS · .C)
def srlD (m : Machine) : Machine := m.onRegisters (srlS · .D)
def srlE (m : Machine) : Machine := m.onRegisters (srlS · .E)
def srlH (m : Machine) : Machine := m.onRegisters (srlS · .H)
def srlL (m : Machine) : Machine := m.onRegisters (srlS · .L)
def srlMHL (m : Machine) : Machine := srlSHL m
def srlA (m : Machine) : Machine := m.onRegisters (srlS · .A)

/-! ## `BIT` -/

def bit0B (m : Machine) : Machine := m.onRegisters (bitBS · 0 .B)
def bit0C (m : Machine) : Machine := m.onRegisters (bitBS · 0 .C)
def bit0D (m : Machine) : Machine := m.onRegisters (bitBS · 0 .D)
def bit0E (m : Machine) : Machine := m.onRegisters (bitBS · 0 .E)
def bit0H (m : Machine) : Machine := m.onRegisters (bitBS · 0 .H)
def bit0L (m : Machine) : Machine := m.onRegisters (bitBS · 0 .L)
def bit0MHL (m : Machine) : Machine := bitBSHL m 0
def bit0A (m : Machine) : Machine := m.onRegisters (bitBS · 0 .A)

def bit1B (m : Machine) : Machine := m.onRegisters (bitBS · 1 .B)
def bit1C (m : Machine) : Machine := m.onRegisters (bitBS · 1 .C)
def bit1D (m : Machine) : Machine := m.onRegisters (bitBS · 1 .D)
def bit1E (m : Machine) : Machine := m.onRegisters (bitBS · 1 .E)
def bit1H (m : Machine) : Machine := m.onRegisters (bitBS · 1 .H)
def bit1L (m : Machine) : Machine := m.onRegisters (bitBS · 1 .L)
def bit1MHL (m : Machine) : Machine := bitBSHL m 1
def bit1A (m : Machine) : Machine := m.onRegisters (bitBS · 1 .A)

def bit2B (m : Machine) : Machine := m.onRegisters (bitBS · 2 .B)
def bit2C (m : Machine) : Machine := m.onRegisters (bitBS · 2 .C)
def bit2D (m : Machine) : Machine := m.onRegisters (bitBS · 2 .D)
def bit2E (m : Machine) : Machine := m.onRegisters (bitBS · 2 .E)
def bit2H (m : Machine) : Machine := m.onRegisters (bitBS · 2 .H)
def bit2L (m : Machine) : Machine := m.onRegisters (bitBS · 2 .L)
def bit2MHL (m : Machine) : Machine := bitBSHL m 2
def bit2A (m : Machine) : Machine := m.onRegisters (bitBS · 2 .A)

def bit3B (m : Machine) : Machine := m.onRegisters (bitBS · 3 .B)
def bit3C (m : Machine) : Machine := m.onRegisters (bitBS · 3 .C)
def bit3D (m : Machine) : Machine := m.onRegisters (bitBS · 3 .D)
def bit3E (m : Machine) : Machine := m.onRegisters (bitBS · 3 .E)
def bit3H (m : Machine) : Machine := m.onRegisters (bitBS · 3 .H)
def bit3L (m : Machine) : Machine := m.onRegisters (bitBS · 3 .L)
def bit3MHL (m : Machine) : Machine := bitBSHL m 3
def bit3A (m : Machine) : Machine := m.onRegisters (bitBS · 3 .A)

def bit4B (m : Machine) : Machine := m.onRegisters (bitBS · 4 .B)
def bit4C (m : Machine) : Machine := m.onRegisters (bitBS · 4 .C)
def bit4D (m : Machine) : Machine := m.onRegisters (bitBS · 4 .D)
def bit4E (m : Machine) : Machine := m.onRegisters (bitBS · 4 .E)
def bit4H (m : Machine) : Machine := m.onRegisters (bitBS · 4 .H)
def bit4L (m : Machine) : Machine := m.onRegisters (bitBS · 4 .L)
def bit4MHL (m : Machine) : Machine := bitBSHL m 4
def bit4A (m : Machine) : Machine := m.onRegisters (bitBS · 4 .A)

def bit5B (m : Machine) : Machine := m.onRegisters (bitBS · 5 .B)
def bit5C (m : Machine) : Machine := m.onRegisters (bitBS · 5 .C)
def bit5D (m : Machine) : Machine := m.onRegisters (bitBS · 5 .D)
def bit5E (m : Machine) : Machine := m.onRegisters (bitBS · 5 .E)
def bit5H (m : Machine) : Machine := m.onRegisters (bitBS · 5 .H)
def bit5L (m : Machine) : Machine := m.onRegisters (bitBS · 5 .L)
def bit5MHL (m : Machine) : Machine := bitBSHL m 5
def bit5A (m : Machine) : Machine := m.onRegisters (bitBS · 5 .A)

def bit6B (m : Machine) : Machine := m.onRegisters (bitBS · 6 .B)
def bit6C (m : Machine) : Machine := m.onRegisters (bitBS · 6 .C)
def bit6D (m : Machine) : Machine := m.onRegisters (bitBS · 6 .D)
def bit6E (m : Machine) : Machine := m.onRegisters (bitBS · 6 .E)
def bit6H (m : Machine) : Machine := m.onRegisters (bitBS · 6 .H)
def bit6L (m : Machine) : Machine := m.onRegisters (bitBS · 6 .L)
def bit6MHL (m : Machine) : Machine := bitBSHL m 6
def bit6A (m : Machine) : Machine := m.onRegisters (bitBS · 6 .A)

def bit7B (m : Machine) : Machine := m.onRegisters (bitBS · 7 .B)
def bit7C (m : Machine) : Machine := m.onRegisters (bitBS · 7 .C)
def bit7D (m : Machine) : Machine := m.onRegisters (bitBS · 7 .D)
def bit7E (m : Machine) : Machine := m.onRegisters (bitBS · 7 .E)
def bit7H (m : Machine) : Machine := m.onRegisters (bitBS · 7 .H)
def bit7L (m : Machine) : Machine := m.onRegisters (bitBS · 7 .L)
def bit7MHL (m : Machine) : Machine := bitBSHL m 7
def bit7A (m : Machine) : Machine := m.onRegisters (bitBS · 7 .A)

/-! ## `RES` -/

def res0B (m : Machine) : Machine := m.onRegisters (resBS · 0 .B)
def res0C (m : Machine) : Machine := m.onRegisters (resBS · 0 .C)
def res0D (m : Machine) : Machine := m.onRegisters (resBS · 0 .D)
def res0E (m : Machine) : Machine := m.onRegisters (resBS · 0 .E)
def res0H (m : Machine) : Machine := m.onRegisters (resBS · 0 .H)
def res0L (m : Machine) : Machine := m.onRegisters (resBS · 0 .L)
def res0MHL (m : Machine) : Machine := resBSHL m 0
def res0A (m : Machine) : Machine := m.onRegisters (resBS · 0 .A)

def res1B (m : Machine) : Machine := m.onRegisters (resBS · 1 .B)
def res1C (m : Machine) : Machine := m.onRegisters (resBS · 1 .C)
def res1D (m : Machine) : Machine := m.onRegisters (resBS · 1 .D)
def res1E (m : Machine) : Machine := m.onRegisters (resBS · 1 .E)
def res1H (m : Machine) : Machine := m.onRegisters (resBS · 1 .H)
def res1L (m : Machine) : Machine := m.onRegisters (resBS · 1 .L)
def res1MHL (m : Machine) : Machine := resBSHL m 1
def res1A (m : Machine) : Machine := m.onRegisters (resBS · 1 .A)

def res2B (m : Machine) : Machine := m.onRegisters (resBS · 2 .B)
def res2C (m : Machine) : Machine := m.onRegisters (resBS · 2 .C)
def res2D (m : Machine) : Machine := m.onRegisters (resBS · 2 .D)
def res2E (m : Machine) : Machine := m.onRegisters (resBS · 2 .E)
def res2H (m : Machine) : Machine := m.onRegisters (resBS · 2 .H)
def res2L (m : Machine) : Machine := m.onRegisters (resBS · 2 .L)
def res2MHL (m : Machine) : Machine := resBSHL m 2
def res2A (m : Machine) : Machine := m.onRegisters (resBS · 2 .A)

def res3B (m : Machine) : Machine := m.onRegisters (resBS · 3 .B)
def res3C (m : Machine) : Machine := m.onRegisters (resBS · 3 .C)
def res3D (m : Machine) : Machine := m.onRegisters (resBS · 3 .D)
def res3E (m : Machine) : Machine := m.onRegisters (resBS · 3 .E)
def res3H (m : Machine) : Machine := m.onRegisters (resBS · 3 .H)
def res3L (m : Machine) : Machine := m.onRegisters (resBS · 3 .L)
def res3MHL (m : Machine) : Machine := resBSHL m 3
def res3A (m : Machine) : Machine := m.onRegisters (resBS · 3 .A)

def res4B (m : Machine) : Machine := m.onRegisters (resBS · 4 .B)
def res4C (m : Machine) : Machine := m.onRegisters (resBS · 4 .C)
def res4D (m : Machine) : Machine := m.onRegisters (resBS · 4 .D)
def res4E (m : Machine) : Machine := m.onRegisters (resBS · 4 .E)
def res4H (m : Machine) : Machine := m.onRegisters (resBS · 4 .H)
def res4L (m : Machine) : Machine := m.onRegisters (resBS · 4 .L)
def res4MHL (m : Machine) : Machine := resBSHL m 4
def res4A (m : Machine) : Machine := m.onRegisters (resBS · 4 .A)

def res5B (m : Machine) : Machine := m.onRegisters (resBS · 5 .B)
def res5C (m : Machine) : Machine := m.onRegisters (resBS · 5 .C)
def res5D (m : Machine) : Machine := m.onRegisters (resBS · 5 .D)
def res5E (m : Machine) : Machine := m.onRegisters (resBS · 5 .E)
def res5H (m : Machine) : Machine := m.onRegisters (resBS · 5 .H)
def res5L (m : Machine) : Machine := m.onRegisters (resBS · 5 .L)
def res5MHL (m : Machine) : Machine := resBSHL m 5
def res5A (m : Machine) : Machine := m.onRegisters (resBS · 5 .A)

def res6B (m : Machine) : Machine := m.onRegisters (resBS · 6 .B)
def res6C (m : Machine) : Machine := m.onRegisters (resBS · 6 .C)
def res6D (m : Machine) : Machine := m.onRegisters (resBS · 6 .D)
def res6E (m : Machine) : Machine := m.onRegisters (resBS · 6 .E)
def res6H (m : Machine) : Machine := m.onRegisters (resBS · 6 .H)
def res6L (m : Machine) : Machine := m.onRegisters (resBS · 6 .L)
def res6MHL (m : Machine) : Machine := resBSHL m 6
def res6A (m : Machine) : Machine := m.onRegisters (resBS · 6 .A)

def res7B (m : Machine) : Machine := m.onRegisters (resBS · 7 .B)
def res7C (m : Machine) : Machine := m.onRegisters (resBS · 7 .C)
def res7D (m : Machine) : Machine := m.onRegisters (resBS · 7 .D)
def res7E (m : Machine) : Machine := m.onRegisters (resBS · 7 .E)
def res7H (m : Machine) : Machine := m.onRegisters (resBS · 7 .H)
def res7L (m : Machine) : Machine := m.onRegisters (resBS · 7 .L)
def res7MHL (m : Machine) : Machine := resBSHL m 7
def res7A (m : Machine) : Machine := m.onRegisters (resBS · 7 .A)

/-! ## `SET` -/

def set0B (m : Machine) : Machine := m.onRegisters (setBS · 0 .B)
def set0C (m : Machine) : Machine := m.onRegisters (setBS · 0 .C)
def set0D (m : Machine) : Machine := m.onRegisters (setBS · 0 .D)
def set0E (m : Machine) : Machine := m.onRegisters (setBS · 0 .E)
def set0H (m : Machine) : Machine := m.onRegisters (setBS · 0 .H)
def set0L (m : Machine) : Machine := m.onRegisters (setBS · 0 .L)
def set0MHL (m : Machine) : Machine := setBSHL m 0
def set0A (m : Machine) : Machine := m.onRegisters (setBS · 0 .A)

def set1B (m : Machine) : Machine := m.onRegisters (setBS · 1 .B)
def set1C (m : Machine) : Machine := m.onRegisters (setBS · 1 .C)
def set1D (m : Machine) : Machine := m.onRegisters (setBS · 1 .D)
def set1E (m : Machine) : Machine := m.onRegisters (setBS · 1 .E)
def set1H (m : Machine) : Machine := m.onRegisters (setBS · 1 .H)
def set1L (m : Machine) : Machine := m.onRegisters (setBS · 1 .L)
def set1MHL (m : Machine) : Machine := setBSHL m 1
def set1A (m : Machine) : Machine := m.onRegisters (setBS · 1 .A)

def set2B (m : Machine) : Machine := m.onRegisters (setBS · 2 .B)
def set2C (m : Machine) : Machine := m.onRegisters (setBS · 2 .C)
def set2D (m : Machine) : Machine := m.onRegisters (setBS · 2 .D)
def set2E (m : Machine) : Machine := m.onRegisters (setBS · 2 .E)
def set2H (m : Machine) : Machine := m.onRegisters (setBS · 2 .H)
def set2L (m : Machine) : Machine := m.onRegisters (setBS · 2 .L)
def set2MHL (m : Machine) : Machine := setBSHL m 2
def set2A (m : Machine) : Machine := m.onRegisters (setBS · 2 .A)

def set3B (m : Machine) : Machine := m.onRegisters (setBS · 3 .B)
def set3C (m : Machine) : Machine := m.onRegisters (setBS · 3 .C)
def set3D (m : Machine) : Machine := m.onRegisters (setBS · 3 .D)
def set3E (m : Machine) : Machine := m.onRegisters (setBS · 3 .E)
def set3H (m : Machine) : Machine := m.onRegisters (setBS · 3 .H)
def set3L (m : Machine) : Machine := m.onRegisters (setBS · 3 .L)
def set3MHL (m : Machine) : Machine := setBSHL m 3
def set3A (m : Machine) : Machine := m.onRegisters (setBS · 3 .A)

def set4B (m : Machine) : Machine := m.onRegisters (setBS · 4 .B)
def set4C (m : Machine) : Machine := m.onRegisters (setBS · 4 .C)
def set4D (m : Machine) : Machine := m.onRegisters (setBS · 4 .D)
def set4E (m : Machine) : Machine := m.onRegisters (setBS · 4 .E)
def set4H (m : Machine) : Machine := m.onRegisters (setBS · 4 .H)
def set4L (m : Machine) : Machine := m.onRegisters (setBS · 4 .L)
def set4MHL (m : Machine) : Machine := setBSHL m 4
def set4A (m : Machine) : Machine := m.onRegisters (setBS · 4 .A)

def set5B (m : Machine) : Machine := m.onRegisters (setBS · 5 .B)
def set5C (m : Machine) : Machine := m.onRegisters (setBS · 5 .C)
def set5D (m : Machine) : Machine := m.onRegisters (setBS · 5 .D)
def set5E (m : Machine) : Machine := m.onRegisters (setBS · 5 .E)
def set5H (m : Machine) : Machine := m.onRegisters (setBS · 5 .H)
def set5L (m : Machine) : Machine := m.onRegisters (setBS · 5 .L)
def set5MHL (m : Machine) : Machine := setBSHL m 5
def set5A (m : Machine) : Machine := m.onRegisters (setBS · 5 .A)

def set6B (m : Machine) : Machine := m.onRegisters (setBS · 6 .B)
def set6C (m : Machine) : Machine := m.onRegisters (setBS · 6 .C)
def set6D (m : Machine) : Machine := m.onRegisters (setBS · 6 .D)
def set6E (m : Machine) : Machine := m.onRegisters (setBS · 6 .E)
def set6H (m : Machine) : Machine := m.onRegisters (setBS · 6 .H)
def set6L (m : Machine) : Machine := m.onRegisters (setBS · 6 .L)
def set6MHL (m : Machine) : Machine := setBSHL m 6
def set6A (m : Machine) : Machine := m.onRegisters (setBS · 6 .A)

def set7B (m : Machine) : Machine := m.onRegisters (setBS · 7 .B)
def set7C (m : Machine) : Machine := m.onRegisters (setBS · 7 .C)
def set7D (m : Machine) : Machine := m.onRegisters (setBS · 7 .D)
def set7E (m : Machine) : Machine := m.onRegisters (setBS · 7 .E)
def set7H (m : Machine) : Machine := m.onRegisters (setBS · 7 .H)
def set7L (m : Machine) : Machine := m.onRegisters (setBS · 7 .L)
def set7MHL (m : Machine) : Machine := setBSHL m 7
def set7A (m : Machine) : Machine := m.onRegisters (setBS · 7 .A)

/-! ## The tables -/

set_option maxRecDepth 2000 in
/-- `cbOpcodeTicks`: 8 ticks for a register; for the byte at `HL` it is 16 to rotate or shift it
and 12 for every bit operation, also for those that store it.  The prefix itself is not charged
for. -/
def cbOpcodeTicks : Vector ℕ 256 := #v[
  8, 8, 8, 8, 8, 8, 16, 8, 8, 8, 8, 8, 8, 8, 16, 8,
  8, 8, 8, 8, 8, 8, 16, 8, 8, 8, 8, 8, 8, 8, 16, 8,
  8, 8, 8, 8, 8, 8, 16, 8, 8, 8, 8, 8, 8, 8, 16, 8,
  8, 8, 8, 8, 8, 8, 16, 8, 8, 8, 8, 8, 8, 8, 16, 8,
  8, 8, 8, 8, 8, 8, 12, 8, 8, 8, 8, 8, 8, 8, 12, 8,
  8, 8, 8, 8, 8, 8, 12, 8, 8, 8, 8, 8, 8, 8, 12, 8,
  8, 8, 8, 8, 8, 8, 12, 8, 8, 8, 8, 8, 8, 8, 12, 8,
  8, 8, 8, 8, 8, 8, 12, 8, 8, 8, 8, 8, 8, 8, 12, 8,
  8, 8, 8, 8, 8, 8, 12, 8, 8, 8, 8, 8, 8, 8, 12, 8,
  8, 8, 8, 8, 8, 8, 12, 8, 8, 8, 8, 8, 8, 8, 12, 8,
  8, 8, 8, 8, 8, 8, 12, 8, 8, 8, 8, 8, 8, 8, 12, 8,
  8, 8, 8, 8, 8, 8, 12, 8, 8, 8, 8, 8, 8, 8, 12, 8,
  8, 8, 8, 8, 8, 8, 12, 8, 8, 8, 8, 8, 8, 8, 12, 8,
  8, 8, 8, 8, 8, 8, 12, 8, 8, 8, 8, 8, 8, 8, 12, 8,
  8, 8, 8, 8, 8, 8, 12, 8, 8, 8, 8, 8, 8, 8, 12, 8,
  8, 8, 8, 8, 8, 8, 12, 8, 8, 8, 8, 8, 8, 8, 12, 8]

set_option maxRecDepth 2000 in
/-- `CBOpcodeTable`, indexed by the byte behind the prefix: eight operands to an operation, in the
order `B`, `C`, `D`, `E`, `H`, `L`, `(HL)`, `A`.  The comments give the opcode of the first entry
of each line. -/
def cbOpcodeTable : Vector Opcode 256 := #v[
  -- 0x00
  .noOperands rlcB, .noOperands rlcC, .noOperands rlcD, .noOperands rlcE, .noOperands rlcH,
  .noOperands rlcL, .noOperands rlcMHL, .noOperands (·.onRegisters rlcA), .noOperands rrcB,
  .noOperands rrcC, .noOperands rrcD, .noOperands rrcE, .noOperands rrcH, .noOperands rrcL,
  .noOperands rrcMHL, .noOperands (·.onRegisters rrcA),
  -- 0x10
  .noOperands rlB, .noOperands rlC, .noOperands rlD, .noOperands rlE, .noOperands rlH,
  .noOperands rlL, .noOperands rlMHL, .noOperands (·.onRegisters rlA), .noOperands rrB,
  .noOperands rrC, .noOperands rrD, .noOperands rrE, .noOperands rrH, .noOperands rrL,
  .noOperands rrMHL, .noOperands (·.onRegisters rrA),
  -- 0x20
  .noOperands slaB, .noOperands slaC, .noOperands slaD, .noOperands slaE, .noOperands slaH,
  .noOperands slaL, .noOperands slaMHL, .noOperands slaA, .noOperands sraB, .noOperands sraC,
  .noOperands sraD, .noOperands sraE, .noOperands sraH, .noOperands sraL, .noOperands sraMHL,
  .noOperands sraA,
  -- 0x30
  .noOperands swapB, .noOperands swapC, .noOperands swapD, .noOperands swapE,
  .noOperands swapH, .noOperands swapL, .noOperands swapMHL, .noOperands swapA,
  .noOperands srlB, .noOperands srlC, .noOperands srlD, .noOperands srlE, .noOperands srlH,
  .noOperands srlL, .noOperands srlMHL, .noOperands srlA,
  -- 0x40
  .noOperands bit0B, .noOperands bit0C, .noOperands bit0D, .noOperands bit0E,
  .noOperands bit0H, .noOperands bit0L, .noOperands bit0MHL, .noOperands bit0A,
  .noOperands bit1B, .noOperands bit1C, .noOperands bit1D, .noOperands bit1E,
  .noOperands bit1H, .noOperands bit1L, .noOperands bit1MHL, .noOperands bit1A,
  -- 0x50
  .noOperands bit2B, .noOperands bit2C, .noOperands bit2D, .noOperands bit2E,
  .noOperands bit2H, .noOperands bit2L, .noOperands bit2MHL, .noOperands bit2A,
  .noOperands bit3B, .noOperands bit3C, .noOperands bit3D, .noOperands bit3E,
  .noOperands bit3H, .noOperands bit3L, .noOperands bit3MHL, .noOperands bit3A,
  -- 0x60
  .noOperands bit4B, .noOperands bit4C, .noOperands bit4D, .noOperands bit4E,
  .noOperands bit4H, .noOperands bit4L, .noOperands bit4MHL, .noOperands bit4A,
  .noOperands bit5B, .noOperands bit5C, .noOperands bit5D, .noOperands bit5E,
  .noOperands bit5H, .noOperands bit5L, .noOperands bit5MHL, .noOperands bit5A,
  -- 0x70
  .noOperands bit6B, .noOperands bit6C, .noOperands bit6D, .noOperands bit6E,
  .noOperands bit6H, .noOperands bit6L, .noOperands bit6MHL, .noOperands bit6A,
  .noOperands bit7B, .noOperands bit7C, .noOperands bit7D, .noOperands bit7E,
  .noOperands bit7H, .noOperands bit7L, .noOperands bit7MHL, .noOperands bit7A,
  -- 0x80
  .noOperands res0B, .noOperands res0C, .noOperands res0D, .noOperands res0E,
  .noOperands res0H, .noOperands res0L, .noOperands res0MHL, .noOperands res0A,
  .noOperands res1B, .noOperands res1C, .noOperands res1D, .noOperands res1E,
  .noOperands res1H, .noOperands res1L, .noOperands res1MHL, .noOperands res1A,
  -- 0x90
  .noOperands res2B, .noOperands res2C, .noOperands res2D, .noOperands res2E,
  .noOperands res2H, .noOperands res2L, .noOperands res2MHL, .noOperands res2A,
  .noOperands res3B, .noOperands res3C, .noOperands res3D, .noOperands res3E,
  .noOperands res3H, .noOperands res3L, .noOperands res3MHL, .noOperands res3A,
  -- 0xA0
  .noOperands res4B, .noOperands res4C, .noOperands res4D, .noOperands res4E,
  .noOperands res4H, .noOperands res4L, .noOperands res4MHL, .noOperands res4A,
  .noOperands res5B, .noOperands res5C, .noOperands res5D, .noOperands res5E,
  .noOperands res5H, .noOperands res5L, .noOperands res5MHL, .noOperands res5A,
  -- 0xB0
  .noOperands res6B, .noOperands res6C, .noOperands res6D, .noOperands res6E,
  .noOperands res6H, .noOperands res6L, .noOperands res6MHL, .noOperands res6A,
  .noOperands res7B, .noOperands res7C, .noOperands res7D, .noOperands res7E,
  .noOperands res7H, .noOperands res7L, .noOperands res7MHL, .noOperands res7A,
  -- 0xC0
  .noOperands set0B, .noOperands set0C, .noOperands set0D, .noOperands set0E,
  .noOperands set0H, .noOperands set0L, .noOperands set0MHL, .noOperands set0A,
  .noOperands set1B, .noOperands set1C, .noOperands set1D, .noOperands set1E,
  .noOperands set1H, .noOperands set1L, .noOperands set1MHL, .noOperands set1A,
  -- 0xD0
  .noOperands set2B, .noOperands set2C, .noOperands set2D, .noOperands set2E,
  .noOperands set2H, .noOperands set2L, .noOperands set2MHL, .noOperands set2A,
  .noOperands set3B, .noOperands set3C, .noOperands set3D, .noOperands set3E,
  .noOperands set3H, .noOperands set3L, .noOperands set3MHL, .noOperands set3A,
  -- 0xE0
  .noOperands set4B, .noOperands set4C, .noOperands set4D, .noOperands set4E,
  .noOperands set4H, .noOperands set4L, .noOperands set4MHL, .noOperands set4A,
  .noOperands set5B, .noOperands set5C, .noOperands set5D, .noOperands set5E,
  .noOperands set5H, .noOperands set5L, .noOperands set5MHL, .noOperands set5A,
  -- 0xF0
  .noOperands set6B, .noOperands set6C, .noOperands set6D, .noOperands set6E,
  .noOperands set6H, .noOperands set6L, .noOperands set6MHL, .noOperands set6A,
  .noOperands set7B, .noOperands set7C, .noOperands set7D, .noOperands set7E,
  .noOperands set7H, .noOperands set7L, .noOperands set7MHL, .noOperands set7A]

end CBOpcode
end GameBloat
