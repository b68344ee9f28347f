import GameBloat.Machine
import Mathlib.Tactic.SplitIfs

/-!
# Interrupt registers

The bits of `enum interruptBits` and the functions of `interrupt.c` that the memory map and the
GPU use to request and enable interrupts.  Dispatching them is `GameBloat.Interrupt.Step`.

There is one way into the two registers, `writeInterrupt`, and both hardware and programs go
through it: the GPU requests VBLANK and LCD interrupts by it, and a store to 0xFF0F or 0xFFFF ends
here as well.  It has two peculiarities, which later modules draw the consequences of.  It merges
its argument into the register and never clears a bit.  And it refuses an argument that
`validateInterrupt` does not know; this function was meant to go through the *values* in the array
of bits, but its loop compares with the index, so it lets through the numbers from 0 to 4.

`Requested` is the relation between the registers before and after some requests.  It is a
preorder, and all the GPU ever does to these registers, so that a proof about a whole `gpuStep`
needs no more than its reflexivity and transitivity.
-/

set_option autoImplicit false

namespace GameBloat

/-- `VBLANK_INTERRUPT`. -/
def vblankInterrupt : Byte := 0x01

/-- `LCD_INTERRUPT`. -/
def lcdInterrupt : Byte := 0x02

/-- `SERIAL_INTERRUPT`. -/
def serialInterrupt : Byte := 0x04

/-- `TIMER_INTERRUPT`. -/
def timerInterrupt : Byte := 0x08

/-- `JOYPAD_INTERRUPT`. -/
def joypadInterrupt : Byte := 0x10

/-- The array `interruptBits`. -/
def interruptBits : List Byte :=
  [vblankInterrupt, lcdInterrupt, serialInterrupt, timerInterrupt, joypadInterrupt]

/-- `validateInterrupt`: the loop compares its argument with the *indices* of `interruptBits`, so
what it lets through are the numbers from 0 to 4, and not the bits of the five interrupts.  So 0
and 3 pass, which are the bit of no interrupt, and 8 and 16 do not, which are those of the serial
port and of the joypad. -/
def validateInterrupt (interruptBit : Byte) : Bool :=
  (List.range interruptBits.length).any (· == interruptBit.toNat)

/-- `writeInterrupt`: merge a value into the request register or the enable register, by the
address.  A value that is not validated changes nothing. -/
def writeInterrupt (ir : InterruptRegisters) (address : Word) (interruptBit : Byte) :
    InterruptRegisters :=
  if validateInterrupt interruptBit then
    if address = 0xFF0F then { ir with request := ir.request ||| interruptBit }
    else if address = 0xFFFF then { ir with enable := ir.enable ||| interruptBit }
    else ir
  else ir

@[simp] theorem writeInterrupt_masterEnable (ir : InterruptRegisters) (address : Word)
    (interruptBit : Byte) :
    (writeInterrupt ir address interruptBit).masterEnable = ir.masterEnable := by
  unfold writeInterrupt
  split_ifs <;> rfl

/-! ## Requests -/

/-- `ir'` is `ir` with some more interrupts requested.  Which they are is left open: what the GPU
has to leave alone are the other two registers. -/
def InterruptRegisters.Requested (ir ir' : InterruptRegisters) : Prop :=
  ∃ bits : Byte, ir' = { ir with request := ir.request ||| bits }

namespace InterruptRegisters.Requested

variable {ir ir' ir'' : InterruptRegisters}

theorem refl (ir : InterruptRegisters) : ir.Requested ir :=
  ⟨0, congrArg (fun request ↦ { ir with request }) (BitVec.or_zero (x := ir.request)).symm⟩

theorem trans (h : ir.Requested ir') (h' : ir'.Requested ir'') : ir.Requested ir'' := by
  obtain ⟨bits, rfl⟩ := h
  obtain ⟨bits', rfl⟩ := h'
  exact ⟨bits ||| bits', congrArg (fun request ↦ { ir with request }) (BitVec.or_assoc _ _ _)⟩

theorem masterEnable (h : ir.Requested ir') : ir'.masterEnable = ir.masterEnable := by
  obtain ⟨bits, rfl⟩ := h
  rfl

end InterruptRegisters.Requested

/-- A request changes the request register only. -/
theorem writeInterrupt_requested (ir : InterruptRegisters) (interruptBit : Byte) :
    ir.Requested (writeInterrupt ir 0xFF0F interruptBit) := by
  rw [writeInterrupt]
  split
  · exact ⟨interruptBit, rfl⟩
  · exact .refl ir

end GameBloat
