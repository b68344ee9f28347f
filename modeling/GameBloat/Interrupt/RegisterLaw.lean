import GameBloat.Memory.Map

/-!
# Writing the interrupt registers

A program enables interrupts by writing to 0xFFFF, and raises or acknowledges them by writing to
0xFF0F.  Either write should replace the five bits of its register.  But both go through
`writeInterrupt`, which was made for the requests of the hardware: it drops a value that is not at
most 4, since `validateInterrupt` compares with indices, and merges the others in.  So a write can
set the bits of VBLANK, LCD and the serial port and clear none (`writeInterrupt_bits`), and what
is read back is what was written under the condition of `registerLaw_iff` only.

The two ports are told apart by `InterruptPort`, and all lemmas are about both.  The condition has
two cases.  Either the register already has the five bits that are written, and then it does not
matter that the write is dropped or merged; or the value is at most 4, so that it is merged, and
the bits it does not have were clear.

What this means for a program is in `writeInterrupt_bits`: whatever is written, the bits of the
timer and the joypad stay as they are and no bit is cleared.  An interrupt handler cannot
acknowledge a request, and neither the timer nor the joypad can be enabled.
-/

set_option autoImplicit false

namespace GameBloat

/-- The two interrupt registers in the memory map. -/
inductive InterruptPort
  | request | enable
  deriving DecidableEq

namespace InterruptPort

/-- The address of the register. -/
def address : InterruptPort → Word
  | request => 0xFF0F
  | enable => 0xFFFF

/-- The contents of the register. -/
def get (ir : InterruptRegisters) : InterruptPort → Byte
  | request => ir.request
  | enable => ir.enable

/-- The other register. -/
def other : InterruptPort → InterruptPort
  | request => enable
  | enable => request

end InterruptPort

open InterruptPort (get)

/-- Writing `value` to the register: its low five bits are read back, and the other register is
unchanged.  The upper three bits have no meaning and are not compared. -/
def RegisterLaw (m : Machine) (port : InterruptPort) (value : Byte) : Prop :=
  mmuReadByte (mmuWriteByte m port.address value).1 port.address &&& 0x1F = value &&& 0x1F ∧
    get (mmuWriteByte m port.address value).1.interruptRegisters port.other =
      get m.interruptRegisters port.other

instance (m : Machine) (port : InterruptPort) (value : Byte) :
    Decidable (RegisterLaw m port value) :=
  inferInstanceAs (Decidable (_ ∧ _))

theorem mmuReadByte_port (m : Machine) (port : InterruptPort) :
    mmuReadByte m port.address = get m.interruptRegisters port := by
  cases port <;> rfl

/-! ## What a write does -/

theorem validateInterrupt_iff (bit : Byte) : validateInterrupt bit ↔ bit.toNat ≤ 4 := by
  revert bit
  decide

/-- The register after a write: the value merged in if it is at most 4, and the old contents
otherwise. -/
theorem get_writeInterrupt (ir : InterruptRegisters) (port : InterruptPort) (bit : Byte) :
    get (writeInterrupt ir port.address bit) port =
      if bit.toNat ≤ 4 then get ir port ||| bit else get ir port := by
  rw [writeInterrupt]
  simp only [validateInterrupt_iff]
  split
  · cases port <;> rfl
  · rfl

theorem get_writeInterrupt_other (ir : InterruptRegisters) (port : InterruptPort) (bit : Byte) :
    get (writeInterrupt ir port.address bit) port.other = get ir port.other := by
  rw [writeInterrupt]
  split
  · cases port <;> rfl
  · rfl

/-- No write clears a bit, and none sets the bit of the timer, of the joypad or of no interrupt. -/
theorem writeInterrupt_bits (ir : InterruptRegisters) (port : InterruptPort) (bit : Byte) :
    get ir port &&& ~~~get (writeInterrupt ir port.address bit) port = 0 ∧
      get (writeInterrupt ir port.address bit) port &&& 0xF8 = get ir port &&& 0xF8 := by
  rw [get_writeInterrupt]
  split_ifs with hbit
  · have hlow : bit &&& 0xF8 = 0 := by
      revert bit
      decide
    constructor
    · rw [BitVec.not_or, ← BitVec.and_assoc, BitVec.and_not_self]
      exact BitVec.zero_and
    · rw [BitVec.and_or_distrib_right, hlow]
      exact BitVec.or_zero
  · exact ⟨BitVec.and_not_self _, rfl⟩

/-! ## The law -/

/-- Merging `value` in gives `value`, under the mask, if nothing else was set. -/
theorem or_and_eq_iff (old value mask : Byte) :
    (old ||| value) &&& mask = value &&& mask ↔ old &&& mask &&& ~~~value = 0 := by
  rw [BitVec.eq_of_getLsbD_eq_iff, BitVec.eq_of_getLsbD_eq_iff]
  refine forall₂_congr fun i hi ↦ ?_
  simp only [BitVec.getLsbD_and, BitVec.getLsbD_or, BitVec.getLsbD_not, BitVec.ofNat_eq_ofNat,
    BitVec.getLsbD_zero, hi, decide_true, Bool.true_and]
  cases old.getLsbD i <;> cases value.getLsbD i <;> cases mask.getLsbD i <;> simp

/-- **When the register law holds**: the low five bits are those of `value` already, or `value` is
at most 4 and sets every one of them that was set.  A store never clears a bit, and a value other
than the numbers from 0 to 4 is not stored at all. -/
theorem registerLaw_iff (m : Machine) (port : InterruptPort) (value : Byte) :
    RegisterLaw m port value ↔
      get m.interruptRegisters port &&& 0x1F = value &&& 0x1F ∨
        (value.toNat ≤ 4 ∧ get m.interruptRegisters port &&& 0x1F &&& ~~~value = 0) := by
  have hother : get (storeByte m port.address value).interruptRegisters port.other =
      get m.interruptRegisters port.other := by
    rw [storeByte_interruptRegisters, get_writeInterrupt_other]
  have hlaw : RegisterLaw m port value ↔
      get (storeByte m port.address value).interruptRegisters port &&& 0x1F = value &&& 0x1F := by
    rw [RegisterLaw, mmuReadByte_port]
    exact and_iff_left hother
  rw [hlaw, storeByte_interruptRegisters, get_writeInterrupt]
  split_ifs with hvalue
  · rw [or_and_eq_iff]
    refine ⟨fun h ↦ .inr ⟨hvalue, h⟩, ?_⟩
    rintro (h | h)
    · rw [h, BitVec.and_comm value, BitVec.and_assoc, BitVec.and_not_self]
      exact BitVec.and_zero
    · exact h.2
  · exact ⟨.inl, fun h ↦ h.resolve_right fun h' ↦ hvalue h'.1⟩

/-- The timer cannot be enabled, and VBLANK not acknowledged: writing 8 to the enable register
leaves it 0, and writing 0 to the request register leaves a pending VBLANK pending. -/
theorem timer_not_enabled :
    ¬RegisterLaw Machine.powerOn .enable timerInterrupt ∧
      ¬RegisterLaw { Machine.powerOn with interruptRegisters := ⟨vblankInterrupt, 0, 0⟩ }
        .request 0 := by
  decide

end GameBloat
