import GameBloat.Cpu.Flow
import GameBloat.Interrupt.AllOrOne

/-!
# The flag register has only flags

After a reset the low half of `F` is clear, and of all that runs on the machine one instruction
can set a bit of it: `POP AF`, which loads `F` with a byte of the stack as it is.  Whether the low
half stays clear is therefore a matter of what the `POP AF`s of a run find.

The run consists of parts of the main loop in any order, instructions and interrupts and steps of
the GPU, and the statement is about every state on the way.  Its condition is a condition on the
state before a `cpuStep`: if the byte at PC is the opcode of `POP AF`, then the byte that ends up
in `F` is one without the low bits.  `pop_dd` overwrites the first of the two bytes it reads with
the second, so that is the one above the byte that SP points to.

Every other instruction keeps the invariant, for any operands.  That is one statement about all
the 512 entries of the two tables, proved where what an instruction does to `F` is worked out; one
part keeps `F` to flags exactly if it pops only flags (`Part.step_onlyFlags_iff`), and a run does
by induction (`flagRegister_iff`).
-/

set_option autoImplicit false

namespace GameBloat

/-- The stores of the reset do not reach the registers. -/
theorem cpuReset_registers (m : Machine) :
    (cpuReset m).registers = resetRegisters m.registers := by
  rw [cpuReset, storeAll_of_ioAddress _ forall_mem_resetWrites]
  rfl

/-- The reset loads `F` with 0xB0. -/
theorem cpuReset_onlyFlags (m : Machine) : OnlyFlags (cpuReset m).registers.F := by
  rw [cpuReset_registers]
  exact (by decide : OnlyFlags 0xB0)

/-- Serving an interrupt leaves the flags alone, -/
theorem handleInterrupt_F (m : Machine) (inInterrupt : Byte) (address : Word) :
    (handleInterrupt m inInterrupt address).registers.F = m.registers.F :=
  callNn_F m (inInterrupt.setWidth 16)

/-- and so does looking for one. -/
theorem interruptStep_F (m : Machine) : (interruptStep m).registers.F = m.registers.F := by
  rw [interruptStep]
  simp only
  split
  · split
    · rw [serveInterrupt]
      split_ifs <;> first | exact handleInterrupt_F _ _ _ | rfl
    · rfl
  · rfl

/-- If the part is a `cpuStep` that executes `POP AF`, the byte it loads into `F` is only flags. -/
def Part.PopsFlags (m : Machine) (part : Part) : Prop :=
  part = .cpuStep → mmuReadByte m m.registers.PC = 0xF1 →
    OnlyFlags (mmuReadByte m (m.registers.SP + 1))

/-- A part keeps `F` to flags exactly when it pops only flags. -/
theorem Part.step_onlyFlags_iff (m : Machine) (part : Part) (h : OnlyFlags m.registers.F) :
    OnlyFlags (part.step m).registers.F ↔ part.PopsFlags m := by
  cases part with
  | cpuStep => exact (cpuStep_onlyFlags_iff h).trans ⟨fun h _ ↦ h, fun h ↦ h rfl⟩
  | gpuStep tick => exact iff_of_true h fun hpart ↦ by cases hpart
  | interruptStep =>
    refine iff_of_true ?_ fun hpart ↦ by cases hpart
    rw [step, interruptStep_F]
    exact h
  | mmuWriteByte address value =>
    refine iff_of_true ?_ fun hpart ↦ by cases hpart
    rw [step, storeByte_registers]
    exact h
  | clock time => exact iff_of_true h fun hpart ↦ by cases hpart

/-- A machine with a cartridge that starts with `PUSH BC` and `POP AF`. -/
def pushingBC : Machine :=
  { Machine.powerOn with
    cartridge := { Machine.powerOn.cartridge with
      romLength := 0x8000
      rom := fun i ↦ if i = 0x100 then 0xC5 else if i = 0x101 then 0xF1 else 0
      mbc := true }
    MBC := some .mbcNone }

/-- After a reset `C` is 0x13, and so is `F` when it has been popped. -/
theorem popAF_loads_other_bits :
    ¬OnlyFlags (parts.run (cpuReset pushingBC) [.cpuStep, .cpuStep]).registers.F := by
  decide +kernel

/-- **When the flag register has only flags.**  The low half of `F` is clear in every state of a
run from a reset exactly when every `POP AF` in it loads a byte whose low half is clear.  No other
instruction, with whatever operands, puts anything there. -/
theorem flagRegister_iff (m : Machine) (run : List Part) :
    (∀ pre, pre <+: run → OnlyFlags (parts.run (cpuReset m) pre).registers.F) ↔
      parts.Along (fun m part ↦ part.PopsFlags m) (cpuReset m) run :=
  System.forall_prefix_iff_along (I := fun m : Machine ↦ OnlyFlags m.registers.F)
    Part.step_onlyFlags_iff (cpuReset_onlyFlags m)

end GameBloat
