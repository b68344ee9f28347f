import GameBloat.Interrupt.Reentry
import GameBloat.Platforms.Reset

/-!
# One interrupt at a time

`interruptStep` turns interrupts off as soon as some bit is both requested and enabled, and only
then looks for the interrupt to serve.  With a bit above the five set in both registers it would
turn interrupts off and serve nothing.  That does not happen: `writeInterrupt` sets the low three
bits at most, everybody who sets a bit goes through it, and so from power-on no other bit is ever
set (`InterruptRegisters.Known`).

So the property of one call rests on an invariant of whole runs.  The runs are as general as can
be: the parts of a main-loop cycle in any order, stores of any value to any address, and the
clock; in particular every program is covered, and every interleaving with calls that no program
would make.

* `Known` is the invariant, and it is proved for each part by what that part does to the interrupt
  registers: a store merges validated bits, the GPU requests, the CPU stores or sets the master
  enable, and serving an interrupt clears.
* `Part.step_known` collects them, and `PoweredOn.known` is the start.
* `Serves.servesOne` is the positive half: what `GameBloat.Interrupt.Serve` knows of a served
  interrupt is what `ServesOne` asks for.
* `interruptStep_all_or_one` puts the two together.

Both orders of the two resets are power-on states: neither touches the interrupt registers in a
way that depends on the other.
-/

set_option autoImplicit false

namespace GameBloat

/-! ## The parts of the machine -/

/-- The parts of a main-loop cycle on their own, in any order, and stores. -/
inductive Part
  | cpuStep
  | gpuStep (tick : CInt)
  | interruptStep
  | mmuWriteByte (address : Word) (value : Byte)
  /-- The clock on the wall moves on. -/
  | clock (time : ℤ)

/-- The machine after a part. -/
def Part.step (m : Machine) : Part → Machine
  | .cpuStep => (GameBloat.cpuStep m).1
  | .gpuStep tick => GameBloat.gpuStep m tick
  | .interruptStep => GameBloat.interruptStep m
  | .mmuWriteByte address value => storeByte m address value
  | .clock time => m.atTime time

/-- The machine as a system of its parts. -/
def parts : System Machine Part Unit := ⟨Part.step, fun _ _ ↦ []⟩

/-- The interrupt registers are as at power-on, and the CPU and the GPU have been reset, in one of
the two orders. -/
def PoweredOn (m : Machine) : Prop :=
  ∃ m₀ : Machine, m₀.interruptRegisters = ⟨0, 0, 0⟩ ∧
    (m = (cpuReset m₀).gpuReset ∨ m = cpuReset m₀.gpuReset)

/-- From `m` to `m'` the interrupt `i` is served, which was enabled and requested: interrupts are
turned off, two bytes pushed, and this request cleared and no other.  Whether it is the right one
that is served is another question. -/
structure ServesOne (i : Interrupt) (m m' : Machine) : Prop where
  masterEnable : m.interruptRegisters.masterEnable = 1
  masterEnable' : m'.interruptRegisters.masterEnable = 0
  sp : m'.registers.SP = m.registers.SP - 2
  enabled : m.interruptRegisters.enable &&& i.bit ≠ 0
  requested : m.interruptRegisters.request &&& i.bit ≠ 0
  request : m'.interruptRegisters.request = m.interruptRegisters.request &&& ~~~i.bit

/-! ## The invariant -/

/-- No bit is set in the two registers but those of the five interrupts.  The invariant could be
stronger, as nobody can set the bits of the timer and the joypad either; this is what the proof
needs. -/
structure InterruptRegisters.Known (ir : InterruptRegisters) : Prop where
  request : ir.request &&& 0xE0 = 0
  enable : ir.enable &&& 0xE0 = 0

namespace InterruptRegisters.Known

variable {ir : InterruptRegisters}

/-- `validateInterrupt` lets through what `interruptBits` has indices for. -/
theorem validated {bit : Byte} (h : validateInterrupt bit) : bit &&& 0xE0 = 0 := by
  revert bit
  decide

theorem or {register bit : Byte} (h : register &&& 0xE0 = 0) (hbit : validateInterrupt bit) :
    (register ||| bit) &&& 0xE0 = 0 := by
  rw [BitVec.and_or_distrib_right, h, validated hbit]
  rfl

theorem writeInterrupt (h : ir.Known) (address : Word) (bit : Byte) :
    (writeInterrupt ir address bit).Known := by
  rw [GameBloat.writeInterrupt]
  split_ifs with hbit
  · exact ⟨or h.request hbit, h.enable⟩
  · exact ⟨h.request, or h.enable hbit⟩
  · exact h
  · exact h

theorem setMasterEnable (h : ir.Known) (masterEnable : Byte) : { ir with masterEnable }.Known :=
  ⟨h.request, h.enable⟩

theorem clear (h : ir.Known) (bit : Byte) :
    { ir with request := ir.request &&& ~~~bit }.Known := by
  refine ⟨?_, h.enable⟩
  show ir.request &&& ~~~bit &&& 0xE0 = 0
  rw [BitVec.and_assoc, BitVec.and_comm (~~~bit), ← BitVec.and_assoc, h.request]
  exact BitVec.zero_and

/-- A bit that is set in both registers is that of an interrupt. -/
theorem pending_ne_zero (h : ir.Known) (hflags : ir.enable &&& ir.request ≠ 0) :
    ir.enable &&& ir.request &&& 0x1F ≠ 0 := by
  have hhigh : ir.enable &&& ir.request &&& 0xE0 = 0 := by
    rw [BitVec.and_assoc, h.request]
    exact BitVec.and_zero
  have hlow : ∀ flags : Byte, flags &&& 0xE0 = 0 → flags ≠ 0 → flags &&& 0x1F ≠ 0 := by decide
  exact hlow _ hhigh hflags

end InterruptRegisters.Known

/-! ## Every part keeps it -/

theorem PoweredOn.known {m : Machine} (h : PoweredOn m) : m.interruptRegisters.Known := by
  obtain ⟨m₀, h₀, rfl | rfl⟩ := h
  · show (cpuReset m₀).interruptRegisters.Known
    rw [cpuReset_interruptRegisters, h₀]
    exact ⟨rfl, rfl⟩
  · have h₀' : m₀.gpuReset.interruptRegisters = ⟨0, 0, 0⟩ := h₀
    rw [cpuReset_interruptRegisters, h₀']
    exact ⟨rfl, rfl⟩

theorem storeByte_known {m : Machine} (h : m.interruptRegisters.Known) (address : Word)
    (value : Byte) : (storeByte m address value).interruptRegisters.Known := by
  rw [storeByte_interruptRegisters]
  exact h.writeInterrupt address value

/-- The CPU reaches the interrupt registers by stores and by setting the master enable, so the
walk over the opcodes is that of `cpuStep_moves` and not repeated here. -/
theorem cpuStep_known {m : Machine} (h : m.interruptRegisters.Known) :
    (cpuStep m).1.interruptRegisters.Known := by
  refine (cpuStep_performs m).interruptRegisters (fun m' c _ hm' ↦ ?_) h
  cases c with
  | write address value => exact storeByte_known hm' address value
  | masterEnable value => exact hm'.setMasterEnable value

/-- All that the GPU does to the interrupt registers is to request an interrupt. -/
theorem gpuStep_known {m : Machine} (h : m.interruptRegisters.Known) (tick : CInt) :
    (gpuStep m tick).interruptRegisters.Known := by
  have hkeeps : GpuRun.Keeps fun w ↦ w.interruptRegisters.Known :=
    ⟨fun _ _ h ↦ h, fun _ bit h ↦ h.writeInterrupt 0xFF0F bit, fun _ _ h ↦ h, fun _ _ h ↦ h,
      fun _ _ h ↦ h, fun _ _ h ↦ h, fun _ _ _ h ↦ h⟩
  exact hkeeps.gpuStepRun (w := m.gpuRun) h tick

theorem handleInterrupt_known {m : Machine} (h : m.interruptRegisters.Known) (inInterrupt : Byte)
    (address : Word) : (handleInterrupt m inInterrupt address).interruptRegisters.Known := by
  have hpush : (pushWord m m.registers.PC).interruptRegisters.Known := by
    rw [pushWord_interruptRegisters]
    exact (h.writeInterrupt _ _).writeInterrupt _ _
  rw [handleInterrupt_eq]
  exact hpush.clear inInterrupt

theorem serveInterrupt_known {m : Machine} (h : m.interruptRegisters.Known) (flags : Byte) :
    (serveInterrupt m flags).interruptRegisters.Known := by
  rw [serveInterrupt]
  split_ifs
  · exact handleInterrupt_known h _ _
  · exact handleInterrupt_known h _ _
  · exact handleInterrupt_known (h.clear timerInterrupt) _ _
  · exact handleInterrupt_known h _ _
  · exact handleInterrupt_known h _ _
  · exact h

theorem interruptStep_known {m : Machine} (h : m.interruptRegisters.Known) :
    (interruptStep m).interruptRegisters.Known := by
  by_cases hm : m.interruptRegisters.masterEnable = 1
  · by_cases hflags : m.interruptRegisters.enable &&& m.interruptRegisters.request = 0
    · rwa [interruptStep_of_flags_eq_zero hflags]
    · rw [interruptStep_of_flags_ne_zero hm hflags]
      exact serveInterrupt_known (m := { m with interruptRegisters.masterEnable := 0 })
        (h.setMasterEnable 0) _
  · rwa [interruptStep_of_masterEnable_ne hm]

theorem Part.step_known {m : Machine} (h : m.interruptRegisters.Known) (part : Part) :
    (parts.step m part).interruptRegisters.Known := by
  cases part with
  | cpuStep => exact cpuStep_known h
  | gpuStep tick => exact gpuStep_known h tick
  | interruptStep => exact interruptStep_known h
  | mmuWriteByte address value => exact storeByte_known h address value
  | clock time => exact h

/-! ## All or one -/

theorem Serves.servesOne {i : Interrupt} {m : Machine}
    (hm : m.interruptRegisters.masterEnable = 1) (hi : served m.flags = some i)
    (h : Serves i m (interruptStep m)) : ServesOne i m (interruptStep m) := by
  have hbit := and_bit_of_served hi
  rw [Machine.flags] at hbit
  refine ⟨hm, ?_, ?_, fun h0 ↦ hbit ?_, fun h0 ↦ hbit ?_, ?_⟩
  · rw [h.interruptRegisters]
  · rw [h.registers]
    exact BitVec.sub_sub _ _ _
  · rw [BitVec.and_assoc, BitVec.and_comm m.interruptRegisters.request, ← BitVec.and_assoc, h0]
    exact BitVec.zero_and
  · rw [BitVec.and_assoc, h0]
    exact BitVec.and_zero
  · rw [h.interruptRegisters]

/-- **All or one.**  Wherever the parts of the machine lead from power-on, in any order,
`interruptStep` either does nothing at all or serves one interrupt, which was enabled and
requested. -/
theorem interruptStep_all_or_one {m₀ : Machine} (h₀ : PoweredOn m₀) (run : List Part)
    (h : StackArea (parts.run m₀ run).registers.SP 2) :
    interruptStep (parts.run m₀ run) = parts.run m₀ run ∨
      ∃ i, ServesOne i (parts.run m₀ run) (interruptStep (parts.run m₀ run)) := by
  have hknown : (parts.run m₀ run).interruptRegisters.Known :=
    System.run_invariant (I := fun m : Machine ↦ m.interruptRegisters.Known)
      (fun _ part (_ : True) h ↦ Part.step_known h part) h₀.known fun _ _ ↦ trivial
  generalize parts.run m₀ run = m at h hknown
  by_cases hm : m.interruptRegisters.masterEnable = 1
  · by_cases hflags : m.interruptRegisters.enable &&& m.interruptRegisters.request = 0
    · exact .inl (interruptStep_of_flags_eq_zero hflags)
    · obtain ⟨i, hi⟩ := exists_served (hknown.pending_ne_zero hflags)
      exact .inr ⟨i, (interruptStep_serves hm hi h).servesOne hm hi⟩
  · exact .inl (interruptStep_of_masterEnable_ne hm)

/-- A machine with a cartridge of EIs. -/
def enabling : Machine :=
  { Machine.powerOn with
    cartridge := { Machine.powerOn.cartridge with
      romLength := 0x8000, rom := fun _ ↦ 0xFB, mbc := true }
    MBC := some .mbcNone }

/-- VBLANK is enabled and requested, and an EI executed. -/
theorem interruptStep_all_or_one_vblank :
    let m := parts.run (cpuReset enabling).gpuReset
      [.mmuWriteByte 0xFFFF 1, .mmuWriteByte 0xFF0F 1, .cpuStep]
    interruptStep m = m ∨ ∃ i, ServesOne i m (interruptStep m) :=
  interruptStep_all_or_one ⟨enabling, rfl, .inl rfl⟩ _ (by decide +kernel)

end GameBloat
