import GameBloat.Cpu.Calls
import GameBloat.Interrupt.Serve
import GameBloat.Observation

/-!
# The LCD controller

Six of the GPU's variables make up a machine of their own, `Lcd`: LCDC, STAT, LY, LYC, the mode
and its clock.  Ticks and stores move it from state to state, and nothing else of the GPU has a
say in where it goes.  `gpuStep_lcd` and `storeByte_lcd` are the two halves of that, and
`beforeInterrupts_lcd` and `loopCycle_lcd` put them together: what a cycle of the main loop does
to the controller is what the stores of its instruction, the ticks and the stores of its interrupt
do.

So a property of the controller that all ticks keep, and the stores of some kind, holds throughout
every run that makes stores of this kind only (`run_lcd`).

Why another machine?  The invariants of STAT, of the line counter and of the schedule all have the
same form: they speak of these six variables, and they fail for certain stores.  With the
functions of `gpu.c` themselves each would have to go through rendering, requests of interrupts
and a history of calls to find that none of these matter.  Here this is done once, and an
invariant is left with `Lcd.step` and `Lcd.store`, which are short enough for a case analysis.

It also takes some care to say what "every store of the run" means, since most stores are made by
instructions in the middle of a cycle, and serving an interrupt stores the program counter.
`cpuWrites` and `interruptWrites` are these stores in their order, and `Event.Respects` says that
each of them is of the kind in question, *with the controller as the store finds it*: a condition
on the state before each store, never on what comes out of it.

* `gpuStep_lcd`: ticks move the controller inside the GPU by `Lcd.step`.
* `storeByte_lcd`: a store to any address moves it by `Lcd.store`, which is the identity but for
  LCDC, STAT, LY and LYC.
* `cpuStep_lcd` and `interruptStep_lcd`: what an instruction and an interrupt do to it are runs of
  their stores.
* `run_lcd`: the rule by which invariants of the controller are proved for runs of the whole
  machine.
-/

set_option autoImplicit false

namespace GameBloat

/-- The LCD controller.  The first four are registers that a program sees; the mode and its clock
are the two variables of `gpu.c` behind them.  How they change does not depend on the rest of the
GPU, so that the controller can be looked at on its own, driven by ticks and stores. -/
structure Lcd where
  lcdControl : Byte
  lcdStatus : Byte
  lcdYCoordinate : Byte
  lcdLYCompare : Byte
  mode : GpuMode
  modeClock : BitVec 32
  deriving DecidableEq

/-- The controller inside the GPU. -/
def Gpu.lcd (g : Gpu) : Lcd :=
  ⟨g.lcdControl, g.lcdStatus, g.lcdYCoordinate, g.lcdLYCompare, g.mode, g.modeClock⟩

namespace Lcd

/-- LCDC bit 7 is set. -/
def On (d : Lcd) : Prop := d.lcdControl &&& lcdDisplayEnable ≠ 0

instance (d : Lcd) : Decidable d.On := inferInstanceAs (Decidable (_ ≠ _))

/-- Where the scan stands. -/
def pos (d : Lcd) : ScanPos := ⟨d.mode, d.lcdYCoordinate⟩

/-! ## Ticks -/

/-- A mode is entered: the last two bits of STAT are set to it. -/
def enter (d : Lcd) (mode : GpuMode) : Lcd :=
  { d with mode, lcdStatus := d.lcdStatus &&& 0xFC ||| mode.toByte }

/-- A line is entered: LY goes on, and bit 2 of STAT says if it has reached LYC. -/
def advance (d : Lcd) : Lcd :=
  let line := nextLine d.lcdYCoordinate
  { d with
    lcdYCoordinate := line
    lcdStatus := if line = d.lcdLYCompare then d.lcdStatus ||| statusLycEqualsLy
      else d.lcdStatus &&& ~~~statusLycEqualsLy }

/-- The mode is over.  This is `endOfMode` without the rendering and without the interrupts. -/
def next (d : Lcd) : Lcd :=
  match d.mode with
  | .hblank =>
    if d.advance.lcdYCoordinate = 144 then d.advance.enter .vblank
    else d.advance.enter .oamScanline
  | .vblank => if d.advance.lcdYCoordinate = 0 then d.advance.enter .oamScanline else d.advance
  | .oamScanline => d.enter .vramScanline
  | .vramScanline => d.enter .hblank

/-- Time passes.  This is `gpuStep` for the controller; with the LCD off nothing happens. -/
def step (d : Lcd) (tick : CInt) : Lcd :=
  if d.On then
    let clock := d.modeClock + tick
    if d.mode.length ≤ clock.toNat then
      { d with modeClock := clock - BitVec.ofNat 32 d.mode.length }.next
    else { d with modeClock := clock }
  else d

section

variable {d : Lcd} {tick : CInt}

theorem advance_of_eq (h : nextLine d.lcdYCoordinate = d.lcdLYCompare) :
    d.advance = { d with
      lcdYCoordinate := nextLine d.lcdYCoordinate
      lcdStatus := d.lcdStatus ||| statusLycEqualsLy } := by
  rw [advance, if_pos h]

theorem advance_of_ne (h : nextLine d.lcdYCoordinate ≠ d.lcdLYCompare) :
    d.advance = { d with
      lcdYCoordinate := nextLine d.lcdYCoordinate
      lcdStatus := d.lcdStatus &&& ~~~statusLycEqualsLy } := by
  rw [advance, if_neg h]

/-- The LCD is off. -/
theorem step_of_off (h : ¬d.On) : d.step tick = d := if_neg h

/-- The ticks do not end the mode. -/
theorem step_of_lt (hon : d.On) (h : (d.modeClock + tick).toNat < d.mode.length) :
    d.step tick = { d with modeClock := d.modeClock + tick } := by
  rw [step, if_pos hon]
  exact if_neg (Nat.not_le_of_lt h)

/-- The ticks end the mode. -/
theorem step_of_le (hon : d.On) (h : d.mode.length ≤ (d.modeClock + tick).toNat) :
    d.step tick =
      { d with modeClock := d.modeClock + tick - BitVec.ofNat 32 d.mode.length }.next := by
  rw [step, if_pos hon]
  exact if_pos h

/-- The three ways to pass the time.  To be kept by any number of ticks, a property must be kept
by any change of the clock and by the end of a mode with the LCD on. -/
theorem step_invariant {I : Lcd → Prop} (hclock : ∀ d clock, I d → I { d with modeClock := clock })
    (hnext : ∀ d, d.On → I d → I d.next) (hd : I d) : I (d.step tick) := by
  by_cases hon : d.On
  · rcases Nat.lt_or_ge (d.modeClock + tick).toNat d.mode.length with h | h
    · exact step_of_lt hon h ▸ hclock d _ hd
    · exact step_of_le hon h ▸ hnext _ hon (hclock d _ hd)
  · exact (step_of_off hon).symm ▸ hd

end

/-! ## Stores -/

/-- A byte is stored at any address.  LCDC may switch the LCD off and then rewinds the scan, STAT
and LYC take the byte as it is, LY is set to 0 whatever the byte is, and every other address is
none of the controller's business. -/
def store (d : Lcd) (address : Word) (value : Byte) : Lcd :=
  if address = 0xFF40 then
    if value &&& lcdDisplayEnable = 0 then
      { d with
        lcdControl := value
        lcdStatus := d.lcdStatus &&& 0xF8
        lcdYCoordinate := 0
        mode := .hblank
        modeClock := 0 }
    else { d with lcdControl := value, lcdStatus := d.lcdStatus &&& 0xF8 ||| d.mode.toByte }
  else if address = 0xFF41 then { d with lcdStatus := value }
  else if address = 0xFF44 then { d with lcdYCoordinate := 0 }
  else if address = 0xFF45 then { d with lcdLYCompare := value }
  else d

/-- The controller as a system driven by stores. -/
def stores : System Lcd (Word × Byte) Unit := ⟨fun d write ↦ d.store write.1 write.2, fun _ _ ↦ []⟩

end Lcd

/-! ## gpuStep -/

theorem GpuRun.requestIfSelected_gpu (w : GpuRun) (select : Byte) :
    (w.requestIfSelected select).gpu = w.gpu := by
  rw [requestIfSelected]
  split <;> rfl

/-- `NextScanline` is `Lcd.advance`. -/
theorem nextScanline_lcd (w : GpuRun) : (nextScanline w).gpu.lcd = w.gpu.lcd.advance := by
  by_cases hline : nextLine w.gpu.lcdYCoordinate = w.gpu.lcdLYCompare
  · have hnext : nextScanline w = ((w.onGpu fun g ↦ g.setLine (nextLine g.lcdYCoordinate)).onGpu
        fun g ↦ g.setStatus (g.lcdStatus ||| statusLycEqualsLy)).requestIfSelected
          statusLycIntSelect := if_pos hline
    rw [hnext, GpuRun.requestIfSelected_gpu, Lcd.advance_of_eq hline]
    rfl
  · have hnext : nextScanline w = (w.onGpu fun g ↦ g.setLine (nextLine g.lcdYCoordinate)).onGpu
        fun g ↦ g.setStatus (g.lcdStatus &&& ~~~statusLycEqualsLy) := if_neg hline
    rw [hnext, Lcd.advance_of_ne hline]
    rfl

/-- `HandleLCDModeChange` is `Lcd.enter`.  The requests of interrupts do not reach the GPU. -/
theorem handleLCDModeChange_lcd (w : GpuRun) (inMode : GpuMode) :
    (handleLCDModeChange w inMode).gpu.lcd = w.gpu.lcd.enter inMode := by
  cases inMode with
  | hblank => exact congrArg Gpu.lcd (GpuRun.requestIfSelected_gpu _ statusMode1IntSelect)
  | vblank => exact congrArg Gpu.lcd (GpuRun.requestIfSelected_gpu _ statusMode0IntSelect)
  | oamScanline => exact congrArg Gpu.lcd (GpuRun.requestIfSelected_gpu _ statusMode2IntSelect)
  | vramScanline => rfl

/-- Rendering reads the controller and leaves it alone, by the rule for what every statement
keeps. -/
theorem renderScan_lcd (w : GpuRun) : (renderScan w).gpu.lcd = w.gpu.lcd := by
  have hobserved : (renderScan w).observed.gpu.lcd = w.observed.gpu.lcd := by
    rw [GpuRun.Blind.renderScan_observed]
  exact hobserved

/-- The end of a mode is `Lcd.next`. -/
theorem endOfMode_lcd (w : GpuRun) : (endOfMode w).gpu.lcd = w.gpu.lcd.next := by
  have hmode : w.gpu.lcd.mode = w.gpu.mode := rfl
  have hline : (nextScanline w).gpu.lcdYCoordinate = w.gpu.lcd.advance.lcdYCoordinate :=
    congrArg Lcd.lcdYCoordinate (nextScanline_lcd w)
  rw [endOfMode, Lcd.next, hmode]
  cases w.gpu.mode with
  | hblank =>
    simp only [hline]
    split <;> rw [handleLCDModeChange_lcd, nextScanline_lcd]
  | vblank =>
    simp only [hline]
    split
    · rw [handleLCDModeChange_lcd, nextScanline_lcd]
    · exact nextScanline_lcd w
  | oamScanline => exact handleLCDModeChange_lcd w .vramScanline
  | vramScanline =>
    simp only
    rw [handleLCDModeChange_lcd, renderScan_lcd]

/-- **Time passes for the controller** as it does for the GPU. -/
theorem gpuStep_lcd (m : Machine) (tick : CInt) :
    (gpuStep m tick).gpu.lcd = m.gpu.lcd.step tick := by
  by_cases hon : m.gpu.LcdOn
  · rcases Nat.lt_or_ge (m.gpu.modeClock + tick).toNat m.gpu.mode.length with h | h
    · rw [gpuStep, gpuStepRun_of_lt (w := m.gpuRun) hon h, Lcd.step_of_lt (d := m.gpu.lcd) hon h]
      rfl
    · rw [gpuStep, gpuStepRun_of_le (w := m.gpuRun) hon h, Lcd.step_of_le (d := m.gpu.lcd) hon h]
      exact endOfMode_lcd _
  · rw [gpuStep, gpuStepRun_of_off (w := m.gpuRun) hon, Lcd.step_of_off (d := m.gpu.lcd) hon]
    rfl

/-! ## mmuWriteByte -/

section

variable (g : Gpu) {address : Word} (value : Byte)

/-- A store to video RAM is none of the controller's business. -/
theorem gpuWriteByte_lcd (address : Word) : (gpuWriteByte g address value).1.lcd = g.lcd := by
  rw [gpuWriteByte]
  split
  · dsimp only
    split <;> rfl
  · rfl

/-- Neither is a store to any of the other registers. -/
theorem gpuWriteRegister_lcd (h40 : address ≠ 0xFF40) (h41 : address ≠ 0xFF41)
    (h44 : address ≠ 0xFF44) (h45 : address ≠ 0xFF45) :
    (gpuWriteRegister g address value).1.lcd = g.lcd := by
  rw [gpuWriteRegister, if_neg h40, if_neg h41, if_neg h44, if_neg h45]
  split_ifs <;> rfl

end

/-- **A store reaches the controller** at four addresses. -/
theorem storeByte_lcd (m : Machine) (address : Word) (value : Byte) :
    (storeByte m address value).gpu.lcd = m.gpu.lcd.store address value := by
  by_cases h40 : address = 0xFF40
  · subst h40
    have hstore : (storeByte m 0xFF40 value).gpu = (gpuWriteRegister m.gpu 0xFF40 value).1 := rfl
    rw [hstore, gpuWriteRegister_lcdControl, Lcd.store, if_pos rfl]
    split <;> rfl
  by_cases h41 : address = 0xFF41
  · subst h41
    rfl
  by_cases h44 : address = 0xFF44
  · subst h44
    rfl
  by_cases h45 : address = 0xFF45
  · subst h45
    rfl
  have hsame : m.gpu.lcd.store address value = m.gpu.lcd := by
    rw [Lcd.store, if_neg h40, if_neg h41, if_neg h44, if_neg h45]
  rw [hsame]
  have heffect := storeByte_effect m address value
  generalize storeByte m address value = m' at heffect
  cases heffect with
  | cartridge | memory | interrupt => rfl
  | vram => exact gpuWriteByte_lcd m.gpu value address
  | gpuRegister => exact gpuWriteRegister_lcd m.gpu value h40 h41 h44 h45

/-! ## A cycle of the main loop -/

/-- The store among the calls of the CPU. -/
def CpuCall.written : CpuCall → Option (Word × Byte)
  | .write address value => some (address, value)
  | .masterEnable _ => none

/-- The stores of the next instruction. -/
def cpuWrites (m : Machine) : List (Word × Byte) := (cpuCalls m).filterMap CpuCall.written

/-- The stores of the next `interruptStep`: if there is an interrupt to serve, the program counter
goes onto the stack. -/
def interruptWrites (m : Machine) : List (Word × Byte) :=
  if m.interruptRegisters.masterEnable = 1 then
    (served m.flags).elim [] fun i ↦
      [(m.registers.SP - 1, highByte (m.prepared i).registers.PC),
        (m.registers.SP - 1 - 1, lowByte (m.prepared i).registers.PC)]
  else []

/-- The calls of the CPU move the controller as their stores do; the writes to `masterEnable`
among them are left out. -/
theorem Performs.lcd {m m' : Machine} {calls : List CpuCall} (h : Performs m calls m') :
    m'.gpu.lcd = Lcd.stores.run m.gpu.lcd (calls.filterMap CpuCall.written) := by
  induction h with
  | refl => rfl
  | registers _ f ih => exact ih
  | ticks _ n ih => exact ih
  | stop _ ih => exact ih
  | call _ c ih =>
    rw [List.filterMap_append, System.run_append, ← ih]
    cases c with
    | write address value => exact storeByte_lcd _ address value
    | masterEnable value => rfl

/-- An instruction moves the controller as its stores do. -/
theorem cpuStep_lcd (m : Machine) :
    (cpuStep m).1.gpu.lcd = Lcd.stores.run m.gpu.lcd (cpuWrites m) :=
  (cpuStep_performs m).lcd

/-- Serving an interrupt pushes PC, the high byte first. -/
theorem handleInterrupt_lcd (m : Machine) (inInterrupt : Byte) (address : Word) :
    (handleInterrupt m inInterrupt address).gpu.lcd =
      Lcd.stores.run m.gpu.lcd [(m.registers.SP - 1, highByte m.registers.PC),
        (m.registers.SP - 1 - 1, lowByte m.registers.PC)] := by
  rw [handleInterrupt_eq]
  exact (storeByte_lcd _ _ _).trans (congrArg (Lcd.store · _ _) (storeByte_lcd _ _ _))

theorem interruptStep_lcd (m : Machine) :
    (interruptStep m).gpu.lcd = Lcd.stores.run m.gpu.lcd (interruptWrites m) := by
  rw [interruptWrites]
  by_cases hm : m.interruptRegisters.masterEnable = 1
  · rw [if_pos hm]
    cases hi : served m.flags with
    | none =>
      by_cases hflags : m.interruptRegisters.enable &&& m.interruptRegisters.request = 0
      · rw [interruptStep_of_flags_eq_zero hflags]
        rfl
      · -- a bit above the five: interrupts are turned off, but nothing is stored
        have hnone : m.interruptRegisters.enable &&& m.interruptRegisters.request &&& 0x1F = 0 := by
          by_contra hne
          obtain ⟨i, hi'⟩ := exists_served hne
          cases hi.symm.trans hi'
        rw [interruptStep_of_flags_ne_zero hm hflags, serveInterrupt_of_none _ hnone]
        rfl
    | some i =>
      rw [interruptStep_of_served hm hi, handleInterrupt_lcd]
      cases i <;> rfl
  · rw [if_neg hm, interruptStep_of_masterEnable_ne hm]
    rfl

/-- The part of a cycle before the interrupts: the instruction, then its ticks. -/
theorem beforeInterrupts_lcd (m : Machine) :
    m.beforeInterrupts.gpu.lcd =
      (Lcd.stores.run m.gpu.lcd (cpuWrites m)).step (cpuStep m).2 := by
  rw [Machine.beforeInterrupts, gpuStep_lcd, cpuStep_lcd]

/-- **A cycle of the main loop**, for the controller: the stores of the instruction, the ticks,
and the stores of the interrupt.  It connects the runs of the machine with those of the
controller, and is used wherever a store may interfere. -/
theorem loopCycle_lcd (m : Machine) :
    (loopCycle m).gpu.lcd =
      Lcd.stores.run m.beforeInterrupts.gpu.lcd (interruptWrites m.beforeInterrupts) :=
  interruptStep_lcd m.beforeInterrupts

/-! ## Runs -/

/-- Every store that the event makes is `ok` with the controller as the store finds it.  For a
cycle of the main loop these are the stores of the instruction and, after the ticks, those of the
interrupt. -/
def Event.Respects (ok : Lcd → Word × Byte → Prop) (m : Machine) : Event → Prop
  | .loopCycle =>
    Lcd.stores.Along ok m.gpu.lcd (cpuWrites m) ∧
      Lcd.stores.Along ok m.beforeInterrupts.gpu.lcd (interruptWrites m.beforeInterrupts)
  | .gpuStep _ => True
  | .mmuWriteByte address value => ok m.gpu.lcd (address, value)
  | .clock _ => True

instance (ok : Lcd → Word × Byte → Prop) [∀ d write, Decidable (ok d write)] (m : Machine) :
    (e : Event) → Decidable (e.Respects ok m)
  | .loopCycle => inferInstanceAs (Decidable (_ ∧ _))
  | .gpuStep _ => inferInstanceAs (Decidable True)
  | .mmuWriteByte address value => inferInstanceAs (Decidable (ok m.gpu.lcd (address, value)))
  | .clock _ => inferInstanceAs (Decidable True)

/-- A weaker condition on the stores. -/
theorem Event.Respects.imp {ok ok' : Lcd → Word × Byte → Prop}
    (himp : ∀ d write, ok d write → ok' d write) {m : Machine} {e : Event}
    (h : e.Respects ok m) : e.Respects ok' m := by
  cases e with
  | loopCycle => exact ⟨h.1.imp himp, h.2.imp himp⟩
  | gpuStep tick => trivial
  | mmuWriteByte address value => exact himp _ _ h
  | clock time => trivial

/-- After a reset the LCD is off. -/
theorem gpuReset_not_on (m : Machine) : ¬m.gpuReset.gpu.lcd.On := by
  have hcontrol : m.gpuReset.gpu.lcd.lcdControl = 0 := rfl
  rw [Lcd.On, hcontrol]
  decide

section

variable {I : Lcd → Prop} {ok : Lcd → Word × Byte → Prop}
  (hstore : ∀ d write, ok d write → I d → I (d.store write.1 write.2))
  (hstep : ∀ d tick, I d → I (d.step tick))

include hstore hstep

/-- What ticks and the stores of this kind keep, one event keeps. -/
theorem Event.Respects.lcd {m : Machine} {e : Event} (h : e.Respects ok m) (hm : I m.gpu.lcd) :
    I (gameboy.step m e).gpu.lcd := by
  cases e with
  | loopCycle =>
    have hbefore : I m.beforeInterrupts.gpu.lcd := by
      rw [beforeInterrupts_lcd]
      exact hstep _ _ (System.run_invariant_along hstore hm h.1)
    show I (GameBloat.loopCycle m).gpu.lcd
    rw [loopCycle_lcd]
    exact System.run_invariant_along hstore hbefore h.2
  | gpuStep tick =>
    show I (GameBloat.gpuStep m tick).gpu.lcd
    rw [gpuStep_lcd]
    exact hstep _ tick hm
  | mmuWriteByte address value =>
    show I (storeByte m address value).gpu.lcd
    rw [storeByte_lcd]
    exact hstore _ _ h hm
  | clock time => exact hm

/-- **What ticks and some stores keep**, every run keeps whose stores are of this kind. -/
theorem run_lcd {m : Machine} (hm : I m.gpu.lcd) {events : List Event}
    (h : gameboy.Along (fun m e ↦ e.Respects ok m) m events) :
    I (gameboy.run m events).gpu.lcd :=
  System.run_invariant_along (I := fun m : Machine ↦ I m.gpu.lcd)
    (fun _ _ he hm ↦ he.lcd hstore hstep hm) hm h

end

end GameBloat
