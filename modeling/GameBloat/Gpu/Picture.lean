import GameBloat.Gpu.Background
import GameBloat.Gpu.Bounds
import GameBloat.Gpu.Schedule

/-!
# Where the picture comes from

The frame buffer is written in one place only, a line at a time, and is never cleared.  So each of
its lines is what the last `renderScan` of that line drew, from the registers and the picture data
as they were at the time (`frameBuffer_provenance`), and a picture put together while a program
changes them is a mixture.

Together with the schedule that says when there is no mixture: once the ticks of a frame have
passed without a store to picture data or to the registers that place it, the whole screen shows
the background as it is (`whole_picture`).

The first theorem holds in every run, with stores and instructions of any kind and from any state
in which the renderer stays inside its arrays.  It is proved from the two things that one event
can do to a line: to draw it, and then the line is what is drawn from the GPU *before the step*,
which is after the instruction if the event is a cycle of the main loop (`Event.gpuAt`); or not to
draw it, and then the line stays (`Event.frameBuffer_of_mem`, `Event.frameBuffer_of_notMem`).  A
run is then split at its last event that draws the line.

For the second theorem the drawing of a line has to be seen as a function of a few variables
(`Background`) and LY.  Its hypotheses are those under which the background stays:

* no store to video RAM, LCDC, SCX, SCY or LY, in any instruction or interrupt of the run
  (`KeepsPicture`), which is a condition on stores and not on programs;
* no event with more ticks than the shortest mode lasts, as in the main loop.

The schedule says that each visible line is drawn in the ticks of a frame, and the provenance of
the line says from what.  Neither the state of the frame buffer nor the place where the scan
stands at the beginning is restricted.
-/

set_option autoImplicit false

namespace GameBloat

/-- What `renderScan` draws as pixel `i` of the line: the entry of the tile cache that the scroll
registers and the map choose for it, through the palette of `gpu.c`. -/
def Gpu.drawnPixel (g : Gpu) (i : ℕ) : BasicColour := colourOf (g.cachedPixel (g.drawnTile i) i)

/-- The GPU when the event calls `gpuStep`.  In a cycle of the main loop the instruction comes
first, so its stores are seen by the line that is drawn in the same cycle. -/
def Event.gpuAt (m : Machine) : Event → Gpu
  | .loopCycle => (cpuStep m).1.gpu
  | .gpuStep _ => m.gpu
  | .mmuWriteByte _ _ => m.gpu
  | .clock _ => m.gpu

/-! ## One step -/

/-- No store reaches the frame buffer. -/
theorem GpuWrite.frameBuffer {g g' : Gpu} {address : Word} (h : GpuWrite g address g') :
    g'.frameBuffer = g.frameBuffer := by
  cases h with
  | other h => exact h.frameBuffer
  | vram => rfl
  | off => rfl
  | on => rfl
  | line => rfl

/-- Neither does moving on to the next line, -/
theorem nextScanline_frameBuffer (w : GpuRun) :
    (nextScanline w).gpu.frameBuffer = w.gpu.frameBuffer := by
  rw [nextScanline]
  split
  · rw [GpuRun.requestIfSelected_gpu]
    rfl
  · rfl

/-- nor a mode change. -/
theorem handleLCDModeChange_frameBuffer (w : GpuRun) (inMode : GpuMode) :
    (handleLCDModeChange w inMode).gpu.frameBuffer = w.gpu.frameBuffer := by
  have hrequest (w : GpuRun) (select : Byte) :
      (w.requestIfSelected select).gpu.frameBuffer = w.gpu.frameBuffer :=
    congrArg Gpu.frameBuffer (w.requestIfSelected_gpu select)
  cases inMode with
  | hblank => exact hrequest _ statusMode1IntSelect
  | vblank => exact hrequest _ statusMode0IntSelect
  | oamScanline => exact hrequest _ statusMode2IntSelect
  | vramScanline => rfl

/-- No other mode draws. -/
theorem endOfMode_frameBuffer {w : GpuRun} (h : w.gpu.mode ≠ .vramScanline) :
    (endOfMode w).gpu.frameBuffer = w.gpu.frameBuffer := by
  rw [endOfMode]
  cases hmode : w.gpu.mode with
  | hblank =>
    dsimp only
    split <;> rw [handleLCDModeChange_frameBuffer, nextScanline_frameBuffer]
  | vblank =>
    dsimp only
    split
    · rw [handleLCDModeChange_frameBuffer, nextScanline_frameBuffer]
    · exact nextScanline_frameBuffer w
  | oamScanline => exact handleLCDModeChange_frameBuffer w .vramScanline
  | vramScanline => exact absurd hmode h

section

variable {m : Machine} {tick : CInt} {ly : Byte} {i : ℕ}

/-- A step that draws the line.  All its pixels come from the GPU before the step, since nothing
that the loop reads changes while it is running. -/
theorem gpuStep_frameBuffer_of_mem (hm : m.gpu.Sound) (hi : i < 160)
    (h : .renderScan ly ∈ gpuStepCalls m tick) :
    (gpuStep m tick).gpu.frameBuffer (ly.toNat * 160 + i) = m.gpu.drawnPixel i := by
  obtain ⟨rfl, hmode⟩ := gpuStep_renders h
  have hline : m.gpu.lcdYCoordinate.toNat ≤ 143 := (gpuStep_draws hm h).1
  rw [gpuStepCalls] at h
  by_cases hon : m.gpu.LcdOn
  · rcases Nat.lt_or_ge (m.gpu.modeClock + tick).toNat m.gpu.mode.length with hlt | hle
    · rw [gpuStepRun_of_lt (w := m.gpuRun) hon hlt] at h
      exact absurd h List.not_mem_nil
    · rw [gpuStep, gpuStepRun_of_le (w := m.gpuRun) hon hle]
      generalize m.gpuRun.gpu.modeClock + tick - BitVec.ofNat 32 m.gpuRun.gpu.mode.length = clock
      have hend : endOfMode (m.gpuRun.onGpu (·.setClock clock)) =
          handleLCDModeChange (renderScan (m.gpuRun.onGpu (·.setClock clock))) .hblank := by
        rw [endOfMode, show (m.gpuRun.onGpu (·.setClock clock)).gpu.mode = .vramScanline from hmode]
      have hscan := renderScan_frameBuffer (w := m.gpuRun.onGpu (·.setClock clock)) hline hi
      rw [hend, handleLCDModeChange_frameBuffer]
      exact hscan
  · rw [gpuStepRun_of_off (w := m.gpuRun) hon] at h
    exact absurd h List.not_mem_nil

/-- A step that does not, and may draw another line: the two stretches of the frame buffer do not
meet. -/
theorem gpuStep_frameBuffer_of_notMem (hm : m.gpu.Sound) (hi : i < 160)
    (h : .renderScan ly ∉ gpuStepCalls m tick) :
    (gpuStep m tick).gpu.frameBuffer (ly.toNat * 160 + i) =
      m.gpu.frameBuffer (ly.toNat * 160 + i) := by
  by_cases hsome : ∃ ly', .renderScan ly' ∈ gpuStepCalls m tick
  · -- another line is drawn
    obtain ⟨ly', hly'⟩ := hsome
    have hne : ly'.toNat ≠ ly.toNat := fun heq ↦ h (BitVec.eq_of_toNat_eq heq ▸ hly')
    exact (gpuStep_draws hm hly').2.frameBuffer _ (by omega)
  · rw [gpuStepCalls] at hsome
    by_cases hon : m.gpu.LcdOn
    · rcases Nat.lt_or_ge (m.gpu.modeClock + tick).toNat m.gpu.mode.length with hlt | hle
      · rw [gpuStep, gpuStepRun_of_lt (w := m.gpuRun) hon hlt]
        rfl
      · rw [gpuStepRun_of_le (w := m.gpuRun) hon hle] at hsome
        rw [gpuStep, gpuStepRun_of_le (w := m.gpuRun) hon hle]
        generalize m.gpuRun.gpu.modeClock + tick -
          BitVec.ofNat 32 m.gpuRun.gpu.mode.length = clock at hsome ⊢
        have hmode : (m.gpuRun.onGpu (·.setClock clock)).gpu.mode ≠ .vramScanline := by
          intro hmode
          obtain ⟨quiet, quiet', -, -, hturned⟩ :=
            endOfMode_turned (m.gpuRun.onGpu (·.setClock clock))
          have hdraws : (m.gpuRun.onGpu (·.setClock clock)).gpu.pos.draws =
              [.renderScan m.gpu.lcdYCoordinate] := if_pos hmode
          refine hsome ⟨m.gpu.lcdYCoordinate, ?_⟩
          rw [hturned.calls, hdraws]
          simp
        exact congrFun (endOfMode_frameBuffer hmode) _
    · rw [gpuStep, gpuStepRun_of_off (w := m.gpuRun) hon]
      rfl

end

/-! ## One event -/

/-- An instruction does not draw. -/
theorem cpuStep_frameBuffer (m : Machine) :
    (cpuStep m).1.gpu.frameBuffer = m.gpu.frameBuffer :=
  cpuStep_gpu (P := fun g ↦ g.frameBuffer = m.gpu.frameBuffer)
    (fun _ _ _ h hg ↦ h.frameBuffer.trans hg) rfl

/-- Neither does serving an interrupt. -/
theorem interruptStep_frameBuffer (m : Machine) :
    (interruptStep m).gpu.frameBuffer = m.gpu.frameBuffer :=
  interruptStep_gpu (P := fun g ↦ g.frameBuffer = m.gpu.frameBuffer)
    (fun _ _ _ h hg ↦ h.frameBuffer.trans hg) rfl

theorem cpuStep_sound {m : Machine} (hm : m.gpu.Sound) : (cpuStep m).1.gpu.Sound :=
  cpuStep_gpu (P := Gpu.Sound) (fun _ _ _ h hg ↦ h.sound hg) hm

section

variable {m : Machine} {e : Event} {ly : Byte} {i : ℕ}

/-- An event that draws the line, with LY at it when the drawing starts. -/
theorem Event.frameBuffer_of_mem (hm : m.gpu.Sound) (hi : i < 160)
    (h : .renderScan ly ∈ gameboy.out m e) :
    (gameboy.step m e).gpu.frameBuffer (ly.toNat * 160 + i) = (e.gpuAt m).drawnPixel i ∧
      (e.gpuAt m).lcdYCoordinate = ly := by
  cases e with
  | loopCycle =>
    have hcycle := congrFun (interruptStep_frameBuffer m.beforeInterrupts) (ly.toNat * 160 + i)
    refine ⟨hcycle.trans ?_, (gpuStep_renders h).1.symm⟩
    exact gpuStep_frameBuffer_of_mem (cpuStep_sound hm) hi h
  | gpuStep tick => exact ⟨gpuStep_frameBuffer_of_mem hm hi h, (gpuStep_renders h).1.symm⟩
  | mmuWriteByte address value => exact absurd h List.not_mem_nil
  | clock time => exact absurd h List.not_mem_nil

/-- An event that does not. -/
theorem Event.frameBuffer_of_notMem (hm : m.gpu.Sound) (hi : i < 160)
    (h : .renderScan ly ∉ gameboy.out m e) :
    (gameboy.step m e).gpu.frameBuffer (ly.toNat * 160 + i) =
      m.gpu.frameBuffer (ly.toNat * 160 + i) := by
  cases e with
  | loopCycle =>
    have hcycle := congrFun (interruptStep_frameBuffer m.beforeInterrupts) (ly.toNat * 160 + i)
    have hstep := gpuStep_frameBuffer_of_notMem (cpuStep_sound hm) hi h
    rw [cpuStep_frameBuffer] at hstep
    exact hcycle.trans hstep
  | gpuStep tick => exact gpuStep_frameBuffer_of_notMem hm hi h
  | mmuWriteByte address value => exact congrFun (storeByte_gpu m address value).frameBuffer _
  | clock time => rfl

end

/-! ## Runs -/

section

variable {m : Machine} {events : List Event} {ly : Byte}

/-- A run that never draws the line. -/
theorem frameBuffer_of_not_drawn (hm : m.gpu.Sound)
    (h : .renderScan ly ∉ gameboy.history m events) {i : ℕ} (hi : i < 160) :
    (gameboy.run m events).gpu.frameBuffer (ly.toNat * 160 + i) =
      m.gpu.frameBuffer (ly.toNat * 160 + i) :=
  System.run_eq_of_notMem_history (S := gameboy) (I := fun m ↦ m.gpu.Sound)
    (f := fun m ↦ m.gpu.frameBuffer (ly.toNat * 160 + i)) (fun _ e hm ↦ Event.step_sound hm e)
    (fun _ _ hm ↦ Event.frameBuffer_of_notMem hm hi) hm h

/-- A run that does is split at the last event that draws it. -/
theorem frameBuffer_of_drawn (hm : m.gpu.Sound) (h : .renderScan ly ∈ gameboy.history m events) :
    ∃ pre e post, events = pre ++ e :: post ∧
      let g := e.gpuAt (gameboy.run m pre)
      .renderScan ly ∈ gameboy.out (gameboy.run m pre) e ∧
      .renderScan ly ∉ gameboy.history (gameboy.run m (pre ++ [e])) post ∧
      g.lcdYCoordinate = ly ∧
      ∀ i < 160, (gameboy.run m events).gpu.frameBuffer (ly.toNat * 160 + i) = g.drawnPixel i := by
  obtain ⟨pre, e, post, rfl, hout, hpost⟩ := System.exists_last_of_mem_history h
  have hpre : (gameboy.run m pre).gpu.Sound :=
    System.run_invariant (S := gameboy) (I := fun m ↦ m.gpu.Sound)
      (fun _ e (_ : True) hm ↦ Event.step_sound hm e) hm fun _ _ ↦ trivial
  refine ⟨pre, e, post, rfl, hout, hpost,
    (Event.frameBuffer_of_mem (i := 0) hpre (by decide) hout).2, fun i hi ↦ ?_⟩
  exact System.run_eq_last_write (S := gameboy) (I := fun m ↦ m.gpu.Sound)
    (f := fun m ↦ m.gpu.frameBuffer (ly.toNat * 160 + i)) (fun _ e hm ↦ Event.step_sound hm e)
    (fun _ _ hm ↦ Event.frameBuffer_of_notMem hm hi)
    (fun _ _ hm h ↦ (Event.frameBuffer_of_mem hm hi h).1) hm hout hpost

end

/-- **Where a line of the picture comes from.**  Nothing has touched it if it has not been drawn;
otherwise it is what was drawn last, from the GPU as it was then.  Stores that come later do not
change it, until the line is drawn once more. -/
theorem frameBuffer_provenance {m : Machine} (hm : m.gpu.Sound) (events : List Event) (ly : Byte) :
    (.renderScan ly ∉ gameboy.history m events → ∀ i < 160,
      (gameboy.run m events).gpu.frameBuffer (ly.toNat * 160 + i) =
        m.gpu.frameBuffer (ly.toNat * 160 + i)) ∧
    (.renderScan ly ∈ gameboy.history m events → ∃ pre e post, events = pre ++ e :: post ∧
      let g := e.gpuAt (gameboy.run m pre)
      .renderScan ly ∈ gameboy.out (gameboy.run m pre) e ∧
      .renderScan ly ∉ gameboy.history (gameboy.run m (pre ++ [e])) post ∧
      g.lcdYCoordinate = ly ∧
      ∀ i < 160, (gameboy.run m events).gpu.frameBuffer (ly.toNat * 160 + i) = g.drawnPixel i) :=
  ⟨fun h _ hi ↦ frameBuffer_of_not_drawn hm h hi, frameBuffer_of_drawn hm⟩

/-- The step that ends VRAM_SCANLINE on line 0, and a store to SCX that comes too late for it. -/
def endOfLine0 : Machine :=
  { Machine.powerOn with
    gpu := { Machine.powerOn.gpu with
      lcdControl := 0x91, mode := .vramScanline, lcdYCoordinate := 0, modeClock := 170 } }

theorem endOfLine0_draws : .renderScan 0 ∈ gpuStepCalls endOfLine0 4 := by
  have hmark : IsMark (.renderScan 0) (456 * (0 : Byte).toNat + 252) :=
    isMark_renderScan (by decide)
  have hcount : (gpuStepCalls endOfLine0 4).count (.renderScan 0) = _ :=
    gpuStepCalls_count_mark ⟨by decide, by decide, by decide⟩ (by decide) hmark
  rw [← List.count_pos_iff, hcount]
  decide

theorem frameBuffer_provenance_line0 :
    ∃ pre e post, [Event.gpuStep 4, .mmuWriteByte 0xFF43 1] = pre ++ e :: post ∧
      ∀ i < 160, (gameboy.run endOfLine0 [.gpuStep 4, .mmuWriteByte 0xFF43 1]).gpu.frameBuffer
        ((0 : Byte).toNat * 160 + i) = (e.gpuAt (gameboy.run endOfLine0 pre)).drawnPixel i := by
  have hsound : endOfLine0.gpu.Sound :=
    ⟨⟨by decide, fun _ ↦ by decide⟩, fun _ _ _ ↦ Nat.zero_le 3⟩
  have hdrawn := endOfLine0_draws
  generalize endOfLine0 = m at hsound hdrawn ⊢
  obtain ⟨pre, e, post, hsplit, -, -, -, hpixel⟩ :=
    (frameBuffer_provenance hsound [.gpuStep 4, .mmuWriteByte 0xFF43 1] 0).2
      (List.mem_append_left _ hdrawn)
  exact ⟨pre, e, post, hsplit, hpixel⟩

/-! ## The whole screen -/

/-- A store to none of the picture data, LCDC, SCY, SCX and LY.  Stores to the tile maps count as
stores to picture data, so that what follows is about a background that stands still.  A store to
one of these while a frame is being drawn would show in the lines that come after it only. -/
def KeepsPicture (write : Word × Byte) : Prop :=
  ¬(0x8000 ≤ write.1.toNat ∧ write.1.toNat < 0xA000) ∧ write.1 ≠ 0xFF40 ∧ write.1 ≠ 0xFF42 ∧
    write.1 ≠ 0xFF43 ∧ write.1 ≠ 0xFF44

instance (write : Word × Byte) : Decidable (KeepsPicture write) :=
  inferInstanceAs (Decidable (_ ∧ _))

/-- The event hands no more ticks to `gpuStep` than the shortest mode lasts, and leaves the
background alone.  The stores of an interrupt that is served on the way are stores as well, so
that an instruction is not enough to look at. -/
def Event.Still (m : Machine) (e : Event) : Prop :=
  e.ticks m ≤ 80 ∧ e.Respects (fun _ write ↦ KeepsPicture write) m

instance (m : Machine) (e : Event) : Decidable (e.Still m) :=
  inferInstanceAs (Decidable (_ ∧ _))

/-- What a line is drawn from, but for LY. -/
structure Background where
  lcdControl : Byte
  scrollX : Byte
  scrollY : Byte
  VRAM : ℕ → Byte
  tiles : ℕ → ℕ → ℕ → Byte

/-- The background of the GPU. -/
def Gpu.background (g : Gpu) : Background :=
  ⟨g.lcdControl, g.scrollX, g.scrollY, g.VRAM, g.tiles⟩

/-- The background, on a GPU that has never drawn. -/
def Background.gpu (b : Background) : Gpu :=
  { Machine.powerOn.gpu with
    lcdControl := b.lcdControl
    scrollX := b.scrollX
    scrollY := b.scrollY
    VRAM := b.VRAM
    tiles := b.tiles }

/-- A line is drawn from the background and LY. -/
theorem Gpu.drawnPixel_eq (g : Gpu) (i : ℕ) :
    g.drawnPixel i = (g.background.gpu.setLine g.lcdYCoordinate).drawnPixel i := rfl

/-- A store that keeps the picture. -/
theorem KeepsPicture.background {write : Word × Byte} (h : KeepsPicture write) (m : Machine) :
    (storeByte m write.1 write.2).gpu.background = m.gpu.background := by
  obtain ⟨hvram, h40, h42, h43, h44⟩ := h
  have heffect := storeByte_effect m write.1 write.2
  generalize storeByte m write.1 write.2 = m' at heffect
  cases heffect with
  | cartridge | memory | interrupt => rfl
  | vram hlo hhi => exact absurd ⟨hlo, hhi⟩ hvram
  | gpuRegister =>
    show (gpuWriteRegister m.gpu write.1 write.2).1.background = m.gpu.background
    rw [gpuWriteRegister, if_neg h40, if_neg h42, if_neg h43, if_neg h44]
    split_ifs <;> rfl

/-- The stores of an instruction, one after the other. -/
theorem Performs.background {m m' : Machine} {calls : List CpuCall} (h : Performs m calls m')
    (hkeeps : ∀ write ∈ calls.filterMap CpuCall.written, KeepsPicture write) :
    m'.gpu.background = m.gpu.background := by
  induction h with
  | refl => rfl
  | registers _ f ih => exact ih hkeeps
  | ticks _ n ih => exact ih hkeeps
  | stop _ ih => exact ih hkeeps
  | call _ c ih =>
    rw [List.filterMap_append, List.forall_mem_append] at hkeeps
    refine Eq.trans ?_ (ih hkeeps.1)
    cases c with
    | write address value =>
      exact (hkeeps.2 (address, value) List.mem_cons_self).background _
    | masterEnable value => rfl

/-- Time passes for the picture, and the background stays. -/
theorem gpuStep_background (m : Machine) (tick : CInt) :
    (gpuStep m tick).gpu.background = m.gpu.background := by
  have hkeeps : GpuRun.Keeps fun w ↦ w.gpu.background = m.gpu.background :=
    ⟨fun _ _ h ↦ h, fun _ _ h ↦ h, fun _ _ h ↦ h, fun _ _ h ↦ h, fun _ _ h ↦ h, fun _ _ h ↦ h,
      fun _ _ _ h ↦ h⟩
  exact hkeeps.gpuStepRun (w := m.gpuRun) rfl tick

/-- Serving an interrupt makes two stores, for the two bytes of PC. -/
theorem handleInterrupt_background {m : Machine}
    (hhigh : KeepsPicture (m.registers.SP - 1, highByte m.registers.PC))
    (hlow : KeepsPicture (m.registers.SP - 1 - 1, lowByte m.registers.PC)) (inInterrupt : Byte)
    (address : Word) :
    (handleInterrupt m inInterrupt address).gpu.background = m.gpu.background := by
  rw [handleInterrupt_eq]
  exact (hlow.background _).trans (hhigh.background m)

theorem interruptStep_background {m : Machine}
    (hkeeps : ∀ write ∈ interruptWrites m, KeepsPicture write) :
    (interruptStep m).gpu.background = m.gpu.background := by
  rw [interruptWrites] at hkeeps
  by_cases hm : m.interruptRegisters.masterEnable = 1
  · rw [if_pos hm] at hkeeps
    cases hi : served m.flags with
    | none =>
      by_cases hflags : m.interruptRegisters.enable &&& m.interruptRegisters.request = 0
      · rw [interruptStep_of_flags_eq_zero hflags]
      · have hnone : m.interruptRegisters.enable &&& m.interruptRegisters.request &&& 0x1F = 0 := by
          by_contra hne
          obtain ⟨i, hi'⟩ := exists_served hne
          cases hi.symm.trans hi'
        rw [interruptStep_of_flags_ne_zero hm hflags, serveInterrupt_of_none _ hnone]
    | some i =>
      rw [hi, Option.elim_some, List.forall_mem_cons, List.forall_mem_singleton] at hkeeps
      rw [interruptStep_of_served hm hi]
      refine (handleInterrupt_background ?_ ?_ _ _).trans ?_
      · cases i <;> exact hkeeps.1
      · cases i <;> exact hkeeps.2
      · cases i <;> rfl
  · rw [interruptStep_of_masterEnable_ne hm]

/-- A still event keeps the background, and draws from it if it draws. -/
theorem Event.Still.background {m : Machine} {e : Event} (he : e.Still m) :
    (e.gpuAt m).background = m.gpu.background ∧
      (gameboy.step m e).gpu.background = m.gpu.background := by
  cases e with
  | loopCycle =>
    have hcpu := (cpuStep_performs m).background (System.along_const_iff.1 he.2.1)
    have hgpu := gpuStep_background (cpuStep m).1 (cpuStep m).2
    have hinterrupt := interruptStep_background (m := m.beforeInterrupts)
      (System.along_const_iff.1 he.2.2)
    exact ⟨hcpu, hinterrupt.trans (hgpu.trans hcpu)⟩
  | gpuStep tick => exact ⟨rfl, gpuStep_background m tick⟩
  | mmuWriteByte address value =>
    have hwrite : KeepsPicture (address, value) := he.2
    exact ⟨rfl, hwrite.background m⟩
  | clock time => exact ⟨rfl, rfl⟩

/-- Such an event is one of those that the schedule is about. -/
theorem Event.Still.scheduled {m : Machine} {e : Event} (h : e.Still m) : e.Scheduled m :=
  ⟨h.1, h.2.imp fun _ _ hkeeps ↦ ⟨hkeeps.2.2.2.2, fun h40 ↦ absurd h40 hkeeps.2.1⟩⟩

/-- **The whole screen shows the background**, once the ticks of a frame have passed without a
store to it.  Whatever else the program does in the meantime, and whatever was on the screen
before, each line has been drawn at least once by then. -/
theorem whole_picture {m : Machine} (hon : m.gpu.LcdOn)
    (hclock : m.gpu.modeClock.toNat < m.gpu.mode.length) (hpos : m.gpu.pos.Coherent)
    (htiles : FourColours m.gpu.tiles) {events : List Event}
    (h : gameboy.Along (fun m e ↦ e.Still m) m events) (hframe : 70224 ≤ elapsedTicks m events)
    {ly : Byte} (hly : ly.toNat ≤ 143) {i : ℕ} (hi : i < 160) :
    (gameboy.run m events).gpu.frameBuffer (ly.toNat * 160 + i) =
      (m.gpu.setLine ly).drawnPixel i := by
  have hscheduled := h.imp fun _ _ ↦ Event.Still.scheduled
  -- the line has been drawn at least once
  have hcount := count_renderScan ⟨hon, hclock, hpos⟩ hscheduled hly
  have hdrawn : .renderScan ly ∈ gameboy.history m events := by
    refine List.count_pos_iff.1 ?_
    rw [hcount]
    omega
  obtain ⟨pre, e, post, rfl, -, -, hline, hpixel⟩ :=
    frameBuffer_of_drawn ⟨hpos.visible, htiles⟩ hdrawn
  -- and the background was the same then
  obtain ⟨hpre, he, -⟩ := System.along_append.1 h
  have hbackground : (gameboy.run m pre).gpu.background = m.gpu.background :=
    System.run_invariant_along (I := fun m' ↦ m'.gpu.background = m.gpu.background)
      (fun _ _ he hm ↦ (Event.Still.background he).2.trans hm) rfl hpre
  rw [hpixel i hi, Gpu.drawnPixel_eq, hline, he.background.1, hbackground]
  rfl

/-- The ticks of a run that only calls `gpuStep`. -/
theorem elapsedTicks_replicate (m : Machine) (n : ℕ) :
    elapsedTicks m (List.replicate n (.gpuStep 80)) = 80 * n := by
  induction n generalizing m with
  | zero => rfl
  | succ n ih =>
    rw [List.replicate_succ, elapsedTicks, ih, Nat.mul_succ, Nat.add_comm]
    rfl

/-- A bit more than the ticks of a frame. -/
theorem whole_picture_endOfLine0 :
    (gameboy.run endOfLine0 (List.replicate 878 (.gpuStep 80))).gpu.frameBuffer
      ((7 : Byte).toNat * 160 + 9) = (endOfLine0.gpu.setLine 7).drawnPixel 9 := by
  have hstill : gameboy.Along (fun m e ↦ e.Still m) endOfLine0
      (List.replicate 878 (.gpuStep 80)) := by
    refine System.along_of_forall (fun e he m ↦ ?_) _
    rw [List.eq_of_mem_replicate he]
    exact ⟨Nat.le_refl 80, trivial⟩
  have hframe : 70224 ≤ elapsedTicks endOfLine0 (List.replicate 878 (.gpuStep 80)) := by
    rw [elapsedTicks_replicate]
    decide
  have htiles : FourColours endOfLine0.gpu.tiles := fun _ _ _ ↦ Nat.zero_le 3
  exact whole_picture (by decide) (by decide) (by decide) htiles hstill hframe (by decide)
    (by decide)

end GameBloat
