import GameBloat.Gpu.Clock
import GameBloat.Library.CarryClock

/-!
# The GPU's timeline

The functions of the scan do not read the clock, so a `gpuStep` of at most 80 ticks is a step of a
clock that carries over (`CarryClock`), and this in two ways.  Over the whole machine
(`scanClock`): therefore how the ticks are grouped into calls does not matter.  Over the positions
of the scan (`posClock`): these lie on a dial of 154 lines of 456 ticks, and a step moves its
hand, `Gpu.dot`, by its ticks.

The first of the two is what step-size independence rests on.  A mode change may render a line and
request interrupts, and none of that may depend on *when* in a call it happens.  `ClockFree` says
of a function of `gpu.c` that it commutes with setting the clock: it neither reads `modeClock` nor
writes it.  There is one lemma for each function, and that for `renderScan` goes through its loop.
Since the same is true of their composition, the machine without its clock and the clock by itself
are the two components of a `CarryClock`, whose steps the library shows to be additive.

The bound of 80 ticks is the length of the shortest mode, and it cannot be dropped: with more a
call of `gpuStep` would owe two mode changes and make one.

* `gpuStep_clocked`: a step of the GPU is a step of the clock.
* `run_gpuSteps`: a run of calls is a run of the clock.
* `gpuStep_dot`: the hand goes on by the ticks, modulo 70224.
* `Gpu.clockedPos_of_dot`: off the hand everything about the position can be read.
* `step_size_independence`: two lists of ticks with the same sum leave the same machine behind.
-/

set_option autoImplicit false

namespace GameBloat

/-! ## Nothing reads the clock -/

/-- `modeClock = clock;`. -/
def GpuRun.setClock (w : GpuRun) (clock : BitVec 32) : GpuRun := w.onGpu (·.setClock clock)

/-- `f` does not read the clock, and leaves it alone: setting the clock before `f` is the same as
setting it afterwards.  With the clock taken out, what a mode does at its end is a function of the
rest, and the calls of `gpuStep` are a clock with carry. -/
def ClockFree (f : GpuRun → GpuRun) : Prop :=
  ∀ w clock, f (w.setClock clock) = (f w).setClock clock

namespace ClockFree

/-- A test that does not read the clock. -/
theorem ite {c : GpuRun → Prop} [DecidablePred c] {f g : GpuRun → GpuRun}
    (hc : ∀ w clock, c (w.setClock clock) = c w) (hf : ClockFree f) (hg : ClockFree g) :
    ClockFree fun w ↦ if c w then f w else g w := by
  intro w clock
  rw [apply_ite (GpuRun.setClock · clock)]
  exact ite_congr (hc w clock) (fun _ ↦ hf w clock) (fun _ ↦ hg w clock)

/-- One function after the other. -/
theorem comp {f g : GpuRun → GpuRun} (hg : ClockFree g) (hf : ClockFree f) :
    ClockFree fun w ↦ g (f w) := by
  intro w clock
  exact (congrArg g (hf w clock)).trans (hg (f w) clock)

theorem requestIfSelected (select : Byte) : ClockFree (·.requestIfSelected select) :=
  .ite (c := fun w ↦ w.gpu.lcdStatus &&& select ≠ 0) (fun _ _ ↦ rfl) (fun _ _ ↦ rfl) fun _ _ ↦ rfl

/-- `NextScanline` compares LY with LYC, and not the clock with anything. -/
theorem nextScanline : ClockFree nextScanline := by
  have hline : ClockFree fun w ↦ w.onGpu fun g ↦ g.setLine (nextLine g.lcdYCoordinate) :=
    fun _ _ ↦ rfl
  have hequal : ClockFree fun w ↦ w.onGpu fun g ↦ g.setStatus (g.lcdStatus ||| statusLycEqualsLy) :=
    fun _ _ ↦ rfl
  have hif := ite (c := fun w ↦ w.gpu.lcdYCoordinate = w.gpu.lcdLYCompare) (fun _ _ ↦ rfl)
    ((requestIfSelected statusLycIntSelect).comp hequal)
    (g := fun w ↦ w.onGpu fun g ↦ g.setStatus (g.lcdStatus &&& ~~~statusLycEqualsLy))
    fun _ _ ↦ rfl
  exact hif.comp hline

theorem handleLCDModeChange (inMode : GpuMode) : ClockFree (handleLCDModeChange · inMode) := by
  have hmode : ClockFree fun w ↦ (((w.onGpu (·.setMode inMode)).log (.modeChange inMode)).onGpu
      fun g ↦ g.setStatus (g.lcdStatus &&& 0xFC)).onGpu
      fun g ↦ g.setStatus (g.lcdStatus ||| inMode.toByte) := fun _ _ ↦ rfl
  cases inMode with
  | hblank => exact (requestIfSelected statusMode1IntSelect).comp hmode
  | oamScanline => exact (requestIfSelected statusMode2IntSelect).comp hmode
  | vramScanline => exact hmode
  | vblank =>
    have hrequest : ClockFree (·.request vblankInterrupt) := fun _ _ ↦ rfl
    exact hrequest.comp ((requestIfSelected statusMode0IntSelect).comp hmode)

/-- The loop, by induction on the pixels left.  The locals are the same on both sides. -/
theorem renderPixels (n : ℕ) (w : GpuRun) (v : ScanVars) (clock : BitVec 32) :
    renderPixels n (w.setClock clock) v = (renderPixels n w v).setClock clock := by
  induction n generalizing w v with
  | zero => rfl
  | succ n ih =>
    rw [GameBloat.renderPixels, GameBloat.renderPixels, apply_ite (GpuRun.setClock · clock)]
    refine ite_congr rfl (fun _ ↦ ?_) fun _ ↦ ih (plotPixel w v) _
    -- a new tile: its number is fetched, perhaps shifted, perhaps found invalid
    rw [apply_ite (GpuRun.setClock · clock)]
    refine ite_congr rfl (fun _ ↦ ?_) fun _ ↦ ih ((plotPixel w v).log _) _
    rw [apply_ite (GpuRun.setClock · clock)]
    exact ite_congr rfl (fun _ ↦ rfl) fun _ ↦ ih ((plotPixel w v).log _) _

/-- Rendering a line depends on the registers and on the picture data. -/
theorem renderScan : ClockFree renderScan := by
  intro w clock
  rw [GameBloat.renderScan, GameBloat.renderScan, apply_ite (GpuRun.setClock · clock)]
  exact ite_congr rfl (fun _ ↦ rfl) fun _ ↦ renderPixels 160 ((w.log _).log _) _ clock

/-- The mode change itself does not read the clock. -/
theorem endOfMode : ClockFree endOfMode := by
  intro w clock
  have hmode : (w.setClock clock).gpu.mode = w.gpu.mode := rfl
  rw [GameBloat.endOfMode, GameBloat.endOfMode, hmode]
  cases w.gpu.mode with
  | hblank =>
    have hif := ite (c := fun w ↦ w.gpu.lcdYCoordinate = 144) (fun _ _ ↦ rfl)
      (handleLCDModeChange .vblank) (handleLCDModeChange .oamScanline)
    exact hif.comp nextScanline w clock
  | vblank =>
    have hif := ite (c := fun w ↦ w.gpu.lcdYCoordinate = 0) (fun _ _ ↦ rfl)
      (handleLCDModeChange .oamScanline) (g := id) fun _ _ ↦ rfl
    exact hif.comp nextScanline w clock
  | oamScanline => exact handleLCDModeChange .vramScanline w clock
  | vramScanline => exact (handleLCDModeChange .hblank).comp renderScan w clock

end ClockFree

/-! ## The machine as a clock that carries over -/

/-- `modeClock = clock;` on the whole machine. -/
def Machine.setClock (m : Machine) (clock : BitVec 32) : Machine :=
  { m with gpu := m.gpu.setClock clock }

/-- `endOfMode` on the whole machine. -/
def Machine.endOfMode (m : Machine) : Machine :=
  let w := GameBloat.endOfMode m.gpuRun
  { m with gpu := w.gpu, interruptRegisters := w.interruptRegisters }

/-- A machine lasts as long as the mode of its GPU, and then makes a mode change. -/
def scanClock : CarryClock Machine := ⟨fun m ↦ m.gpu.mode.length, Machine.endOfMode⟩

/-- The positions of the scan, with nothing else of the machine. -/
def posClock : CarryClock ScanPos := ⟨fun p ↦ p.mode.length, ScanPos.next⟩

/-- The machine with its clock taken out, and the clock as a number.  Together they are the
machine again (`Machine.clocked_injective`). -/
def Machine.clocked (m : Machine) : Machine × ℕ := (m.setClock 0, m.gpu.modeClock.toNat)

/-- The position of the scan, with the clock. -/
def Gpu.clockedPos (g : Gpu) : ScanPos × ℕ := (g.pos, g.modeClock.toNat)

/-- Nothing is lost by taking the clock out. -/
theorem Machine.clocked_injective : Function.Injective Machine.clocked := by
  intro m m' h
  have hrest := congrArg Prod.fst h
  have hclock : m.gpu.modeClock = m'.gpu.modeClock := BitVec.eq_of_toNat_eq (congrArg Prod.snd h)
  calc m = (m.setClock 0).setClock m.gpu.modeClock := rfl
    _ = (m'.setClock 0).setClock m'.gpu.modeClock := by
      rw [hclock]
      exact congrArg (Machine.setClock · _) hrest
    _ = m' := rfl

/-- The mode change of the whole machine does not read the clock. -/
theorem Machine.endOfMode_setClock (m : Machine) (clock : BitVec 32) :
    (m.setClock clock).endOfMode = m.endOfMode.setClock clock :=
  congrArg (fun w : GpuRun ↦ { m with gpu := w.gpu, interruptRegisters := w.interruptRegisters })
    (ClockFree.endOfMode m.gpuRun clock)

/-- The mode change takes the scan to its next position. -/
theorem Machine.endOfMode_pos (m : Machine) : m.endOfMode.gpu.pos = m.gpu.pos.next := by
  obtain ⟨_, _, -, -, h⟩ := endOfMode_turned m.gpuRun
  exact h.pos

section

variable {m : Machine} (hon : m.gpu.LcdOn) (hm : m.gpu.OnTime) {t : ℕ} (ht : t ≤ 80)

include hon hm ht

/-- **A step of the GPU is a step of the clock.** -/
theorem gpuStep_clocked :
    (gpuStep m (BitVec.ofNat 32 t)).clocked = scanClock.step m.clocked t := by
  rcases Nat.lt_or_ge (m.gpu.modeClock.toNat + t) m.gpu.mode.length with h | h
  · have hstep : gpuStep m (BitVec.ofNat 32 t) =
        m.setClock (BitVec.ofNat 32 (m.gpu.modeClock.toNat + t)) := by
      rw [gpuStep, gpuStepRun_stays (w := m.gpuRun) hon hm ht h]
      rfl
    have hclock : (BitVec.ofNat 32 (m.gpu.modeClock.toNat + t)).toNat =
        m.gpu.modeClock.toNat + t := by
      have := m.gpu.mode.length_le
      rw [BitVec.toNat_ofNat]
      omega
    rw [hstep, CarryClock.step_of_lt h]
    exact Prod.ext rfl hclock
  · obtain ⟨rest, h'⟩ := Nat.exists_eq_add_of_le h
    have hstep : gpuStep m (BitVec.ofNat 32 t) = (m.setClock (BitVec.ofNat 32 rest)).endOfMode := by
      rw [gpuStep, gpuStepRun_turns (w := m.gpuRun) hon hm ht h']
      rfl
    have hmachine : (m.setClock (BitVec.ofNat 32 rest)).endOfMode.setClock 0 =
        (m.setClock 0).endOfMode := by
      rw [Machine.endOfMode_setClock, Machine.endOfMode_setClock]
      rfl
    have hclock : m.gpu.modeClock.toNat + t - m.gpu.mode.length = rest := by omega
    rw [hstep, CarryClock.step_of_le h]
    refine Prod.ext hmachine (Eq.trans ?_ hclock.symm)
    rw [Machine.endOfMode_setClock]
    exact (toNat_rest (w := m.gpuRun) hm ht h').2

/-- The same, for the position alone. -/
theorem gpuStep_clockedPos :
    (gpuStep m (BitVec.ofNat 32 t)).gpu.clockedPos = posClock.step m.gpu.clockedPos t := by
  have hmap := CarryClock.map_step (C := scanClock) (D := posClock) (f := fun m ↦ m.gpu.pos)
    (fun _ ↦ rfl) (fun m ↦ m.endOfMode_pos.symm) m.clocked t
  exact (congrArg (Prod.map _ id) (gpuStep_clocked hon hm ht)).trans hmap.symm

end

/-! ## The dial -/

namespace ScanPos

/-- The ticks before a mode in its line. -/
def inLine : GpuMode → ℕ
  | .oamScanline => 0
  | .vramScanline => 80
  | .hblank => 252
  | .vblank => 0

/-- The ticks before a position in the frame, if the frame starts with line 0. -/
def start (p : ScanPos) : ℕ := 456 * p.line.toNat + inLine p.mode

/-- The ticks of a frame: 154 lines of 456 ticks. -/
def frame : ℕ := 70224

/-- Wherever the scan stands, the next position starts when this one is over: modulo a frame,
since line 0 comes after line 153. -/
theorem start_next {p : ScanPos} (h : p.Visible) :
    p.next.start ≡ p.start + posClock.length p [MOD frame] := by
  have hall : ∀ (mode : GpuMode) (line : Byte), (ScanPos.mk mode line).Visible →
      (ScanPos.mk mode line).next.start % 70224 =
        ((ScanPos.mk mode line).start + mode.length) % 70224 := by
    intro mode
    cases mode <;> decide
  exact hall p.mode p.line h

end ScanPos

/-- Where the hand is: the ticks since the start of line 0. -/
def Gpu.dot (g : Gpu) : ℕ := CarryClock.dial ScanPos.start ScanPos.frame g.clockedPos

/-- **A step moves the hand by its ticks.** -/
theorem gpuStep_dot {m : Machine} (hon : m.gpu.LcdOn) (hm : m.gpu.OnTime) (hpos : m.gpu.pos.Visible)
    {t : ℕ} (ht : t ≤ 80) :
    (gpuStep m (BitVec.ofNat 32 t)).gpu.dot = (m.gpu.dot + t) % 70224 := by
  rw [Gpu.dot, gpuStep_clockedPos hon hm ht]
  exact CarryClock.dial_step (fun _ ↦ ScanPos.start_next) hpos t

/-- The line can be read off the hand. -/
theorem Gpu.OnTime.line {g : Gpu} (h : g.OnTime) (hpos : g.pos.Visible) :
    g.lcdYCoordinate.toNat = g.dot / 456 := by
  have hline : g.lcdYCoordinate.toNat ≤ 153 := hpos.1
  have hin : ScanPos.inLine g.mode + g.mode.length ≤ 456 := by cases g.mode <;> decide
  have hdot : g.dot = (456 * g.lcdYCoordinate.toNat + ScanPos.inLine g.mode +
      g.modeClock.toNat) % 70224 := rfl
  rw [OnTime] at h
  omega

/-- Where the hand is inside the line. -/
theorem Gpu.OnTime.dot_mod {g : Gpu} (h : g.OnTime) (hpos : g.pos.Visible) :
    g.dot % 456 = ScanPos.inLine g.mode + g.modeClock.toNat := by
  have hline : g.lcdYCoordinate.toNat ≤ 153 := hpos.1
  have hin : ScanPos.inLine g.mode + g.mode.length ≤ 456 := by cases g.mode <;> decide
  have hdot : g.dot = (456 * g.lcdYCoordinate.toNat + ScanPos.inLine g.mode +
      g.modeClock.toNat) % 70224 := rfl
  rw [OnTime] at h
  omega

/-- The modes of a visible line follow each other without overlap. -/
theorem ScanPos.inLine_injective {mode mode' : GpuMode} {c c' : ℕ}
    (hmode : mode = .vblank ↔ mode' = .vblank) (hc : c < mode.length) (hc' : c' < mode'.length)
    (h : inLine mode + c = inLine mode' + c') : mode = mode' ∧ c = c' := by
  cases mode <;> cases mode' <;>
    simp only [inLine, GpuMode.length, oamScanCycle, vramScanCycle, hblankCycle, vblankCycle,
      reduceCtorEq, true_and, false_and, iff_true, iff_false, not_true] at hmode hc hc' h ⊢ <;>
    omega

/-- Off the hand of a coherent position, everything can be read. -/
theorem Gpu.clockedPos_of_dot {g g' : Gpu} (h : g.OnTime) (hpos : g.pos.Coherent) (h' : g'.OnTime)
    (hpos' : g'.pos.Coherent) (hdot : g.dot = g'.dot) : g.clockedPos = g'.clockedPos := by
  have hline : g.lcdYCoordinate.toNat = g'.lcdYCoordinate.toNat := by
    rw [h.line hpos.visible, h'.line hpos'.visible, hdot]
  have hmode : g.mode = .vblank ↔ g'.mode = .vblank := by
    rw [show g.mode = .vblank ↔ 144 ≤ g.lcdYCoordinate.toNat from hpos.2, hline]
    exact hpos'.2.symm
  have hin := h.dot_mod hpos.visible
  rw [hdot, h'.dot_mod hpos'.visible] at hin
  obtain ⟨hmode, hclock⟩ := ScanPos.inLine_injective hmode h h' hin.symm
  exact Prod.ext (ScanPos.ext hmode (BitVec.eq_of_toNat_eq hline)) hclock

/-! ## Runs of the GPU -/

/-- A list of calls of `gpuStep`. -/
def gpuSteps (ts : List ℕ) : List Event := ts.map fun t ↦ .gpuStep (BitVec.ofNat 32 t)

/-- What the calls keep: the LCD is on, and no mode change is pending. -/
structure Gpu.Running (g : Gpu) : Prop where
  on : g.LcdOn
  onTime : g.OnTime

/-- A call of at most 80 ticks. -/
theorem Gpu.Running.gpuStep {m : Machine} (h : m.gpu.Running) {t : ℕ} (ht : t ≤ 80) :
    (gpuStep m (BitVec.ofNat 32 t)).gpu.Running := by
  refine ⟨?_, gpuStep_onTime h.onTime ht⟩
  rw [LcdOn, (gpuStep_stepped m _).lcdControl]
  exact h.on

/-- **A run of the GPU is a run of the clock.** -/
theorem run_gpuSteps {m : Machine} (hm : m.gpu.Running) {ts : List ℕ} (hts : ∀ t ∈ ts, t ≤ 80) :
    (gameboy.run m (gpuSteps ts)).gpu.Running ∧
      (gameboy.run m (gpuSteps ts)).clocked = scanClock.run m.clocked ts := by
  induction ts generalizing m with
  | nil => exact ⟨hm, rfl⟩
  | cons t ts ih =>
    rw [List.forall_mem_cons] at hts
    have hrun := ih (hm.gpuStep hts.1) hts.2
    rw [gpuStep_clocked hm.on hm.onTime hts.1] at hrun
    exact hrun

/-- A run keeps the scan coherent, and moves the hand of the dial by the sum of its ticks. -/
theorem run_gpuSteps_dot {m : Machine} (hm : m.gpu.Running) (hpos : m.gpu.pos.Coherent)
    {ts : List ℕ} (hts : ∀ t ∈ ts, t ≤ 80) :
    (gameboy.run m (gpuSteps ts)).gpu.pos.Coherent ∧
      (gameboy.run m (gpuSteps ts)).gpu.dot = (m.gpu.dot + ts.sum) % 70224 := by
  obtain ⟨-, hrun⟩ := run_gpuSteps hm hts
  have hmap := CarryClock.map_run (C := scanClock) (D := posClock) (f := fun m ↦ m.gpu.pos)
    (fun _ ↦ rfl) (fun m ↦ m.endOfMode_pos.symm) m.clocked ts
  have hclocked : (gameboy.run m (gpuSteps ts)).gpu.clockedPos =
      posClock.run m.gpu.clockedPos ts :=
    (congrArg (Prod.map _ id) hrun).trans hmap.symm
  have hdial := CarryClock.dial_run (C := posClock) (I := ScanPos.Coherent)
    (fun _ ↦ ScanPos.Coherent.next) (fun _ h ↦ ScanPos.start_next h.visible)
    (x := m.gpu.clockedPos) hpos ts
  rw [← hclocked] at hdial
  exact hdial

/-- **Step-size independence of the GPU clock.**  Two runs whose ticks have the same sum leave the
same machine behind, and whole frames lead back to where the scan was.  Not only the clock agrees:
what has been drawn and what has been requested on the way is the same, too. -/
theorem step_size_independence {m : Machine} (hon : m.gpu.LcdOn)
    (hclock : m.gpu.modeClock.toNat < m.gpu.mode.length) (hpos : m.gpu.pos.Coherent)
    {us vs : List ℕ} (hus : ∀ t ∈ us, t ≤ 80) (hvs : ∀ t ∈ vs, t ≤ 80) (hsum : us.sum = vs.sum) :
    gameboy.run m (gpuSteps us) = gameboy.run m (gpuSteps vs) ∧
      (70224 ∣ us.sum →
        (gameboy.run m (gpuSteps us)).gpu.mode = m.gpu.mode ∧
        (gameboy.run m (gpuSteps us)).gpu.lcdYCoordinate = m.gpu.lcdYCoordinate ∧
        (gameboy.run m (gpuSteps us)).gpu.modeClock = m.gpu.modeClock) := by
  have hm : m.gpu.Running := ⟨hon, hclock⟩
  obtain ⟨hrunning, hu⟩ := run_gpuSteps hm hus
  obtain ⟨-, hv⟩ := run_gpuSteps hm hvs
  constructor
  · have hlength (m : Machine) : 80 ≤ scanClock.length m := m.gpu.mode.le_length
    have hinside : scanClock.Inside m.clocked := hclock
    apply Machine.clocked_injective
    rw [hu, hv, CarryClock.run_eq_iterate hlength hinside hus,
      CarryClock.run_eq_iterate hlength hinside hvs, hsum]
  · intro hframes
    obtain ⟨hpos', hdot⟩ := run_gpuSteps_dot hm hpos hus
    have hlt : m.gpu.dot < 70224 := Nat.mod_lt _ (by decide)
    have hsame : (gameboy.run m (gpuSteps us)).gpu.dot = m.gpu.dot := by omega
    have h := Gpu.clockedPos_of_dot hrunning.onTime hpos' hclock hpos hsame
    exact ⟨congrArg (fun x ↦ x.1.mode) h, congrArg (fun x ↦ x.1.line) h,
      BitVec.eq_of_toNat_eq (congrArg Prod.snd h)⟩

/-- Into VBLANK in one call and in four. -/
theorem step_size_independence_into_vblank :
    gameboy.run endOfPicture (gpuSteps [80]) = gameboy.run endOfPicture (gpuSteps [4, 12, 60, 4]) :=
  have hone : ∀ t ∈ [80], t ≤ 80 := by decide
  have hfour : ∀ t ∈ [4, 12, 60, 4], t ≤ 80 := by decide
  (step_size_independence (m := endOfPicture) (by decide) (by decide) (by decide) hone hfour rfl).1

end GameBloat
