import GameBloat.Gpu.Frames
import GameBloat.Gpu.Lcd
import GameBloat.Gpu.Timeline

/-!
# The schedule of the picture

A program that leaves LY alone and the LCD on has no other influence on the scan than the time it
takes: in any run of the main loop, whatever the instructions and the interrupts, the ticks handed
to `gpuStep` say where the scan is (`lcd_time_law`), how often each line has been drawn and how
often VBLANK has been requested (`schedule_law`).

The hand of the dial is `Gpu.dot`.  What the GPU does to the outside lies on the dial as marks:
line `ly` is drawn when the hand passes `456 * ly + 252`, and VBLANK is requested when it passes
`456 * 144`.

The runs are those of `Event.Scheduled`.  An event hands at most 80 ticks to `gpuStep`, the length
of the shortest mode, so that no mode change falls behind; and each of its stores, those of an
interrupt included, is one that the scan does not notice (`KeepsScan`).  Stores to STAT, LYC, the
scroll registers or video RAM are free, and so are stores to LCDC that leave bit 7 set.  In a run
of the main loop the first condition is no condition, since no instruction takes more than 24
ticks (`scheduled_of_respects`).

* `Lcd.run_stores`: the stores of an event leave the hand where it is.
* `gpuStep_scanning`: the ticks move it on, modulo a frame.
* `isMark_renderScan` and `isMark_vblank`: where the marks are.  That there is no mark inside a
  mode, and one at the end of it exactly if the call is a landmark of the position, is a fact
  about the 154 lines and four modes, and is proved for all of them at once.
* `gpuStepCalls_count_mark`: a step makes a call as often as the hand passes its mark, which is
  once or not at all.
* `run_scheduled`: the run lemma for all three, by induction on the events.
* `run_dot`: in a run of the main loop and of stores, the ticks of the instructions say where the
  scan is.

How often a hand passes a mark in a number of ticks is arithmetic about dials and is in the
library (`CarryClock.passes`); it adds up along a run, which is why the closed forms at the end
hold for runs of any length and any grouping of the ticks.
-/

set_option autoImplicit false

namespace GameBloat

/-! ## What the scan does not notice -/

/-- A store that neither rewinds LY nor switches the LCD off.  It may store anything else, in LCDC
too. -/
def KeepsScan (_ : Lcd) (write : Word × Byte) : Prop :=
  write.1 ≠ 0xFF44 ∧ (write.1 = 0xFF40 → write.2 &&& lcdDisplayEnable ≠ 0)

instance (d : Lcd) (write : Word × Byte) : Decidable (KeepsScan d write) :=
  inferInstanceAs (Decidable (_ ∧ _))

/-- The ticks that the event hands to `gpuStep`. -/
def Event.ticks (m : Machine) : Event → ℕ
  | .loopCycle => (cpuStep m).2.toNat
  | .gpuStep tick => tick.toNat
  | .mmuWriteByte _ _ => 0
  | .clock _ => 0

/-- The event hands no more ticks to `gpuStep` than the shortest mode lasts, and makes no store that
the scan would notice.  Every cycle of the main loop meets the first half (`loopCycle_ticks_le`). -/
def Event.Scheduled (m : Machine) (e : Event) : Prop :=
  e.ticks m ≤ 80 ∧ e.Respects KeepsScan m

instance (m : Machine) (e : Event) : Decidable (e.Scheduled m) :=
  inferInstanceAs (Decidable (_ ∧ _))

/-- The ticks that a run hands to `gpuStep`.  How many an instruction takes depends on the state
it is executed in, so this is a function of the state the run starts from and follows the run
event by event. -/
def elapsedTicks (m : Machine) : List Event → ℕ
  | [] => 0
  | e :: events => e.ticks m + elapsedTicks (gameboy.step m e) events

/-- No instruction takes longer than 24 ticks. -/
theorem cpuStep_ticks_le (m : Machine) : (cpuStep m).2.toNat ≤ 24 := by
  obtain ⟨t, -, ht, -, hticks⟩ := cpuStep_moves m
  rw [hticks, BitVec.toNat_ofNat, Nat.mod_eq_of_lt (by omega)]
  exact ht

/-- So a cycle of the main loop never hands over more ticks than the shortest mode lasts. -/
theorem loopCycle_ticks_le (m : Machine) : Event.loopCycle.ticks m ≤ 80 :=
  (cpuStep_ticks_le m).trans (by decide)

/-! ## The hand -/

namespace Lcd

/-- Where the hand is. -/
def dot (d : Lcd) : ℕ :=
  CarryClock.dial ScanPos.start ScanPos.frame (d.pos, d.modeClock.toNat)

/-- The LCD is on, and its clock and its position are in order: no mode change is pending, and
VBLANK is the mode of the lines from 144 on.  This is the invariant of scheduled runs.  It is kept
by every event of such a run, and with it the hand of the dial determines the position. -/
structure Scanning (d : Lcd) : Prop where
  on : d.On
  onTime : d.modeClock.toNat < d.mode.length
  coherent : d.pos.Coherent

/-- One such store moves neither the position nor the clock. -/
theorem store_of_keepsScan {d : Lcd} {write : Word × Byte} (h : KeepsScan d write) (hd : d.On) :
    (d.store write.1 write.2).On ∧ (d.store write.1 write.2).pos = d.pos ∧
      (d.store write.1 write.2).modeClock = d.modeClock := by
  obtain ⟨h44, hon⟩ := h
  by_cases h40 : write.1 = 0xFF40
  · have hstore : d.store write.1 write.2 = { d with
        lcdControl := write.2, lcdStatus := d.lcdStatus &&& 0xF8 ||| d.mode.toByte } := by
      rw [store, if_pos h40, if_neg (hon h40)]
    rw [hstore]
    exact ⟨hon h40, rfl, rfl⟩
  · rw [store, if_neg h40, if_neg h44]
    split_ifs <;> exact ⟨hd, rfl, rfl⟩

/-- **The stores of a scheduled run** leave the hand where it is. -/
theorem run_stores {d : Lcd} (hd : d.Scanning) {writes : List (Word × Byte)}
    (h : stores.Along KeepsScan d writes) :
    (stores.run d writes).Scanning ∧ (stores.run d writes).dot = d.dot := by
  refine System.run_invariant_along (I := fun d' ↦ d'.Scanning ∧ d'.dot = d.dot)
    (fun d' write hwrite hd' ↦ ?_) ⟨hd, rfl⟩ h
  obtain ⟨hon, hpos, hclock⟩ := store_of_keepsScan hwrite hd'.1.on
  have hmode : (d'.store write.1 write.2).mode = d'.mode := congrArg ScanPos.mode hpos
  refine ⟨⟨hon, ?_, ?_⟩, ?_⟩
  · show (d'.store write.1 write.2).modeClock.toNat < (d'.store write.1 write.2).mode.length
    rw [hclock, hmode]
    exact hd'.1.onTime
  · exact hpos ▸ hd'.1.coherent
  · refine Eq.trans ?_ hd'.2
    exact congrArg₂ (fun pos (clock : BitVec 32) ↦ CarryClock.dial ScanPos.start ScanPos.frame
      (pos, clock.toNat)) hpos hclock

end Lcd

/-- What the position and the clock are, `d` ticks into a frame.  In a visible line OAM_SCANLINE
comes first, then VRAM_SCANLINE from tick 80 and HBLANK from tick 252 on; the lines from 144 on
are VBLANK from their beginning to their end. -/
def scanAt (d : ℕ) : ScanPos × ℕ :=
  if 144 ≤ d / 456 then (⟨.vblank, BitVec.ofNat 8 (d / 456)⟩, d % 456)
  else if d % 456 < 80 then (⟨.oamScanline, BitVec.ofNat 8 (d / 456)⟩, d % 456)
  else if d % 456 < 252 then (⟨.vramScanline, BitVec.ofNat 8 (d / 456)⟩, d % 456 - 80)
  else (⟨.hblank, BitVec.ofNat 8 (d / 456)⟩, d % 456 - 252)

/-- The hand says everything about the scan.  A position in order can be read off the number of
ticks since the frame began. -/
theorem Lcd.Scanning.clockedPos {g : Gpu} (h : g.lcd.Scanning) : g.clockedPos = scanAt g.dot := by
  have hline := Gpu.OnTime.line h.onTime h.coherent.visible
  have hin := Gpu.OnTime.dot_mod h.onTime h.coherent.visible
  have htime : g.modeClock.toNat < g.mode.length := h.onTime
  have hmode : g.mode = .vblank ↔ 144 ≤ g.dot / 456 := hline ▸ h.coherent.2
  have hbyte : BitVec.ofNat 8 (g.dot / 456) = g.lcdYCoordinate := by
    rw [← hline, BitVec.ofNat_toNat, BitVec.setWidth_eq]
  have hsplit : g.clockedPos = (⟨g.mode, g.lcdYCoordinate⟩, g.modeClock.toNat) := rfl
  rw [scanAt, hbyte, hsplit]
  cases hm : g.mode <;> rw [hm] at hmode htime hin <;>
    simp only [reduceCtorEq, false_iff, true_iff] at hmode <;>
    simp only [GpuMode.length, hblankCycle, vblankCycle, oamScanCycle, vramScanCycle] at htime <;>
    simp only [ScanPos.inLine] at hin
  · rw [if_neg hmode, if_neg (by omega), if_neg (by omega), hin, Nat.add_sub_cancel_left]
  · rw [if_pos hmode, hin, Nat.zero_add]
  · rw [if_neg hmode, if_pos (by omega), hin, Nat.zero_add]
  · rw [if_neg hmode, if_neg (by omega), if_pos (by omega), hin, Nat.add_sub_cancel_left]

/-! ## Marks -/

/-- The calls at the end of a mode that are not quiet. -/
def ScanPos.landmarks (p : ScanPos) : List GpuCall := p.draws ++ p.enters ++ p.requests

/-- The call `c` is made when the hand passes `mark`, and at no other time: at the end of a mode
that ends at the mark, and never in the middle of one. -/
structure IsMark (c : GpuCall) (mark : ℕ) : Prop where
  loud : ¬c.Quiet
  le : mark ≤ ScanPos.frame
  count : ∀ p : ScanPos, p.Coherent → p.landmarks.count c =
    if (p.start + p.mode.length) % ScanPos.frame = mark % ScanPos.frame then 1 else 0
  inside : ∀ p : ScanPos, p.Coherent → ∀ clock, 0 < clock → clock < p.mode.length →
    (p.start + clock) % ScanPos.frame ≠ mark % ScanPos.frame

/-- A line is drawn when its VRAM_SCANLINE is over. -/
theorem isMark_renderScan {ly : Byte} (hly : ly.toNat ≤ 143) :
    IsMark (.renderScan ly) (456 * ly.toNat + 252) := by
  refine ⟨fun h ↦ h.1 ly rfl, ?_, fun p hp ↦ ?_, fun p hp clock hpos hlt ↦ ?_⟩
  · rw [ScanPos.frame]
    omega
  · have henters : p.enters.count (.renderScan ly) = 0 := by
      rw [ScanPos.enters]
      split <;> simp
    have hrequests : p.requests.count (.renderScan ly) = 0 := by
      rw [ScanPos.requests]
      split <;> simp
    rw [ScanPos.landmarks, List.count_append, List.count_append, henters, hrequests]
    obtain ⟨mode, line⟩ := p
    have hline : line.toNat ≤ 153 := hp.1
    have hmode : mode = .vblank ↔ 144 ≤ line.toNat := hp.2
    cases mode with
    | vramScanline =>
      have hdraws : (ScanPos.mk .vramScanline line).draws = [.renderScan line] := rfl
      have hend : (456 * line.toNat + 80 + 172) % 70224 = (456 * ly.toNat + 252) % 70224 ↔
          line = ly := by
        rw [← BitVec.toNat_inj]
        omega
      rw [hdraws, List.count_singleton]
      refine if_congr ?_ rfl rfl
      rw [beq_iff_eq, GpuCall.renderScan.injEq]
      exact hend.symm
    | _ =>
      -- no other mode ends there
      rw [if_neg]
      · rfl
      · simp only [ScanPos.start, ScanPos.inLine, GpuMode.length, hblankCycle, vblankCycle,
          oamScanCycle, ScanPos.frame]
        omega
  · obtain ⟨mode, line⟩ := p
    have hline : line.toNat ≤ 153 := hp.1
    have hmode : mode = .vblank ↔ 144 ≤ line.toNat := hp.2
    cases mode <;>
      simp only [GpuMode.length, hblankCycle, vblankCycle, oamScanCycle, vramScanCycle,
        reduceCtorEq, true_iff, false_iff] at hlt hmode <;>
      simp only [ScanPos.start, ScanPos.inLine, ScanPos.frame] <;>
      omega

/-- VBLANK is requested when line 144 begins. -/
theorem isMark_vblank : IsMark (.requestInterrupt vblankInterrupt) (456 * 144) := by
  refine ⟨fun h ↦ h.2.2 rfl, by decide, fun p hp ↦ ?_, fun p hp clock hpos hlt ↦ ?_⟩
  · have hcount := (count_turn (p := p) (List.forall_mem_nil _) (List.forall_mem_nil _)).2
    rw [List.append_nil, List.nil_append, ← List.append_assoc] at hcount
    rw [ScanPos.landmarks, hcount]
    refine if_congr ?_ rfl rfl
    have hall : ∀ (mode : GpuMode) (line : Byte), (ScanPos.mk mode line).Coherent →
        ((ScanPos.mk mode line).EntersVblank ↔
          ((ScanPos.mk mode line).start + mode.length) % 70224 = 456 * 144 % 70224) := by
      intro mode
      cases mode <;> decide
    exact hall p.mode p.line hp
  · obtain ⟨mode, line⟩ := p
    have hline : line.toNat ≤ 153 := hp.1
    have hmode : mode = .vblank ↔ 144 ≤ line.toNat := hp.2
    cases mode <;>
      simp only [GpuMode.length, hblankCycle, vblankCycle, oamScanCycle, vramScanCycle,
        reduceCtorEq, true_iff, false_iff] at hlt hmode <;>
      simp only [ScanPos.start, ScanPos.inLine, ScanPos.frame] <;>
      omega

/-! ## One event -/

section

variable {m : Machine} (hm : m.gpu.lcd.Scanning) {tick : CInt} (ht : tick.toNat ≤ 80)

include hm ht

/-- One step keeps the scan in order, and moves the hand by its ticks. -/
theorem gpuStep_scanning :
    (gpuStep m tick).gpu.lcd.Scanning ∧
      (gpuStep m tick).gpu.lcd.dot = (m.gpu.lcd.dot + tick.toNat) % 70224 := by
  have hrunning := (Gpu.Running.mk hm.on hm.onTime).gpuStep ht
  have hdot := gpuStep_dot hm.on hm.onTime hm.coherent.visible ht
  rw [BitVec.ofNat_toNat, BitVec.setWidth_eq] at hrunning hdot
  have hpos : (gpuStep m tick).gpu.pos.Coherent := by
    rcases (gpuStep_stepped m tick).pos with h | h
    · exact h ▸ hm.coherent
    · exact h ▸ hm.coherent.next
  exact ⟨⟨hrunning.on, hrunning.onTime, hpos⟩, hdot⟩

/-- **A step makes a call** as often as the hand passes its mark. -/
theorem gpuStepCalls_count_mark {c : GpuCall} {mark : ℕ} (hc : IsMark c mark) :
    (gpuStepCalls m tick).count c = CarryClock.passes 70224 mark m.gpu.lcd.dot tick.toNat := by
  have hturn (p : ScanPos) (h : p.Coherent) :
      ScanPos.start (posClock.turn p) ≡ ScanPos.start p + posClock.length p [MOD 70224] :=
    ScanPos.start_next h.visible
  have hpasses := CarryClock.passes_step (C := posClock) (I := ScanPos.Coherent)
    (E := fun p ↦ (p.start + p.mode.length) % ScanPos.frame = mark % ScanPos.frame)
    (by decide : 0 < 70224) (fun p ↦ p.mode.le_length) hc.le (fun _ ↦ ScanPos.Coherent.next)
    hturn (fun _ _ ↦ Iff.rfl) hc.inside (x := m.gpu.clockedPos) hm.onTime hm.coherent ht
  have htick : BitVec.ofNat 32 tick.toNat = tick := by rw [BitVec.ofNat_toNat, BitVec.setWidth_eq]
  refine Eq.trans ?_ hpasses.symm
  rw [gpuStepCalls]
  rcases Nat.lt_or_ge (m.gpu.modeClock.toNat + tick.toNat) m.gpu.mode.length with h | h
  · rw [← htick, gpuStepRun_stays (w := m.gpuRun) hm.on hm.onTime ht h, htick]
    exact (if_pos h).symm
  · obtain ⟨rest, h'⟩ := Nat.exists_eq_add_of_le h
    rw [← htick, gpuStepRun_turns (w := m.gpuRun) hm.on hm.onTime ht h', htick]
    obtain ⟨quiet, quiet', hquiet, hquiet', hturned⟩ :=
      endOfMode_turned (m.gpuRun.onGpu (·.setClock (BitVec.ofNat 32 rest)))
    have hnone {l : List GpuCall} (hl : ∀ c ∈ l, c.Quiet) : l.count c = 0 :=
      List.count_eq_zero.2 fun h ↦ hc.loud (hl c h)
    have hcount : (m.gpu.pos.draws ++ quiet ++ (m.gpu.pos.enters ++ (quiet' ++
        m.gpu.pos.requests))).count c = m.gpu.pos.landmarks.count c := by
      simp only [ScanPos.landmarks, List.count_append, hnone hquiet, hnone hquiet', Nat.add_zero,
        Nat.zero_add, Nat.add_assoc]
    rw [hturned.calls]
    exact hcount.trans ((hc.count _ hm.coherent).trans (if_neg (Nat.not_lt_of_le h)).symm)

end

/-- What an event does to the scan, and the calls it makes.  This is the step lemma of the
schedule; a cycle of the main loop is stores, ticks, and stores again, and the hand only moves
with the ticks. -/
theorem Event.Scheduled.step {m : Machine} {e : Event} (he : e.Scheduled m)
    (hm : m.gpu.lcd.Scanning) :
    (gameboy.step m e).gpu.lcd.Scanning ∧
      (gameboy.step m e).gpu.lcd.dot = (m.gpu.lcd.dot + e.ticks m) % 70224 ∧
      ∀ c mark, IsMark c mark → (gameboy.out m e).count c =
        CarryClock.passes 70224 mark m.gpu.lcd.dot (e.ticks m) := by
  obtain ⟨ht, he⟩ := he
  have hsame : m.gpu.lcd.dot = (m.gpu.lcd.dot + 0) % 70224 :=
    (Nat.mod_eq_of_lt (Nat.mod_lt _ (by decide))).symm
  cases e with
  | loopCycle =>
    obtain ⟨hcpu, hdot⟩ := Lcd.run_stores hm he.1
    rw [← cpuStep_lcd] at hcpu hdot
    obtain ⟨hgpu, hgpuDot⟩ := gpuStep_scanning hcpu ht
    obtain ⟨hall, hallDot⟩ := Lcd.run_stores (d := m.beforeInterrupts.gpu.lcd) hgpu he.2
    rw [← loopCycle_lcd] at hall hallDot
    refine ⟨hall, hallDot.trans (hgpuDot.trans ?_), fun c mark hc ↦ ?_⟩
    · rw [hdot]
      rfl
    · rw [← hdot]
      exact gpuStepCalls_count_mark hcpu ht hc
  | gpuStep tick =>
    obtain ⟨hgpu, hdot⟩ := gpuStep_scanning hm ht
    exact ⟨hgpu, hdot, fun c mark ↦ gpuStepCalls_count_mark hm ht⟩
  | mmuWriteByte address value =>
    have hkeeps : Lcd.stores.Along KeepsScan m.gpu.lcd [(address, value)] := ⟨he, trivial⟩
    have hstore := Lcd.run_stores hm hkeeps
    have hlcd : (storeByte m address value).gpu.lcd = Lcd.stores.run m.gpu.lcd [(address, value)] :=
      storeByte_lcd m address value
    rw [← hlcd] at hstore
    exact ⟨hstore.1, hstore.2.trans hsame, fun c mark _ ↦ (CarryClock.passes_zero _).symm⟩
  | clock time => exact ⟨hm, hsame, fun c mark _ ↦ (CarryClock.passes_zero _).symm⟩

/-! ## Runs -/

/-- What a scheduled run does to the scan, and the calls it makes. -/
theorem run_scheduled {m : Machine} (hm : m.gpu.lcd.Scanning) {events : List Event}
    (h : gameboy.Along (fun m e ↦ e.Scheduled m) m events) :
    (gameboy.run m events).gpu.lcd.Scanning ∧
      (gameboy.run m events).gpu.lcd.dot = (m.gpu.lcd.dot + elapsedTicks m events) % 70224 ∧
      ∀ c mark, IsMark c mark → (gameboy.history m events).count c =
        CarryClock.passes 70224 mark m.gpu.lcd.dot (elapsedTicks m events) := by
  induction events generalizing m with
  | nil =>
    exact ⟨hm, (Nat.mod_eq_of_lt (Nat.mod_lt _ (by decide))).symm,
      fun c mark _ ↦ (CarryClock.passes_zero _).symm⟩
  | cons e events ih =>
    obtain ⟨hstep, hdot, hcount⟩ := h.1.step hm
    obtain ⟨hrun, hrunDot, hrunCount⟩ := ih hstep h.2
    refine ⟨hrun, ?_, fun c mark hc ↦ ?_⟩
    · rw [elapsedTicks, ← Nat.add_assoc, ← Nat.mod_add_mod, ← hdot]
      exact hrunDot
    · rw [System.history, List.count_append, hcount c mark hc, hrunCount c mark hc, hdot,
        CarryClock.passes_mod (by decide), elapsedTicks, CarryClock.passes_add]

/-- **In a run of the main loop and of stores** nothing need be asked of the ticks: no instruction
takes longer than the shortest mode, and only a call of `gpuStep` from elsewhere could.  Hence the
hypothesis about ticks is one about runs in which the parts are called on their own. -/
theorem scheduled_of_respects {m : Machine} {events : List Event}
    (hevents : ∀ e ∈ events, ∀ tick, e ≠ .gpuStep tick)
    (h : gameboy.Along (fun m e ↦ e.Respects KeepsScan m) m events) :
    gameboy.Along (fun m e ↦ e.Scheduled m) m events := by
  induction events generalizing m with
  | nil => trivial
  | cons e events ih =>
    rw [List.forall_mem_cons] at hevents
    refine ⟨⟨?_, h.1⟩, ih hevents.2 h.2⟩
    cases e with
    | loopCycle => exact loopCycle_ticks_le m
    | gpuStep tick => exact absurd rfl (hevents.1 tick)
    | mmuWriteByte | clock => exact Nat.zero_le _

/-- **The hand of the dial in a run of the main loop**: if no store rewinds LY or switches the LCD
off, it goes on by the ticks of the instructions.  How often a mark is passed, and with it the
requests and the lines drawn, follows from the ticks in the same way. -/
theorem run_dot {m : Machine} (hm : m.gpu.lcd.Scanning) {events : List Event}
    (hevents : ∀ e ∈ events, ∀ tick, e ≠ .gpuStep tick)
    (h : gameboy.Along (fun m e ↦ e.Respects KeepsScan m) m events) :
    (gameboy.run m events).gpu.dot = (m.gpu.dot + elapsedTicks m events) % 70224 :=
  (run_scheduled hm (scheduled_of_respects hevents h)).2.1

/-- How often a line is drawn.  The number is the difference of two quotients, which count the
frames that are complete, with the mark as the border, at the end and at the beginning of the
run. -/
theorem count_renderScan {m : Machine} (hm : m.gpu.lcd.Scanning) {events : List Event}
    (h : gameboy.Along (fun m e ↦ e.Scheduled m) m events) {ly : Byte} (hly : ly.toNat ≤ 143) :
    (gameboy.history m events).count (.renderScan ly) =
      (m.gpu.dot + elapsedTicks m events + (69972 - 456 * ly.toNat)) / 70224 -
        (m.gpu.dot + (69972 - 456 * ly.toNat)) / 70224 := by
  obtain ⟨-, -, hcount⟩ := run_scheduled hm h
  have hmark : 70224 - (456 * ly.toNat + 252) = 69972 - 456 * ly.toNat := by omega
  refine (hcount _ _ (isMark_renderScan hly)).trans ?_
  rw [CarryClock.passes, hmark]
  rfl

/-- **The time law of the LCD.**  Whatever a program does, as long as it leaves LY alone and the
LCD on, the mode, the line and the clock are those that the ticks handed to `gpuStep` say.  They
are a function of one number, the ticks since the beginning of the frame. -/
theorem lcd_time_law {m : Machine} (hon : m.gpu.LcdOn)
    (hclock : m.gpu.modeClock.toNat < m.gpu.mode.length) (hpos : m.gpu.pos.Coherent)
    {events : List Event} (h : gameboy.Along (fun m e ↦ e.Scheduled m) m events) :
    m.gpu.clockedPos = scanAt m.gpu.dot ∧
      (gameboy.run m events).gpu.LcdOn ∧
      (gameboy.run m events).gpu.clockedPos =
        scanAt ((m.gpu.dot + elapsedTicks m events) % 70224) := by
  have hm : m.gpu.lcd.Scanning := ⟨hon, hclock, hpos⟩
  obtain ⟨hrun, hdot, -⟩ := run_scheduled hm h
  exact ⟨hm.clockedPos, hrun.on, hrun.clockedPos.trans (congrArg scanAt hdot)⟩

/-- Into VBLANK, with a store to LCDC and a cycle of the main loop on the way. -/
theorem lcd_time_law_endOfPicture :
    (gameboy.run endOfPicture [.mmuWriteByte 0xFF40 0x81, .gpuStep 10, .loopCycle]).gpu.clockedPos =
      scanAt 65664 :=
  have h : gameboy.Along (fun m e ↦ e.Scheduled m) endOfPicture
      [.mmuWriteByte 0xFF40 0x81, .gpuStep 10, .loopCycle] := by decide +kernel
  have hdot : (endOfPicture.gpu.dot + elapsedTicks endOfPicture
      [.mmuWriteByte 0xFF40 0x81, .gpuStep 10, .loopCycle]) % 70224 = 65664 := by decide +kernel
  ((lcd_time_law (by decide) (by decide) (by decide) h).2.2).trans (congrArg scanAt hdot)

/-- **The schedule of the picture.**  In such a run the ticks also say how often each line has been
drawn and how often VBLANK has been requested: in the ticks of `k` frames, `k` times, wherever the
run starts. -/
theorem schedule_law {m : Machine} (hon : m.gpu.LcdOn)
    (hclock : m.gpu.modeClock.toNat < m.gpu.mode.length) (hpos : m.gpu.pos.Coherent)
    {events : List Event} (h : gameboy.Along (fun m e ↦ e.Scheduled m) m events) :
    let d := m.gpu.dot
    let t := elapsedTicks m events
    let calls := gameboy.history m events
    calls.count (.requestInterrupt vblankInterrupt) = (d + t + 4560) / 70224 - (d + 4560) / 70224 ∧
    (∀ ly : Byte, ly.toNat ≤ 143 → calls.count (.renderScan ly) =
      (d + t + (69972 - 456 * ly.toNat)) / 70224 - (d + (69972 - 456 * ly.toNat)) / 70224) ∧
    ∀ k, t = 70224 * k → calls.count (.requestInterrupt vblankInterrupt) = k ∧
      ∀ ly : Byte, ly.toNat ≤ 143 → calls.count (.renderScan ly) = k := by
  intro d t calls
  obtain ⟨-, -, hcount⟩ := run_scheduled (m := m) ⟨hon, hclock, hpos⟩ h
  have hvblank : calls.count (.requestInterrupt vblankInterrupt) =
      (d + t + 4560) / 70224 - (d + 4560) / 70224 := hcount _ _ isMark_vblank
  have hline (ly : Byte) (hly : ly.toNat ≤ 143) : calls.count (.renderScan ly) =
      (d + t + (69972 - 456 * ly.toNat)) / 70224 - (d + (69972 - 456 * ly.toNat)) / 70224 :=
    count_renderScan ⟨hon, hclock, hpos⟩ h hly
  refine ⟨hvblank, hline, fun k hk ↦ ⟨?_, fun ly hly ↦ ?_⟩⟩
  · rw [hvblank]
    omega
  · rw [hline ly hly]
    omega

/-- The same run requests VBLANK once. -/
theorem schedule_law_endOfPicture :
    (gameboy.history endOfPicture [.mmuWriteByte 0xFF40 0x81, .gpuStep 10, .loopCycle]).count
      (.requestInterrupt vblankInterrupt) = 1 :=
  have h : gameboy.Along (fun m e ↦ e.Scheduled m) endOfPicture
      [.mmuWriteByte 0xFF40 0x81, .gpuStep 10, .loopCycle] := by decide +kernel
  ((schedule_law (by decide) (by decide) (by decide) h).1).trans (by decide +kernel)

end GameBloat
