import GameBloat.Gpu.Step
import GameBloat.Memory.Map

/-!
# What a step of the GPU can do

The scan has a position, a mode and a line, and one way to go on from each (`ScanPos.next`).  A
`gpuStep` either leaves the scan where it is and moves the clock, or ends the current mode and
goes on to the next position; nothing else.  `gpuStep_stepped` says so once, with the calls that
are made, and nearly everything about runs of the GPU is derived from it.  For what it does not
mention there is the rule `GpuRun.Keeps.gpuStepRun`: what every statement keeps, a `gpuStep`
keeps.

A store from the CPU does to the GPU one of the things `GpuWrite` lists.

`gpuStep` calls four functions, one of them with a loop, and a proof that unfolded them would have
to split their branches every time.  So each function has one lemma here, of the same form, and is
not unfolded again: it *turns* the scan to some position, makes some calls on the way and leaves
the switch, the clock, video RAM and the tile cache alone (`Turned`).  Most of the calls are
`Quiet`: the array accesses of the renderer and the requests of the LCD interrupt.  The others are
landmarks of the scan: a line rendered, a mode entered, VBLANK requested.  Which landmarks there
are, and in which order, is a function of the position alone, and this is what makes statements
about the lines of a picture possible.

There are two invariants of positions.  `ScanPos.Visible` says that the modes which draw occur on
the lines 0 to 143 only.  Stores to LY keep it, and so does every other event.  `ScanPos.Coherent`
says in addition that VBLANK does not occur on these lines; a store to LY during VBLANK breaks it,
so it is only kept as long as nobody makes one.

* `endOfMode_turned`: what the end of a mode does, with its calls in their order.
* `gpuStep_stepped`: what a step does, for any number of ticks.
* `GpuRun.Keeps.gpuStepRun`: the rule for whatever else a step keeps.
* `storeByte_gpu`: what a store does, to any address.
-/

set_option autoImplicit false

namespace GameBloat

open Function (update)

/-! ## The position of the scan -/

/-- A mode and a line. -/
@[ext] structure ScanPos where
  mode : GpuMode
  line : Byte
  deriving DecidableEq

/-- Where the scan stands. -/
def Gpu.pos (g : Gpu) : ScanPos := ⟨g.mode, g.lcdYCoordinate⟩

namespace ScanPos

/-- Where the scan goes when the mode is over.  After HBLANK and during VBLANK it goes on to
another line, and in the other modes it stays on its own. -/
def next : ScanPos → ScanPos
  | ⟨.hblank, line⟩ =>
    if nextLine line = 144 then ⟨.vblank, nextLine line⟩ else ⟨.oamScanline, nextLine line⟩
  | ⟨.vblank, line⟩ =>
    if nextLine line = 0 then ⟨.oamScanline, nextLine line⟩ else ⟨.vblank, nextLine line⟩
  | ⟨.oamScanline, line⟩ => ⟨.vramScanline, line⟩
  | ⟨.vramScanline, line⟩ => ⟨.hblank, line⟩

/-- The scanline that is rendered when the mode is over. -/
def draws (p : ScanPos) : List GpuCall :=
  if p.mode = .vramScanline then [.renderScan p.line] else []

/-- The mode that is entered when the mode is over; in VBLANK that is none before line 0. -/
def enters (p : ScanPos) : List GpuCall :=
  if p.next.mode = p.mode then [] else [.modeChange p.next.mode]

/-- The VBLANK request that comes with entering VBLANK. -/
def requests (p : ScanPos) : List GpuCall :=
  if p.next.mode = .vblank ∧ p.mode ≠ .vblank then [.requestInterrupt vblankInterrupt] else []

/-- The line is a line, and a visible one outside VBLANK.  A store to LY keeps this, since line 0
is visible and VBLANK may happen anywhere.  It is the weaker of the two conditions on a position,
and enough for the bounds of the renderer. -/
def Visible (p : ScanPos) : Prop := p.line.toNat ≤ 153 ∧ (p.mode ≠ .vblank → p.line.toNat ≤ 143)

/-- The line is a line, and VBLANK is what happens outside the visible ones.  A store to LY may
break this, so it is asked for only where there is no such store. -/
def Coherent (p : ScanPos) : Prop := p.line.toNat ≤ 153 ∧ (p.mode = .vblank ↔ 144 ≤ p.line.toNat)

instance (p : ScanPos) : Decidable p.Visible := inferInstanceAs (Decidable (_ ∧ _))

instance (p : ScanPos) : Decidable p.Coherent := inferInstanceAs (Decidable (_ ∧ _))

/-- The stronger of the two. -/
theorem Coherent.visible {p : ScanPos} (h : p.Coherent) : p.Visible :=
  ⟨h.1, fun hm ↦ by have := mt h.2.2 hm; omega⟩

end ScanPos

/-- The next position is a visible one as well, since line 144 is entered in VBLANK. -/
theorem ScanPos.Visible.next {p : ScanPos} (h : p.Visible) : p.next.Visible := by
  have hall : ∀ (mode : GpuMode) (line : Byte), (ScanPos.mk mode line).Visible →
      (ScanPos.mk mode line).next.Visible := by
    intro mode
    cases mode <;> decide
  exact hall p.mode p.line h

/-- The next position is coherent: VBLANK starts with line 144 and is left with line 0. -/
theorem ScanPos.Coherent.next {p : ScanPos} (h : p.Coherent) : p.next.Coherent := by
  have hall : ∀ (mode : GpuMode) (line : Byte), (ScanPos.mk mode line).Coherent →
      (ScanPos.mk mode line).next.Coherent := by
    intro mode
    cases mode <;> decide
  exact hall p.mode p.line h

/-! ## The calls of a step -/

/-- A call that is none of the scan's landmarks: an access of `renderScan` to one of its arrays, or
a request for the LCD interrupt. -/
def GpuCall.Quiet (c : GpuCall) : Prop :=
  (∀ ly, c ≠ .renderScan ly) ∧ (∀ mode, c ≠ .modeChange mode) ∧
    c ≠ .requestInterrupt vblankInterrupt

/-- `w'` comes from `w` by going to the position `pos`, making `calls` on the way.  The switch,
the clock and the picture data are as they were, and no interrupt is but requested.  It is what
one end of a mode does, whichever of the four it is. -/
structure Turned (w w' : GpuRun) (pos : ScanPos) (calls : List GpuCall) : Prop where
  lcdControl : w'.gpu.lcdControl = w.gpu.lcdControl
  modeClock : w'.gpu.modeClock = w.gpu.modeClock
  VRAM : w'.gpu.VRAM = w.gpu.VRAM
  tiles : w'.gpu.tiles = w.gpu.tiles
  requested : w.interruptRegisters.Requested w'.interruptRegisters
  pos : w'.gpu.pos = pos
  calls : w'.calls = w.calls ++ calls

namespace Turned

variable {w w' w'' : GpuRun} {p p' : ScanPos} {l l' : List GpuCall}

/-- Nothing has happened yet. -/
theorem refl (w : GpuRun) : Turned w w w.gpu.pos [] :=
  ⟨rfl, rfl, rfl, rfl, .refl _, rfl, (List.append_nil _).symm⟩

/-- One turn after the other, with the calls of both. -/
theorem trans (h : Turned w w' p l) (h' : Turned w' w'' p' l') : Turned w w'' p' (l ++ l') :=
  ⟨h'.lcdControl.trans h.lcdControl, h'.modeClock.trans h.modeClock, h'.VRAM.trans h.VRAM,
    h'.tiles.trans h.tiles, h.requested.trans h'.requested, h'.pos,
    by rw [h'.calls, h.calls, List.append_assoc]⟩

/-- A call is added to the history. -/
theorem log (w : GpuRun) (c : GpuCall) : Turned w (w.log c) w.gpu.pos [c] :=
  ⟨rfl, rfl, rfl, rfl, .refl _, rfl, rfl⟩

/-- An interrupt is requested. -/
theorem request (w : GpuRun) (bit : Byte) :
    Turned w (w.request bit) w.gpu.pos [.requestInterrupt bit] :=
  ⟨rfl, rfl, rfl, rfl, writeInterrupt_requested _ bit, rfl, rfl⟩

/-- STAT is assigned. -/
theorem setStatus (w : GpuRun) (f : Gpu → Byte) :
    Turned w (w.onGpu fun g ↦ g.setStatus (f g)) w.gpu.pos [] :=
  ⟨rfl, rfl, rfl, rfl, .refl _, rfl, (List.append_nil _).symm⟩

/-- LY is assigned, which moves the scan to another line. -/
theorem setLine (w : GpuRun) (f : Gpu → Byte) :
    Turned w (w.onGpu fun g ↦ g.setLine (f g)) ⟨w.gpu.mode, f w.gpu⟩ [] :=
  ⟨rfl, rfl, rfl, rfl, .refl _, rfl, (List.append_nil _).symm⟩

/-- The mode is assigned. -/
theorem setMode (w : GpuRun) (mode : GpuMode) :
    Turned w (w.onGpu (·.setMode mode)) ⟨mode, w.gpu.lcdYCoordinate⟩ [] :=
  ⟨rfl, rfl, rfl, rfl, .refl _, rfl, (List.append_nil _).symm⟩

end Turned

/-- `w'` comes from `w` by going to the position `pos`, with quiet calls only. -/
def TurnedQuietly (w w' : GpuRun) (pos : ScanPos) : Prop :=
  ∃ calls, (∀ c ∈ calls, c.Quiet) ∧ Turned w w' pos calls

/-- No calls are quiet calls. -/
theorem Turned.quietly {w w' : GpuRun} {p : ScanPos} (h : Turned w w' p []) :
    TurnedQuietly w w' p :=
  ⟨[], List.forall_mem_nil _, h⟩

/-- Quiet turns, one after the other. -/
theorem TurnedQuietly.trans {w w' w'' : GpuRun} {p p' : ScanPos} (h : TurnedQuietly w w' p)
    (h' : TurnedQuietly w' w'' p') : TurnedQuietly w w'' p' := by
  obtain ⟨l, hl, ht⟩ := h
  obtain ⟨l', hl', ht'⟩ := h'
  exact ⟨l ++ l', List.forall_mem_append.2 ⟨hl, hl'⟩, ht.trans ht'⟩

theorem quiet_lcd : GpuCall.Quiet (.requestInterrupt lcdInterrupt) :=
  ⟨fun _ ↦ by simp, fun _ ↦ by simp, by decide⟩

/-- A request of the LCD interrupt, if it is made. -/
theorem requestIfSelected_turned (w : GpuRun) (select : Byte) :
    TurnedQuietly w (w.requestIfSelected select) w.gpu.pos := by
  rw [GpuRun.requestIfSelected]
  split
  · exact ⟨_, List.forall_mem_singleton.2 quiet_lcd, .request w lcdInterrupt⟩
  · exact (Turned.refl w).quietly

/-- `NextScanline` takes the scan to the next line, and may ask for the LCD interrupt. -/
theorem nextScanline_turned (w : GpuRun) :
    TurnedQuietly w (nextScanline w) ⟨w.gpu.mode, nextLine w.gpu.lcdYCoordinate⟩ := by
  have hline := (Turned.setLine w fun g ↦ nextLine g.lcdYCoordinate).quietly
  rw [nextScanline]
  split
  · exact (hline.trans (Turned.setStatus _ _).quietly).trans (requestIfSelected_turned _ _)
  · exact hline.trans (Turned.setStatus _ _).quietly

/-- The first statements of `HandleLCDModeChange`. -/
theorem modeChange_turned (w : GpuRun) (inMode : GpuMode) :
    Turned w ((((w.onGpu (·.setMode inMode)).log (.modeChange inMode)).onGpu fun g ↦
      g.setStatus (g.lcdStatus &&& 0xFC)).onGpu fun g ↦ g.setStatus (g.lcdStatus ||| inMode.toByte))
      ⟨inMode, w.gpu.lcdYCoordinate⟩ [.modeChange inMode] :=
  ⟨rfl, rfl, rfl, rfl, .refl _, rfl, rfl⟩

/-- `HandleLCDModeChange` takes the scan to the mode, and asks for the VBLANK interrupt when that
mode is VBLANK, after any request of the LCD interrupt. -/
theorem handleLCDModeChange_turned (w : GpuRun) (inMode : GpuMode) :
    ∃ quiet, (∀ c ∈ quiet, c.Quiet) ∧
      Turned w (handleLCDModeChange w inMode) ⟨inMode, w.gpu.lcdYCoordinate⟩
        (.modeChange inMode :: (quiet ++
          if inMode = .vblank then [.requestInterrupt vblankInterrupt] else [])) := by
  have hmode := modeChange_turned w inMode
  have hreq := fun select ↦ requestIfSelected_turned ((((w.onGpu (·.setMode inMode)).log
    (.modeChange inMode)).onGpu fun g ↦ g.setStatus (g.lcdStatus &&& 0xFC)).onGpu fun g ↦
      g.setStatus (g.lcdStatus ||| inMode.toByte)) select
  cases inMode with
  | vramScanline => exact ⟨[], List.forall_mem_nil _, hmode⟩
  | vblank =>
    obtain ⟨quiet, hquiet, hreq⟩ := hreq statusMode0IntSelect
    refine ⟨quiet, hquiet, ?_⟩
    have h := (hmode.trans hreq).trans (.request _ vblankInterrupt)
    rw [hreq.pos, List.append_assoc] at h
    exact h
  | hblank =>
    obtain ⟨quiet, hquiet, hreq⟩ := hreq statusMode1IntSelect
    refine ⟨quiet, hquiet, ?_⟩
    rw [if_neg (by simp), List.append_nil]
    exact hmode.trans hreq
  | oamScanline =>
    obtain ⟨quiet, hquiet, hreq⟩ := hreq statusMode2IntSelect
    refine ⟨quiet, hquiet, ?_⟩
    rw [if_neg (by simp), List.append_nil]
    exact hmode.trans hreq

/-! ## Rendering -/

theorem TurnedQuietly.log (w : GpuRun) {c : GpuCall} (hc : c.Quiet) :
    TurnedQuietly w (w.log c) w.gpu.pos :=
  ⟨_, List.forall_mem_singleton.2 hc, .log w c⟩

theorem vramRead_turned (w : GpuRun) (address : ℕ) :
    TurnedQuietly w (w.log (.vramRead address)) w.gpu.pos :=
  .log w ⟨fun _ ↦ by simp, fun _ ↦ by simp, by simp⟩

/-- A pixel makes quiet calls only and stays where it is. -/
theorem plotPixel_turned (w : GpuRun) (v : ScanVars) :
    TurnedQuietly w (plotPixel w v) w.gpu.pos := by
  refine ⟨[.tileRead v.tile.toNat v.y.toNat v.x.toNat,
    .paletteRead (w.gpu.tiles v.tile.toNat v.y.toNat v.x.toNat).toNat,
    .frameWrite v.canvasOffset.toNat], ?_, ⟨rfl, rfl, rfl, rfl, .refl _, rfl, ?_⟩⟩
  · simp [GpuCall.Quiet]
  · simp [plotPixel, GpuRun.log, GpuRun.onGpu]

theorem invalidTile_turned (w : GpuRun) (tile : ℕ) :
    TurnedQuietly w (w.log (.invalidTile tile)) w.gpu.pos :=
  .log w ⟨fun _ ↦ by simp, fun _ ↦ by simp, by simp⟩

/-- One more quiet turn, on the spot. -/
theorem TurnedQuietly.step {w w' w'' : GpuRun} (h : TurnedQuietly w w' w.gpu.pos)
    (h' : TurnedQuietly w' w'' w'.gpu.pos) : TurnedQuietly w w'' w.gpu.pos := by
  have hpos : w'.gpu.pos = w.gpu.pos := by
    obtain ⟨_, _, ht⟩ := h
    exact ht.pos
  rw [hpos] at h'
  exact h.trans h'

/-- A branch, both of whose sides turn quietly to the same position. -/
theorem TurnedQuietly.ite {w a b : GpuRun} {p : ScanPos} {c : Prop} [Decidable c]
    (ha : TurnedQuietly w a p) (hb : TurnedQuietly w b p) :
    TurnedQuietly w (if c then a else b) p := by
  by_cases h : c
  · rwa [if_pos h]
  · rwa [if_neg h]

/-- The loop, by induction on the pixels left; the tiles it meets make no difference to this. -/
theorem renderPixels_turned (n : ℕ) (w : GpuRun) (v : ScanVars) :
    TurnedQuietly w (renderPixels n w v) w.gpu.pos := by
  induction n generalizing w v with
  | zero => exact (Turned.refl w).quietly
  | succ n ih =>
    rw [renderPixels]
    refine (plotPixel_turned w v).step (.ite ?_ (ih _ _))
    refine (vramRead_turned _ v.nextPixel.nextTile.mapAddress.toNat).step ?_
    exact .ite (.ite (invalidTile_turned _ _) (ih _ _)) (ih _ _)

/-- `renderScan` is one landmark with quiet calls behind it. -/
theorem renderScan_turned (w : GpuRun) :
    ∃ quiet, (∀ c ∈ quiet, c.Quiet) ∧
      Turned w (renderScan w) w.gpu.pos (.renderScan w.gpu.lcdYCoordinate :: quiet) := by
  have hlog := Turned.log w (.renderScan w.gpu.lcdYCoordinate)
  have hrest : TurnedQuietly (w.log (.renderScan w.gpu.lcdYCoordinate)) (renderScan w)
      w.gpu.pos := by
    rw [renderScan]
    refine (vramRead_turned _ (scanVars w.gpu).mapAddress.toNat).step ?_
    exact .ite (invalidTile_turned _ _) (renderPixels_turned _ _ _)
  obtain ⟨quiet, hquiet, h⟩ := hrest
  exact ⟨quiet, hquiet, hlog.trans h⟩

/-! ## Ending a mode -/

/-- **What ending a mode does**: it takes the scan to the next position, renders the line on the
way out of VRAM_SCANLINE, records the mode it enters and asks for the VBLANK interrupt on the way
into VBLANK. -/
theorem endOfMode_turned (w : GpuRun) :
    ∃ quiet quiet', (∀ c ∈ quiet, c.Quiet) ∧ (∀ c ∈ quiet', c.Quiet) ∧
      Turned w (endOfMode w) w.gpu.pos.next (w.gpu.pos.draws ++ quiet ++
        (w.gpu.pos.enters ++ (quiet' ++ w.gpu.pos.requests))) := by
  rw [endOfMode]
  cases hmode : w.gpu.mode with
  | hblank =>
    obtain ⟨quiet, hquiet, hline⟩ := nextScanline_turned w
    have hpos : (nextScanline w).gpu.lcdYCoordinate = nextLine w.gpu.lcdYCoordinate :=
      congrArg ScanPos.line hline.pos
    simp only [hpos]
    by_cases h144 : nextLine w.gpu.lcdYCoordinate = 144
    · obtain ⟨quiet', hquiet', h⟩ := handleLCDModeChange_turned (nextScanline w) .vblank
      have hnext : w.gpu.pos.next = ⟨.vblank, nextLine w.gpu.lcdYCoordinate⟩ := by
        rw [Gpu.pos, hmode]
        exact if_pos h144
      refine ⟨quiet, quiet', hquiet, hquiet', ?_⟩
      rw [if_pos h144, ScanPos.draws, ScanPos.enters, ScanPos.requests, hnext]
      rw [hpos] at h
      simpa [Gpu.pos, hmode] using hline.trans h
    · obtain ⟨quiet', hquiet', h⟩ := handleLCDModeChange_turned (nextScanline w) .oamScanline
      have hnext : w.gpu.pos.next = ⟨.oamScanline, nextLine w.gpu.lcdYCoordinate⟩ := by
        rw [Gpu.pos, hmode]
        exact if_neg h144
      refine ⟨quiet, quiet', hquiet, hquiet', ?_⟩
      rw [if_neg h144, ScanPos.draws, ScanPos.enters, ScanPos.requests, hnext]
      rw [hpos] at h
      simpa [Gpu.pos, hmode] using hline.trans h
  | vblank =>
    obtain ⟨quiet, hquiet, hline⟩ := nextScanline_turned w
    have hpos : (nextScanline w).gpu.lcdYCoordinate = nextLine w.gpu.lcdYCoordinate :=
      congrArg ScanPos.line hline.pos
    simp only [hpos]
    by_cases h0 : nextLine w.gpu.lcdYCoordinate = 0
    · obtain ⟨quiet', hquiet', h⟩ := handleLCDModeChange_turned (nextScanline w) .oamScanline
      have hnext : w.gpu.pos.next = ⟨.oamScanline, nextLine w.gpu.lcdYCoordinate⟩ := by
        rw [Gpu.pos, hmode]
        exact if_pos h0
      refine ⟨quiet, quiet', hquiet, hquiet', ?_⟩
      rw [if_pos h0, ScanPos.draws, ScanPos.enters, ScanPos.requests, hnext]
      rw [hpos] at h
      simpa [Gpu.pos, hmode] using hline.trans h
    · have hnext : w.gpu.pos.next = ⟨.vblank, nextLine w.gpu.lcdYCoordinate⟩ := by
        rw [Gpu.pos, hmode]
        exact if_neg h0
      refine ⟨quiet, [], hquiet, List.forall_mem_nil _, ?_⟩
      rw [if_neg h0, ScanPos.draws, ScanPos.enters, ScanPos.requests, hnext]
      rw [hmode] at hline
      simpa [Gpu.pos, hmode] using hline
  | oamScanline =>
    obtain ⟨quiet, hquiet, h⟩ := handleLCDModeChange_turned w .vramScanline
    refine ⟨[], quiet, List.forall_mem_nil _, hquiet, ?_⟩
    simpa [Gpu.pos, hmode, ScanPos.next, ScanPos.draws, ScanPos.enters, ScanPos.requests] using h
  | vramScanline =>
    obtain ⟨quiet, hquiet, hscan⟩ := renderScan_turned w
    obtain ⟨quiet', hquiet', h⟩ := handleLCDModeChange_turned (renderScan w) .hblank
    have hpos : (renderScan w).gpu.lcdYCoordinate = w.gpu.lcdYCoordinate :=
      congrArg ScanPos.line hscan.pos
    refine ⟨quiet, quiet', hquiet, hquiet', ?_⟩
    rw [hpos] at h
    simpa [Gpu.pos, hmode, ScanPos.next, ScanPos.draws, ScanPos.enters, ScanPos.requests]
      using hscan.trans h

/-! ## One step -/

section

variable {w : GpuRun} {tick : CInt}

/-- The LCD is off. -/
theorem gpuStepRun_of_off (h : ¬w.gpu.LcdOn) : gpuStepRun w tick = w := if_neg h

/-- The ticks do not end the mode. -/
theorem gpuStepRun_of_lt (hon : w.gpu.LcdOn)
    (h : (w.gpu.modeClock + tick).toNat < w.gpu.mode.length) :
    gpuStepRun w tick = w.onGpu (·.setClock (w.gpu.modeClock + tick)) := by
  rw [gpuStepRun, if_pos hon]
  exact if_neg (Nat.not_le_of_lt h)

/-- The ticks end the mode, and the rest of them is left on the clock. -/
theorem gpuStepRun_of_le (hon : w.gpu.LcdOn)
    (h : w.gpu.mode.length ≤ (w.gpu.modeClock + tick).toNat) :
    gpuStepRun w tick = endOfMode (w.onGpu
      (·.setClock (w.gpu.modeClock + tick - BitVec.ofNat 32 w.gpu.mode.length))) := by
  rw [gpuStepRun, if_pos hon]
  exact if_pos h

end

/-! ## What every statement keeps -/

/-- Each statement of `gpuStep` and of the functions it calls keeps `P`: the calls to the outside,
and the assignments.  There are seven kinds of them, and a property that is checked for these need
not be followed through the control flow. -/
structure GpuRun.Keeps (P : GpuRun → Prop) : Prop where
  log (w : GpuRun) (call : GpuCall) : P w → P (w.log call)
  request (w : GpuRun) (bit : Byte) : P w → P (w.request bit)
  setMode (w : GpuRun) (mode : GpuMode) : P w → P (w.onGpu (·.setMode mode))
  setClock (w : GpuRun) (clock : BitVec 32) : P w → P (w.onGpu (·.setClock clock))
  setLine (w : GpuRun) (line : Byte) : P w → P (w.onGpu (·.setLine line))
  setStatus (w : GpuRun) (status : Byte) : P w → P (w.onGpu (·.setStatus status))
  setPixel (w : GpuRun) (index : ℕ) (colour : BasicColour) :
    P w → P (w.onGpu (·.setPixel index colour))

namespace GpuRun.Keeps

variable {P : GpuRun → Prop} (hP : Keeps P) {w : GpuRun} (hw : P w)

include hP hw

theorem requestIfSelected (select : Byte) : P (w.requestIfSelected select) := by
  rw [GpuRun.requestIfSelected]
  split
  · exact hP.request w lcdInterrupt hw
  · exact hw

theorem nextScanline : P (nextScanline w) := by
  have hline := hP.setLine w (nextLine w.gpu.lcdYCoordinate) hw
  rw [GameBloat.nextScanline]
  split
  · exact hP.requestIfSelected (hP.setStatus _ _ hline) statusLycIntSelect
  · exact hP.setStatus _ _ hline

theorem handleLCDModeChange (inMode : GpuMode) : P (handleLCDModeChange w inMode) := by
  have hmode := hP.log _ (.modeChange inMode) (hP.setMode w inMode hw)
  have hstatus := hP.setStatus _ (w.gpu.lcdStatus &&& 0xFC ||| inMode.toByte)
    (hP.setStatus _ (w.gpu.lcdStatus &&& 0xFC) hmode)
  cases inMode with
  | hblank => exact hP.requestIfSelected hstatus statusMode1IntSelect
  | oamScanline => exact hP.requestIfSelected hstatus statusMode2IntSelect
  | vramScanline => exact hstatus
  | vblank => exact hP.request _ vblankInterrupt (hP.requestIfSelected hstatus statusMode0IntSelect)

theorem plotPixel (v : ScanVars) : P (plotPixel w v) :=
  hP.log _ _ (hP.setPixel _ _ _ (hP.log _ _ (hP.log _ _ hw)))

/-- The loop, by induction on the pixels left. -/
theorem renderPixels (n : ℕ) (v : ScanVars) : P (renderPixels n w v) := by
  induction n generalizing w v with
  | zero => exact hw
  | succ n ih =>
    have hplot := hP.plotPixel hw v
    have hlog := hP.log _ (.vramRead v.nextPixel.nextTile.mapAddress.toNat) hplot
    rw [GameBloat.renderPixels]
    dsimp only
    split_ifs
    · exact hP.log _ _ hlog
    · exact ih hlog _
    · exact ih hlog _
    · exact ih hplot _

theorem renderScan : P (renderScan w) := by
  have hlog := hP.log _ (.vramRead (scanVars w.gpu).mapAddress.toNat)
    (hP.log w (.renderScan w.gpu.lcdYCoordinate) hw)
  rw [GameBloat.renderScan]
  exact iteInduction (motive := P) (fun _ ↦ hP.log _ _ hlog)
    fun _ ↦ hP.renderPixels hlog _ _

theorem endOfMode : P (endOfMode w) := by
  have hline := hP.nextScanline hw
  rw [GameBloat.endOfMode]
  cases w.gpu.mode with
  | hblank =>
    exact iteInduction (motive := P) (fun _ ↦ hP.handleLCDModeChange hline _)
      fun _ ↦ hP.handleLCDModeChange hline _
  | vblank =>
    exact iteInduction (motive := P) (fun _ ↦ hP.handleLCDModeChange hline _) fun _ ↦ hline
  | oamScanline => exact hP.handleLCDModeChange hw _
  | vramScanline => exact hP.handleLCDModeChange (hP.renderScan hw) _

/-- **What every statement keeps, `gpuStep` keeps.** -/
theorem gpuStepRun (tick : CInt) : P (gpuStepRun w tick) := by
  by_cases hon : w.gpu.LcdOn
  · rcases Nat.lt_or_ge (w.gpu.modeClock + tick).toNat w.gpu.mode.length with h | h
    · exact gpuStepRun_of_lt hon h ▸ hP.setClock w _ hw
    · exact gpuStepRun_of_le hon h ▸ hP.endOfMode (hP.setClock w _ hw)
  · exact (gpuStepRun_of_off hon).symm ▸ hw

end GpuRun.Keeps

/-- What a `gpuStep` that takes `m` to `m'` and makes `calls` has done: moved the clock and
nothing else, or ended the mode.  The invariants of the scan are derived from this. -/
inductive Stepped (m m' : Machine) (calls : List GpuCall) : Prop
  | stays (clock : BitVec 32) (hm : m' = { m with gpu := m.gpu.setClock clock })
      (hcalls : calls = [])
  | turns (quiet quiet' : List GpuCall) (hquiet : ∀ c ∈ quiet, c.Quiet)
      (hquiet' : ∀ c ∈ quiet', c.Quiet) (hlcdControl : m'.gpu.lcdControl = m.gpu.lcdControl)
      (hVRAM : m'.gpu.VRAM = m.gpu.VRAM) (htiles : m'.gpu.tiles = m.gpu.tiles)
      (hrequested : m.interruptRegisters.Requested m'.interruptRegisters)
      (hpos : m'.gpu.pos = m.gpu.pos.next)
      (hcalls : calls = m.gpu.pos.draws ++ quiet ++
        (m.gpu.pos.enters ++ (quiet' ++ m.gpu.pos.requests)))

/-- **One step of the GPU**, for any number of ticks. -/
theorem gpuStep_stepped (m : Machine) (tick : CInt) :
    Stepped m (gpuStep m tick) (gpuStepCalls m tick) := by
  by_cases hon : m.gpu.LcdOn
  · rcases Nat.lt_or_ge (m.gpu.modeClock + tick).toNat m.gpu.mode.length with h | h
    · have hrun := gpuStepRun_of_lt (w := m.gpuRun) hon h
      refine .stays (m.gpu.modeClock + tick) ?_ ?_
      · rw [gpuStep, hrun]; rfl
      · rw [gpuStepCalls, hrun]; rfl
    · have hrun := gpuStepRun_of_le (w := m.gpuRun) hon h
      obtain ⟨quiet, quiet', hquiet, hquiet', ht⟩ := endOfMode_turned (m.gpuRun.onGpu
        (·.setClock (m.gpu.modeClock + tick - BitVec.ofNat 32 m.gpu.mode.length)))
      refine .turns quiet quiet' hquiet hquiet' ?_ ?_ ?_ ?_ ?_ ?_
      · rw [gpuStep, hrun]; exact ht.lcdControl
      · rw [gpuStep, hrun]; exact ht.VRAM
      · rw [gpuStep, hrun]; exact ht.tiles
      · rw [gpuStep, hrun]; exact ht.requested
      · rw [gpuStep, hrun]; exact ht.pos
      · rw [gpuStepCalls, hrun]; exact ht.calls
  · have hrun : gpuStepRun m.gpuRun tick = m.gpuRun := gpuStepRun_of_off hon
    refine .stays m.gpu.modeClock ?_ ?_
    · rw [gpuStep, hrun]; rfl
    · rw [gpuStepCalls, hrun]; rfl

/-- A step moves nothing but the clock, or goes to the next position. -/
theorem Stepped.pos {m m' : Machine} {calls : List GpuCall} (h : Stepped m m' calls) :
    m'.gpu.pos = m.gpu.pos ∨ m'.gpu.pos = m.gpu.pos.next := by
  cases h with
  | stays clock hm hcalls => exact .inl (hm ▸ rfl)
  | turns _ _ _ _ _ _ _ _ hpos => exact .inr hpos

/-- A step leaves LCDC alone. -/
theorem Stepped.lcdControl {m m' : Machine} {calls : List GpuCall} (h : Stepped m m' calls) :
    m'.gpu.lcdControl = m.gpu.lcdControl := by
  cases h with
  | stays clock hm hcalls => exact hm ▸ rfl
  | turns _ _ _ _ hlcdControl => exact hlcdControl

/-- A step leaves the tile cache alone. -/
theorem Stepped.tiles {m m' : Machine} {calls : List GpuCall} (h : Stepped m m' calls) :
    m'.gpu.tiles = m.gpu.tiles := by
  cases h with
  | stays clock hm hcalls => exact hm ▸ rfl
  | turns _ _ _ _ _ _ htiles => exact htiles

/-- A step requests interrupts and does nothing else to the interrupt registers. -/
theorem Stepped.requested {m m' : Machine} {calls : List GpuCall} (h : Stepped m m' calls) :
    m.interruptRegisters.Requested m'.interruptRegisters := by
  cases h with
  | stays clock hm hcalls => exact hm ▸ .refl _
  | turns _ _ _ _ _ _ _ hrequested => exact hrequested

/-! ## One store -/

/-- Every entry of the tile cache is one of the four colours. -/
def FourColours (tiles : ℕ → ℕ → ℕ → Byte) : Prop := ∀ tile y x, (tiles tile y x).toNat ≤ 3

/-- What a store to `address` can do to the GPU. -/
inductive GpuWrite (g : Gpu) (address : Word) : Gpu → Prop
  /-- Nothing the scan keeps or draws from. -/
  | other {g' : Gpu} (h : g.SameScan g') : GpuWrite g address g'
  /-- Picture data. -/
  | vram (VRAM : ℕ → Byte) (tiles : ℕ → ℕ → ℕ → Byte)
      (h : FourColours g.tiles → FourColours tiles) :
      GpuWrite g address { g with VRAM, tiles }
  /-- The LCD goes off, and the scan back to the start of line 0. -/
  | off (value : Byte) (haddress : address = 0xFF40) (h : value &&& lcdDisplayEnable = 0) :
      GpuWrite g address { g with
        lcdControl := value
        lcdYCoordinate := 0
        modeClock := 0
        mode := .hblank
        lcdStatus := g.lcdStatus &&& 0xF8 }
  /-- The LCD goes or stays on, and the scan where it is. -/
  | on (value : Byte) (haddress : address = 0xFF40) (h : value &&& lcdDisplayEnable ≠ 0) :
      GpuWrite g address
        { g with lcdControl := value, lcdStatus := g.lcdStatus &&& 0xF8 ||| g.mode.toByte }
  /-- The line counter goes to 0. -/
  | line (haddress : address = 0xFF44) : GpuWrite g address (g.setLine 0)

/-- A pixel of a tile is one of the four colours. -/
theorem toNat_tilePixel_le (lsb msb : Byte) (pixel : ℕ) : (tilePixel lsb msb pixel).toNat ≤ 3 := by
  rw [tilePixel]
  split <;> split <;> decide

/-- Assigning one of the four colours. -/
theorem FourColours.setTile {tiles : ℕ → ℕ → ℕ → Byte} (h : FourColours tiles) {value : Byte}
    (hvalue : value.toNat ≤ 3) (tile subRow pixel : ℕ) :
    FourColours (setTile tiles tile subRow pixel value) := by
  intro t y x
  rw [GameBloat.setTile]
  by_cases ht : t = tile
  · by_cases hy : y = subRow
    · by_cases hx : x = pixel
      · rwa [ht, hy, hx, Function.update_self, Function.update_self, Function.update_self]
      · rw [ht, hy, Function.update_self, Function.update_self, Function.update_of_ne hx]
        exact h _ _ _
    · rw [ht, Function.update_self, Function.update_of_ne hy]
      exact h _ _ _
  · rw [Function.update_of_ne ht]
    exact h _ _ _

/-- `updateTile` assigns nothing else, in each of its eight rounds. -/
theorem FourColours.updateTile {g : Gpu} (h : FourColours g.tiles) (addr : Word) :
    FourColours (updateTile g addr).tiles := by
  rw [GameBloat.updateTile]
  refine List.foldlRecOn _ _ h fun tiles htiles pixel _ ↦ ?_
  exact htiles.setTile (toNat_tilePixel_le _ _ _) _ _ _

/-- A store to video RAM. -/
theorem gpuWriteByte_write (g : Gpu) (address value) :
    GpuWrite g address (gpuWriteByte g address value).1 := by
  rw [gpuWriteByte]
  by_cases hv : (address - 0x8000).toNat < 0x2000
  · rw [if_pos hv]
    by_cases ht : address.toNat < 0x1800
    · simp only [if_pos ht]
      refine .vram (update g.VRAM (address - 0x8000).toNat value) _ fun h ↦ ?_
      exact FourColours.updateTile
        (g := { g with VRAM := update g.VRAM (address - 0x8000).toNat value }) h (address - 0x8000)
    · simp only [if_neg ht]
      exact .vram _ _ id
  · rw [if_neg hv]
    exact .other ⟨rfl, rfl, rfl, rfl, rfl, rfl, rfl⟩

/-- A store to a register: LCDC and LY are special, and all others leave the scan alone. -/
theorem gpuWriteRegister_write (g : Gpu) (address value) :
    GpuWrite g address (gpuWriteRegister g address value).1 := by
  by_cases h40 : address = 0xFF40
  · subst h40
    rw [gpuWriteRegister_lcdControl]
    split
    · exact .off value rfl ‹_›
    · exact .on value rfl ‹_›
  by_cases h44 : address = 0xFF44
  · subst h44
    exact .line rfl
  · exact .other (gpuWriteRegister_sameScan g value h40 h44)

/-- **One store**, to any address. -/
theorem storeByte_gpu (m : Machine) (address : Word) (value : Byte) :
    GpuWrite m.gpu address (storeByte m address value).gpu := by
  have hsame : m.gpu.SameScan m.gpu := ⟨rfl, rfl, rfl, rfl, rfl, rfl, rfl⟩
  have heffect := storeByte_effect m address value
  generalize storeByte m address value = m' at heffect
  cases heffect with
  | cartridge => exact .other hsame
  | vram => exact gpuWriteByte_write _ _ _
  | gpuRegister => exact gpuWriteRegister_write _ _ _
  | memory => exact .other hsame
  | interrupt => exact .other hsame

end GameBloat
