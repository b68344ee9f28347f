import GameBloat.Loop

/-!
# The renderer stays inside its arrays

`renderScan` checks neither LY nor the numbers it reads from video RAM.  What keeps it inside the
frame buffer is that VRAM_SCANLINE only happens on visible lines (`ScanPos.Visible`), which every
event keeps, writes to LCDC and LY included; what keeps it inside `tiles` and `Palette` is the
range of its locals (`ScanVars.InRange`), which the loop keeps, and that the tile cache holds four
colours only.

The loop appends to the history every access it makes, with its index, before it is known whether
the index is in range.  `Draws` says of two states of the GPU that the second comes from the first
by assigning a stretch of the frame buffer, entry by entry and each of them once, with accesses in
between that are all in bounds.  It is closed under composition, which gives the loop by induction
on the number of pixels left: the stretch of one pixel, then the stretch of the rest.

Two of the ranges are less than obvious.

* `mapOffset` is 0x1800 or 0x1C00 plus the number of a line of tiles, at most 31, so with
  `lineOffset` the map is read at 0x1C3E at most, which is inside video RAM.
* A tile number is a byte, to which 256 is added only if it is below 128: at most 383, the last
  tile.  The two tests for an invalid number and their early returns are therefore never taken,
  and a line that is begun is completed.

Both halves of what the renderer relies on, `Gpu.Sound`, hold after a reset and are kept by every
event, so they hold in every state that any events lead to, in any order (`ReachedBy.sound`), the
stores of an arbitrary program among them.  `renderScan_in_bounds` is then a statement about one
step from such a state.
-/

set_option autoImplicit false

namespace GameBloat

/-- The call stays inside the arrays it indexes, and is not the early return.  C does not check an
index; the model logs each of them instead, before it is used, so that the question can be put
about the log. -/
def GpuCall.InBounds : GpuCall → Prop
  | .vramRead address => address < vramSize
  | .tileRead tile y x => tile < tileCount ∧ y < 8 ∧ x < 8
  | .paletteRead colour => colour < palette.length
  | .frameWrite index => index < frameBufferSize
  | .invalidTile _ => False
  | _ => True

/-- The entry of the frame buffer a call assigns. -/
def frameWritten : GpuCall → Option ℕ
  | .frameWrite index => some index
  | _ => none

/-! ## What has been drawn -/

/-- `w'` comes from `w` by assigning the `count` entries of the frame buffer from `start` on, one
after the other and each once, without leaving an array.  The renderer draws one pixel in each
round, so that this composes along its loop. -/
structure Draws (w w' : GpuRun) (start count : ℕ) : Prop where
  tiles : w'.gpu.tiles = w.gpu.tiles
  frameBuffer : ∀ i, i < start ∨ start + count ≤ i → w'.gpu.frameBuffer i = w.gpu.frameBuffer i
  calls : ∃ calls, w'.calls = w.calls ++ calls ∧ (∀ c ∈ calls, c.InBounds) ∧
    calls.filterMap frameWritten = List.range' start count

namespace Draws

variable {w w' w'' : GpuRun} {start n k : ℕ}

/-- Nothing has been drawn yet. -/
theorem refl (w : GpuRun) (start : ℕ) : Draws w w start 0 :=
  ⟨rfl, fun _ _ ↦ rfl, [], (List.append_nil _).symm, List.forall_mem_nil _, rfl⟩

/-- One stretch after the other. -/
theorem trans (h : Draws w w' start n) (h' : Draws w' w'' (start + n) k) :
    Draws w w'' start (n + k) := by
  obtain ⟨calls, hcalls, hin, hwritten⟩ := h.calls
  obtain ⟨calls', hcalls', hin', hwritten'⟩ := h'.calls
  refine ⟨h'.tiles.trans h.tiles, fun i hi ↦ ?_, calls ++ calls', ?_, ?_, ?_⟩
  · rw [h'.frameBuffer i (by omega), h.frameBuffer i (by omega)]
  · rw [hcalls', hcalls, List.append_assoc]
  · exact List.forall_mem_append.2 ⟨hin, hin'⟩
  · rw [List.filterMap_append, hwritten, hwritten', List.range'_append_1]

/-- What draws nothing may come first or last. -/
theorem after (h' : Draws w' w'' start n) (h : Draws w w' start 0) : Draws w w'' start n := by
  have := h.trans (Nat.add_zero start ▸ h')
  rwa [Nat.zero_add] at this

/-- A call that assigns nothing and stays inside its array. -/
theorem log (w : GpuRun) (start : ℕ) {c : GpuCall} (hin : c.InBounds)
    (hwritten : frameWritten c = none) : Draws w (w.log c) start 0 :=
  ⟨rfl, fun _ _ ↦ rfl, [c], rfl, List.forall_mem_singleton.2 hin, by simp [hwritten]⟩

/-- A request for an interrupt draws nothing. -/
theorem request (w : GpuRun) (start : ℕ) (bit : Byte) : Draws w (w.request bit) start 0 :=
  ⟨rfl, fun _ _ ↦ rfl, [.requestInterrupt bit], rfl, List.forall_mem_singleton.2 trivial, rfl⟩

theorem requestIfSelected (w : GpuRun) (start : ℕ) (select : Byte) :
    Draws w (w.requestIfSelected select) start 0 := by
  rw [GpuRun.requestIfSelected]
  split
  · exact request w start _
  · exact refl w start

/-- A mode change draws nothing. -/
theorem handleLCDModeChange (w : GpuRun) (start : ℕ) (inMode : GpuMode) :
    Draws w (handleLCDModeChange w inMode) start 0 := by
  have hmode : Draws w ((((w.onGpu (·.setMode inMode)).log (.modeChange inMode)).onGpu
      fun g ↦ g.setStatus (g.lcdStatus &&& 0xFC)).onGpu
      fun g ↦ g.setStatus (g.lcdStatus ||| inMode.toByte)) start 0 :=
    ⟨rfl, fun _ _ ↦ rfl, [.modeChange inMode], rfl, List.forall_mem_singleton.2 trivial, rfl⟩
  cases inMode with
  | hblank => exact (requestIfSelected _ start _).after hmode
  | oamScanline => exact (requestIfSelected _ start _).after hmode
  | vramScanline => exact hmode
  | vblank => exact ((request _ start _).after (requestIfSelected _ start _)).after hmode

end Draws

/-! ## The locals of renderScan -/

/-- The ranges of the locals.  With 32 tiles in a line of the map and 32 lines, `mapOffset` and
`lineOffset` add up to an offset inside video RAM.  They are an invariant of the loop, and nothing
else about the locals matters to the bounds. -/
structure ScanVars.InRange (v : ScanVars) : Prop where
  mapOffset : v.mapOffset.toNat ≤ 0x1C1F
  lineOffset : v.lineOffset.toNat ≤ 31
  x : v.x.toNat < 8
  y : v.y.toNat < 8
  tile : v.tile.toNat < 384

/-- The three masks of `renderScan`: a pixel in its tile, a tile in its line, and a line of
tiles. -/
theorem toNat_and_mask_lt (b : Byte) : (b &&& 7).toNat < 8 ∧ (b &&& 31).toNat ≤ 31 ∧
    (b >>> 3).toNat ≤ 31 := by
  revert b
  decide

namespace ScanVars.InRange

variable {v : ScanVars}

/-- The locals start in range, whatever the scroll registers and LY are. -/
theorem scanVars (g : Gpu) : (scanVars g).InRange := by
  refine ⟨?_, (toNat_and_mask_lt _).2.2, (toNat_and_mask_lt _).1, (toNat_and_mask_lt _).1,
    show (0 : ℕ) < 384 by decide⟩
  have hline := (toNat_and_mask_lt (g.lcdYCoordinate + g.scrollY)).2.2
  simp only [GameBloat.scanVars]
  split <;> bv_omega

/-- A tile number that has just been read is a byte. -/
theorem fetchTile (h : v.InRange) (g : Gpu) : (v.fetchTile g).InRange := by
  refine ⟨h.mapOffset, h.lineOffset, h.x, h.y, ?_⟩
  have := (gpuReadByte g v.mapAddress).isLt
  simp only [ScanVars.fetchTile, BitVec.toNat_setWidth]
  omega

/-- 256 is added only to the first 128 numbers. -/
theorem shiftTile (h : v.InRange) (htile : v.tile.toNat < 128) : v.shiftTile.InRange := by
  refine ⟨h.mapOffset, h.lineOffset, h.x, h.y, ?_⟩
  simp only [ScanVars.shiftTile]
  bv_omega

/-- `x` goes on, unless the tile is finished. -/
theorem nextPixel (h : v.InRange) (hx : v.nextPixel.x ≠ 8) : v.nextPixel.InRange := by
  refine ⟨h.mapOffset, h.lineOffset, ?_, h.y, h.tile⟩
  have := h.x
  simp only [ScanVars.nextPixel] at hx ⊢
  bv_omega

/-- `x` starts again, and `lineOffset` wraps around at 32. -/
theorem nextTile (h : v.InRange) : v.nextPixel.nextTile.InRange :=
  ⟨h.mapOffset, (toNat_and_mask_lt _).2.1, show (0 : ℕ) < 8 by decide, h.y, h.tile⟩

/-- The map is inside video RAM. -/
theorem mapAddress (h : v.InRange) : v.mapAddress.toNat < vramSize := by
  have h1 := h.mapOffset
  have h2 := h.lineOffset
  rw [ScanVars.mapAddress, vramSize]
  bv_omega

/-- A tile that is shifted was one of the first 128. -/
theorem shiftTile_of_shifts (h : v.InRange) {g : Gpu} (hshift : shiftsTile g v.tile) :
    v.shiftTile.InRange := by
  rw [shiftsTile, Bool.and_eq_true, decide_eq_true_eq, decide_eq_true_eq] at hshift
  exact h.shiftTile hshift.2

end ScanVars.InRange

/-! ## The loop -/

@[simp] theorem GpuRun.log_gpu (w : GpuRun) (c : GpuCall) : (w.log c).gpu = w.gpu := rfl

/-- One pixel: three accesses, all in bounds, and one entry of the frame buffer assigned. -/
theorem plotPixel_draws {w : GpuRun} {v : ScanVars} (hv : v.InRange)
    (htiles : FourColours w.gpu.tiles) (hoffset : v.canvasOffset.toNat < frameBufferSize) :
    Draws w (plotPixel w v) v.canvasOffset.toNat 1 := by
  refine ⟨rfl, fun i hi ↦ Function.update_of_ne (by omega) _ _,
    [.tileRead v.tile.toNat v.y.toNat v.x.toNat,
      .paletteRead (w.gpu.tiles v.tile.toNat v.y.toNat v.x.toNat).toNat,
      .frameWrite v.canvasOffset.toNat], ?_, ?_, rfl⟩
  · simp [plotPixel, GpuRun.log, GpuRun.onGpu]
  · rintro c (_ | ⟨_, _ | ⟨_, _ | ⟨_, ⟨⟩⟩⟩⟩)
    · exact ⟨hv.tile, hv.y, hv.x⟩
    · exact Nat.lt_succ_of_le (htiles _ _ _)
    · exact hoffset

/-- The loop draws its `n` pixels, whatever tiles it meets on the way.  The induction is on the
pixels still to draw, for all values of the locals in range: one pixel, then a tile if it is time
for one, then the rest. -/
theorem renderPixels_draws (n : ℕ) {w : GpuRun} {v : ScanVars} (hv : v.InRange)
    (htiles : FourColours w.gpu.tiles) (hoffset : v.canvasOffset.toNat + n ≤ frameBufferSize) :
    Draws w (renderPixels n w v) v.canvasOffset.toNat n := by
  induction n generalizing w v with
  | zero => exact .refl w _
  | succ n ih =>
    have hpixel := plotPixel_draws hv htiles (by omega)
    have hnext : v.nextPixel.canvasOffset.toNat = v.canvasOffset.toNat + 1 := by
      rw [frameBufferSize] at hoffset
      simp only [ScanVars.nextPixel]
      bv_omega
    rw [renderPixels, Nat.add_comm n 1]
    refine hpixel.trans ?_
    rw [← hnext]
    have htiles' : FourColours (plotPixel w v).gpu.tiles := htiles
    have hleft : v.nextPixel.canvasOffset.toNat + n ≤ frameBufferSize := by omega
    by_cases h8 : v.nextPixel.x = 8
    · -- the next tile
      have hfetch := Draws.log (plotPixel w v) v.nextPixel.canvasOffset.toNat
        (c := .vramRead v.nextPixel.nextTile.mapAddress.toNat) hv.nextTile.mapAddress rfl
      have hv' := hv.nextTile.fetchTile (plotPixel w v).gpu
      rw [if_pos h8]
      refine Draws.after ?_ hfetch
      dsimp +instances only [GpuRun.log_gpu]
      split
      · have hshift := hv'.shiftTile_of_shifts ‹_›
        rw [if_neg (Nat.not_lt_of_le (Nat.le_of_lt_succ hshift.tile))]
        exact ih hshift htiles' hleft
      · exact ih hv' htiles' hleft
    · rw [if_neg h8]
      exact ih (hv.nextPixel h8) htiles' hleft

/-- **`renderScan` on a visible line** assigns the 160 entries of that line. -/
theorem renderScan_draws {w : GpuRun} (hline : w.gpu.lcdYCoordinate.toNat ≤ 143)
    (htiles : FourColours w.gpu.tiles) :
    Draws w (renderScan w) (w.gpu.lcdYCoordinate.toNat * 160) 160 := by
  have hv := ScanVars.InRange.scanVars w.gpu
  have hoffset : (scanVars w.gpu).canvasOffset.toNat = w.gpu.lcdYCoordinate.toNat * 160 := by
    simp only [scanVars]
    bv_omega
  have hlog := Draws.log w (scanVars w.gpu).canvasOffset.toNat
    (c := .renderScan w.gpu.lcdYCoordinate) trivial rfl
  have hfetch := Draws.log (w.log (.renderScan w.gpu.lcdYCoordinate))
    (scanVars w.gpu).canvasOffset.toNat
    (c := .vramRead (scanVars w.gpu).mapAddress.toNat) hv.mapAddress rfl
  have hrest {v : ScanVars} (hv : v.InRange)
      (hsame : v.canvasOffset = (scanVars w.gpu).canvasOffset) :
      Draws ((w.log (.renderScan w.gpu.lcdYCoordinate)).log
        (.vramRead (scanVars w.gpu).mapAddress.toNat))
        (renderPixels 160 ((w.log (.renderScan w.gpu.lcdYCoordinate)).log
          (.vramRead (scanVars w.gpu).mapAddress.toNat)) v)
        (scanVars w.gpu).canvasOffset.toNat 160 :=
    hsame ▸ renderPixels_draws 160 hv htiles (by rw [hsame, hoffset, frameBufferSize]; omega)
  have hv' := hv.fetchTile w.gpu
  rw [← hoffset, renderScan]
  refine Draws.after (Draws.after ?_ hfetch) hlog
  dsimp +instances only [GpuRun.log_gpu]
  by_cases hshifts : shiftsTile w.gpu ((scanVars w.gpu).fetchTile w.gpu).tile
  · have hshift := hv'.shiftTile_of_shifts hshifts
    rw [if_pos hshifts, if_neg (Nat.not_lt_of_le (Nat.le_of_lt_succ hshift.tile))]
    exact hrest hshift rfl
  · rw [if_neg hshifts, if_neg (Nat.not_lt_of_le (Nat.le_of_lt_succ hv'.tile))]
    exact hrest hv' rfl

/-! ## Every reachable state -/

/-- What the renderer relies on.  The first half keeps it inside the frame buffer, and the second
inside the palette.  Both are kept by every event, also by those that store to video RAM or to the
registers. -/
structure Gpu.Sound (g : Gpu) : Prop where
  pos : g.pos.Visible
  tiles : FourColours g.tiles

/-- A reset leaves the scan on line 153 in VBLANK and clears the tile cache. -/
theorem gpuReset_sound (g : Gpu) : (gpuReset g).Sound :=
  ⟨show (ScanPos.mk .vblank 153).Visible by decide, fun _ _ _ ↦ Nat.zero_le 3⟩

/-- A store to LCDC or LY that moves the scan moves it to line 0. -/
theorem GpuWrite.sound {g g' : Gpu} {address : Word} (h : GpuWrite g address g')
    (hg : g.Sound) : g'.Sound := by
  cases h with
  | other h =>
    have hpos : g'.pos = g.pos := ScanPos.ext h.mode h.lcdYCoordinate
    exact ⟨hpos ▸ hg.pos, h.tiles ▸ hg.tiles⟩
  | vram VRAM tiles h => exact ⟨hg.pos, h hg.tiles⟩
  | off => exact ⟨show (ScanPos.mk .hblank 0).Visible by decide, hg.tiles⟩
  | on => exact ⟨hg.pos, hg.tiles⟩
  | line => exact ⟨⟨Nat.zero_le _, fun _ ↦ Nat.zero_le _⟩, hg.tiles⟩

/-- Ticks keep the GPU sound, however many they are. -/
theorem gpuStep_sound {m : Machine} (hm : m.gpu.Sound) (tick : CInt) :
    (gpuStep m tick).gpu.Sound := by
  have hstep := gpuStep_stepped m tick
  refine ⟨?_, hstep.tiles ▸ hm.tiles⟩
  rcases hstep.pos with h | h
  · exact h ▸ hm.pos
  · exact h ▸ hm.pos.next

/-- Every event keeps the GPU sound. -/
theorem Event.step_sound {m : Machine} (hm : m.gpu.Sound) (e : Event) :
    (gameboy.step m e).gpu.Sound := by
  have hwrite (g : Gpu) (address : Word) (g' : Gpu) (h : GpuWrite g address g') (hg : g.Sound) :
      g'.Sound := h.sound hg
  cases e with
  | loopCycle => exact interruptStep_gpu hwrite (gpuStep_sound (cpuStep_gpu hwrite hm) _)
  | gpuStep tick => exact gpuStep_sound hm tick
  | mmuWriteByte address value => exact hwrite _ _ _ (storeByte_gpu m address value) hm
  | clock time => exact hm

/-- **The GPU is sound in every reachable state.** -/
theorem ReachedBy.sound {allowed : Event → Prop} {m : Machine} (h : ReachedBy allowed m) :
    m.gpu.Sound :=
  h.invariant (I := fun m ↦ m.gpu.Sound) (fun m ↦ gpuReset_sound m.gpu) fun _ e _ hm ↦
    Event.step_sound hm e

/-! ## One step -/

/-- A `gpuStep` that renders a line is at the end of VRAM_SCANLINE on it. -/
theorem gpuStep_renders {m : Machine} {tick : CInt} {ly : Byte}
    (h : .renderScan ly ∈ gpuStepCalls m tick) :
    ly = m.gpu.lcdYCoordinate ∧ m.gpu.mode = .vramScanline := by
  cases gpuStep_stepped m tick with
  | stays clock hm hcalls => exact absurd (hcalls ▸ h) List.not_mem_nil
  | turns quiet quiet' hquiet hquiet' _ _ _ _ _ hcalls =>
    have hnot {l : List GpuCall} (hl : ∀ c ∈ l, c.Quiet) : .renderScan ly ∉ l :=
      fun hc ↦ (hl _ hc).1 ly rfl
    have henters : .renderScan ly ∉ m.gpu.pos.enters := by
      rw [ScanPos.enters]
      split <;> simp
    have hrequests : .renderScan ly ∉ m.gpu.pos.requests := by
      rw [ScanPos.requests]
      split <;> simp
    have hdraws : .renderScan ly ∈ m.gpu.pos.draws := by
      simpa [hcalls, hnot hquiet, hnot hquiet', henters, hrequests] using h
    rw [ScanPos.draws] at hdraws
    split at hdraws
    · rw [List.mem_singleton] at hdraws
      exact ⟨GpuCall.renderScan.inj hdraws, ‹_›⟩
    · exact absurd hdraws List.not_mem_nil

/-- A `gpuStep` that renders a line draws the 160 entries of that line. -/
theorem gpuStep_draws {m : Machine} (hm : m.gpu.Sound) {tick : CInt} {ly : Byte}
    (h : .renderScan ly ∈ gpuStepCalls m tick) :
    ly.toNat ≤ 143 ∧ Draws m.gpuRun (gpuStepRun m.gpuRun tick) (ly.toNat * 160) 160 := by
  obtain ⟨rfl, hmode⟩ := gpuStep_renders h
  have hline : m.gpu.lcdYCoordinate.toNat ≤ 143 := by
    refine hm.pos.2 ?_
    rw [Gpu.pos, hmode]
    exact GpuMode.noConfusion
  refine ⟨hline, ?_⟩
  rw [gpuStepCalls] at h
  by_cases hon : m.gpu.LcdOn
  · rcases Nat.lt_or_ge (m.gpu.modeClock + tick).toNat m.gpu.mode.length with hlt | hle
    · rw [gpuStepRun_of_lt (w := m.gpuRun) hon hlt] at h
      exact absurd h List.not_mem_nil
    · rw [gpuStepRun_of_le (w := m.gpuRun) hon hle]
      generalize m.gpuRun.gpu.modeClock + tick - BitVec.ofNat 32 m.gpuRun.gpu.mode.length = clock
      have hend : endOfMode (m.gpuRun.onGpu (·.setClock clock)) =
          handleLCDModeChange (renderScan (m.gpuRun.onGpu (·.setClock clock))) .hblank := by
        rw [endOfMode, show (m.gpuRun.onGpu (·.setClock clock)).gpu.mode = .vramScanline from hmode]
      have hclock : Draws m.gpuRun (m.gpuRun.onGpu (·.setClock clock))
          (m.gpu.lcdYCoordinate.toNat * 160) 0 :=
        ⟨rfl, fun _ _ ↦ rfl, [], rfl, List.forall_mem_nil _, rfl⟩
      have hscan := renderScan_draws (w := m.gpuRun.onGpu (·.setClock clock)) hline hm.tiles
      rw [hend]
      exact (hscan.trans (Draws.handleLCDModeChange _ _ .hblank)).after hclock
  · rw [gpuStepRun_of_off (w := m.gpuRun) hon] at h
    exact absurd h List.not_mem_nil

/-- **The renderer stays inside its arrays**, in every state that any events lead to.  It reads
video RAM, the tile cache and the palette, and it assigns the entries of its own line of the frame
buffer, each of them once and no others. -/
theorem renderScan_in_bounds {m : Machine} (hm : ReachedBy (fun _ ↦ True) m) {tick : CInt}
    {ly : Byte} (h : .renderScan ly ∈ gpuStepCalls m tick) :
    ly = m.gpu.lcdYCoordinate ∧ ly.toNat ≤ 143 ∧
      (∀ address, .vramRead address ∈ gpuStepCalls m tick → address < 0x2000) ∧
      (∀ tile y x, .tileRead tile y x ∈ gpuStepCalls m tick → tile < 384 ∧ y < 8 ∧ x < 8) ∧
      (∀ colour, .paletteRead colour ∈ gpuStepCalls m tick → colour < 4) ∧
      (∀ tile, .invalidTile tile ∉ gpuStepCalls m tick) ∧
      (gpuStepCalls m tick).filterMap frameWritten = List.range' (ly.toNat * 160) 160 ∧
      (∀ index, .frameWrite index ∈ gpuStepCalls m tick → index < 23040) ∧
      ∀ index, index < ly.toNat * 160 ∨ ly.toNat * 160 + 160 ≤ index →
        (gpuStep m tick).gpu.frameBuffer index = m.gpu.frameBuffer index := by
  obtain ⟨hline, hdraws⟩ := gpuStep_draws hm.sound h
  obtain ⟨calls, hcalls, hin, hwritten⟩ := hdraws.calls
  have hcalls : gpuStepCalls m tick = calls := hcalls
  rw [hcalls]
  exact ⟨(gpuStep_renders h).1, hline, fun _ hc ↦ hin _ hc, fun _ _ _ hc ↦ hin _ hc,
    fun _ hc ↦ hin _ hc, fun _ hc ↦ hin _ hc, hwritten, fun _ hc ↦ hin _ hc, hdraws.frameBuffer⟩

/-- The first line after a reset, a store that switches the LCD on, and the time until then. -/
theorem renderScan_in_bounds_line0 :
    (gpuStepCalls (gameboy.run Machine.powerOn.gpuReset
      [.mmuWriteByte 0xFF40 0x80, .gpuStep 456, .gpuStep 80]) 172).filterMap frameWritten =
      List.range' 0 160 :=
  have hline : .renderScan 0 ∈ gpuStepCalls (gameboy.run Machine.powerOn.gpuReset
      [.mmuWriteByte 0xFF40 0x80, .gpuStep 456, .gpuStep 80]) 172 := by decide +kernel
  (renderScan_in_bounds ⟨Machine.powerOn, _, fun _ _ ↦ trivial, rfl⟩ hline).2.2.2.2.2.2.1

end GameBloat
