import GameBloat.Gpu.Registers
import GameBloat.Interrupt.Registers

/-!
# The scan: `gpuStep` and what it calls

The half of `gpu.c` that time drives: `gpuStep` adds ticks to `modeClock` and, when the current
mode is over, makes the one mode change the clock has earned.

`GpuRun` is what these functions work on: the GPU, the interrupt registers and `calls`, a history
of everything they do that matters to somebody else — the scanlines rendered, with each array
access of `renderScan`, the modes entered and the interrupts requested.  No function reads the
history; it is there so that statements about *calls* can be made of the very definitions that
compute the state.

The counters have the widths of the source.  `modeClock` is an `unsigned int` of 32 bits and
`tick` an `int` that is added to it, so a negative `tick` would wrap around; LY, `lineStart` and
the locals `x`, `y` and `lineOffset` are bytes, so the background wraps around at 256 lines by
itself.  `mapOffset` gets the *number of the line of tiles* added to it, not 32 times that number:
each line of tiles starts one entry of the map after the one before.

Two things in the code look odd and are kept.  HBLANK tests the select bit of mode 1 and VBLANK
that of mode 0, and the end of VBLANK changes the mode only if LY has come around to 0.  The
second of the two tests for an invalid tile number, inside the loop, is nested in the branch that
has just added 256 to a number below 128, so it cannot succeed; the first one cannot either, which
is proved with the bounds of the renderer.
-/

set_option autoImplicit false

namespace GameBloat

open Function (update)

/-- What gpu.c does to the outside while it steps. -/
inductive GpuCall
  /-- `renderScan()` is entered, with LY at this value. -/
  | renderScan (ly : Byte)
  /-- `gpuReadByte(address)`. -/
  | vramRead (address : ℕ)
  /-- `tiles[tile][y][x]` is read. -/
  | tileRead (tile y x : ℕ)
  /-- `Palette[colour]` is read. -/
  | paletteRead (colour : ℕ)
  /-- `frameBuffer[index]` is assigned. -/
  | frameWrite (index : ℕ)
  /-- `renderScan` returns early with "Invalid Tile number". -/
  | invalidTile (tile : ℕ)
  /-- `HandleLCDModeChange(mode)`. -/
  | modeChange (mode : GpuMode)
  /-- `writeInterrupt(0xFF0F, bit)`. -/
  | requestInterrupt (bit : Byte)
  deriving DecidableEq

/-! ## Assignments -/

namespace Gpu

/-- `mode = mode;`. -/
def setMode (g : Gpu) (mode : GpuMode) : Gpu := { g with mode }

/-- `modeClock = clock;`. -/
def setClock (g : Gpu) (modeClock : BitVec 32) : Gpu := { g with modeClock }

/-- `GPU.registers.lcdYCoordinate = line;`. -/
def setLine (g : Gpu) (line : Byte) : Gpu := { g with lcdYCoordinate := line }

/-- `GPU.registers.lcdStatus = status;`. -/
def setStatus (g : Gpu) (status : Byte) : Gpu := { g with lcdStatus := status }

/-- `frameBuffer[index] = colour;`. -/
def setPixel (g : Gpu) (index : ℕ) (colour : BasicColour) : Gpu :=
  { g with frameBuffer := update g.frameBuffer index colour }

end Gpu

/-! ## What the functions work on -/

/-- The globals gpu.c steps on, and the history of its calls. -/
structure GpuRun where
  gpu : Gpu
  interruptRegisters : InterruptRegisters
  calls : List GpuCall

namespace GpuRun

/-- Append a call to the history, and leave the rest alone. -/
def log (w : GpuRun) (call : GpuCall) : GpuRun := { w with calls := w.calls ++ [call] }

/-- Run a function that touches nothing but the GPU. -/
def onGpu (w : GpuRun) (f : Gpu → Gpu) : GpuRun := { w with gpu := f w.gpu }

/-- `writeInterrupt(0xFF0F, bit)`. -/
def request (w : GpuRun) (bit : Byte) : GpuRun :=
  { w with interruptRegisters := writeInterrupt w.interruptRegisters 0xFF0F bit }.log
    (.requestInterrupt bit)

/-- `if (lcdStatus & select) { writeInterrupt(0xFF0F, LCD_INTERRUPT); }`, which occurs once for
each of the four sources of the LCD interrupt. -/
def requestIfSelected (w : GpuRun) (select : Byte) : GpuRun :=
  if w.gpu.lcdStatus &&& select ≠ 0 then w.request lcdInterrupt else w

end GpuRun

/-! ## `enum GpuCycles` and the counters' limits -/

/-- `OAM_SCAN_CYCLE`. -/
def oamScanCycle : ℕ := 80

/-- `VRAM_SCAN_CYCLE`. -/
def vramScanCycle : ℕ := 172

/-- `HBLANK_CYCLE`. -/
def hblankCycle : ℕ := 204

/-- `VBLANK_CYCLE`. -/
def vblankCycle : ℕ := 456

/-- `MAX_LINES`. -/
def maxLines : Byte := 153

/-- The length of a mode. -/
def GpuMode.length : GpuMode → ℕ
  | .hblank => hblankCycle
  | .vblank => vblankCycle
  | .oamScanline => oamScanCycle
  | .vramScanline => vramScanCycle

/-! ## Rendering a scanline -/

/-- `Palette`. -/
def palette : List BasicColour := [⟨255, 255, 255⟩, ⟨192, 192, 192⟩, ⟨96, 96, 96⟩, ⟨0, 0, 0⟩]

/-- The local variables of `renderScan`, with the widths they are declared with.  `tile` is an
`unsigned short` because 256 may be added to a byte. -/
structure ScanVars where
  mapOffset : Word
  lineOffset : Byte
  x : Byte
  y : Byte
  canvasOffset : BitVec 32
  tile : Word

namespace ScanVars

/-- `mapOffset + lineOffset`. -/
def mapAddress (v : ScanVars) : Word := v.mapOffset + v.lineOffset.setWidth 16

/-- `tile = (unsigned short)gpuReadByte(mapOffset + lineOffset)`. -/
def fetchTile (v : ScanVars) (g : Gpu) : ScanVars :=
  { v with tile := (gpuReadByte g v.mapAddress).setWidth 16 }

/-- `tile += 256`. -/
def shiftTile (v : ScanVars) : ScanVars := { v with tile := v.tile + 256 }

/-- `++x; ++canvasOffset;`. -/
def nextPixel (v : ScanVars) : ScanVars :=
  { v with x := v.x + 1, canvasOffset := v.canvasOffset + 1 }

/-- `x = 0; lineOffset = (lineOffset + 1) & 31;`. -/
def nextTile (v : ScanVars) : ScanVars :=
  { v with x := 0, lineOffset := (v.lineOffset + 1) &&& 31 }

end ScanVars

/-- `(lcdControl & BG_WINDOW_TILE_DATA_SELECT) && tile < 128`: the low tile numbers are the ones
that get shifted. -/
def shiftsTile (g : Gpu) (tile : Word) : Bool :=
  g.lcdControl &&& bgWindowTileDataSelect ≠ 0 && tile.toNat < 128

/-- The locals of `renderScan` before the first tile is fetched.  The line of the background, LY
plus SCY, is a byte and wraps around at 256; its upper five bits choose the line of tiles and its
lower three the row in the tile. -/
def scanVars (g : Gpu) : ScanVars :=
  let lineStart : Byte := g.lcdYCoordinate + g.scrollY
  { mapOffset := (if g.lcdControl &&& bgTileMapDisplaySelect ≠ 0 then (0x1C00 : Word) else 0x1800) +
      (lineStart >>> 3).setWidth 16
    lineOffset := g.scrollX >>> 3
    x := g.scrollX &&& 7
    y := lineStart &&& 7
    canvasOffset := g.lcdYCoordinate.setWidth 32 * 160
    tile := 0 }

/-- Draw one pixel: `frameBuffer[canvasOffset] = Palette[tiles[tile][y][x]]`.  The three array
accesses are recorded with their indices before anything is known about these, and reading
`Palette` out of range gives black here, which the bounds of the renderer rule out. -/
def plotPixel (w : GpuRun) (v : ScanVars) : GpuRun :=
  let colour := w.gpu.tiles v.tile.toNat v.y.toNat v.x.toNat
  let rCol := palette.getD colour.toNat ⟨0, 0, 0⟩
  let w := (w.log (.tileRead v.tile.toNat v.y.toNat v.x.toNat)).log (.paletteRead colour.toNat)
  (w.onGpu (·.setPixel v.canvasOffset.toNat rCol)).log (.frameWrite v.canvasOffset.toNat)

/-- The `for` loop of `renderScan`, with the number of pixels still to draw.  A tile is fetched
whenever its eighth pixel has been drawn, also after the last pixel of a line that starts in the
middle of a tile, and an invalid tile number ends the loop. -/
def renderPixels : ℕ → GpuRun → ScanVars → GpuRun
  | 0, w, _ => w
  | n + 1, w, v =>
    let w := plotPixel w v
    let v := v.nextPixel
    if v.x = 8 then
      let v := v.nextTile
      let w := w.log (.vramRead v.mapAddress.toNat)
      let v := v.fetchTile w.gpu
      if shiftsTile w.gpu v.tile then
        let v := v.shiftTile
        if 383 < v.tile.toNat then w.log (.invalidTile v.tile.toNat) else renderPixels n w v
      else renderPixels n w v
    else renderPixels n w v

/-- `renderScan`. -/
def renderScan (w : GpuRun) : GpuRun :=
  let w := w.log (.renderScan w.gpu.lcdYCoordinate)
  let v := scanVars w.gpu
  let w := w.log (.vramRead v.mapAddress.toNat)
  let v := v.fetchTile w.gpu
  let v := if shiftsTile w.gpu v.tile then v.shiftTile else v
  if 383 < v.tile.toNat then w.log (.invalidTile v.tile.toNat) else renderPixels 160 w v

/-! ## Moving on -/

/-- The first `if` of `NextScanline`: line 153 is followed by line 0. -/
def nextLine (lcdYCoordinate : Byte) : Byte :=
  if lcdYCoordinate = maxLines then 0 else lcdYCoordinate + 1

/-- `NextScanline`. -/
def nextScanline (w : GpuRun) : GpuRun :=
  let w := w.onGpu fun g ↦ g.setLine (nextLine g.lcdYCoordinate)
  if w.gpu.lcdYCoordinate = w.gpu.lcdLYCompare then
    let w := w.onGpu fun g ↦ g.setStatus (g.lcdStatus ||| statusLycEqualsLy)
    w.requestIfSelected statusLycIntSelect
  else w.onGpu fun g ↦ g.setStatus (g.lcdStatus &&& ~~~statusLycEqualsLy)

/-- `HandleLCDModeChange`.  The cases of HBLANK and VBLANK test each other's select bit. -/
def handleLCDModeChange (w : GpuRun) (inMode : GpuMode) : GpuRun :=
  let w := (w.onGpu (·.setMode inMode)).log (.modeChange inMode)
  let w := w.onGpu fun g ↦ g.setStatus (g.lcdStatus &&& 0xFC)
  let w := w.onGpu fun g ↦ g.setStatus (g.lcdStatus ||| inMode.toByte)
  match inMode with
  | .oamScanline => w.requestIfSelected statusMode2IntSelect
  | .hblank => w.requestIfSelected statusMode1IntSelect
  | .vblank => (w.requestIfSelected statusMode0IntSelect).request vblankInterrupt
  | .vramScanline => w

/-- The mode change `gpuStep` makes once the current mode is over, without its clock: the body of
each `case` after `modeClock -= …`.  Apart from the clock that is all a `gpuStep` does, and it is
at most one mode change for each call, however many ticks have passed. -/
def endOfMode (w : GpuRun) : GpuRun :=
  match w.gpu.mode with
  | .hblank =>
    let w := nextScanline w
    if w.gpu.lcdYCoordinate = 144 then handleLCDModeChange w .vblank
    else handleLCDModeChange w .oamScanline
  | .vblank =>
    let w := nextScanline w
    if w.gpu.lcdYCoordinate = 0 then handleLCDModeChange w .oamScanline else w
  | .oamScanline => handleLCDModeChange w .vramScanline
  | .vramScanline => handleLCDModeChange (renderScan w) .hblank

/-- `gpuStep`.  The four cases of the `switch` share one shape, `if (modeClock >= CYCLE) {
modeClock -= CYCLE; … }`, with the constant `GpuMode.length` and the rest in `endOfMode`.  A call
of `gpuStep` ends one mode at most, however many ticks it is given. -/
def gpuStepRun (w : GpuRun) (tick : CInt) : GpuRun :=
  if w.gpu.LcdOn then
    let w := w.onGpu fun g ↦ g.setClock (g.modeClock + tick)
    if w.gpu.mode.length ≤ w.gpu.modeClock.toNat then
      endOfMode (w.onGpu fun g ↦ g.setClock (g.modeClock - BitVec.ofNat 32 g.mode.length))
    else w
  else w

/-- The part of the machine `gpuStep` sees, with an empty history. -/
def Machine.gpuRun (m : Machine) : GpuRun := ⟨m.gpu, m.interruptRegisters, []⟩

/-- `gpuStep` on the whole machine. -/
def gpuStep (m : Machine) (tick : CInt) : Machine :=
  let w := gpuStepRun m.gpuRun tick
  { m with gpu := w.gpu, interruptRegisters := w.interruptRegisters }

/-- The calls one `gpuStep` makes. -/
def gpuStepCalls (m : Machine) (tick : CInt) : List GpuCall := (gpuStepRun m.gpuRun tick).calls

end GameBloat
