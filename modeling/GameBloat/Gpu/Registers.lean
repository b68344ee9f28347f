import GameBloat.Machine
import Mathlib.Tactic.SplitIfs

/-!
# Video RAM and the GPU registers

The half of `gpu.c` the CPU reaches through the memory map: reading and writing video RAM, the
tile cache `tiles` that is meant to follow it, the registers at 0xFF40–0xFF4B, and the reset.

`gpuWriteVramToFile`, which every write to video RAM calls, only copies bytes to a file on disk,
and is left out.  So are the messages of the logger and `UpdateLcdStatusRegister`, which nothing
calls.

The definitions follow the branches of the source one by one, with its oddities, and nothing is
put right here:

* `gpuWriteByte` subtracts 0x8000 from the address but compares the address itself with 0x1800, so
  that the call of `updateTile` is never reached from the memory map;
* the scroll registers and the window registers are read at one address and written at the other;
* the case to read 0xFF47 is empty, and there is none to write it, nor one for 0xFF46;
* `gpuWriteRegister` stores the whole of LCDC after `UpdateLcdControlRegister` has gone through it
  bit by bit.

What such branches lead to is worked out in the modules on video RAM, on the register file and on
the tile cache.  The lemmas at the end of this one are about the scan: LCDC may switch it off
(`gpuWriteRegister_lcdControl`), LY takes it to line 0, and no other register disturbs it
(`gpuWriteRegister_sameScan`).
-/

set_option autoImplicit false

namespace GameBloat

open Function (update)

/-! ## Bits of LCDC and STAT -/

/-- `LCD_DISPLAY_ENABLE`, bit 7 of LCDC. -/
def lcdDisplayEnable : Byte := 0x80

/-- `WINDOW_TILE_MAP_DISPLAY_SELECT`, bit 6 of LCDC. -/
def windowTileMapDisplaySelect : Byte := 0x40

/-- `WINDOW_DISPLAY_ENABLE`, bit 5 of LCDC. -/
def windowDisplayEnable : Byte := 0x20

/-- `BG_WINDOW_TILE_DATA_SELECT`, bit 4 of LCDC. -/
def bgWindowTileDataSelect : Byte := 0x10

/-- `BG_TILE_MAP_DISPLAY_SELECT`, bit 3 of LCDC. -/
def bgTileMapDisplaySelect : Byte := 0x08

/-- `SPRITE_SIZE`, bit 2 of LCDC. -/
def spriteSize : Byte := 0x04

/-- `SPRITE_DISPLAY_ENABLE`, bit 1 of LCDC. -/
def spriteDisplayEnable : Byte := 0x02

/-- `BG_DISPLAY`, bit 0 of LCDC. -/
def bgDisplay : Byte := 0x01

/-- `STATUS_LYC_INT_SELECT`, bit 6 of STAT. -/
def statusLycIntSelect : Byte := 0x40

/-- `STATUS_MODE_2_INT_SELECT`, bit 5 of STAT. -/
def statusMode2IntSelect : Byte := 0x20

/-- `STATUS_MODE_1_INT_SELECT`, bit 4 of STAT. -/
def statusMode1IntSelect : Byte := 0x10

/-- `STATUS_MODE_0_INT_SELECT`, bit 3 of STAT. -/
def statusMode0IntSelect : Byte := 0x08

/-- `STATUS_LYC_EQUALS_LY`, bit 2 of STAT. -/
def statusLycEqualsLy : Byte := 0x04

/-- LCDC bit 7 is set: the LCD is on and `gpuStep` does something. -/
def Gpu.LcdOn (g : Gpu) : Prop := g.lcdControl &&& lcdDisplayEnable ≠ 0

instance (g : Gpu) : Decidable g.LcdOn := inferInstanceAs (Decidable (_ ≠ _))

/-! ## Reset -/

/-- `initGPU`, which clears the registers, video RAM and the tile cache.  It passes over the
background palette, and it leaves LY at 153, the last line of VBLANK. -/
def initGPU (g : Gpu) : Gpu :=
  { g with
    lcdControl := 0
    lcdStatus := 0
    scrollX := 0
    scrollY := 0
    lcdYCoordinate := 153
    lcdLYCompare := 0
    oamDMASourceAddress := 0
    objPalette0 := 0
    objPalette1 := 0
    lcdWindowY := 0
    lcdWindowX := 0
    VRAM := fun _ ↦ 0
    tiles := fun _ _ _ ↦ 0 }

/-- `gpuReset`: the scan is left in VBLANK, 116 ticks into a line, and the LCD off. -/
def gpuReset (g : Gpu) : Gpu := initGPU { g with mode := .vblank, modeClock := 116 }

/-! ## Video RAM -/

/-- `gpuReadByte`, which takes an offset into video RAM.  Anything from 0x2000 on is logged and
reads as 0, which is what the callers get that hand it an address of the memory map. -/
def gpuReadByte (g : Gpu) (address : Word) : Byte :=
  if address.toNat < 0x2000 then g.VRAM address.toNat else 0

/-- The value `updateTile` gives one pixel of a row, from the two bytes of the row: the bit of the
first byte counts 1, and that of the second counts 2. -/
def tilePixel (pixelRowLsb pixelRowMsb : Byte) (pixel : ℕ) : Byte :=
  let bitIndex : Byte := 1 <<< (7 - pixel)
  let writeValue : Byte := if pixelRowLsb &&& bitIndex ≠ 0 then 1 else 0
  writeValue + if pixelRowMsb &&& bitIndex ≠ 0 then 2 else 0

/-- `tiles[tile][subRow][pixel] = value`. -/
def setTile (tiles : ℕ → ℕ → ℕ → Byte) (tile subRow pixel : ℕ) (value : Byte) : ℕ → ℕ → ℕ → Byte :=
  update tiles tile (update (tiles tile) subRow (update (tiles tile subRow) pixel value))

/-- `updateTile`: the eight pixels of the row that the address is part of, from the two bytes of
that row as they are in video RAM now.  The address is an offset into video RAM. -/
def updateTile (g : Gpu) (addr : Word) : Gpu :=
  let baseAddress := addr &&& 0x1FFE
  let tile := (baseAddress >>> 4) &&& 0x1FF
  let subRow := (baseAddress >>> 1) &&& 7
  let pixelRowLsb := gpuReadByte g baseAddress
  let pixelRowMsb := gpuReadByte g (baseAddress + 1)
  { g with
    tiles := (List.range 8).foldl
      (fun tiles pixel ↦ setTile tiles tile.toNat subRow.toNat pixel
        (tilePixel pixelRowLsb pixelRowMsb pixel)) g.tiles }

/-- `gpuWriteByte`, which takes an address of the memory map. -/
def gpuWriteByte (g : Gpu) (address : Word) (value : Byte) : Gpu × ℕ :=
  let modifiedAddress := address - 0x8000
  if modifiedAddress.toNat < 0x2000 then
    let g := { g with VRAM := update g.VRAM modifiedAddress.toNat value }
    -- the test is on `address`, not on `modifiedAddress`
    if address.toNat < 0x1800 then (updateTile g modifiedAddress, 1) else (g, 1)
  else (g, 0)

/-! ## Registers -/

/-- `gpuReadRegister`.  The case for 0xFF47 is there, but its body is commented out. -/
def gpuReadRegister (g : Gpu) (address : Word) : Byte :=
  if address = 0xFF40 then g.lcdControl
  else if address = 0xFF41 then g.lcdStatus
  else if address = 0xFF42 then g.scrollX
  else if address = 0xFF43 then g.scrollY
  else if address = 0xFF44 then g.lcdYCoordinate
  else if address = 0xFF45 then g.lcdLYCompare
  else if address = 0xFF47 then 0
  else if address = 0xFF48 then g.objPalette0
  else if address = 0xFF49 then g.objPalette1
  else if address = 0xFF4A then g.lcdWindowY
  else if address = 0xFF4B then g.lcdWindowX
  else 0

/-- `UpdateBit`: the new byte, and the value the function returns. -/
def updateBit (byte bitPosition bitValue : Byte) : Byte × Byte :=
  (byte &&& ~~~bitPosition ||| bitValue, byte &&& bitValue)

/-- One `UpdateBit(&GPU.registers.lcdControl, bit, (value & bit))`. -/
def updateLcdControlBit (value bit : Byte) (g : Gpu) : Gpu :=
  { g with lcdControl := (updateBit g.lcdControl bit (value &&& bit)).1 }

/-- The `if` of `UpdateLcdControlRegister`, after bit 7 has been stored.  With the LCD off the
scan is rewound and the low bits of STAT are cleared; with the LCD on they are set to the mode,
which clears the bit for LY = LYC as well. -/
def lcdPowerSwitch (g : Gpu) : Gpu :=
  if g.lcdControl &&& lcdDisplayEnable = 0 then
    { g with
      lcdYCoordinate := 0
      modeClock := 0
      mode := .hblank
      lcdStatus := g.lcdStatus &&& 0xF8 }
  else { g with lcdStatus := g.lcdStatus &&& 0xF8 ||| g.mode.toByte }

/-- `UpdateLcdControlRegister`. -/
def updateLcdControlRegister (g : Gpu) (value : Byte) : Gpu :=
  let g := updateLcdControlBit value lcdDisplayEnable g
  let g := lcdPowerSwitch g
  let g := updateLcdControlBit value windowTileMapDisplaySelect g
  let g := updateLcdControlBit value windowDisplayEnable g
  let g := updateLcdControlBit value bgWindowTileDataSelect g
  let g := updateLcdControlBit value bgTileMapDisplaySelect g
  let g := updateLcdControlBit value spriteSize g
  let g := updateLcdControlBit value spriteDisplayEnable g
  updateLcdControlBit value bgDisplay g

/-- `gpuWriteRegister`.  Note which field each address reaches: the two scroll registers and the
two window registers are written crosswise to how `gpuReadRegister` reads them. -/
def gpuWriteRegister (g : Gpu) (address : Word) (value : Byte) : Gpu × ℕ :=
  if address = 0xFF40 then ({ updateLcdControlRegister g value with lcdControl := value }, 1)
  else if address = 0xFF41 then ({ g with lcdStatus := value }, 1)
  else if address = 0xFF42 then ({ g with scrollY := value }, 1)
  else if address = 0xFF43 then ({ g with scrollX := value }, 1)
  else if address = 0xFF44 then ({ g with lcdYCoordinate := 0 }, 1)
  else if address = 0xFF45 then ({ g with lcdLYCompare := value }, 1)
  else if address = 0xFF48 then ({ g with objPalette0 := value }, 1)
  else if address = 0xFF49 then ({ g with objPalette1 := value }, 1)
  else if address = 0xFF4A then ({ g with lcdWindowX := value }, 1)
  else if address = 0xFF4B then ({ g with lcdWindowY := value }, 1)
  else (g, 1)

/-! ## What a write can do -/

/-- Writing LCDC with bit 7 clear switches the LCD off and rewinds the scan to the start of line
0; with bit 7 set it leaves the scan where it is.  After the eight `UpdateBit`s the whole byte is
assigned, so all that is left of them is what bit 7 decided on the way. -/
theorem gpuWriteRegister_lcdControl (g : Gpu) (value : Byte) :
    (gpuWriteRegister g 0xFF40 value).1 =
      if value &&& lcdDisplayEnable = 0 then
        { g with
          lcdControl := value
          lcdYCoordinate := 0
          modeClock := 0
          mode := .hblank
          lcdStatus := g.lcdStatus &&& 0xF8 }
      else
        { g with lcdControl := value, lcdStatus := g.lcdStatus &&& 0xF8 ||| g.mode.toByte } := by
  have hbit : (updateLcdControlBit value lcdDisplayEnable g).lcdControl &&& lcdDisplayEnable =
      value &&& lcdDisplayEnable := by
    ext i hi
    simp only [updateLcdControlBit, updateBit, lcdDisplayEnable, BitVec.getElem_and,
      BitVec.getElem_or, BitVec.getElem_not]
    cases g.lcdControl[i] <;> cases value[i] <;> cases (0x80 : Byte)[i] <;> rfl
  rw [gpuWriteRegister, if_pos rfl, updateLcdControlRegister, lcdPowerSwitch, hbit]
  split <;> rfl

/-- `g'` differs from `g` in nothing the scan keeps or draws from: the switch, the position of the
scan, the picture data and the picture.  What may differ are registers the scan merely reads. -/
structure Gpu.SameScan (g g' : Gpu) : Prop where
  lcdControl : g'.lcdControl = g.lcdControl
  lcdYCoordinate : g'.lcdYCoordinate = g.lcdYCoordinate
  mode : g'.mode = g.mode
  modeClock : g'.modeClock = g.modeClock
  VRAM : g'.VRAM = g.VRAM
  tiles : g'.tiles = g.tiles
  frameBuffer : g'.frameBuffer = g.frameBuffer

/-- The tests of `gpuWriteRegister`, each of which chooses between two states of the GPU. -/
theorem Gpu.SameScan.ite {g : Gpu} {a b : Gpu × ℕ} {c : Prop} [Decidable c]
    (ha : g.SameScan a.1) (hb : g.SameScan b.1) : g.SameScan (if c then a else b).1 := by
  by_cases h : c
  · rwa [if_pos h]
  · rwa [if_neg h]

/-- A register write other than to LCDC and LY does not disturb the scan. -/
theorem gpuWriteRegister_sameScan (g : Gpu) {address : Word} (value : Byte)
    (h40 : address ≠ 0xFF40) (h44 : address ≠ 0xFF44) :
    g.SameScan (gpuWriteRegister g address value).1 := by
  rw [gpuWriteRegister, if_neg h40, if_neg h44]
  exact .ite ⟨rfl, rfl, rfl, rfl, rfl, rfl, rfl⟩ <| .ite ⟨rfl, rfl, rfl, rfl, rfl, rfl, rfl⟩ <|
    .ite ⟨rfl, rfl, rfl, rfl, rfl, rfl, rfl⟩ <| .ite ⟨rfl, rfl, rfl, rfl, rfl, rfl, rfl⟩ <|
    .ite ⟨rfl, rfl, rfl, rfl, rfl, rfl, rfl⟩ <| .ite ⟨rfl, rfl, rfl, rfl, rfl, rfl, rfl⟩ <|
    .ite ⟨rfl, rfl, rfl, rfl, rfl, rfl, rfl⟩ <| .ite ⟨rfl, rfl, rfl, rfl, rfl, rfl, rfl⟩
      ⟨rfl, rfl, rfl, rfl, rfl, rfl, rfl⟩

/-- Writing LY resets the line counter, whatever the value. -/
theorem gpuWriteRegister_lcdYCoordinate (g : Gpu) (value : Byte) :
    (gpuWriteRegister g 0xFF44 value).1 = { g with lcdYCoordinate := 0 } := rfl

end GameBloat
