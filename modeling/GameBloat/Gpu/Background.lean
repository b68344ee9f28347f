import GameBloat.Gpu.TileCache
import GameBloat.Observation

/-!
# The background

`renderScan` carries four counters across a line — the pixel of the screen, the pixel of the tile,
the column of the tile map and the tile — and each wraps where it should.  So what it draws can be
said pixel by pixel (`renderScan_frameBuffer`), and compared with what the background looks like.

Two things are not as they should be, and both choose the wrong tile.  The rows of the tile map
are 32 bytes long, but `renderScan` goes from one to the next byte by byte, and so finds the wrong
entry from the second row on.  And of the two ways to number the tiles it takes the other one.
That goes unnoticed on the pixels where the two tiles are of the same colour
(`background_shown_iff`).

The background is 256 by 256 pixels, and wraps around in both directions.  Pixel `i` of a line of
the screen is in column `(SCX + i) % 256` and in line `(LY + SCY) % 256`; its tile is the entry of
the map at these coordinates divided by 8, and its place in the tile is the remainders.
`Gpu.mapEntry` has the length of a row of the map as a parameter, 32 for the background and 1 for
the code, and `tileNumber` has the numbering, so that the two tiles `Gpu.shownTile` and
`Gpu.drawnTile` differ in nothing else.

The loop invariant is `ScanVars.At`: when pixel `i` is about to be drawn, the locals are functions
of `i` and of the GPU at the beginning.  The step lemma has two cases, as the next pixel may be on
the same tile or on the next one, and the loop draws its `n` pixels and no other
(`renderPixels_frameBuffer`, by induction on `n`).

* `renderScan_frameBuffer`: what is drawn, for any video RAM, scroll position and visible line.
* `colourOf_injective`: no two colours look alike, so that a wrong value is a wrong pixel.
* `background_shown_iff`: the line shows the background exactly if the tile that is drawn and the
  tile that should be look the same at each of the 160 pixels.
-/

set_option autoImplicit false

namespace GameBloat

/-! ## What the background looks like -/

namespace Gpu

/-- Where the tile map starts. -/
def mapBase (g : Gpu) : ℕ :=
  if g.lcdControl &&& bgTileMapDisplaySelect ≠ 0 then 0x1C00 else 0x1800

/-- The line of the background that is on this line of the screen. -/
def backgroundLine (g : Gpu) : ℕ := (g.lcdYCoordinate.toNat + g.scrollY.toNat) % 256

/-- The column of the background that pixel `i` of the line is in. -/
def backgroundColumn (g : Gpu) (i : ℕ) : ℕ := (g.scrollX.toNat + i) % 256

/-- The entry of the tile map for pixel `i`, if the map has `stride` bytes for each row of tiles.
The background has 32, and `renderScan` steps by 1. -/
def mapEntry (g : Gpu) (stride i : ℕ) : Byte :=
  g.VRAM (g.mapBase + stride * (g.backgroundLine / 8) + g.backgroundColumn i / 8)

end Gpu

/-- The tile that an entry stands for: the numbers below 128 are shifted, or they are not. -/
def tileNumber (shifted : Bool) (entry : ℕ) : ℕ :=
  if shifted ∧ entry < 128 then entry + 256 else entry

namespace Gpu

/-- The tile that pixel `i` belongs to.  With bit 4 of LCDC clear, the numbers below 128 stand for
the tiles from 256 on.  It is written down from the description of the tile map in `gpu.h`, and
not from the code. -/
def shownTile (g : Gpu) (i : ℕ) : ℕ :=
  tileNumber (g.lcdControl &&& bgWindowTileDataSelect = 0) (g.mapEntry 32 i).toNat

/-- The tile that `renderScan` takes for it: it steps through the map byte by byte, and shifts the
numbers if bit 4 of LCDC is set.  The two agree for some pictures, and `SameTileData` says for
which. -/
def drawnTile (g : Gpu) (i : ℕ) : ℕ :=
  tileNumber (g.lcdControl &&& bgWindowTileDataSelect ≠ 0) (g.mapEntry 1 i).toNat

/-- The pixel of the tile that is drawn as pixel `i`, as the tile cache has it, -/
def cachedPixel (g : Gpu) (tile i : ℕ) : Byte :=
  g.tiles tile ((g.lcdYCoordinate.toNat + g.scrollY.toNat) % 8) ((g.scrollX.toNat + i) % 8)

/-- and as video RAM has it. -/
def tileDataPixel (g : Gpu) (tile i : ℕ) : Byte :=
  let y := (g.lcdYCoordinate.toNat + g.scrollY.toNat) % 8
  rowPixel (g.VRAM (16 * tile + 2 * y)) (g.VRAM (16 * tile + 2 * y + 1))
    ((g.scrollX.toNat + i) % 8)

/-- The tile data of the two tiles is the same wherever it is drawn.  It is read from video RAM,
so this is a condition on the picture data and the scroll registers alone, and does not mention
what the renderer makes of them. -/
def SameTileData (g : Gpu) : Prop :=
  ∀ i < 160, g.tileDataPixel (g.drawnTile i) i = g.tileDataPixel (g.shownTile i) i

instance (g : Gpu) : Decidable g.SameTileData := inferInstanceAs (Decidable (∀ i < 160, _))

end Gpu

/-- The colour of a value of the tile cache. -/
def colourOf (value : Byte) : BasicColour := palette.getD value.toNat ⟨0, 0, 0⟩

/-- The line of the frame buffer shows the background, once it has been rendered. -/
def BackgroundShown (w : GpuRun) : Prop :=
  ∀ i < 160, (renderScan w).gpu.frameBuffer (w.gpu.lcdYCoordinate.toNat * 160 + i) =
    colourOf (w.gpu.cachedPixel (w.gpu.shownTile i) i)

/-! ## The locals -/

/-- The next tile is fetched, and its number shifted. -/
def ScanVars.loadTile (v : ScanVars) (g : Gpu) : ScanVars :=
  if shiftsTile g (v.fetchTile g).tile then (v.fetchTile g).shiftTile else v.fetchTile g

/-- The locals when pixel `i` is about to be drawn.  The tile is the only one that has been read
from video RAM, and the others are counters. -/
structure ScanVars.At (g : Gpu) (i : ℕ) (v : ScanVars) : Prop where
  mapOffset : v.mapOffset.toNat = g.mapBase + g.backgroundLine / 8
  lineOffset : v.lineOffset.toNat = g.backgroundColumn i / 8
  x : v.x.toNat = g.backgroundColumn i % 8
  y : v.y.toNat = g.backgroundLine % 8
  canvasOffset : v.canvasOffset.toNat = g.lcdYCoordinate.toNat * 160 + i
  tile : v.tile.toNat = g.drawnTile i

/-- Either way of numbering leads to a tile that exists. -/
theorem tileNumber_lt (shifted : Bool) (entry : Byte) : tileNumber shifted entry.toNat < 384 := by
  have := entry.isLt
  rw [tileNumber]
  split <;> omega

/-- There are two maps. -/
theorem Gpu.mapBase_le (g : Gpu) : g.mapBase ≤ 0x1C00 := by
  rw [mapBase]
  split <;> decide

/-- Tile and pixel. -/
theorem toNat_tile_pixel (b : Byte) :
    (b >>> 3).toNat = b.toNat / 8 ∧ (b &&& 7).toNat = b.toNat % 8 := by
  revert b
  decide

/-- The column wraps around at the end of a row. -/
theorem toNat_succ_and_31 (b : Byte) : ((b + 1) &&& 31).toNat = (b.toNat + 1) % 32 := by
  revert b
  decide

namespace ScanVars

/-- The tile that is fetched from an offset inside video RAM. -/
theorem loadTile_tile (v : ScanVars) {g : Gpu} (h : v.mapAddress.toNat < 0x2000) :
    (v.loadTile g).tile.toNat =
      tileNumber (g.lcdControl &&& bgWindowTileDataSelect ≠ 0)
        (g.VRAM v.mapAddress.toNat).toNat := by
  have hfetch : (v.fetchTile g).tile.toNat = (g.VRAM v.mapAddress.toNat).toNat := by
    rw [fetchTile, gpuReadByte, if_pos h, BitVec.toNat_setWidth]
    omega
  have hshifts : shiftsTile g (v.fetchTile g).tile = true ↔
      decide (g.lcdControl &&& bgWindowTileDataSelect ≠ 0) = true ∧
        (g.VRAM v.mapAddress.toNat).toNat < 128 := by
    rw [shiftsTile, hfetch, Bool.and_eq_true, decide_eq_true_iff (p := _ < _)]
  rw [loadTile, tileNumber]
  by_cases h : shiftsTile g (v.fetchTile g).tile
  · have hlow := (hshifts.1 h).2
    rw [if_pos h, if_pos (hshifts.1 h), ← hfetch]
    simp only [shiftTile]
    bv_omega
  · rw [if_neg h, if_neg (mt hshifts.2 h), hfetch]

namespace At

variable {g : Gpu} {i : ℕ} {v : ScanVars}

/-- The entry the locals point to is read from video RAM. -/
theorem loadTile_tile (hmap : v.mapOffset.toNat = g.mapBase + g.backgroundLine / 8)
    (hcolumn : v.lineOffset.toNat = g.backgroundColumn i / 8) :
    (v.loadTile g).tile.toNat = g.drawnTile i := by
  have hbase := g.mapBase_le
  have hline : g.backgroundLine < 256 := Nat.mod_lt _ (by decide)
  have hlt : g.backgroundColumn i < 256 := Nat.mod_lt _ (by decide)
  have haddress : v.mapAddress.toNat =
      g.mapBase + 1 * (g.backgroundLine / 8) + g.backgroundColumn i / 8 := by
    rw [mapAddress, BitVec.toNat_add, hmap, BitVec.toNat_setWidth, hcolumn]
    omega
  rw [ScanVars.loadTile_tile v (by omega), haddress]
  rfl

/-- It exists, so the test for an invalid number fails. -/
theorem tile_lt (h : v.At g i) : v.tile.toNat < 384 := by
  rw [h.tile]
  exact tileNumber_lt _ _

/-- Of the locals, only `tile` depends on what is fetched. -/
theorem of_loadTile (hmap : v.mapOffset.toNat = g.mapBase + g.backgroundLine / 8)
    (hcolumn : v.lineOffset.toNat = g.backgroundColumn i / 8)
    (hx : v.x.toNat = g.backgroundColumn i % 8) (hy : v.y.toNat = g.backgroundLine % 8)
    (hcanvas : v.canvasOffset.toNat = g.lcdYCoordinate.toNat * 160 + i) :
    (v.loadTile g).At g i := by
  have htile := loadTile_tile hmap hcolumn
  have hsame : v.loadTile g = { v with tile := (v.loadTile g).tile } := by
    rw [loadTile]
    split <;> rfl
  rw [hsame] at htile ⊢
  exact ⟨hmap, hcolumn, hx, hy, hcanvas, htile⟩

/-- The locals before the loop. -/
theorem scanVars (hline : g.lcdYCoordinate.toNat ≤ 143) :
    ((scanVars g).loadTile g).At g 0 := by
  have hcolumn : g.backgroundColumn 0 = g.scrollX.toNat := Nat.mod_eq_of_lt g.scrollX.isLt
  have hstart : (g.lcdYCoordinate + g.scrollY).toNat = g.backgroundLine := BitVec.toNat_add ..
  obtain ⟨hrow, hy⟩ := toNat_tile_pixel (g.lcdYCoordinate + g.scrollY)
  obtain ⟨hoffset, hx⟩ := toNat_tile_pixel g.scrollX
  rw [hstart] at hrow hy
  rw [← hcolumn] at hoffset hx
  have hbase : g.mapBase < 65536 ∧ (if g.lcdControl &&& bgTileMapDisplaySelect ≠ 0 then
      (0x1C00 : Word) else 0x1800).toNat = g.mapBase := by
    rw [Gpu.mapBase]
    split <;> decide
  have hlt : g.backgroundLine < 256 := Nat.mod_lt _ (by decide)
  refine of_loadTile ?_ hoffset hx hy ?_
  · have hle := g.mapBase_le
    simp only [GameBloat.scanVars]
    rw [BitVec.toNat_add, hbase.2, BitVec.toNat_setWidth, hrow]
    omega
  · simp only [GameBloat.scanVars]
    bv_omega

/-- The next pixel is on the same tile. -/
theorem nextPixel (h : v.At g i) (hi : i < 160) (hline : g.lcdYCoordinate.toNat ≤ 143)
    (h8 : v.nextPixel.x ≠ 8) : v.nextPixel.At g (i + 1) := by
  have hx : v.nextPixel.x.toNat = v.x.toNat + 1 ∧ v.x.toNat + 1 < 8 := by
    have := h.x
    simp only [ScanVars.nextPixel] at h8 ⊢
    bv_omega
  have hcolumn := h.x
  have hnext : g.backgroundColumn (i + 1) = g.backgroundColumn i + 1 := by
    rw [hcolumn, Gpu.backgroundColumn] at hx
    rw [Gpu.backgroundColumn, Gpu.backgroundColumn]
    omega
  have hsame : g.backgroundColumn (i + 1) / 8 = g.backgroundColumn i / 8 := by omega
  refine ⟨h.mapOffset, h.lineOffset.trans hsame.symm, by omega, h.y, ?_, ?_⟩
  · have := h.canvasOffset
    simp only [ScanVars.nextPixel]
    bv_omega
  · have hentry : g.mapEntry 1 (i + 1) = g.mapEntry 1 i := by
      rw [Gpu.mapEntry, Gpu.mapEntry, hsame]
    rw [Gpu.drawnTile, hentry]
    exact h.tile

/-- The next pixel is on the next tile. -/
theorem nextTile (h : v.At g i) (hi : i < 160) (hline : g.lcdYCoordinate.toNat ≤ 143)
    (h8 : v.nextPixel.x = 8) : (v.nextPixel.nextTile.loadTile g).At g (i + 1) := by
  have hcolumn : g.backgroundColumn i % 8 = 7 := by
    rw [← h.x]
    simp only [ScanVars.nextPixel] at h8
    bv_omega
  have hnext : g.backgroundColumn (i + 1) % 8 = 0 ∧
      g.backgroundColumn (i + 1) / 8 = (g.backgroundColumn i / 8 + 1) % 32 := by
    rw [Gpu.backgroundColumn] at hcolumn
    rw [Gpu.backgroundColumn, Gpu.backgroundColumn]
    omega
  refine of_loadTile h.mapOffset ?_ hnext.1.symm h.y ?_
  · refine (toNat_succ_and_31 v.lineOffset).trans ?_
    rw [h.lineOffset, hnext.2]
  · have := h.canvasOffset
    simp only [ScanVars.nextTile, ScanVars.nextPixel]
    bv_omega

end At

end ScanVars

/-! ## The loop -/

section

variable {g : Gpu} {w : GpuRun} {v : ScanVars} {i : ℕ}

/-- What is drawn as pixel `i`. -/
theorem plotPixel_frameBuffer (hv : v.At g i) (hw : w.gpu.observed = g.observed) :
    (plotPixel w v).gpu.frameBuffer =
      Function.update w.gpu.frameBuffer (g.lcdYCoordinate.toNat * 160 + i)
        (colourOf (g.cachedPixel (g.drawnTile i) i)) := by
  have htiles : w.gpu.observed.tiles = g.observed.tiles := by rw [hw]
  have htiles : w.gpu.tiles = g.tiles := htiles
  have hy : v.y.toNat = (g.lcdYCoordinate.toNat + g.scrollY.toNat) % 8 := by
    rw [hv.y, Gpu.backgroundLine]
    omega
  have hx : v.x.toNat = (g.scrollX.toNat + i) % 8 := by
    rw [hv.x, Gpu.backgroundColumn]
    omega
  rw [colourOf, Gpu.cachedPixel, ← hv.canvasOffset, ← hv.tile, ← hy, ← hx, ← htiles]
  rfl

/-- Every fetched tile exists, so the loop goes on. -/
theorem renderPixels_nextTile (n : ℕ) (hv : (v.nextPixel.nextTile.loadTile g).At g (i + 1))
    (hw : (plotPixel w v).gpu.observed = g.observed) (h8 : v.nextPixel.x = 8) :
    renderPixels (n + 1) w v = renderPixels n
      ((plotPixel w v).log (.vramRead v.nextPixel.nextTile.mapAddress.toNat))
      (v.nextPixel.nextTile.loadTile g) := by
  have hload : v.nextPixel.nextTile.loadTile g.observed =
      v.nextPixel.nextTile.loadTile (plotPixel w v).gpu.observed := by rw [hw]
  have hload : v.nextPixel.nextTile.loadTile g =
      v.nextPixel.nextTile.loadTile (plotPixel w v).gpu := hload
  have htile := hv.tile_lt
  rw [hload] at htile ⊢
  refine (if_pos h8).trans ?_
  by_cases hshift : shiftsTile (plotPixel w v).gpu
      (v.nextPixel.nextTile.fetchTile (plotPixel w v).gpu).tile
  · rw [ScanVars.loadTile, if_pos hshift] at htile ⊢
    exact (if_pos hshift).trans (if_neg (Nat.not_lt_of_le (Nat.le_of_lt_succ htile)))
  · rw [ScanVars.loadTile, if_neg hshift]
    exact if_neg hshift

/-- One round of the loop: a pixel is drawn, and the locals are those of the next. -/
theorem renderPixels_succ (n : ℕ) (hv : v.At g i) (hw : w.gpu.observed = g.observed) (hi : i < 160)
    (hline : g.lcdYCoordinate.toNat ≤ 143) :
    ∃ w' v', renderPixels (n + 1) w v = renderPixels n w' v' ∧ w'.gpu = (plotPixel w v).gpu ∧
      v'.At g (i + 1) := by
  by_cases h8 : v.nextPixel.x = 8
  · have hnext := hv.nextTile hi hline h8
    exact ⟨_, _, renderPixels_nextTile n hnext hw h8, rfl, hnext⟩
  · exact ⟨_, _, if_neg h8, rfl, hv.nextPixel hi hline h8⟩

/-- The loop draws its `n` pixels and no other.  Nothing is said of other lines of the frame
buffer here; that the loop leaves them alone is part of the bounds of the renderer. -/
theorem renderPixels_frameBuffer (hline : g.lcdYCoordinate.toNat ≤ 143) (n : ℕ) (hv : v.At g i)
    (hw : w.gpu.observed = g.observed) (hi : i + n ≤ 160) (k : ℕ) :
    (renderPixels n w v).gpu.frameBuffer (g.lcdYCoordinate.toNat * 160 + k) =
      if i ≤ k ∧ k < i + n then colourOf (g.cachedPixel (g.drawnTile k) k)
      else w.gpu.frameBuffer (g.lcdYCoordinate.toNat * 160 + k) := by
  induction n generalizing w v i with
  | zero => exact (if_neg (by omega)).symm
  | succ n ih =>
    obtain ⟨w', v', hstep, hgpu, hv'⟩ := renderPixels_succ n hv hw (by omega) hline
    have hw' : w'.gpu.observed = g.observed := (congrArg Gpu.observed hgpu).trans hw
    rw [hstep, ih hv' hw' (by omega), hgpu, plotPixel_frameBuffer hv hw, Function.update_apply]
    rcases Nat.lt_trichotomy k i with h | rfl | h
    · rw [if_neg (by omega), if_neg (by omega), if_neg (by omega)]
    · rw [if_neg (by omega), if_pos rfl, if_pos (by omega)]
    · simp only [show i + 1 ≤ k ∧ k < i + 1 + n ↔ i ≤ k ∧ k < i + (n + 1) by omega]
      rw [if_neg (by omega : g.lcdYCoordinate.toNat * 160 + k ≠ g.lcdYCoordinate.toNat * 160 + i)]

end

/-- **What `renderScan` draws** on a visible line, from any picture data. -/
theorem renderScan_frameBuffer {w : GpuRun} (hline : w.gpu.lcdYCoordinate.toNat ≤ 143) {i : ℕ}
    (hi : i < 160) :
    (renderScan w).gpu.frameBuffer (w.gpu.lcdYCoordinate.toNat * 160 + i) =
      colourOf (w.gpu.cachedPixel (w.gpu.drawnTile i) i) := by
  have hstart := ScanVars.At.scanVars hline
  have htile := hstart.tile_lt
  have hrender : renderScan w = renderPixels 160
      ((w.log (.renderScan w.gpu.lcdYCoordinate)).log
        (.vramRead (scanVars w.gpu).mapAddress.toNat)) ((scanVars w.gpu).loadTile w.gpu) :=
    if_neg (Nat.not_lt_of_le (Nat.le_of_lt_succ htile))
  have hpixels := renderPixels_frameBuffer (w := (w.log (.renderScan w.gpu.lcdYCoordinate)).log
    (.vramRead (scanVars w.gpu).mapAddress.toNat)) hline 160 hstart rfl (Nat.le_refl 160) i
  rw [hrender, hpixels]
  exact if_pos (by omega)

/-! ## When it is the background -/

/-- No two of the four colours look alike. -/
theorem colourOf_injective {a b : Byte} (ha : a.toNat ≤ 3) (hb : b.toNat ≤ 3)
    (h : colourOf a = colourOf b) : a = b := by
  have hpalette : ∀ i < 4, ∀ j < 4,
      palette.getD i ⟨0, 0, 0⟩ = palette.getD j ⟨0, 0, 0⟩ → i = j := by decide
  exact BitVec.eq_of_toNat_eq (hpalette _ (Nat.lt_succ_of_le ha) _ (Nat.lt_succ_of_le hb) h)

/-- The tile cache shows what is in video RAM. -/
theorem Gpu.TilesCoherent.cachedPixel {g : Gpu} (h : g.TilesCoherent) {tile : ℕ}
    (htile : tile < tileCount) (i : ℕ) : g.cachedPixel tile i = g.tileDataPixel tile i :=
  h tile htile _ (Nat.mod_lt _ (by decide)) _ (Nat.mod_lt _ (by decide))

/-- **When the background is shown**: where the tile that the map has one row further for each
byte, numbered the other way, looks like the tile that should be there.  The tile cache is taken
to be right, so that what differs is the choice of the tile alone. -/
theorem background_shown_iff {w : GpuRun} (hline : w.gpu.lcdYCoordinate.toNat ≤ 143)
    (htiles : w.gpu.TilesCoherent) : BackgroundShown w ↔ w.gpu.SameTileData := by
  refine forall_congr' fun i ↦ forall_congr' fun hi ↦ ?_
  have hdrawn : w.gpu.cachedPixel (w.gpu.drawnTile i) i = _ :=
    htiles.cachedPixel (tileNumber_lt _ _) i
  have hshown : w.gpu.cachedPixel (w.gpu.shownTile i) i = _ :=
    htiles.cachedPixel (tileNumber_lt _ _) i
  rw [renderScan_frameBuffer hline hi, hdrawn, hshown]
  exact ⟨colourOf_injective (rowPixel_le _ _ _) (rowPixel_le _ _ _), congrArg colourOf⟩

/-- A blank picture, but for the map: tile 1 is in the corner of the screen. -/
def blankCorner : Gpu :=
  { Machine.powerOn.gpu with
    lcdControl := 0x91
    VRAM := Function.update (fun _ ↦ 0) 0x1800 1 }

theorem blankCorner_cacheRight : blankCorner.CacheRight := by
  refine ((blank_tilesCoherent_iff rfl).2 fun i hi ↦ ?_).cacheRight
  show Function.update (fun _ ↦ (0 : Byte)) 0x1800 1 i = 0
  exact Function.update_of_ne (Nat.ne_of_lt hi) _ _

/-- The same, with a row of dots in tile 1, and in tile 257, which is taken for it. -/
def twinTiles : Gpu :=
  tileCache.run blankCorner [⟨0x10, 0xFF, by decide⟩, ⟨0x1010, 0xFF, by decide⟩]

/-- Nobody can tell the twins apart. -/
theorem background_shown_twinTiles :
    BackgroundShown ⟨twinTiles, Machine.powerOn.interruptRegisters, []⟩ ∧
      twinTiles.tileDataPixel (twinTiles.shownTile 0) 0 ≠ 0 ∧
      twinTiles.shownTile 0 ≠ twinTiles.drawnTile 0 :=
  ⟨(background_shown_iff (by decide) (tileCache_run blankCorner_cacheRight _).1.coherent).2
    (by decide +kernel), by decide, by decide⟩

/-- A picture with one tile that is not blank, number 1, in the corner of the screen. -/
def oneTile : Gpu :=
  updateTile { Machine.powerOn.gpu with
    lcdControl := 0x91
    VRAM := Function.update (Function.update (fun _ ↦ 0) 0x1800 1) 16 0xFF } 16

theorem oneTile_tilesCoherent : oneTile.TilesCoherent :=
  (blankCorner_cacheRight.writeTile ⟨16, 0xFF, by decide⟩).coherent

/-- The tile in the corner is not shown: tile 257 is taken for tile 1. -/
theorem corner_not_shown :
    oneTile.lcdYCoordinate.toNat ≤ 143 ∧ oneTile.TilesCoherent ∧
      ¬BackgroundShown ⟨oneTile, Machine.powerOn.interruptRegisters, []⟩ := by
  refine ⟨by decide, oneTile_tilesCoherent, fun h ↦ ?_⟩
  have hcorner := h 0 (by decide)
  rw [renderScan_frameBuffer (by decide) (by decide)] at hcorner
  exact absurd hcorner (by decide)

end GameBloat
