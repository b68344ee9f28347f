import GameBloat.Gpu.VideoRam

/-!
# Keeping the tile cache

`updateTile` decodes one row of one tile, the one that the byte at an offset is in, and either
byte of the row will do.  So if no other row of the cache is wrong, none is wrong afterwards
(`updateTile_repairs`): a cache whose rows are decoded anew after each store is never wrong.  That
is what `gpuWriteByte` is written for, although it never comes to it.

`updateTileAccesses` lists the elements of the two arrays that a call touches, and they are all
there.  The list is complete: nothing else is assigned (`updateTile_eq_foldl`), and nothing else
read (`updateTile_congr`).

The system `tileCache` is the code as it was meant: a store to the tile data, and then
`updateTile` at the same offset.  A store spoils one row of the cache at most, the one it is in
(`Gpu.TilesCoherent.store`), and the decoder repairs that row, whatever it held before
(`updateTile_coherent`).  One step therefore keeps the cache right, and a run of any length does,
by the induction rule of the library (`tileCache_run`).

A write carries the bound on its offset, so that a list of them needs no hypothesis: past 0x1800
is the tile map, which has no cache.
-/

set_option autoImplicit false

namespace GameBloat

open Function (update)

/-! ## Stores -/

/-- A byte for the tile data, with an offset that is in it. -/
structure TileWrite where
  offset : Word
  value : Byte
  offset_lt : offset.toNat < 0x1800

/-- The store and the call of `updateTile` in `gpuWriteByte`. -/
def Gpu.writeTile (g : Gpu) (write : TileWrite) : Gpu :=
  updateTile { g with VRAM := update g.VRAM write.offset.toNat write.value } write.offset

/-! ## Accesses -/

/-- An access of `updateTile` to one of the arrays. -/
inductive TileAccess
  /-- `GPU.VRAM[offset]` is read. -/
  | read (offset : ℕ)
  /-- `tiles[tile][subRow][pixel]` is assigned. -/
  | assign (tile subRow pixel : ℕ)
  deriving DecidableEq

/-- The access stays inside the array. -/
def TileAccess.InBounds : TileAccess → Prop
  | .read offset => offset < vramSize
  | .assign tile subRow pixel => tile < tileCount ∧ subRow < 8 ∧ pixel < 8

/-- The bytes `updateTile` reads. -/
def updateTileReads (addr : Word) : List ℕ :=
  let baseAddress := addr &&& 0x1FFE
  [baseAddress.toNat, (baseAddress + 1).toNat]

/-- The pixels `updateTile` assigns. -/
def updateTileAssigns (addr : Word) : List (ℕ × ℕ × ℕ) :=
  let baseAddress := addr &&& 0x1FFE
  let tile := (baseAddress >>> 4) &&& 0x1FF
  let subRow := (baseAddress >>> 1) &&& 7
  (List.range 8).map fun pixel ↦ (tile.toNat, subRow.toNat, pixel)

/-- All accesses, in order: two bytes are read, and eight pixels assigned. -/
def updateTileAccesses (addr : Word) : List TileAccess :=
  (updateTileReads addr).map .read ++
    (updateTileAssigns addr).map fun (tile, subRow, pixel) ↦ .assign tile subRow pixel

/-- The tile data and its cache, driven by stores, with the accesses as outputs. -/
def tileCache : System Gpu TileWrite TileAccess where
  step := Gpu.writeTile
  out _ write := updateTileAccesses write.offset

/-- The cache is right, except perhaps in the row of the byte at this offset. -/
def Gpu.CoherentExcept (g : Gpu) (offset : Word) : Prop :=
  ∀ tile < tileCount, ∀ row < 8, ∀ pixel < 8, 16 * tile + 2 * row ≠ offset.toNat / 2 * 2 →
    g.tiles tile row pixel =
      rowPixel (g.VRAM (16 * tile + 2 * row)) (g.VRAM (16 * tile + 2 * row + 1)) pixel

/-- The cache is right everywhere, and holds the numbers of colours. -/
structure Gpu.CacheRight (g : Gpu) : Prop where
  coherent : g.TilesCoherent
  colours : ∀ tile < tileCount, ∀ row < 8, ∀ pixel < 8, (g.tiles tile row pixel).toNat ≤ 3

/-! ## What updateTile accesses -/

/-- It assigns these pixels, in this order. -/
theorem updateTile_eq_foldl (g : Gpu) (addr : Word) :
    updateTile g addr = { g with
      tiles := (updateTileAssigns addr).foldl (fun tiles (tile, subRow, pixel) ↦
        setTile tiles tile subRow pixel (tilePixel (gpuReadByte g (addr &&& 0x1FFE))
          (gpuReadByte g ((addr &&& 0x1FFE) + 1)) pixel)) g.tiles } := by
  rw [updateTile, updateTileAssigns, List.foldl_map]

/-- Nothing else of video RAM has a say in what it assigns. -/
theorem updateTile_congr {g g' : Gpu} {addr : Word} (htiles : g.tiles = g'.tiles)
    (h : ∀ offset ∈ updateTileReads addr, g.VRAM offset = g'.VRAM offset) :
    (updateTile g addr).tiles = (updateTile g' addr).tiles := by
  have hread {offset : Word} (hoffset : offset.toNat ∈ updateTileReads addr) :
      gpuReadByte g offset = gpuReadByte g' offset := by
    rw [gpuReadByte, gpuReadByte, h _ hoffset]
  rw [updateTile_eq_foldl, updateTile_eq_foldl, htiles, hread (.head _),
    hread (.tail _ (.head _))]

/-- All accesses are in bounds. -/
theorem updateTileAccesses_inBounds {addr : Word} (h : addr.toNat < 0x1800) :
    ∀ access ∈ updateTileAccesses addr, access.InBounds := by
  obtain ⟨hbase, hnext, htile, hrow⟩ := updateTile_locals h
  intro access haccess
  rcases List.mem_append.1 haccess with hread | hassign
  · obtain ⟨offset, hoffset, rfl⟩ := List.mem_map.1 hread
    rw [updateTileReads, hbase, hnext, List.mem_pair] at hoffset
    show offset < 0x2000
    omega
  · obtain ⟨⟨tile, subRow, pixel⟩, hpixel, rfl⟩ := List.mem_map.1 hassign
    rw [updateTileAssigns, htile, hrow] at hpixel
    obtain ⟨x, hx, heq⟩ := List.mem_map.1 hpixel
    rw [List.mem_range] at hx
    simp only [Prod.mk.injEq] at heq
    show tile < 384 ∧ subRow < 8 ∧ pixel < 8
    omega

/-! ## What it repairs -/

section

variable {g : Gpu}

/-- A cache that matches video RAM holds the four colours only. -/
theorem Gpu.TilesCoherent.cacheRight (h : g.TilesCoherent) : g.CacheRight := by
  refine ⟨h, fun tile htile row hrow pixel hpixel ↦ ?_⟩
  rw [h tile htile row hrow pixel hpixel]
  exact rowPixel_le _ _ _

/-- The row that was wrong is decoded, and the others are as they were. -/
theorem updateTile_coherent {offset : Word} (hoffset : offset.toNat < 0x1800)
    (h : g.CoherentExcept offset) : (updateTile g offset).TilesCoherent := by
  intro tile htile row hrow pixel hpixel
  rw [updateTile_tiles g hoffset]
  by_cases hin : tile = offset.toNat / 16 ∧ row = offset.toNat / 2 % 8 ∧ pixel < 8
  · exact if_pos hin
  · rw [if_neg hin]
    exact h tile htile row hrow pixel hpixel (by omega)

/-- A store spoils the row that it is in. -/
theorem Gpu.TilesCoherent.store (h : g.TilesCoherent) (write : TileWrite) :
    ({ g with VRAM := update g.VRAM write.offset.toNat write.value } : Gpu).CoherentExcept
      write.offset := by
  intro tile htile row hrow pixel hpixel hne
  have hother {i : ℕ} (hi : i ≠ write.offset.toNat) :
      g.VRAM i = update g.VRAM write.offset.toNat write.value i :=
    (Function.update_of_ne hi _ _).symm
  exact (h tile htile row hrow pixel hpixel).trans
    (congrArg₂ (rowPixel · · pixel) (hother (by omega)) (hother (by omega)))

/-- A store and a call of `updateTile`. -/
theorem Gpu.CacheRight.writeTile (h : g.CacheRight) (write : TileWrite) :
    (g.writeTile write).CacheRight :=
  (updateTile_coherent write.offset_lt (h.coherent.store write)).cacheRight

/-- **The cache stays right**, and every access inside the arrays, whatever is stored. -/
theorem tileCache_run (h : g.CacheRight) (writes : List TileWrite) :
    (tileCache.run g writes).CacheRight ∧
      ∀ access ∈ tileCache.history g writes, access.InBounds := by
  refine System.history_invariant_along (P := fun _ _ ↦ True)
    (I := fun g accesses ↦ g.CacheRight ∧ ∀ access ∈ accesses, TileAccess.InBounds access)
    (fun g accesses write _ hg ↦ ?_) ⟨h, List.forall_mem_nil _⟩
    (System.along_of_forall (fun _ _ _ ↦ trivial) g)
  exact ⟨hg.1.writeTile write,
    List.forall_mem_append.2 ⟨hg.2, updateTileAccesses_inBounds write.offset_lt⟩⟩

end

/-- **`updateTile` repairs the cache**: if it is right except in the row of the offset, it is right
everywhere afterwards; so it stays right however many bytes are stored, if each store is followed by
`updateTile`. -/
theorem updateTile_repairs :
    (∀ (g : Gpu) (offset : Word), offset.toNat < 0x1800 → g.CoherentExcept offset →
      (updateTile g offset).CacheRight ∧
        ∀ access ∈ updateTileAccesses offset, access.InBounds) ∧
    ∀ (g : Gpu) (writes : List TileWrite), g.TilesCoherent →
      (tileCache.run g writes).CacheRight ∧
        ∀ access ∈ tileCache.history g writes, access.InBounds :=
  ⟨fun _ _ hoffset h ↦ ⟨(updateTile_coherent hoffset h).cacheRight,
      updateTileAccesses_inBounds hoffset⟩,
    fun _ writes h ↦ tileCache_run h.cacheRight writes⟩

/-- A byte stored to the first row without `updateTile`, which then repairs it from the other byte,
and two stores with it. -/
theorem updateTile_repairs_firstRow :
    (updateTile { Machine.powerOn.gpu with VRAM := update (fun _ ↦ 0) 1 0xFF } 0).CacheRight ∧
      (tileCache.run Machine.powerOn.gpu
        [⟨0, 0xFF, by decide⟩, ⟨1, 0x0F, by decide⟩]).CacheRight := by
  have hblank : Machine.powerOn.gpu.TilesCoherent :=
    (blank_tilesCoherent_iff rfl).2 fun _ _ ↦ rfl
  have hodd : ({ Machine.powerOn.gpu with VRAM := update (fun _ ↦ 0) 1 0xFF } : Gpu).CoherentExcept
      1 := hblank.store ⟨1, 0xFF, by decide⟩
  -- the other byte of the row is at 0
  have hrow : ({ Machine.powerOn.gpu with VRAM := update (fun _ ↦ 0) 1 0xFF } : Gpu).CoherentExcept
      0 := hodd
  exact ⟨(updateTile_repairs.1 _ 0 (by decide) hrow).1, (updateTile_repairs.2 _ _ hblank).1⟩

end GameBloat
