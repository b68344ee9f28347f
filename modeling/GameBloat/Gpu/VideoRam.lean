import GameBloat.Loop
import GameBloat.Library.Latch

/-!
# Video RAM and the tile cache

Two conventions for an address meet at video RAM.  `gpuReadByte` takes an offset, `gpuWriteByte`
an address, and the memory map gives an address to both.  So the CPU stores where the GPU draws
from, but it reads 0 whatever is there (`video_ram_law_iff`).

Inside `gpuWriteByte` the same slip is made once more: the test that decides whether a tile has
changed compares the address with the size of the tile data.  No address of video RAM passes it,
so the tile cache is never refreshed, and it is right only as long as the tile data is as blank as
the cache (`tiles_coherent_iff`).  The decoder `updateTile` itself is right (`updateTile_tiles`).

The statement about the cache is exact for runs of any length.  After any stores and steps from a
reset, the cache is right if and only if, for each byte of the tile data, the last value stored to
it, if there is one, is 0.  Two facts come together in it: the cache stays as the reset has left
it (`run_tiles`), and a byte of video RAM holds the value stored to it last (`run_VRAM`, with
`latest` from the library).  A blank cache then matches blank data only, because a row of a tile
is blank if and only if its two bytes are 0 (`rowPixel_blank_iff`).

The decoder goes through the eight pixels of a row with a mask that moves from bit 7 to bit 0.
Its specification `rowPixel` takes one bit of each byte, without a mask, and the loop is a fold
whose effect on the cache is said at once for all its entries (`foldl_setTile`).
-/

set_option autoImplicit false

namespace GameBloat

open Function (update)

/-- The addresses of video RAM. -/
def InVideoRam (address : Word) : Prop := 0x8000 ≤ address.toNat ∧ address.toNat < 0xA000

instance (address : Word) : Decidable (InVideoRam address) := inferInstanceAs (Decidable (_ ∧ _))

/-! ## Reads and stores -/

section

variable {a b : Word} (m : Machine) (value : Byte)

/-- An address is not an offset: it is past the end of video RAM. -/
theorem mmuReadByte_videoRam (h : InVideoRam b) : mmuReadByte m b = 0 := by
  obtain ⟨hlo, hhi⟩ := h
  rw [mmuReadByte, if_neg (by omega), if_pos hhi, gpuReadByte, if_neg (by omega)]

/-- A store changes the byte at the offset, and does not refresh the tile. -/
theorem storeByte_videoRam (h : InVideoRam a) :
    storeByte m a value =
      { m with gpu := { m.gpu with VRAM := update m.gpu.VRAM (a.toNat - 0x8000) value } } := by
  obtain ⟨hlo, hhi⟩ := h
  have hoffset : (a - 0x8000).toNat = a.toNat - 0x8000 := by bv_omega
  rw [storeByte, mmuWriteByte, if_neg (by omega), if_pos hhi, gpuWriteByte]
  simp only [hoffset]
  rw [if_pos (by omega), if_neg (by omega)]

/-- Video RAM after such a store. -/
theorem storeByte_VRAM (h : InVideoRam a) :
    (storeByte m a value).gpu.VRAM = update m.gpu.VRAM (a.toNat - 0x8000) value := by
  rw [storeByte_videoRam m value h]

/-- The byte that `renderScan` and `updateTile` see is the one stored. -/
theorem gpuReadByte_storeByte (h : InVideoRam a) :
    gpuReadByte (storeByte m a value).gpu (a - 0x8000) = value := by
  obtain ⟨hlo, hhi⟩ := h
  have hoffset : (a - 0x8000).toNat = a.toNat - 0x8000 := by bv_omega
  rw [gpuReadByte, hoffset, if_pos (by omega), storeByte_VRAM m value ⟨hlo, hhi⟩,
    Function.update_self]

end

/-- The law of video RAM at two addresses: after a store, the CPU reads the value there and
elsewhere what it read before, and the GPU sees the value too. -/
def VideoRamLaw (m : Machine) (a b : Word) (value : Byte) : Prop :=
  mmuReadByte (storeByte m a value) b = (if b = a then value else mmuReadByte m b) ∧
  gpuReadByte (storeByte m a value).gpu (a - 0x8000) = value

/-- **When video RAM is a memory**: where the CPU does not read back what it has stored, or has
stored the 0 that it reads everywhere.  The read passes an address where an offset is meant, which
is out of range for every address of video RAM. -/
theorem video_ram_law_iff (m : Machine) {a b : Word} (ha : InVideoRam a) (hb : InVideoRam b)
    (value : Byte) : VideoRamLaw m a b value ↔ b ≠ a ∨ value = 0 := by
  rw [VideoRamLaw, gpuReadByte_storeByte m value ha, mmuReadByte_videoRam _ hb,
    mmuReadByte_videoRam _ hb]
  by_cases hba : b = a
  · rw [if_pos hba]
    exact ⟨fun h ↦ .inr h.1.symm, fun h ↦ ⟨(h.resolve_left (not_not.2 hba)).symm, rfl⟩⟩
  · rw [if_neg hba]
    exact iff_of_true ⟨rfl, rfl⟩ (.inl hba)

/-- A store next to an address is not seen there. -/
theorem video_ram_law_next : VideoRamLaw Machine.powerOn 0x8000 0x8001 1 :=
  (video_ram_law_iff Machine.powerOn (by decide) (by decide) 1).2 (by decide)

/-- What is stored at 0x8000 is not read there. -/
theorem video_ram_not_read_back : ¬VideoRamLaw Machine.powerOn 0x8000 0x8000 1 := by
  intro h
  exact absurd h.1 (by decide)

/-! ## The decoder -/

/-- The pixel of a row of a tile, from the two bytes of the row: two bits, one from each, and the
leftmost pixel from the highest bit. -/
def rowPixel (lsb msb : Byte) (pixel : ℕ) : Byte :=
  BitVec.ofNat 8 ((lsb.getLsbD (7 - pixel)).toNat + 2 * (msb.getLsbD (7 - pixel)).toNat)

/-- The mask of the loop picks out one bit. -/
theorem and_bit_ne_zero_iff (byte : Byte) {i : ℕ} (hi : i < 8) :
    byte &&& 1 <<< i ≠ 0 ↔ byte.getLsbD i = true := by
  have hbit : ∀ i < 8, 1 <<< i = BitVec.twoPow 8 i ∧ BitVec.twoPow 8 i ≠ 0 := by decide
  obtain ⟨heq, hne⟩ := hbit i hi
  rw [heq, BitVec.and_twoPow]
  split
  · exact iff_of_true hne ‹_›
  · exact iff_of_false (not_not.2 rfl) ‹_›

/-- The value computed in the loop is the pixel. -/
theorem tilePixel_eq (lsb msb : Byte) {pixel : ℕ} (h : pixel < 8) :
    tilePixel lsb msb pixel = rowPixel lsb msb pixel := by
  have hl := and_bit_ne_zero_iff lsb (show 7 - pixel < 8 by omega)
  have hm := and_bit_ne_zero_iff msb (show 7 - pixel < 8 by omega)
  rw [tilePixel, rowPixel]
  simp only [hl, hm]
  cases lsb.getLsbD (7 - pixel) <;> cases msb.getLsbD (7 - pixel) <;> rfl

/-- There are four colours. -/
theorem rowPixel_le (lsb msb : Byte) (pixel : ℕ) : (rowPixel lsb msb pixel).toNat ≤ 3 := by
  rw [rowPixel]
  cases lsb.getLsbD (7 - pixel) <;> cases msb.getLsbD (7 - pixel) <;> decide

/-- An assignment to one entry of the cache. -/
theorem setTile_apply (tiles : ℕ → ℕ → ℕ → Byte) (tile subRow pixel : ℕ) (value : Byte)
    (t y x : ℕ) :
    setTile tiles tile subRow pixel value t y x =
      if t = tile ∧ y = subRow ∧ x = pixel then value else tiles t y x := by
  by_cases ht : t = tile <;> by_cases hy : y = subRow <;>
    simp [setTile, Function.update_apply, ht, hy]

/-- A row of pixels, stored one after the other. -/
theorem foldl_setTile (tiles : ℕ → ℕ → ℕ → Byte) (tile subRow : ℕ) (value : ℕ → Byte) (n : ℕ)
    (t y x : ℕ) :
    (List.range n).foldl (fun tiles pixel ↦ setTile tiles tile subRow pixel (value pixel)) tiles
      t y x = if t = tile ∧ y = subRow ∧ x < n then value x else tiles t y x := by
  induction n with
  | zero => simp
  | succ n ih =>
    rw [List.range_succ, List.foldl_append, List.foldl_cons, List.foldl_nil, setTile_apply, ih]
    by_cases hrow : t = tile ∧ y = subRow
    · obtain ⟨rfl, rfl⟩ := hrow
      simp only [true_and]
      rcases Nat.lt_trichotomy x n with h | rfl | h
      · rw [if_neg (by omega), if_pos h, if_pos (by omega)]
      · rw [if_pos rfl, if_pos (by omega)]
      · rw [if_neg (by omega), if_neg (by omega), if_neg (by omega)]
    · rw [if_neg (by tauto), if_neg (by tauto), if_neg (by tauto)]

/-- The mask of `updateTile` clears the lowest bit of an offset. -/
theorem and_rowMask {n : ℕ} (h : n < 0x2000) : n &&& 0x1FFE = n / 2 * 2 := by
  have hmask : (0x1FFE : ℕ) = (2 ^ 12 - 1) * 2 ^ 1 := by decide
  rw [hmask, show n / 2 * 2 = n / 2 * 2 ^ 1 from rfl]
  refine Nat.eq_of_testBit_eq fun i ↦ ?_
  rw [Nat.testBit_and, Nat.testBit_mul_two_pow, Nat.testBit_mul_two_pow,
    Nat.testBit_two_pow_sub_one]
  cases i with
  | zero => simp
  | succ i =>
    rw [Nat.add_sub_cancel, Nat.testBit_div_two]
    rcases Nat.lt_or_ge i 12 with hi | hi
    · simp [hi]
    · have hfar : n < 2 ^ (i + 1) :=
        Nat.lt_of_lt_of_le h (Nat.pow_le_pow_right Nat.zero_lt_two (by omega : 13 ≤ i + 1))
      rw [Nat.testBit_lt_two_pow hfar, Bool.false_and, Bool.and_false]

/-- The locals of `updateTile`: the two bytes of the row, the tile and the row in it. -/
theorem updateTile_locals {addr : Word} (h : addr.toNat < 0x1800) :
    (addr &&& 0x1FFE).toNat = addr.toNat / 2 * 2 ∧
      ((addr &&& 0x1FFE) + 1).toNat = addr.toNat / 2 * 2 + 1 ∧
      (((addr &&& 0x1FFE) >>> 4) &&& 0x1FF).toNat = addr.toNat / 16 ∧
      (((addr &&& 0x1FFE) >>> 1) &&& 7).toNat = addr.toNat / 2 % 8 := by
  have hbase : (addr &&& 0x1FFE).toNat = addr.toNat / 2 * 2 := by
    rw [BitVec.toNat_and]
    exact and_rowMask (by omega)
  refine ⟨hbase, ?_, ?_, ?_⟩
  · have hnext : (addr &&& 0x1FFE) + 1 = BitVec.ofNat 16 (addr.toNat / 2 * 2 + 1) := by
      rw [BitVec.ofNat_add, ← hbase, BitVec.ofNat_toNat, BitVec.setWidth_eq]
      rfl
    rw [hnext, BitVec.toNat_ofNat]
    omega
  · rw [BitVec.toNat_and, BitVec.toNat_ushiftRight, hbase, Nat.shiftRight_eq_div_pow]
    refine (Nat.and_two_pow_sub_one_eq_mod _ 9).trans ?_
    omega
  · rw [BitVec.toNat_and, BitVec.toNat_ushiftRight, hbase, Nat.shiftRight_eq_div_pow]
    refine (Nat.and_two_pow_sub_one_eq_mod _ 3).trans ?_
    omega

/-- **The decoder is right**: it refreshes the row that the offset is in, from its two bytes, and no
other. -/
theorem updateTile_tiles (g : Gpu) {addr : Word} (h : addr.toNat < 0x1800) (t y x : ℕ) :
    (updateTile g addr).tiles t y x =
      if t = addr.toNat / 16 ∧ y = addr.toNat / 2 % 8 ∧ x < 8 then
        rowPixel (g.VRAM (16 * t + 2 * y)) (g.VRAM (16 * t + 2 * y + 1)) x
      else g.tiles t y x := by
  obtain ⟨hbase, hnext, htile, hrow⟩ := updateTile_locals h
  have hread (offset : Word) (hoffset : offset.toNat < 0x2000) :
      gpuReadByte g offset = g.VRAM offset.toNat := if_pos hoffset
  rw [updateTile]
  simp only [foldl_setTile, htile, hrow, hread _ (by omega : (addr &&& 0x1FFE).toNat < 0x2000),
    hread _ (by omega : ((addr &&& 0x1FFE) + 1).toNat < 0x2000), hbase, hnext]
  by_cases hin : t = addr.toNat / 16 ∧ y = addr.toNat / 2 % 8 ∧ x < 8
  · obtain ⟨ht, hy, hx⟩ := hin
    have hrowStart : addr.toNat / 2 * 2 = 16 * t + 2 * y := by omega
    rw [if_pos ⟨ht, hy, hx⟩, if_pos ⟨ht, hy, hx⟩, tilePixel_eq _ _ hx, hrowStart]
  · rw [if_neg hin, if_neg hin]

/-! ## The cache -/

/-- The tile cache matches the tile data in video RAM.  A row of a tile is two bytes, of which the
first has the low bits of the eight pixels and the second their high bits; the pixel on the left
is bit 7. -/
def Gpu.TilesCoherent (g : Gpu) : Prop :=
  ∀ tile < tileCount, ∀ row < 8, ∀ pixel < 8,
    g.tiles tile row pixel =
      rowPixel (g.VRAM (16 * tile + 2 * row)) (g.VRAM (16 * tile + 2 * row + 1)) pixel

/-- A store, or a step of the GPU.  Cycles of the main loop are left to the events that make them
up. -/
def Event.StoresOrSteps : Event → Prop
  | .mmuWriteByte _ _ => True
  | .gpuStep _ => True
  | .loopCycle => False
  | .clock _ => False

/-- A register write does not reach the picture data. -/
theorem gpuWriteRegister_picture (g : Gpu) (address : Word) (value : Byte) :
    (gpuWriteRegister g address value).1.VRAM = g.VRAM ∧
      (gpuWriteRegister g address value).1.tiles = g.tiles := by
  by_cases h40 : address = 0xFF40
  · rw [h40, gpuWriteRegister_lcdControl]
    split <;> exact ⟨rfl, rfl⟩
  by_cases h44 : address = 0xFF44
  · rw [h44, gpuWriteRegister_lcdYCoordinate]
    exact ⟨rfl, rfl⟩
  · have h := gpuWriteRegister_sameScan g value h40 h44
    exact ⟨h.VRAM, h.tiles⟩

/-- No store refreshes a tile. -/
theorem storeByte_tiles (m : Machine) (address : Word) (value : Byte) :
    (storeByte m address value).gpu.tiles = m.gpu.tiles := by
  by_cases hvideo : InVideoRam address
  · rw [storeByte_videoRam m value hvideo]
  have heffect := storeByte_effect m address value
  generalize storeByte m address value = m' at heffect
  cases heffect with
  | vram hlo hhi => exact absurd ⟨hlo, hhi⟩ hvideo
  | gpuRegister => exact (gpuWriteRegister_picture m.gpu address value).2
  | cartridge | memory | interrupt => rfl

/-- A byte of video RAM keeps the last value stored to its address. -/
theorem storeByte_VRAM_apply (m : Machine) (address : Word) (value : Byte) {i : ℕ}
    (hi : i < vramSize) :
    (storeByte m address value).gpu.VRAM i =
      (writtenTo (0x8000 + i) (0x8000 + i) address value).getD (m.gpu.VRAM i) := by
  rw [vramSize] at hi
  by_cases hvideo : InVideoRam address
  · rw [storeByte_VRAM m value hvideo, Function.update_apply, writtenTo]
    obtain ⟨hlo, hhi⟩ := hvideo
    by_cases heq : i = address.toNat - 0x8000
    · rw [if_pos heq, if_pos (by omega), Option.getD_some]
    · rw [if_neg heq, if_neg (by omega), Option.getD_none]
  have heffect := storeByte_effect m address value
  rw [writtenTo_of_lt (by rw [InVideoRam] at hvideo; omega), Option.getD_none]
  generalize storeByte m address value = m' at heffect
  cases heffect with
  | vram hlo hhi => exact absurd ⟨hlo, hhi⟩ hvideo
  | gpuRegister => exact congrFun (gpuWriteRegister_picture m.gpu address value).1 i
  | cartridge | memory | interrupt => rfl

/-- A step of the GPU leaves video RAM alone. -/
theorem Stepped.VRAM {m m' : Machine} {calls : List GpuCall} (h : Stepped m m' calls) :
    m'.gpu.VRAM = m.gpu.VRAM := by
  cases h with
  | stays clock hm hcalls => exact hm ▸ rfl
  | turns _ _ _ _ _ hVRAM => exact hVRAM

section

variable {events : List Event}

/-- The cache is as blank as the reset has left it. -/
theorem run_tiles (m : Machine) (hevents : ∀ e ∈ events, e.StoresOrSteps) :
    (gameboy.run m.gpuReset events).gpu.tiles = fun _ _ _ ↦ 0 := by
  refine System.run_invariant (I := fun m : Machine ↦ m.gpu.tiles = fun _ _ _ ↦ 0)
    (fun m e he h ↦ ?_) rfl hevents
  cases e with
  | mmuWriteByte address value => exact (storeByte_tiles m address value).trans h
  | gpuStep tick => exact (gpuStep_stepped m tick).tiles.trans h
  | loopCycle => exact he.elim
  | clock => exact he.elim

/-- Video RAM holds what was stored last. -/
theorem run_VRAM (m : Machine) (hevents : ∀ e ∈ events, e.StoresOrSteps) {i : ℕ}
    (hi : i < vramSize) :
    (gameboy.run m.gpuReset events).gpu.VRAM i =
      (latest (Event.writtenTo (0x8000 + i) (0x8000 + i)) events).getD 0 := by
  have hstep (m : Machine) (e : Event) (he : e.StoresOrSteps) :
      (gameboy.step m e).gpu.VRAM i =
        ((Event.writtenTo (0x8000 + i) (0x8000 + i) e).map id).getD (m.gpu.VRAM i) := by
    rw [Option.map_id]
    cases e with
    | mmuWriteByte address value => exact storeByte_VRAM_apply m address value hi
    | gpuStep tick => exact congrFun (gpuStep_stepped m tick).VRAM i
    | loopCycle => exact he.elim
    | clock => exact he.elim
  have hlatched := System.run_latched (S := gameboy) (s := m.gpuReset) (fun m ↦ m.gpu.VRAM i)
    (I := fun _ ↦ True) (fun _ _ _ _ ↦ trivial) (fun m e he _ ↦ hstep m e he) trivial hevents
  rw [Option.map_id] at hlatched
  exact hlatched

/-- A pixel is blank if both its bits are. -/
theorem rowPixel_eq_zero_iff (lsb msb : Byte) (pixel : ℕ) :
    rowPixel lsb msb pixel = 0 ↔
      lsb.getLsbD (7 - pixel) = false ∧ msb.getLsbD (7 - pixel) = false := by
  rw [rowPixel]
  cases lsb.getLsbD (7 - pixel) <;> cases msb.getLsbD (7 - pixel) <;> decide

/-- A row is blank if its two bytes are 0. -/
theorem rowPixel_blank_iff (lsb msb : Byte) :
    (∀ pixel < 8, 0 = rowPixel lsb msb pixel) ↔ lsb = 0 ∧ msb = 0 := by
  constructor
  · intro h
    have hbits (i : ℕ) (hi : i < 8) : lsb.getLsbD i = false ∧ msb.getLsbD i = false := by
      have hpixel := (rowPixel_eq_zero_iff lsb msb (7 - i)).1 (h (7 - i) (by omega)).symm
      rwa [Nat.sub_sub_self (by omega)] at hpixel
    refine ⟨BitVec.eq_of_getLsbD_eq fun i hi ↦ ?_, BitVec.eq_of_getLsbD_eq fun i hi ↦ ?_⟩
    · exact (hbits i hi).1.trans BitVec.getLsbD_zero.symm
    · exact (hbits i hi).2.trans BitVec.getLsbD_zero.symm
  · rintro ⟨rfl, rfl⟩ pixel -
    exact ((rowPixel_eq_zero_iff 0 0 pixel).2 ⟨BitVec.getLsbD_zero, BitVec.getLsbD_zero⟩).symm

/-- A blank cache matches blank tile data only. -/
theorem blank_tilesCoherent_iff {g : Gpu} (h : g.tiles = fun _ _ _ ↦ 0) :
    g.TilesCoherent ↔ ∀ i < 0x1800, g.VRAM i = 0 := by
  simp only [Gpu.TilesCoherent, h, rowPixel_blank_iff, tileCount]
  constructor
  · intro hrows i hi
    obtain ⟨heven, hodd⟩ := hrows (i / 16) (by omega) (i / 2 % 8) (by omega)
    rcases Nat.mod_two_eq_zero_or_one i with hparity | hparity
    · rwa [show 16 * (i / 16) + 2 * (i / 2 % 8) = i by omega] at heven
    · rwa [show 16 * (i / 16) + 2 * (i / 2 % 8) + 1 = i by omega] at hodd
  · exact fun hbytes tile htile row hrow ↦ ⟨hbytes _ (by omega), hbytes _ (by omega)⟩

/-- **When the tile cache is right**: after any stores and steps from a reset, as long as
everything stored last in the tile data is 0.  The stores do reach video RAM, but nothing calls
`updateTile`, and so the cache is as the reset has left it. -/
theorem tiles_coherent_iff (m : Machine) (hevents : ∀ e ∈ events, e.StoresOrSteps) :
    (gameboy.run m.gpuReset events).gpu.TilesCoherent ↔
      ∀ i < 0x1800, ∀ value,
        latest (Event.writtenTo (0x8000 + i) (0x8000 + i)) events = some value → value = 0 := by
  rw [blank_tilesCoherent_iff (run_tiles m hevents)]
  refine forall_congr' fun i ↦ forall_congr' fun hi ↦ ?_
  rw [run_VRAM m hevents (by rw [vramSize]; omega)]
  cases latest (Event.writtenTo (0x8000 + i) (0x8000 + i)) events with
  | none => simp
  | some value => simp

end

/-- A store to the tile map does not disturb the tiles. -/
theorem tiles_coherent_tileMap :
    (gameboy.run Machine.powerOn.gpuReset
      [.mmuWriteByte 0x9800 1, .gpuStep 80]).gpu.TilesCoherent := by
  refine (tiles_coherent_iff Machine.powerOn
    (by simp [Event.StoresOrSteps])).2 fun i hi value h ↦ ?_
  obtain ⟨e, he, hvalue⟩ := exists_of_latest_eq_some h
  simp only [List.mem_cons, List.not_mem_nil, or_false] at he
  rcases he with rfl | rfl
  · have hfar : 0x8000 + i < (0x9800 : Word).toNat := Nat.add_lt_add_left hi 0x8000
    rw [Event.writtenTo, writtenTo_of_lt (.inr hfar)] at hvalue
    cases hvalue
  · cases hvalue

/-- After a store to the first tile the cache shows a blank tile still. -/
theorem tiles_not_coherent :
    ¬(gameboy.run Machine.powerOn.gpuReset [.mmuWriteByte 0x8000 1]).gpu.TilesCoherent := by
  intro h
  exact absurd (h 0 (by decide) 0 (by decide) 7 (by decide)) (by decide)

end GameBloat
