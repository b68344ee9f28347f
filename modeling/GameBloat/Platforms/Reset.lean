import GameBloat.Cartridge.Load
import GameBloat.Loop

/-!
# Starting a game

A front end starts a game with two calls: `loadROM`, which clears memory, resets the CPU and loads
the cartridge, and `gpuReset`.  `main_server.c` makes them in this order and `main_debug.c` in the
other.

Both write the GPU registers: `gpuReset` directly and `loadROM` through the memory map, with the
table of `cpu_constants.c`.  They do not agree on the values, so the last one wins, and the two
front ends do not start the same machine (`boots_differ`): the server's screen is off, and that of
the debugger is on.

The table has thirty entries, and each is a store through the memory map.  Nothing is gained by
evaluating thirty stores on a machine.  An I/O register is either one of the GPU's or a port, and
a store to it changes either the GPU or `ioPorts` (`storeByte_of_ioAddress`); so the stores of the
table are two folds, one over each (`storeAll_of_ioAddress`), and the fold over the GPU comes to
nine assignments (`foldl_ioStoreGpu`).

With that either front end has a closed form, and comparing them is comparing records.
`MainDebug.boot_eq` is the whole difference, in both directions: the machine of the debugger is
that of the server with four registers of the GPU replaced.  Where the check of the cartridge
passes, the reset functions of the front ends inherit it (`resetGames_differ`).
-/

set_option autoImplicit false

namespace GameBloat

open Function (update)

/-! ## The CPU's half -/

/-- `initializeMemory`, which clears the four memories of the machine.  The cartridge and video
RAM are not among them. -/
def initializeMemory (m : Machine) : Machine :=
  { m with wRAM := fun _ ↦ 0, OAM := fun _ ↦ 0, ioPorts := fun _ ↦ 0, hRAM := fun _ ↦ 0 }

/-- `resetAddresses` (cpu_constants.c). -/
def resetAddresses : List Word :=
  [0xFF05, 0xFF06, 0xFF07, 0xFF10, 0xFF11, 0xFF12, 0xFF14, 0xFF16,
   0xFF17, 0xFF19, 0xFF1A, 0xFF1B, 0xFF1C, 0xFF1E, 0xFF20, 0xFF21,
   0xFF22, 0xFF23, 0xFF24, 0xFF25, 0xFF26, 0xFF40, 0xFF42, 0xFF43,
   0xFF45, 0xFF47, 0xFF48, 0xFF49, 0xFF4A, 0xFF4B]

/-- `resetValues` (cpu_constants.c). -/
def resetValues : List Byte :=
  [0x00, 0x00, 0x00, 0x80, 0xBF, 0xF3, 0xBF, 0x3F, 0x00, 0xBF,
   0x7F, 0xFF, 0x9F, 0xBF, 0xFF, 0x00, 0x00, 0xBF, 0x77, 0xF3,
   0xF1, 0x91, 0x00, 0x00, 0x00, 0xFC, 0xFF, 0xFF, 0x00, 0x00]

/-- The register file after the assignments of `cpuReset`. -/
def resetRegisters (r : Registers) : Registers :=
  let r := r.setAF 0x01B0
  let r := r.setBC 0x0013
  let r := r.setDE 0x00D8
  let r := r.setHL 0x014D
  let r := { r with SP := 0xFFFE }
  { r with PC := 0x0100 }

/-- The stores of `cpuReset`. -/
def storeAll (m : Machine) (writes : List (Word × Byte)) : Machine :=
  writes.foldl (fun m write ↦ storeByte m write.1 write.2) m

/-- `cpuReset`.  Of the interrupt registers it sets `enable` alone. -/
def cpuReset (m : Machine) : Machine :=
  let m := m.onRegisters resetRegisters
  let m := storeAll m (resetAddresses.zip resetValues)
  { m with interruptRegisters.enable := 0, tickCounter := 0 }

/-- `loadROM`, which ignores what `loadCartridge` answers.  Memory is cleared before the file is
opened. -/
def loadROM (m : Machine) (cartName : Option (List Byte)) : Machine × ℕ :=
  let m := initializeMemory m
  let m := cpuReset m
  ((loadCartridge m cartName).1, 0)

/-! ## The front ends -/

namespace MainServer

/-- The body of the `if` of `ResetGame`. -/
def boot (m : Machine) (inGameFilename : Option (List Byte)) : Machine :=
  (loadROM m inGameFilename).1.gpuReset

/-- `ResetGame` (main_server.c). -/
def resetGame (m : Machine) (inGameFilename : Option (List Byte)) : Machine :=
  let (m, valid) := validateCart m inGameFilename
  if valid ≠ 0 then boot m inGameFilename else m

end MainServer

namespace MainDebug

/-- The body of the `if` of `resetGame`. -/
def boot (m : Machine) (inGameFilename : Option (List Byte)) : Machine :=
  (loadROM m.gpuReset inGameFilename).1

/-- `resetGame` (main_debug.c). -/
def resetGame (m : Machine) (inGameFilename : Option (List Byte)) : Machine :=
  let (m, valid) := validateCart m inGameFilename
  if valid ≠ 0 then boot m inGameFilename else m

end MainDebug

section

variable {m : Machine} {inGameFilename : Option (List Byte)}
  (hvalid : (validateCart m inGameFilename).2 ≠ 0)

include hvalid

/-- The check has passed, and the game is started: by the server, -/
theorem MainServer.resetGame_of_valid : MainServer.resetGame m inGameFilename =
    MainServer.boot (validateCart m inGameFilename).1 inGameFilename := if_pos hvalid

/-- and by the debugger. -/
theorem MainDebug.resetGame_of_valid : MainDebug.resetGame m inGameFilename =
    MainDebug.boot (validateCart m inGameFilename).1 inGameFilename := if_pos hvalid

end

/-! ## What the table writes -/

/-- An I/O register that is not the interrupt request. -/
def IoAddress (address : Word) : Prop :=
  0xFF00 ≤ address.toNat ∧ address.toNat < 0xFF80 ∧ address ≠ 0xFF0F

instance (address : Word) : Decidable (IoAddress address) := inferInstanceAs (Decidable (_ ∧ _))

/-- The table has I/O registers only. -/
theorem forall_mem_resetAddresses : ∀ address ∈ resetAddresses, IoAddress address := by
  simp [resetAddresses, IoAddress]

/-- The same for its entries. -/
theorem forall_mem_resetWrites :
    ∀ write ∈ resetAddresses.zip resetValues, IoAddress write.1 :=
  fun _ h ↦ forall_mem_resetAddresses _ (List.of_mem_zip h).1

/-- One of the registers of `gpuWriteRegister`. -/
def GpuAddress (address : Word) : Prop := 0xFF40 ≤ address.toNat ∧ address.toNat ≤ 0xFF4B

instance (address : Word) : Decidable (GpuAddress address) := inferInstanceAs (Decidable (_ ∧ _))

/-- What a store to an I/O register does to the GPU. -/
def ioStoreGpu (g : Gpu) (write : Word × Byte) : Gpu :=
  if GpuAddress write.1 then (gpuWriteRegister g write.1 write.2).1 else g

/-- What a store to an I/O register does to `ioPorts`. -/
def ioStorePorts (ioPorts : ℕ → Byte) (write : Word × Byte) : ℕ → Byte :=
  if GpuAddress write.1 then ioPorts else update ioPorts (write.1.toNat - 0xFF00) write.2

/-- One store to an I/O register. -/
theorem storeByte_of_ioAddress (m : Machine) {write : Word × Byte} (h : IoAddress write.1) :
    storeByte m write.1 write.2 =
      { m with gpu := ioStoreGpu m.gpu write, ioPorts := ioStorePorts m.ioPorts write } := by
  obtain ⟨hlo, hhi, hne⟩ := h
  rw [storeByte, mmuWriteByte, if_neg (by omega), if_neg (by omega), if_neg (by omega),
    if_neg (by omega), if_neg (by omega), if_neg (by omega), if_neg (by omega), if_pos hhi,
    if_neg hne, ioStoreGpu, ioStorePorts]
  by_cases hgpu : GpuAddress write.1
  · rw [if_pos hgpu, if_pos hgpu]
    exact congrArg Prod.fst (if_pos hgpu)
  · rw [if_neg hgpu, if_neg hgpu]
    exact congrArg Prod.fst (if_neg hgpu)

/-- Any number of them: two folds, which do not meddle with each other. -/
theorem storeAll_of_ioAddress (m : Machine) {writes : List (Word × Byte)}
    (h : ∀ write ∈ writes, IoAddress write.1) :
    storeAll m writes =
      { m with gpu := writes.foldl ioStoreGpu m.gpu
               ioPorts := writes.foldl ioStorePorts m.ioPorts } := by
  induction writes generalizing m with
  | nil => rfl
  | cons write writes ih =>
    rw [List.forall_mem_cons] at h
    rw [storeAll, List.foldl_cons, storeByte_of_ioAddress m h.1]
    exact ih _ h.2

/-- The GPU after the stores of `cpuReset`.  The background palette has no case in
`gpuWriteRegister`, so its entry in the table is lost. -/
def resetGpu (g : Gpu) : Gpu :=
  { g with
    lcdControl := 0x91
    lcdStatus := g.lcdStatus &&& 0xF8 ||| g.mode.toByte
    scrollX := 0
    scrollY := 0
    lcdLYCompare := 0
    objPalette0 := 0xFF
    objPalette1 := 0xFF
    lcdWindowY := 0
    lcdWindowX := 0 }

/-- The entries of the table for the GPU, one after the other. -/
theorem foldl_ioStoreGpu (g : Gpu) :
    (resetAddresses.zip resetValues).foldl ioStoreGpu g = resetGpu g := by
  have hlcdControl : ioStoreGpu g (0xFF40, 0x91) =
      { g with lcdControl := 0x91, lcdStatus := g.lcdStatus &&& 0xF8 ||| g.mode.toByte } := by
    rw [ioStoreGpu, if_pos (by decide)]
    exact (gpuWriteRegister_lcdControl g 0x91).trans (if_neg (by decide))
  -- the twenty-one registers before LCDC are not the GPU's
  have hfirst : (resetAddresses.zip resetValues).foldl ioStoreGpu g =
      [(0xFF42, 0x00), (0xFF43, 0x00), (0xFF45, 0x00), (0xFF47, 0xFC), (0xFF48, 0xFF),
        (0xFF49, 0xFF), (0xFF4A, 0x00), (0xFF4B, 0x00)].foldl ioStoreGpu
          (ioStoreGpu g (0xFF40, 0x91)) := rfl
  rw [hfirst, hlcdControl]
  rfl

/-- `ioPorts` after a reset. -/
def resetPorts : ℕ → Byte := (resetAddresses.zip resetValues).foldl ioStorePorts fun _ ↦ 0

/-- What clearing memory and resetting the CPU leave as it was, and what they do not. -/
theorem cpuReset_initializeMemory (m : Machine) :
    cpuReset (initializeMemory m) =
      { m with
        registers := resetRegisters m.registers
        interruptRegisters.enable := 0
        tickCounter := 0
        wRAM := fun _ ↦ 0
        OAM := fun _ ↦ 0
        ioPorts := resetPorts
        hRAM := fun _ ↦ 0
        gpu := resetGpu m.gpu } := by
  simp only [cpuReset]
  rw [storeAll_of_ioAddress _ forall_mem_resetWrites, foldl_ioStoreGpu]
  rfl

/-- Two of the three interrupt registers survive a reset of the CPU. -/
theorem cpuReset_interruptRegisters (m : Machine) :
    (cpuReset m).interruptRegisters = { m.interruptRegisters with enable := 0 } := by
  simp only [cpuReset]
  rw [storeAll_of_ioAddress _ forall_mem_resetWrites]
  rfl

/-! ## The two orders -/

section

variable (m : Machine) (image : Image)

/-- The machine with an image in its slot, memory cleared and the CPU reset. -/
theorem loadROM_image :
    (loadROM m (some image.bytes)).1 = (cpuReset (initializeMemory m)).insert image := by
  rw [loadROM, loadCartridge_image]

/-- In the server's order nothing is left of the GPU registers that the CPU reset has written. -/
theorem MainServer.boot_image :
    MainServer.boot m (some image.bytes) =
      { (cpuReset (initializeMemory m)).insert image with gpu := gpuReset m.gpu } := by
  rw [MainServer.boot, loadROM_image, Machine.gpuReset, cpuReset_initializeMemory]
  rfl

/-- In the debugger's order the table comes last. -/
theorem MainDebug.boot_image :
    MainDebug.boot m (some image.bytes) =
      { (cpuReset (initializeMemory m)).insert image with gpu := resetGpu (gpuReset m.gpu) } := by
  rw [MainDebug.boot, loadROM_image, cpuReset_initializeMemory, cpuReset_initializeMemory]
  rfl

/-- The debugger's GPU keeps what the table has written over the reset. -/
theorem resetGpu_gpuReset (g : Gpu) :
    resetGpu (gpuReset g) = { gpuReset g with
      lcdControl := 0x91, lcdStatus := 0x01, objPalette0 := 0xFF, objPalette1 := 0xFF } := by
  have hstatus : (0 : Byte) &&& 0xF8 ||| GpuMode.vblank.toByte = 0x01 := by decide
  simp only [resetGpu, gpuReset, initGPU, hstatus]

/-- **The whole difference between the two orders**: LCDC, STAT and the two object palettes. -/
theorem MainDebug.boot_eq :
    MainDebug.boot m (some image.bytes) =
      { MainServer.boot m (some image.bytes) with
        gpu := { (MainServer.boot m (some image.bytes)).gpu with
          lcdControl := 0x91, lcdStatus := 0x01, objPalette0 := 0xFF, objPalette1 := 0xFF } } := by
  rw [MainDebug.boot_image, MainServer.boot_image, resetGpu_gpuReset]

/-- The server starts with the LCD off, -/
theorem MainServer.boot_lcdControl :
    (MainServer.boot m (some image.bytes)).gpu.lcdControl = 0 := by
  rw [MainServer.boot_image]
  rfl

/-- and the debugger with the LCD on. -/
theorem MainDebug.boot_lcdControl :
    (MainDebug.boot m (some image.bytes)).gpu.lcdControl = 0x91 := by
  rw [MainDebug.boot_eq]

end

/-- Two machines with the same CPU, interrupt, memory and GPU state.  The counter of the ticks and
the time are not part of it, nor the registers of the memory controllers. -/
structure SameState (m m' : Machine) : Prop where
  registers : m.registers = m'.registers
  interruptRegisters : m.interruptRegisters = m'.interruptRegisters
  wRAM : m.wRAM = m'.wRAM
  OAM : m.OAM = m'.OAM
  ioPorts : m.ioPorts = m'.ioPorts
  hRAM : m.hRAM = m'.hRAM
  cartridge : m.cartridge = m'.cartridge
  gpu : m.gpu = m'.gpu

/-- So they never start the same machine. -/
theorem not_sameState_boot (m : Machine) (image : Image) :
    ¬SameState (MainServer.boot m (some image.bytes)) (MainDebug.boot m (some image.bytes)) := by
  intro h
  have hlcdControl := congrArg Gpu.lcdControl h.gpu
  rw [MainServer.boot_lcdControl, MainDebug.boot_lcdControl] at hlcdControl
  exact absurd hlcdControl (by decide)

/-- **The two front ends never start the same machine**, whatever the state before and the image:
they agree on everything but LCDC, STAT and the object palettes, and on none of these.  One of
them resets the GPU before the CPU and the other after it, and the reset of the CPU stores to
registers of the GPU. -/
theorem boots_differ (m : Machine) (image : Image) :
    ¬SameState (MainServer.boot m (some image.bytes)) (MainDebug.boot m (some image.bytes)) ∧
      MainDebug.boot m (some image.bytes) =
        { MainServer.boot m (some image.bytes) with
          gpu := { (MainServer.boot m (some image.bytes)).gpu with
            lcdControl := 0x91, lcdStatus := 0x01, objPalette0 := 0xFF, objPalette1 := 0xFF } } :=
  ⟨not_sameState_boot m image, MainDebug.boot_eq m image⟩

/-- At power-on, with a cartridge of NOPs. -/
theorem powerOn_boots_differ :
    ¬SameState (MainServer.boot Machine.powerOn (some (Image.small 0x00 0x00 .mbcNone rfl).bytes))
      (MainDebug.boot Machine.powerOn (some (Image.small 0x00 0x00 .mbcNone rfl).bytes)) :=
  not_sameState_boot _ _

/-- So neither do the two reset functions, with a cartridge that passes their check. -/
theorem resetGames_differ (m : Machine) (image : Image)
    (hvalid : (validateCart m (some image.bytes)).2 ≠ 0) :
    ¬SameState (MainServer.resetGame m (some image.bytes))
      (MainDebug.resetGame m (some image.bytes)) := by
  rw [MainServer.resetGame_of_valid hvalid, MainDebug.resetGame_of_valid hvalid]
  exact not_sameState_boot _ image

end GameBloat
