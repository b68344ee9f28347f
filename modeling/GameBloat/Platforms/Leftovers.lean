import GameBloat.Gpu.Palette
import GameBloat.Observation
import GameBloat.Platforms.Reset
import GameBloat.Programs.Code

/-!
# What a reset leaves over

`ResetGame` is meant to start a game on a fresh machine.  It misses the globals gathered in
`Leftovers`, which keep the values of the game before: two of the three interrupt registers and
the state of both bank controllers.  If the new cartridge has no RAM, the pointer to that of the
old one is left as well.

These are all.  Two machines that have been played on and agree on them are started alike, and run
alike from then on (`resetGame_forgets`).

Before the reset anything may have happened on the machines: `Played` says that a machine has come
about from power-on by starting games, with any files, good or bad, and by running cycles of the
main loop.  This is used for one thing only.  The background palette is not reset either, but
nothing ever writes it, so that it is the same on all machines that have been played on.

After the reset the two machines run the same cycles, each with the time at which it happens, and
have to agree on all that a game can observe, and hand the same ticks to the GPU, after any number
of them (`ForgetsPast`).  What is not observed differs in general: the frame buffer still holds
the last picture of the game before.  The proof is a simulation.  `boot_betweenCycles` says that
the two machines are *equal* between cycles, once what is not observed has been taken out; and as
a cycle does not look at that (in the module on observation), they remain so.

Conversely, whoever forgets the past had the same leftovers (`ForgetsPast.leftovers`), since a
reset leaves them as they are and a game can observe them.  The old RAM is not on this side: a
game may be unable to tell it apart, or be able to, depending on its controller.

The second part is a game, `eiGame`, that enables interrupts with its first instruction.  A second
start of it finds them enabled.
-/

set_option autoImplicit false

namespace GameBloat

open BaseOpcode (baseOpcodeTable baseOpcodeTicks)

/-! ## Before -/

/-- What the server does to the machine: it starts the game whose file is found under the name, or
runs a cycle, at a time on the clock on the wall. -/
inductive ServerEvent
  | resetGame (inGameFilename : Option (List Byte))
  | loopCycle (time : ℤ)

/-- `RunGameboyLoop` as a system, whose outputs are the ticks handed to `gpuStep`. -/
def server : System Machine ServerEvent ℤ where
  step m
    | .resetGame inGameFilename => MainServer.resetGame m inGameFilename
    | .loopCycle time => mainLoop.step m time
  out m
    | .resetGame _ => []
    | .loopCycle time => mainLoop.out m time

/-- Games have been played on `m`, for any number of cycles. -/
def Played (m : Machine) : Prop := ∃ events, server.run Machine.powerOn events = m

namespace Played

variable {m : Machine}

/-- No game has been played yet. -/
theorem powerOn : Played Machine.powerOn := ⟨[], rfl⟩

/-- A game is started. -/
theorem resetGame (h : Played m) (inGameFilename : Option (List Byte)) :
    Played (MainServer.resetGame m inGameFilename) := by
  obtain ⟨events, rfl⟩ := h
  exact ⟨events ++ [.resetGame inGameFilename], System.run_append _ _ _⟩

/-- A game runs for some cycles. -/
theorem run (h : Played m) (cycles : List ℤ) : Played (mainLoop.run m cycles) := by
  obtain ⟨events, rfl⟩ := h
  refine ⟨events ++ cycles.map ServerEvent.loopCycle, ?_⟩
  rw [System.run_append]
  exact List.foldl_map

end Played

/-- The machine on which a game has been started first, and has run for some cycles. -/
def afterGame (image : Image) (cycles : List ℤ) : Machine :=
  mainLoop.run (MainServer.resetGame Machine.powerOn (some image.bytes)) cycles

/-- The game has been started. -/
theorem afterGame_nil (image : Image) :
    afterGame image [] = MainServer.resetGame Machine.powerOn (some image.bytes) := rfl

/-- One more cycle. -/
theorem afterGame_append (image : Image) (cycles : List ℤ) (time : ℤ) :
    afterGame image (cycles ++ [time]) = mainLoop.step (afterGame image cycles) time :=
  System.run_append _ _ _

/-- That is a machine on which a game has been played. -/
theorem played_afterGame (image : Image) (cycles : List ℤ) : Played (afterGame image cycles) :=
  (Played.powerOn.resetGame _).run cycles

/-- What `ResetGame` does not reset. -/
structure Leftovers where
  request : Byte
  masterEnable : Byte
  mbc1 : MBC1State
  mbc3 : MBC3State
  deriving DecidableEq

/-- The leftovers of `m`. -/
def Machine.leftovers (m : Machine) : Leftovers :=
  ⟨m.interruptRegisters.request, m.interruptRegisters.masterEnable, m.mbc1, m.mbc3⟩

/-! ## After -/

/-- The two machines, started with `image`, agree on what the game can observe.  The RAM of the
cartridge counts as far as the image has RAM. -/
structure Agree (image : Image) (m m' : Machine) : Prop where
  registers : m.registers = m'.registers
  interruptRegisters : m.interruptRegisters = m'.interruptRegisters
  /-- The GPU registers, video RAM, the tiles, the mode and its clock. -/
  gpu : m.gpu.observed = m'.gpu.observed
  wRAM : m.wRAM = m'.wRAM
  OAM : m.OAM = m'.OAM
  hRAM : m.hRAM = m'.hRAM
  ioPorts : m.ioPorts = m'.ioPorts
  mbc1 : m.mbc1 = m'.mbc1
  mbc3 : m.mbc3 = m'.mbc3
  ram : image.ramSize ≠ 0 → m.cartridge.ram = m'.cartridge.ram

/-- Starting `image` on either machine makes no difference, now or after any number of cycles,
whatever the times are at which they happen.  What a run puts out is compared as well, which are
the ticks that it hands to the GPU. -/
def ForgetsPast (image : Image) (m m' : Machine) : Prop :=
  ∀ cycles, Agree image (mainLoop.run (MainServer.boot m (some image.bytes)) cycles)
      (mainLoop.run (MainServer.boot m' (some image.bytes)) cycles) ∧
    mainLoop.history (MainServer.boot m (some image.bytes)) cycles =
      mainLoop.history (MainServer.boot m' (some image.bytes)) cycles

/-! ## The background palette -/

/-- Loading a cartridge leaves the GPU alone. -/
theorem loadCartridge_gpu (m : Machine) (cartName : Option (List Byte)) :
    (loadCartridge m cartName).1.gpu = m.gpu := by
  cases cartName with
  | none => rfl
  | some bytes =>
    simp only [loadCartridge]
    split_ifs <;> rfl

/-- The check leaves its traces in the header. -/
theorem validateCart_eq (m : Machine) (fileName : Option (List Byte)) :
    ∃ header, (validateCart m fileName).1 = { m with cartridge.header := header } := by
  cases fileName with
  | none => exact ⟨m.cartridge.header, rfl⟩
  | some bytes =>
    simp only [validateCart]
    split_ifs
    · exact ⟨m.cartridge.header, rfl⟩
    · exact ⟨_, rfl⟩
    · exact ⟨_, rfl⟩

/-- A reset leaves the palette as it is, -/
theorem resetGame_backgroundPalette (m : Machine) (inGameFilename : Option (List Byte)) :
    (MainServer.resetGame m inGameFilename).backgroundPalette = m.backgroundPalette := by
  have hvalidate : (validateCart m inGameFilename).1.backgroundPalette = m.backgroundPalette := by
    obtain ⟨header, hm⟩ := validateCart_eq m inGameFilename
    rw [hm]
    rfl
  have hboot (m : Machine) :
      (MainServer.boot m inGameFilename).backgroundPalette = m.backgroundPalette := by
    have hload := congrArg Gpu.backgroundPalette
      (loadCartridge_gpu (cpuReset (initializeMemory m)) inGameFilename)
    rw [cpuReset_initializeMemory] at hload
    rw [MainServer.boot, loadROM, cpuReset_initializeMemory]
    exact hload
  simp only [MainServer.resetGame]
  split_ifs
  · exact (hboot _).trans hvalidate
  · exact hvalidate

/-- and so it is what it was at power-on. -/
theorem Played.backgroundPalette {m : Machine} (h : Played m) :
    m.backgroundPalette = 0b11100100 := by
  obtain ⟨events, rfl⟩ := h
  refine System.run_invariant (I := fun m : Machine ↦ m.backgroundPalette = 0b11100100)
    (fun m e _ hm ↦ ?_) rfl (fun _ _ ↦ trivial : ∀ e ∈ events, True)
  cases e with
  | resetGame inGameFilename => exact (resetGame_backgroundPalette m inGameFilename).trans hm
  | loopCycle time => exact (loopCycle_backgroundPalette (m.atTime time)).trans hm

/-! ## The reset -/

section

variable {image : Image} {m m' : Machine}

/-- With the same leftovers, the same is observed of the machine that is started. -/
theorem boot_betweenCycles (hleft : m.leftovers = m'.leftovers)
    (hram : image.ramSize ≠ 0 ∨ m.cartridge.ram = m'.cartridge.ram)
    (hpalette : m.backgroundPalette = m'.backgroundPalette) :
    (MainServer.boot m (some image.bytes)).betweenCycles =
      (MainServer.boot m' (some image.bytes)).betweenCycles := by
  simp only [Machine.leftovers, Leftovers.mk.injEq] at hleft
  obtain ⟨hrequest, hmasterEnable, hmbc1, hmbc3⟩ := hleft
  have hcart : (if image.ramSize ≠ 0 then fun _ ↦ 0 else m.cartridge.ram) =
      if image.ramSize ≠ 0 then fun _ ↦ 0 else m'.cartridge.ram := by
    rcases hram with hram | hram
    · rw [if_pos hram, if_pos hram]
    · rw [hram]
  have hgpu : (gpuReset m.gpu).observed = (gpuReset m'.gpu).observed := by
    simp only [Machine.backgroundPalette] at hpalette
    simp only [gpuReset, initGPU, Gpu.observed, hpalette]
  rw [MainServer.boot_image, MainServer.boot_image, cpuReset_initializeMemory,
    cpuReset_initializeMemory]
  simp only [Machine.betweenCycles, Machine.atTime, Machine.observed, Machine.insert,
    Cartridge.observed, resetRegisters, hgpu, hcart, hrequest, hmasterEnable, hmbc1, hmbc3]
  rfl

/-- Machines that are equal between cycles agree. -/
theorem Agree.of_betweenCycles (h : m.betweenCycles = m'.betweenCycles) : Agree image m m' where
  registers := (congrArg Machine.registers h :)
  interruptRegisters := (congrArg Machine.interruptRegisters h :)
  gpu := (congrArg Machine.gpu h :)
  wRAM := (congrArg Machine.wRAM h :)
  OAM := (congrArg Machine.OAM h :)
  hRAM := (congrArg Machine.hRAM h :)
  ioPorts := (congrArg Machine.ioPorts h :)
  mbc1 := (congrArg Machine.mbc1 h :)
  mbc3 := (congrArg Machine.mbc3 h :)
  ram _ := (congrArg (fun m : Machine ↦ m.cartridge.ram) h :)

/-- Leftovers are all that makes a difference, for as long as the game runs. -/
theorem forgetsPast_of_leftovers (hleft : m.leftovers = m'.leftovers)
    (hram : image.ramSize ≠ 0 ∨ m.cartridge.ram = m'.cartridge.ram)
    (hpalette : m.backgroundPalette = m'.backgroundPalette) : ForgetsPast image m m' := by
  intro cycles
  obtain ⟨hrun, hhistory⟩ := mainLoop_run_observed (boot_betweenCycles hleft hram hpalette) cycles
  exact ⟨.of_betweenCycles hrun, hhistory⟩

/-- The leftovers are still there after the reset. -/
theorem boot_leftovers (m : Machine) :
    (MainServer.boot m (some image.bytes)).leftovers = m.leftovers := by
  rw [MainServer.boot_image, cpuReset_initializeMemory]
  rfl

/-- `ResetGame` leaves over what its name says. -/
theorem resetGame_leftovers (m : Machine) (image : Image) :
    (MainServer.resetGame m (some image.bytes)).leftovers = m.leftovers := by
  obtain ⟨header, hm⟩ := validateCart_eq m (some image.bytes)
  have hvalidate : (validateCart m (some image.bytes)).1.leftovers = m.leftovers := by
    rw [hm]
    rfl
  by_cases hvalid : (validateCart m (some image.bytes)).2 ≠ 0
  · rw [MainServer.resetGame_of_valid hvalid, boot_leftovers, hvalidate]
  · exact (congrArg Machine.leftovers (if_neg hvalid)).trans hvalidate

/-- The leftovers can be observed. -/
theorem ForgetsPast.leftovers (h : ForgetsPast image m m') : m.leftovers = m'.leftovers := by
  obtain ⟨hagree, -⟩ := h []
  have hinterrupts := hagree.interruptRegisters
  rw [← boot_leftovers m, ← boot_leftovers m']
  simp only [Machine.leftovers, Leftovers.mk.injEq]
  exact ⟨congrArg InterruptRegisters.request hinterrupts,
    congrArg InterruptRegisters.masterEnable hinterrupts, hagree.mbc1, hagree.mbc3⟩

end

/-! ## A game that enables interrupts -/

/-- The first instruction is `EI`, and the header passes the check. -/
def eiMemory (i : ℕ) : Byte :=
  if i = 0x100 then 0xFB
  else if 0x104 ≤ i ∧ i < 0x134 then nintendoLogoBitmap.getD (i - 0x104) 0
  else if i = 0x134 then 0x01
  else 0

/-- `eiMemory` as a cartridge of 32 KB without RAM. -/
def eiGame : Image where
  bytes := Image.dump 0x8000 eiMemory
  romSize := 0x8000
  ramSize := 0
  controller := .mbcNone
  romSize_eq := by
    rw [Image.getD_dump (by decide)]
    rfl
  length_eq := by
    rw [Image.length_dump]
    rfl
  ramSize_eq := by
    rw [Image.getD_dump (by decide)]
    rfl
  controller_eq := by
    rw [Image.getD_dump (by decide)]
    rfl

/-- The file has 32 KB, -/
theorem length_eiGame : eiGame.bytes.length = 0x8000 := by
  simp only [eiGame, Image.length_dump]

/-- these bytes, -/
theorem getD_eiGame {i : ℕ} (h : i < 0x8000) : eiGame.bytes.getD i 0 = eiMemory i := by
  simp only [eiGame, Image.getD_dump h]

/-- and it passes the check. -/
theorem validateCart_eiGame (m : Machine) : (validateCart m (some eiGame.bytes)).2 ≠ 0 := by
  have hlogo : ∀ i < 0x30, eiMemory (0x104 + i) = nintendoLogoBitmap.getD i 0 := by decide
  have hsum : ((List.range 0x19).foldl
      (fun sum i ↦ sum + (eiGame.bytes.getD (0x134 + i) 0).toNat) 0 + 0x19) % 2 = 0 := by
    rw [List.foldl_ext _ (fun sum i ↦ sum + (eiMemory (0x134 + i)).toNat) 0 fun sum i hi ↦ by
      rw [getD_eiGame (by have := List.mem_range.1 hi; omega)]]
    decide
  have hlength : 0x14F ≤ eiGame.bytes.length := by
    rw [length_eiGame]
    decide
  rw [validateCart_of_le hlength (fun i hi ↦ ?_) hsum m]
  · decide
  · rw [getD_eiGame (by omega), hlogo i hi]

/-! ### Its first cycles -/

/-- The machine has come to this instruction of a cartridge, with the LCD off and no interrupt let
through.  Nothing but the instruction happens in a cycle then. -/
structure AtInstruction (image : Image) (PC : Word) (m : Machine) : Prop where
  PC_eq : m.registers.PC = PC
  lcdControl : m.gpu.lcdControl = 0
  enable : m.interruptRegisters.enable = 0
  controller : m.controller = some image.controller
  rom : ∀ i < 0x4000, m.cartridge.rom i = image.bytes.getD i 0

/-- After a start the machine is at 0x100. -/
theorem atInstruction_boot (m : Machine) (image : Image) :
    AtInstruction image 0x100 (MainServer.boot m (some image.bytes)) := by
  have hbounds := image.romSize_bounds
  have hlcdControl := MainServer.boot_lcdControl m image
  rw [MainServer.boot_image, cpuReset_initializeMemory] at hlcdControl ⊢
  exact ⟨rfl, hlcdControl, rfl, rfl, fun i hi ↦ if_pos (by omega)⟩

section

variable {image : Image} {PC : Word} {m : Machine} (h : AtInstruction image PC m)
  (himpl : image.controller.Implemented) (hPC : PC.toNat ≤ 0x3FFF)

include h himpl hPC

/-- A cycle with an instruction that leaves LCDC and the enabled interrupts alone: neither the GPU
nor the interrupts have anything to do after it. -/
theorem AtInstruction.step {op : Byte} (hop : image.bytes.getD PC.toNat 0 = op) (hCB : op ≠ 0xCB)
    {f : Machine → Machine} (hentry : baseOpcodeTable.get op.toFin = .noOperands f)
    (hticks : baseOpcodeTicks.get op.toFin = 4)
    (hf : ∀ m, (f m).gpu = m.gpu ∧ (f m).interruptRegisters.enable = m.interruptRegisters.enable)
    (time : ℤ) : mainLoop.step m time = f (Cpu.addTicks (m.atTime time).incPC 4) := by
  have hread : mmuReadByte (m.atTime time) (m.atTime time).registers.PC = op :=
    (congrArg (mmuReadByte (m.atTime time)) h.PC_eq).trans
      ((mmuReadByte_rom (m := m.atTime time) h.controller himpl hPC).trans
        ((h.rom _ (Nat.lt_succ_of_le hPC)).trans hop))
  have hcpu := cpuStep_noOperands hread hCB hentry hticks
  obtain ⟨hgpu, henable⟩ := hf (Cpu.addTicks (m.atTime time).incPC 4)
  generalize f (Cpu.addTicks (m.atTime time).incPC 4) = m' at hcpu hgpu henable ⊢
  have hoff : ¬m'.gpuRun.gpu.LcdOn := fun hon ↦ hon
    ((congrArg (fun g : Gpu ↦ g.lcdControl &&& lcdDisplayEnable) hgpu).trans
      ((congrArg (· &&& lcdDisplayEnable) h.lcdControl).trans BitVec.zero_and))
  have hflags : m'.interruptRegisters.enable &&& m'.interruptRegisters.request = 0 :=
    (congrArg (· &&& _) (henable.trans h.enable)).trans BitVec.zero_and
  calc mainLoop.step m time
      = interruptStep (gpuStep (cpuStep (m.atTime time)).1 (cpuStep (m.atTime time)).2) := rfl
    _ = interruptStep m' := by
      rw [hcpu, gpuStep, gpuStepRun_of_off hoff]
      rfl
    _ = m' := interruptStep_of_flags_eq_zero hflags

/-- `EI` enables interrupts. -/
theorem AtInstruction.ei (hop : image.bytes.getD PC.toNat 0 = 0xFB) (time : ℤ) :
    AtInstruction image (PC + 1) (mainLoop.step m time) ∧
      (mainLoop.step m time).leftovers = { m.leftovers with masterEnable := 1 } ∧
      (mainLoop.step m time).cartridge = m.cartridge := by
  rw [h.step himpl hPC hop (by decide) rfl rfl (fun _ ↦ ⟨rfl, rfl⟩) time]
  exact ⟨⟨congrArg (· + 1) h.PC_eq, h.lcdControl, h.enable, h.controller, h.rom⟩, rfl, rfl⟩

/-- `NOP` leaves everything over as it is. -/
theorem AtInstruction.nop (hop : image.bytes.getD PC.toNat 0 = 0x00) (time : ℤ) :
    AtInstruction image (PC + 1) (mainLoop.step m time) ∧
      (mainLoop.step m time).leftovers = m.leftovers ∧
      (mainLoop.step m time).cartridge = m.cartridge := by
  rw [h.step himpl hPC hop (by decide) rfl rfl (fun _ ↦ ⟨rfl, rfl⟩) time]
  exact ⟨⟨congrArg (· + 1) h.PC_eq, h.lcdControl, h.enable, h.controller, h.rom⟩, rfl, rfl⟩

end

/-- The game after one cycle, and after two. -/
theorem afterGame_eiGame :
    (afterGame eiGame [0]).leftovers = { Machine.powerOn.leftovers with masterEnable := 1 } ∧
      (afterGame eiGame [0, 0]).leftovers = (afterGame eiGame [0]).leftovers ∧
      (afterGame eiGame [0, 0]).cartridge = (afterGame eiGame [0]).cartridge := by
  have hone : afterGame eiGame [0] = mainLoop.step (afterGame eiGame []) 0 :=
    afterGame_append eiGame [] 0
  have htwo : afterGame eiGame [0, 0] = mainLoop.step (afterGame eiGame [0]) 0 :=
    afterGame_append eiGame [0] 0
  have hstart : (afterGame eiGame []).leftovers = Machine.powerOn.leftovers := by
    rw [afterGame_nil]
    exact resetGame_leftovers Machine.powerOn eiGame
  have hat : AtInstruction eiGame 0x100 (afterGame eiGame []) := by
    rw [afterGame_nil, MainServer.resetGame_of_valid (validateCart_eiGame Machine.powerOn)]
    exact atInstruction_boot _ eiGame
  obtain ⟨hat', hei, -⟩ := hat.ei (.inl rfl) (by decide)
    ((getD_eiGame (by decide)).trans (by decide)) 0
  rw [← hone] at hat' hei
  obtain ⟨-, hnop, hcartridge⟩ := hat'.nop (.inl rfl) (by decide)
    ((getD_eiGame (by decide)).trans (by decide)) 0
  rw [htwo]
  exact ⟨hei.trans (by rw [hstart]), hnop, hcartridge⟩

/-! ## When it forgets -/

/-- **When a reset forgets the past**: two machines on which games have been played are started
alike with a cartridge, and run alike from then on, if they have the same leftovers and, should the
cartridge have no RAM of its own, the same RAM behind the old pointer.  With other leftovers they
are not even started alike. -/
theorem resetGame_forgets (image : Image) {m m' : Machine} (h : Played m) (h' : Played m') :
    (m.leftovers = m'.leftovers ∧ (image.ramSize ≠ 0 ∨ m.cartridge.ram = m'.cartridge.ram) →
      ForgetsPast image m m') ∧
    (ForgetsPast image m m' → m.leftovers = m'.leftovers) := by
  constructor
  · rintro ⟨hleft, hram⟩
    exact forgetsPast_of_leftovers hleft hram
      (h.backgroundPalette.trans h'.backgroundPalette.symm)
  · exact ForgetsPast.leftovers

/-- A game that has enabled interrupts leaves the same over after one cycle and after two. -/
theorem resetGame_forgets_eiGame :
    ForgetsPast eiGame (afterGame eiGame [0]) (afterGame eiGame [0, 0]) :=
  (resetGame_forgets eiGame (played_afterGame eiGame [0]) (played_afterGame eiGame [0, 0])).1
    ⟨afterGame_eiGame.2.1.symm, .inr (congrArg Cartridge.ram afterGame_eiGame.2.2).symm⟩

/-- **What the game before has enabled stays enabled**: the game is started once on the machine that
has just been switched on, and once after a cycle of its own. -/
theorem resetGame_remembers :
    Played Machine.powerOn ∧ Played (afterGame eiGame [0]) ∧
      ¬ForgetsPast eiGame Machine.powerOn (afterGame eiGame [0]) := by
  refine ⟨.powerOn, played_afterGame eiGame [0], fun h ↦ ?_⟩
  have hmasterEnable := congrArg Leftovers.masterEnable h.leftovers
  rw [afterGame_eiGame.1] at hmasterEnable
  exact absurd hmasterEnable (by decide)

end GameBloat
