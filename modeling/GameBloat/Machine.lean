import Mathlib.Logic.Function.Basic
import Mathlib.Data.Nat.Notation
import Mathlib.Data.Int.Notation

/-!
# The machine state

GameBloat keeps the whole Game Boy in global variables spread over its source files.  This file
gathers them into one structure, `Machine`, under the names the source gives them; every function
of the emulator is then a function on `Machine`, or on the part of it that the C function touches.

* `Registers` is the register file of `registers.h`.  The unions that overlay `BC` on `B` and `C`
  are read with the layout the build selects (`LITTLE_ENDIAN`): the first letter is the high byte.
  A C pointer into the register file is a `Reg8` or a `Reg16`.
* `Gpu` holds the registers, the video RAM and the file-level statics of `gpu.c`.
* `MBC1State` and `MBC3State` hold the bank-controller globals, and `Cartridge` the loaded image.

A C array is a function from indices to cells — the memory from the array's first byte on — and
the declared sizes are constants of their own (`wRAMSize`, `vramSize`, …).  An index that leaves
its array is therefore something the model can express, and staying inside is always a theorem.

The wall clock is part of the state: `time` is what `time(NULL)` answers.  Only the environment
moves it.  Log output and the debugging copies of the last opcode are not modelled, since nothing
the emulator computes reads them.
-/

set_option autoImplicit false

namespace GameBloat

/-- `unsigned char`. -/
abbrev Byte := BitVec 8

/-- `unsigned short`. -/
abbrev Word := BitVec 16

/-- `int`, 32 bits in two's complement. -/
abbrev CInt := BitVec 32

/-- The high byte of a 16-bit value. -/
def highByte (w : Word) : Byte := w.extractLsb' 8 8

/-- The low byte of a 16-bit value. -/
def lowByte (w : Word) : Byte := w.extractLsb' 0 8

/-! ## The register file -/

/-- `struct registers` (registers.h). -/
structure Registers where
  A : Byte
  F : Byte
  B : Byte
  C : Byte
  D : Byte
  E : Byte
  H : Byte
  L : Byte
  SP : Word
  PC : Word
  deriving DecidableEq

/-- A pointer to one of the 8-bit registers that instructions address. -/
inductive Reg8
  | A | B | C | D | E | H | L
  deriving DecidableEq

/-- A pointer to a 16-bit register or register pair. -/
inductive Reg16
  | AF | BC | DE | HL | SP
  deriving DecidableEq

namespace Registers

def AF (r : Registers) : Word := r.A ++ r.F

def BC (r : Registers) : Word := r.B ++ r.C

def DE (r : Registers) : Word := r.D ++ r.E

def HL (r : Registers) : Word := r.H ++ r.L

/-- Assignment to the `AF` member of the union. -/
def setAF (r : Registers) (w : Word) : Registers := { r with A := highByte w, F := lowByte w }

/-- Assignment to the `BC` member of the union. -/
def setBC (r : Registers) (w : Word) : Registers := { r with B := highByte w, C := lowByte w }

/-- Assignment to the `DE` member of the union. -/
def setDE (r : Registers) (w : Word) : Registers := { r with D := highByte w, E := lowByte w }

/-- Assignment to the `HL` member of the union. -/
def setHL (r : Registers) (w : Word) : Registers := { r with H := highByte w, L := lowByte w }

/-- `*ptr` for a pointer to an 8-bit register. -/
def get8 (r : Registers) : Reg8 → Byte
  | .A => r.A
  | .B => r.B
  | .C => r.C
  | .D => r.D
  | .E => r.E
  | .H => r.H
  | .L => r.L

/-- `*ptr = n` for a pointer to an 8-bit register. -/
def set8 (r : Registers) (ptr : Reg8) (n : Byte) : Registers :=
  match ptr with
  | .A => { r with A := n }
  | .B => { r with B := n }
  | .C => { r with C := n }
  | .D => { r with D := n }
  | .E => { r with E := n }
  | .H => { r with H := n }
  | .L => { r with L := n }

/-- `*ptr` for a pointer to a 16-bit register. -/
def get16 (r : Registers) : Reg16 → Word
  | .AF => r.AF
  | .BC => r.BC
  | .DE => r.DE
  | .HL => r.HL
  | .SP => r.SP

/-- `*ptr = nn` for a pointer to a 16-bit register. -/
def set16 (r : Registers) (ptr : Reg16) (nn : Word) : Registers :=
  match ptr with
  | .AF => r.setAF nn
  | .BC => r.setBC nn
  | .DE => r.setDE nn
  | .HL => r.setHL nn
  | .SP => { r with SP := nn }

end Registers

/-- `struct interruptRegisters` (interrupt.h). -/
structure InterruptRegisters where
  request : Byte
  enable : Byte
  masterEnable : Byte
  deriving DecidableEq

/-! ## The GPU -/

/-- `enum GpuMode` (gpu.c). -/
inductive GpuMode
  | hblank | vblank | oamScanline | vramScanline
  deriving DecidableEq

/-- The value of the enumerator. -/
def GpuMode.toByte : GpuMode → Byte
  | .hblank => 0
  | .vblank => 1
  | .oamScanline => 2
  | .vramScanline => 3

/-- `BasicColour` (gpu.h). -/
structure BasicColour where
  r : Byte
  g : Byte
  b : Byte
  deriving DecidableEq

/-- `struct GPU` (gpu.h) together with the file-level statics of gpu.c: the registers by their
names in the source, video RAM, the table of decoded tiles, the picture, and the clock of the
current mode. -/
structure Gpu where
  lcdControl : Byte
  lcdStatus : Byte
  scrollX : Byte
  scrollY : Byte
  lcdYCoordinate : Byte
  lcdLYCompare : Byte
  oamDMASourceAddress : Byte
  backgroundPalette : Byte
  objPalette0 : Byte
  objPalette1 : Byte
  lcdWindowY : Byte
  lcdWindowX : Byte
  VRAM : ℕ → Byte
  tiles : ℕ → ℕ → ℕ → Byte
  mode : GpuMode
  modeClock : BitVec 32
  frameBuffer : ℕ → BasicColour

/-- `sizeof(GPU.VRAM)`. -/
def vramSize : ℕ := 0x2000

/-- The first dimension of `tiles[384][8][8]`. -/
def tileCount : ℕ := 384

/-- The length of `frameBuffer`. -/
def frameBufferSize : ℕ := 160 * 144

/-! ## The cartridge -/

/-- The function pairs `setMBCType` can install in `struct MBC`. -/
inductive Controller
  | mbcNone | mbc1 | mbc2 | mbc3 | mbc4 | mbc5
  deriving DecidableEq

/-- The globals of MBC1.c. -/
structure MBC1State where
  RAMEnable : Byte
  AccessMode : Byte
  ROMBankLow : Byte
  RAMBank_ROMBankUpper : Byte
  deriving DecidableEq

/-- `struct ClockRegisters` (MBC3.c). -/
structure ClockRegisters where
  seconds : Byte
  minutes : Byte
  hours : Byte
  lowerDayCounter : Byte
  upperDayCounter : Byte
  deriving DecidableEq

/-- The globals of MBC3.c.  A `time_t` is an integer, and may be in the future: nothing orders the
timestamps and the clock on the wall. -/
structure MBC3State where
  RAM_TimerEnable : Byte
  ROMBankNumber : Byte
  RAMBankNumber : Byte
  RTCRegisterSelect : Byte
  LatchClockSequence : Byte
  RTCAccessMode : Byte
  haltTimestamp : ℤ
  baseTimestamp : ℤ
  clock : ClockRegisters
  deriving DecidableEq

/-- `struct header` (cartridge.h). -/
structure Header where
  entryPoint : ℕ → Byte
  nintendoLogo : ℕ → Byte
  title : ℕ → Byte
  newLicenseeCode : ℕ → Byte
  sgbFlag : Byte
  cartridgeType : Byte
  romSize : Byte
  ramSize : Byte
  destinationCode : Byte
  oldLicenseeCode : Byte
  maskROMVersionNumber : Byte
  headerChecksum : Byte
  globalChecksum : ℕ → Byte

/-- `struct cartridge` (cartridge.h): the header, the memory behind the two data pointers, how
many bytes `malloc` has given for each, and whether `mbc` points at the global `MBC` or is still
null.  The lengths are not in the source; they are what an access must stay below to be defined. -/
structure Cartridge where
  header : Header
  rom : ℕ → Byte
  romLength : ℕ
  ram : ℕ → Byte
  ramLength : ℕ
  mbc : Bool

/-! ## The whole machine -/

/-- All the globals of the emulator, in one state.  Arrays are functions from indices to bytes;
whether an index is inside of its array is a question that statements put about the code, and not
one that the model answers by its types. -/
structure Machine where
  registers : Registers
  interruptRegisters : InterruptRegisters
  tickCounter : BitVec 64
  stopped : Byte
  wRAM : ℕ → Byte
  OAM : ℕ → Byte
  ioPorts : ℕ → Byte
  hRAM : ℕ → Byte
  gpu : Gpu
  cartridge : Cartridge
  MBC : Option Controller
  mbc1 : MBC1State
  mbc3 : MBC3State
  time : ℤ

/-- `sizeof(wRAM)`. -/
def wRAMSize : ℕ := 0x2000

/-- `sizeof(OAM)`. -/
def oamSize : ℕ := 0xA0

/-- `sizeof(hRAM)`. -/
def hRAMSize : ℕ := 0x7F

/-- The function pair a call through `cartridge.mbc` reaches; `none` when the pointer is null.
The pair itself is a global that stays what the last cartridge made it, while the pointer is part
of the cartridge. -/
def Machine.controller (m : Machine) : Option Controller :=
  if m.cartridge.mbc then m.MBC else none

/-- Run a function that touches nothing but the register file.  Most functions of `cpu.c` are of
this kind, and the rest of the machine is then the same by definition.  Two of these in a row are
one, with the functions composed. -/
def Machine.onRegisters (m : Machine) (f : Registers → Registers) : Machine :=
  { m with registers := f m.registers }

@[simp] theorem Machine.onRegisters_registers (m : Machine) (f : Registers → Registers) :
    (m.onRegisters f).registers = f m.registers := rfl

theorem Machine.onRegisters_onRegisters (m : Machine) (f g : Registers → Registers) :
    (m.onRegisters f).onRegisters g = m.onRegisters fun r ↦ g (f r) := rfl

/-- Two functions that agree on the register file of `m` do the same to `m`. -/
theorem Machine.onRegisters_congr {m : Machine} {f g : Registers → Registers}
    (h : f m.registers = g m.registers) : m.onRegisters f = m.onRegisters g := by
  rw [onRegisters, onRegisters, h]

/-- The globals as the C initialisers leave them: zero where the source gives no value, as for
every global in C. -/
def Machine.powerOn : Machine where
  registers := ⟨0, 0, 0, 0, 0, 0, 0, 0, 0, 0⟩
  interruptRegisters := ⟨0, 0, 0⟩
  tickCounter := 0
  stopped := 0
  wRAM := fun _ ↦ 0
  OAM := fun _ ↦ 0
  ioPorts := fun _ ↦ 0
  hRAM := fun _ ↦ 0
  gpu :=
    { lcdControl := 0, lcdStatus := 0, scrollX := 0, scrollY := 0, lcdYCoordinate := 0,
      lcdLYCompare := 0, oamDMASourceAddress := 0, backgroundPalette := 0b11100100,
      objPalette0 := 0, objPalette1 := 0, lcdWindowY := 0, lcdWindowX := 0, VRAM := fun _ ↦ 0,
      tiles := fun _ _ _ ↦ 0, mode := .vblank, modeClock := 116, frameBuffer := fun _ ↦ ⟨0, 0, 0⟩ }
  cartridge :=
    { header := ⟨fun _ ↦ 0, fun _ ↦ 0, fun _ ↦ 0, fun _ ↦ 0, 0, 0, 0, 0, 0, 0, 0, 0, fun _ ↦ 0⟩,
      rom := fun _ ↦ 0, romLength := 0, ram := fun _ ↦ 0, ramLength := 0, mbc := false }
  MBC := none
  mbc1 := ⟨0, 0, 0, 0⟩
  mbc3 := ⟨0, 1, 0, 0, 255, 0, 0, 0, ⟨0, 0, 0, 0, 0⟩⟩
  time := 0

/-! ## Halves of a 16-bit value -/

@[simp] theorem highByte_append (h l : Byte) : highByte (h ++ l) = h := by
  ext i hi
  simp only [highByte, BitVec.getElem_extractLsb', BitVec.getLsbD_append]
  rw [if_neg (by omega), Nat.add_sub_cancel_left, BitVec.getLsbD_eq_getElem hi]

@[simp] theorem lowByte_append (h l : Byte) : lowByte (h ++ l) = l := by
  ext i hi
  simp only [lowByte, BitVec.getElem_extractLsb', BitVec.getLsbD_append]
  rw [if_pos (by omega), Nat.zero_add, BitVec.getLsbD_eq_getElem hi]

@[simp] theorem highByte_append_lowByte (w : Word) : (highByte w ++ lowByte w : Word) = w := by
  ext i hi
  simp only [highByte, lowByte, BitVec.getElem_append, BitVec.getElem_extractLsb']
  split
  · rw [Nat.zero_add, BitVec.getLsbD_eq_getElem hi]
  · rw [Nat.add_sub_cancel' (by omega), BitVec.getLsbD_eq_getElem hi]

theorem toNat_lowByte (w : Word) : (lowByte w).toNat = w.toNat % 256 := by
  rw [lowByte, BitVec.extractLsb'_toNat, Nat.shiftRight_zero]

/-! The source writes these halves with masks and shifts. -/

theorem setWidth_and_lowByte (w : Word) : (w &&& 0x00FF).setWidth 8 = lowByte w := by
  ext i hi
  have h : ∀ i < 8, (0x00FF : Word).getLsbD i = true := by decide
  simp only [lowByte, BitVec.getElem_setWidth, BitVec.getLsbD_and, BitVec.getElem_extractLsb',
    Nat.zero_add, h i hi, Bool.and_true]

theorem setWidth_and_highByte (w : Word) : ((w &&& 0xFF00) >>> 8).setWidth 8 = highByte w := by
  ext i hi
  have h : ∀ i < 8, (0xFF00 : Word).getLsbD (8 + i) = true := by decide
  simp only [highByte, BitVec.getElem_setWidth, BitVec.getLsbD_ushiftRight, BitVec.getLsbD_and,
    BitVec.getElem_extractLsb', h i hi, Bool.and_true]

theorem setWidth_or_shiftLeft (h l : Byte) :
    (l.setWidth 16 ||| h.setWidth 16 <<< 8 : Word) = h ++ l := by
  ext i hi
  rw [BitVec.getElem_append]
  split
  · simp [*]
  · simp [*, BitVec.getLsbD_of_ge l i (by omega),
      BitVec.getLsbD_eq_getElem (show i - 8 < 8 by omega)]

theorem setWidth_and_mask (b : Byte) : (b.setWidth 16 &&& 0x00FF : Word) = b.setWidth 16 := by
  ext i hi
  rw [BitVec.getElem_and, BitVec.getElem_setWidth]
  by_cases h8 : i < 8
  · have h : ∀ i : Fin 8, (0x00FF : Word).getLsbD i = true := by decide
    rw [← BitVec.getLsbD_eq_getElem, h ⟨i, h8⟩, Bool.and_true]
  · rw [BitVec.getLsbD_of_ge b i (by omega), Bool.false_and]

namespace Registers

variable (r : Registers) (w : Word)

@[simp] theorem BC_setBC : (r.setBC w).BC = w := highByte_append_lowByte w

@[simp] theorem DE_setDE : (r.setDE w).DE = w := highByte_append_lowByte w

@[simp] theorem HL_setHL : (r.setHL w).HL = w := highByte_append_lowByte w

@[simp] theorem AF_setAF : (r.setAF w).AF = w := highByte_append_lowByte w

end Registers

end GameBloat
