import GameBloat.Cpu.ControlFlow
import GameBloat.Cpu.Operands
import GameBloat.Library.TimedRun
import GameBloat.Loop

/-!
# Running a program

What it takes to follow a machine-code program through `cpuStep`: where its bytes are, what a jump
does with them, and how many ticks the step reports.

`cpuMachine` is the processor on its own, stepping instruction by instruction; `cycleMachine` is
the main loop.  Both cost the ticks that `cpuStep` returns.

A program lies in bank 0 of the cartridge, which every controller that is implemented maps to the
first 16 KB of the address space, whatever has been written to its registers.  `CodeAt` says so in
terms of what the CPU reads, and `codeAt_of_rom` gets it from the bytes of the ROM, so the
programs of the next modules are stated about a ROM and proved about reads.

* `CodeAt.left` and `CodeAt.right` cut code into instructions; `CodeAt.congr` carries it from one
  machine to another with the same cartridge.
* `cpuStep_jrNZN` is the jump that closes a loop, with its two ticks.
* `cpuStep_toInt` turns the ticks that an instruction has added to the counter into those that it
  reports.

Loops are then proved by the rules of `GameBloat.Library.TimedRun`, which adds up steps and ticks
along a run and knows when it is left for the first time.
-/

set_option autoImplicit false

namespace GameBloat

/-- Iterating `cpuStep`. -/
def cpuMachine : TimedMachine Machine := ⟨fun m ↦ (cpuStep m).1, fun m ↦ (cpuStep m).2.toInt⟩

/-- Iterating `LoopCycle`. -/
def cycleMachine : TimedMachine Machine := ⟨loopCycle, fun m ↦ (cpuStep m).2.toInt⟩

/-! ## Code -/

/-- The bytes `code` lie at `L` and after, where the CPU reads them.  Addresses are taken modulo
2¹⁶, but the programs here all end below 0x4000. -/
def CodeAt (m : Machine) (L : Word) (code : List Byte) : Prop :=
  ∀ i (h : i < code.length), mmuReadByte m (L + BitVec.ofNat 16 i) = code.get ⟨i, h⟩

section

variable {m : Machine} {L : Word} {code code' : List Byte}

theorem CodeAt.left (h : CodeAt m L (code ++ code')) : CodeAt m L code := by
  intro i hi
  rw [h i (by rw [List.length_append]; omega)]
  exact List.getElem_append_left hi

/-- The second part of a piece of code lies behind the first. -/
theorem CodeAt.right (h : CodeAt m L (code ++ code')) :
    CodeAt m (L + BitVec.ofNat 16 code.length) code' := by
  intro i hi
  rw [BitVec.add_assoc, ← BitVec.ofNat_add, Nat.add_comm,
    h (i + code.length) (by rw [List.length_append]; omega)]
  exact (List.getElem_append_right' code hi).symm

end

/-- The controllers that let the CPU read bank 0 of the cartridge.  For the others the reading
function is a stub that does not look at the address. -/
def Controller.Implemented (c : Controller) : Prop := c = .mbcNone ∨ c = .mbc1 ∨ c = .mbc3

theorem mmuReadByte_rom {m : Machine} {c : Controller} (hc : m.controller = some c)
    (himpl : c.Implemented) {address : Word} (h : address.toNat ≤ 0x3FFF) :
    mmuReadByte m address = m.cartridge.rom address.toNat := by
  have h32 : (address.setWidth 32 : BitVec 32).toNat = address.toNat := by
    rw [BitVec.toNat_setWidth]
    omega
  rw [mmuReadByte, if_pos (by omega), mbcRead, hc]
  rcases himpl with rfl | rfl | rfl
  · exact if_pos (by omega)
  · rw [mbc1ReadByte, h32, if_pos h]
  · rw [mbc3ReadByte, h32, if_pos h]

/-- Code in bank 0 of a cartridge without a controller, with MBC1 or with MBC3. -/
theorem codeAt_of_rom {m : Machine} {c : Controller} (hc : m.controller = some c)
    (himpl : c.Implemented) {L : Word} {code : List Byte} (hL : L.toNat + code.length ≤ 0x4000)
    (hrom : ∀ i (h : i < code.length), m.cartridge.rom (L.toNat + i) = code.get ⟨i, h⟩) :
    CodeAt m L code := by
  intro i h
  have haddress : (L + BitVec.ofNat 16 i).toNat = L.toNat + i := by bv_omega
  rw [mmuReadByte_rom hc himpl (by omega), haddress, hrom i h]

/-- `m'` has the cartridge of `m`, in the same state: the memory and the registers of the
controller. -/
structure Machine.SameCartridge (m m' : Machine) : Prop where
  cartridge : m'.cartridge = m.cartridge
  MBC : m'.MBC = m.MBC
  mbc1 : m'.mbc1 = m.mbc1
  mbc3 : m'.mbc3 = m.mbc3

/-- The first half of the address space reads the cartridge, and nothing else of the machine. -/
theorem Machine.SameCartridge.mmuReadByte {m m' : Machine} (h : m.SameCartridge m')
    {address : Word} (haddress : address.toNat < 0x8000) :
    mmuReadByte m' address = mmuReadByte m address := by
  rw [GameBloat.mmuReadByte, GameBloat.mmuReadByte, if_pos haddress, if_pos haddress, mbcRead,
    mbcRead, controller, controller, h.cartridge, h.MBC, h.mbc1, h.mbc3]

theorem CodeAt.congr {m m' : Machine} {L : Word} {code : List Byte} (h : CodeAt m L code)
    (hsame : m.SameCartridge m') (hL : L.toNat + code.length ≤ 0x4000) : CodeAt m' L code := by
  intro i hi
  have haddress : (L + BitVec.ofNat 16 i).toNat < 0x8000 := by bv_omega
  rw [hsame.mmuReadByte haddress, h i hi]

/-! ## One instruction -/

/-- The machine `t` ticks later, with another register file: what an instruction that does not
store makes of it. -/
def Machine.after (m : Machine) (registers : Registers) (t : ℕ) : Machine :=
  { m with registers, tickCounter := m.tickCounter + BitVec.ofNat 64 t }

/-- `JR NZ`: `c` is what the zero flag stands for. -/
theorem cpuStep_jrNZN {m : Machine} {e : Byte} (hopcode : mmuReadByte m m.registers.PC = 0x20)
    (hoperand : mmuReadByte m (m.registers.PC + 1) = e) {c : Prop} [Decidable c]
    (hflag : Cpu.checkFlag m.registers Cpu.flagZero = if c then 1 else 0) :
    (cpuStep m).1 = m.after { m.registers with
      PC := if c then m.registers.PC + 2 else m.registers.PC + 2 + e.signExtend 16 }
        (if c then 8 else 12) := by
  have hnext : m.registers.PC + 1 + 1 = m.registers.PC + 2 := BitVec.add_assoc _ 1 1
  rw [cpuStep_operandChar hopcode (by decide) (f := BaseOpcode.jrNZN) (t := 8) rfl rfl hoperand]
  by_cases hc : c
  · have hstay : ¬Cpu.checkFlag m.registers Cpu.flagZero = 0 := by
      rw [hflag, if_pos hc]
      decide
    rw [if_pos hc, if_pos hc, ← hnext]
    exact if_neg hstay
  · have hjump : Cpu.checkFlag m.registers Cpu.flagZero = 0 := by rw [hflag, if_neg hc]
    have hticks : m.tickCounter + BitVec.ofNat 64 8 + BitVec.ofNat 64 4 =
        m.tickCounter + BitVec.ofNat 64 12 := BitVec.add_assoc _ _ _
    have hafter : BaseOpcode.jrNZN (Cpu.addTicks m.incPC.incPC 8) e =
        Cpu.addTicks ((Cpu.addTicks m.incPC.incPC 8).onRegisters (Cpu.jrE · e)) 4 := if_pos hjump
    rw [if_neg hc, if_neg hc, hafter, ← hnext, Machine.after, ← hticks]
    rfl

/-- The ticks an instruction reports are those it has added to the counter. -/
theorem cpuStep_ticks {m : Machine} {t : ℕ} (ht : t ≤ 24)
    (h : (cpuStep m).1.tickCounter = m.tickCounter + BitVec.ofNat 64 t) :
    (cpuStep m).2 = BitVec.ofNat 32 t := by
  obtain ⟨t', -, ht', hmoves, hticks⟩ := cpuStep_moves m
  obtain rfl : t' = t := by
    have := hmoves.tickCounter
    bv_omega
  exact hticks

theorem cpuStep_toInt {m : Machine} {t : ℕ} (ht : t ≤ 24)
    (h : (cpuStep m).1.tickCounter = m.tickCounter + BitVec.ofNat 64 t) :
    (cpuStep m).2.toInt = t := by
  rw [cpuStep_ticks ht h, BitVec.toInt_ofNat', Int.bmod_eq_of_le (by omega) (by omega)]

/-! ## The zero flag -/

theorem checkFlag_writeFlag_zero (r : Registers) (c : Prop) [Decidable c] :
    Cpu.checkFlag (Cpu.writeFlag r Cpu.flagZero c) Cpu.flagZero = if c then 1 else 0 := by
  have hset : ∀ F : Byte, (F ||| 0x80) &&& 0x80 ≠ 0 := by decide
  have hremove : ∀ F : Byte, (F &&& ~~~0x80) &&& 0x80 = 0 := by decide
  rw [Cpu.writeFlag]
  by_cases hc : c
  · rw [if_pos hc, if_pos hc]
    exact if_pos (hset r.F)
  · rw [if_neg hc, if_neg hc]
    exact if_neg (not_not.2 (hremove r.F))

/-- `writeFlag` writes the flag register and no other. -/
theorem exists_writeFlag (r : Registers) (flag : Byte) (c : Prop) [Decidable c] :
    ∃ F, Cpu.writeFlag r flag c = { r with F } := ⟨_, writeFlag_eq r flag c⟩

end GameBloat
