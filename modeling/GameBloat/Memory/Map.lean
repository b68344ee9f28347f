import GameBloat.Cartridge.Controllers
import GameBloat.Interrupt.Registers
import GameBloat.Gpu.Registers

/-!
# The memory map

`memory.c`: one cascade of address ranges for reading and another for writing.  The two are
written out separately in the source, and so they are here; `GameBloat.Memory.Law` proves that
they agree on internal RAM.

Addresses are compared as numbers, which is what C does after promoting an `unsigned short`.

Reading is a function of the machine and the address, and writing returns the machine after it
together with the value that `mmuWriteByte` returns, 1 for a store that has been made and 0 for
one that has been refused.  Most callers ignore that value, and for them there is `storeByte`.
The two cascades differ in more than direction.  Writing knows the interrupt registers, the GPU's
registers and the input ports as ranges of their own; reading of the ports is missing, so such an
address reads as 0.

* `storeByte_effect` says once what a store can do.  It has five cases: the cartridge, video RAM,
  a register of the GPU, the arrays of memory, and the interrupt registers.  Every invariant of
  the machine is preserved under stores by a case analysis on it, and no other module takes the
  cascade apart for that purpose.
* `writtenTo` says whether a write goes to a range of addresses, for the results about runs in
  which the condition is on the values written to one register.

A 16-bit access is two 8-bit ones, at the address and the one behind it modulo 2¹⁶.
-/

set_option autoImplicit false

namespace GameBloat

open Function (update)

/-- `mmuReadByte`: the byte at an address.  Reading changes nothing; what it logs about addresses
that are not implemented is not part of the model.  The ranges are tested in the order of the
source, and an address that is in none of them reads 0. -/
def mmuReadByte (m : Machine) (address : Word) : Byte :=
  if address.toNat < 0x8000 then mbcRead m address
  -- the whole address is passed on, although `gpuReadByte` takes an offset
  else if address.toNat < 0xA000 then gpuReadByte m.gpu address
  else if address.toNat < 0xC000 then mbcRead m address
  else if address.toNat < 0xE000 then m.wRAM (address.toNat - 0xC000)
  else if address.toNat < 0xFE00 then m.wRAM (address.toNat - 0xE000)
  else if address.toNat < 0xFEA0 then m.OAM (address.toNat - 0xFE00)
  else if address.toNat < 0xFF00 then 0
  else if address.toNat < 0xFF80 then
    if address = 0xFF0F then m.interruptRegisters.request
    else if 0xFF40 ≤ address.toNat ∧ address.toNat ≤ 0xFF4B then gpuReadRegister m.gpu address
    -- joypad, serial, timer, audio and CGB registers are only logged
    else 0
  else if address.toNat < 0xFFFF then m.hRAM (address.toNat - 0xFF80)
  else m.interruptRegisters.enable

/-- `mmuReadShort`. -/
def mmuReadShort (m : Machine) (address : Word) : Word :=
  (mmuReadByte m address).setWidth 16 ||| (mmuReadByte m (address + 1)).setWidth 16 <<< 8

/-- `mmuWriteByte`: the machine after the store, and the value returned.  The ranges are tested in
the order of the source, and the first that fits gets the store.  What is returned is passed on
from the controller or the GPU where it is theirs to decide. -/
def mmuWriteByte (m : Machine) (address : Word) (value : Byte) : Machine × ℕ :=
  if address.toNat < 0x8000 then mbcWrite m address value
  else if address.toNat < 0xA000 then
    let (gpu, success) := gpuWriteByte m.gpu address value
    ({ m with gpu }, success)
  else if address.toNat < 0xC000 then mbcWrite m address value
  else if address.toNat < 0xE000 then
    ({ m with wRAM := update m.wRAM (address.toNat - 0xC000) value }, 1)
  else if address.toNat < 0xFE00 then
    ({ m with wRAM := update m.wRAM (address.toNat - 0xE000) value }, 1)
  else if address.toNat < 0xFEA0 then
    ({ m with OAM := update m.OAM (address.toNat - 0xFE00) value }, 1)
  else if address.toNat < 0xFF00 then (m, 0)
  else if address.toNat < 0xFF80 then
    if address = 0xFF0F then
      ({ m with interruptRegisters := writeInterrupt m.interruptRegisters address value }, 1)
    else if 0xFF40 ≤ address.toNat ∧ address.toNat ≤ 0xFF4B then
      ({ m with gpu := (gpuWriteRegister m.gpu address value).1 }, 1)
    -- everything else lands in `ioPorts`, whether or not the register is implemented
    else ({ m with ioPorts := update m.ioPorts (address.toNat - 0xFF00) value }, 1)
  else if address.toNat < 0xFFFF then
    ({ m with hRAM := update m.hRAM (address.toNat - 0xFF80) value }, 1)
  else ({ m with interruptRegisters := writeInterrupt m.interruptRegisters address value }, 1)

/-- `mmuWriteByte(address, value);` with the returned value ignored. -/
def storeByte (m : Machine) (address : Word) (value : Byte) : Machine :=
  (mmuWriteByte m address value).1

/-- `mmuWriteShort`: the value returned is that of the second store. -/
def mmuWriteShort (m : Machine) (address value : Word) : Machine × ℕ :=
  let valueLower : Byte := (value &&& 0xFF).setWidth 8
  let valueUpper : Byte := ((value &&& 0xFF00) >>> 8).setWidth 8
  mmuWriteByte (storeByte m address valueLower) (address + 1) valueUpper

/-! ## Writes by their address -/

/-- The value of a write to the addresses from `lo` to `hi`. -/
def writtenTo (lo hi : ℕ) (memAddr : Word) (value : Byte) : Option Byte :=
  if lo ≤ memAddr.toNat ∧ memAddr.toNat ≤ hi then some value else none

theorem writtenTo_of_le {lo hi : ℕ} {memAddr : Word} (hlo : lo ≤ memAddr.toNat)
    (hhi : memAddr.toNat ≤ hi) (value : Byte) : writtenTo lo hi memAddr value = some value :=
  if_pos ⟨hlo, hhi⟩

theorem writtenTo_of_lt {lo hi : ℕ} {memAddr : Word} (h : memAddr.toNat < lo ∨ hi < memAddr.toNat)
    (value : Byte) : writtenTo lo hi memAddr value = none := if_neg (by omega)

/-! ## What a store can do -/

/-- **What a store can do**: it reaches the cartridge, the GPU, one of the memory arrays or the
two interrupt registers, and nothing else in the machine.  The cases are coarser than the cascade:
what exactly the cartridge or the arrays are afterwards is left open, as most invariants do not
depend on it. -/
inductive StoreEffect (m : Machine) (address : Word) (value : Byte) : Machine → Prop
  | cartridge (cartridge : Cartridge) (mbc1 : MBC1State) (mbc3 : MBC3State) :
      StoreEffect m address value { m with cartridge, mbc1, mbc3 }
  | vram (hlo : 0x8000 ≤ address.toNat) (hhi : address.toNat < 0xA000) :
      StoreEffect m address value { m with gpu := (gpuWriteByte m.gpu address value).1 }
  | gpuRegister (hlo : 0xFF40 ≤ address.toNat) (hhi : address.toNat ≤ 0xFF4B) :
      StoreEffect m address value { m with gpu := (gpuWriteRegister m.gpu address value).1 }
  | memory (wRAM OAM ioPorts hRAM : ℕ → Byte) :
      StoreEffect m address value { m with wRAM, OAM, ioPorts, hRAM }
  | interrupt : StoreEffect m address value
      { m with interruptRegisters := writeInterrupt m.interruptRegisters address value }

theorem mbcWrite_effect (m : Machine) (address : Word) (value : Byte) :
    StoreEffect m address value (mbcWrite m address value).1 := by
  unfold mbcWrite
  split <;> exact .cartridge _ _ _

theorem StoreEffect.ite {m : Machine} {address : Word} {value : Byte} {c : Prop} [Decidable c]
    {a b : Machine × ℕ} (ha : c → StoreEffect m address value a.1)
    (hb : ¬c → StoreEffect m address value b.1) :
    StoreEffect m address value (if c then a else b).1 :=
  iteInduction (motive := fun r : Machine × ℕ ↦ StoreEffect m address value r.1) ha hb

/-- Every store is one of them.  The proof goes down the cascade once, so that others need not. -/
theorem storeByte_effect (m : Machine) (address : Word) (value : Byte) :
    StoreEffect m address value (storeByte m address value) := by
  rw [storeByte, mmuWriteByte]
  refine .ite (fun _ ↦ mbcWrite_effect m address value) fun hvram ↦ ?_
  refine .ite (fun h ↦ .vram (Nat.le_of_not_lt hvram) h) fun _ ↦ ?_
  refine .ite (fun _ ↦ mbcWrite_effect m address value) fun _ ↦ ?_
  -- work RAM, its echo, OAM and the unusable area
  refine .ite (fun _ ↦ .memory _ _ _ _) fun _ ↦ ?_
  refine .ite (fun _ ↦ .memory _ _ _ _) fun _ ↦ ?_
  refine .ite (fun _ ↦ .memory _ _ _ _) fun _ ↦ ?_
  refine .ite (fun _ ↦ .memory _ _ _ _) fun _ ↦ ?_
  refine .ite (fun _ ↦ ?_) fun _ ↦ ?_
  · refine .ite (fun _ ↦ .interrupt) fun _ ↦ ?_
    exact .ite (fun h ↦ .gpuRegister h.1 h.2) fun _ ↦ .memory _ _ _ _
  · exact .ite (fun _ ↦ .memory _ _ _ _) fun _ ↦ .interrupt

namespace StoreEffect

variable {m m' : Machine} {address : Word} {value : Byte}

theorem registers (h : StoreEffect m address value m') : m'.registers = m.registers := by
  cases h <;> rfl

theorem tickCounter (h : StoreEffect m address value m') : m'.tickCounter = m.tickCounter := by
  cases h <;> rfl

end StoreEffect

section

variable (m : Machine) (address : Word) (value : Byte)

/-- A store leaves the register file alone. -/
@[simp] theorem storeByte_registers : (storeByte m address value).registers = m.registers :=
  (storeByte_effect m address value).registers

theorem storeByte_interruptRegisters :
    (storeByte m address value).interruptRegisters =
      writeInterrupt m.interruptRegisters address value := by
  by_cases hrequest : address = 0xFF0F
  · subst hrequest
    rfl
  by_cases henable : address = 0xFFFF
  · subst henable
    rfl
  have hsame : writeInterrupt m.interruptRegisters address value = m.interruptRegisters := by
    rw [writeInterrupt, if_neg hrequest, if_neg henable, ite_self]
  have heffect := storeByte_effect m address value
  generalize storeByte m address value = m' at heffect
  cases heffect <;> first | rfl | exact hsame.symm

@[simp] theorem storeByte_tickCounter :
    (storeByte m address value).tickCounter = m.tickCounter :=
  (storeByte_effect m address value).tickCounter

@[simp] theorem storeByte_masterEnable :
    (storeByte m address value).interruptRegisters.masterEnable =
      m.interruptRegisters.masterEnable := by
  rw [storeByte_interruptRegisters, writeInterrupt_masterEnable]

end

end GameBloat
