import GameBloat.Interrupt.Ticks
import Mathlib.Logic.Function.Conjugate

/-!
# What a run can observe

Some globals are never read: the picture, the stop flag, the header of the cartridge once it is
loaded, and the sizes of its memories, which C keeps nowhere at all.  `Machine.observed` forgets
them.

Two machines of which the same is observed stay so (`mainLoop_run_observed`).  For the CPU this is
`Blind`: forgetting commutes with every function of the two opcode tables.  The GPU also paints
the picture, so there it has to be forgotten once more afterwards (`GpuRun.Blind`).

This is the tool for comparing what two machines do when they differ in something, after a reset
for instance.  If the difference is in the forgotten parts only, no run of any length shows it,
and this holds for every program in the cartridge and every time that its clock reads.  If it is
elsewhere, it is up to the module that needs it to find a program that shows it.

The proof has as many cases as the machine has operations, and goes up by layers:

* reading memory gives the same byte, and a store leaves machines that agree, for the memory map
  and for each of the controllers (`mmuReadByte_observed`, `mmuWriteByte_observed`);
* every function of `cpu.c` is blind, and the two tables hold such functions only
  (`baseOpcodeTable_blind`, `cbOpcodeTable_blind`), so an instruction is (`cpuStep_observed`);
* the parts of `gpuStep` are blind, with the picture forgotten afterwards (`gpuStep_observed`);
* serving an interrupt is blind (`interruptStep_observed`);
* a cycle is blind (`loopCycle_observed`), and so is a run of them.

`Function.Commute` of Mathlib is what `Blind` unfolds to, so functions that are blind compose
without a lemma of this file.  A conditional needs one: its test must come out the same.
-/

set_option autoImplicit false

namespace GameBloat

open Function (Commute)

/-- The GPU without the picture.  The picture is written by `renderPixels` and read by the
platform only, never by the machine. -/
def Gpu.observed (g : Gpu) : Gpu := { g with frameBuffer := fun _ ↦ ⟨0, 0, 0⟩ }

/-- The cartridge without its header and the sizes of its memories.  The header is read while the
cartridge is loaded and then no more; the sizes are those of the allocations, which bound the
indices in the results about accesses and take no part in any computation. -/
def Cartridge.observed (c : Cartridge) : Cartridge :=
  { c with header := Machine.powerOn.cartridge.header, romLength := 0, ramLength := 0 }

/-- The machine without what is never read.  The stop flag is forgotten as set, since setting it
is all that is ever done to it.  If two machines agree on this, they still do after the same
events. -/
def Machine.observed (m : Machine) : Machine :=
  { m with stopped := 1, gpu := m.gpu.observed, cartridge := m.cartridge.observed }

/-! ## Memory -/

section

variable (m : Machine) (address : Word) (value bit : Byte)

/-- A load does not see what is forgotten, whatever the address: the two sides are the same by
definition. -/
theorem mmuReadByte_observed : mmuReadByte m.observed address = mmuReadByte m address := rfl

theorem mmuReadShort_observed : mmuReadShort m.observed address = mmuReadShort m address := rfl

theorem mbcNoneWriteByte_observed (c : Cartridge) :
    mbcNoneWriteByte c.observed address value =
      (mbcNoneWriteByte c address value).map Cartridge.observed id := by
  simp only [mbcNoneWriteByte, apply_ite (Prod.map Cartridge.observed id)]
  rfl

theorem mbc1WriteByte_observed (c : Cartridge) (s : MBC1State) :
    mbc1WriteByte c.observed s address value =
      (mbc1WriteByte c s address value).map (Prod.map Cartridge.observed id) id := by
  simp only [mbc1WriteByte, apply_ite (Prod.map (Prod.map Cartridge.observed id) id)]
  rfl

theorem mbc3WriteByte_observed (c : Cartridge) (s : MBC3State) (time : ℤ) :
    mbc3WriteByte c.observed s time address value =
      (mbc3WriteByte c s time address value).map (Prod.map Cartridge.observed id) id := by
  simp only [mbc3WriteByte, apply_ite (Prod.map (Prod.map Cartridge.observed id) id)]
  rfl

theorem mbcWrite_observed :
    mbcWrite m.observed address value = (mbcWrite m address value).map Machine.observed id := by
  have hcontroller : m.observed.controller = m.controller := rfl
  rw [mbcWrite, mbcWrite, hcontroller]
  cases m.controller with
  | none => rfl
  | some controller =>
    cases controller with
    | mbcNone =>
      simp only [Machine.observed, mbcNoneWriteByte_observed]
      rfl
    | mbc1 =>
      simp only [Machine.observed, mbc1WriteByte_observed]
      rfl
    | mbc3 =>
      simp only [Machine.observed, mbc3WriteByte_observed]
      rfl
    | mbc2 | mbc4 | mbc5 => rfl

theorem gpuWriteByte_observed (g : Gpu) :
    gpuWriteByte g.observed address value = (gpuWriteByte g address value).map Gpu.observed id := by
  simp only [gpuWriteByte, apply_ite (Prod.map Gpu.observed id)]
  rfl

theorem updateLcdControlBit_observed (g : Gpu) :
    updateLcdControlBit value bit g.observed = (updateLcdControlBit value bit g).observed := rfl

theorem lcdPowerSwitch_observed (g : Gpu) :
    lcdPowerSwitch g.observed = (lcdPowerSwitch g).observed := by
  simp only [lcdPowerSwitch, apply_ite Gpu.observed]
  rfl

theorem gpuWriteRegister_observed (g : Gpu) :
    gpuWriteRegister g.observed address value =
      (gpuWriteRegister g address value).map Gpu.observed id := by
  have hlcdControl : updateLcdControlRegister g.observed value =
      (updateLcdControlRegister g value).observed := by
    simp only [updateLcdControlRegister, updateLcdControlBit_observed, lcdPowerSwitch_observed]
  simp only [gpuWriteRegister, apply_ite (Prod.map Gpu.observed id), hlcdControl]
  rfl

/-- A store goes to the same place in both machines and answers the same.  The lemmas before this
one are its branches: the controllers, video RAM and the registers of the GPU. -/
theorem mmuWriteByte_observed :
    mmuWriteByte m.observed address value =
      (mmuWriteByte m address value).map Machine.observed id := by
  simp only [mmuWriteByte, apply_ite (Prod.map Machine.observed id), mbcWrite_observed]
  simp only [Machine.observed, gpuWriteByte_observed, gpuWriteRegister_observed]
  rfl

theorem storeByte_observed :
    storeByte m.observed address value = (storeByte m address value).observed :=
  congrArg Prod.fst (mmuWriteByte_observed m address value)

theorem observed_registers : m.observed.registers = m.registers := rfl

theorem onRegisters_observed (f : Registers → Registers) :
    m.observed.onRegisters f = (m.onRegisters f).observed := rfl

end

/-! ## Instructions -/

/-- `f` does not read what is not observed: it makes no difference whether it is forgotten before
or after. -/
abbrev Blind (f : Machine → Machine) : Prop := Commute f Machine.observed

namespace Blind

/-- A conditional is blind if its test comes out the same and both branches are. -/
theorem ite {c : Machine → Prop} [DecidablePred c] {f g : Machine → Machine}
    (hc : ∀ m, c m.observed = c m) (hf : Blind f) (hg : Blind g) :
    Blind fun m ↦ if c m then f m else g m := by
  intro m
  rw [apply_ite Machine.observed]
  exact ite_congr (hc m) (fun _ ↦ hf m) fun _ ↦ hg m

/-! An instruction computes its operands from the machine; they too come out the same. -/

section

variable (m : Machine)

theorem registers {f f' : Registers → Registers} (h : f' = f) :
    m.observed.onRegisters f' = (m.onRegisters f).observed := by
  rw [h, onRegisters_observed]

theorem store {address address' : Word} {value value' : Byte} (haddress : address' = address)
    (hvalue : value' = value) :
    storeByte m.observed address' value' = (storeByte m address value).observed := by
  rw [haddress, hvalue, storeByte_observed]

theorem mmuWriteShort (address : Word) {value value' : Word} (hvalue : value' = value) :
    (mmuWriteShort m.observed address value').1 = (mmuWriteShort m address value).1.observed := by
  rw [hvalue, GameBloat.mmuWriteShort, storeByte_observed, mmuWriteByte_observed]
  rfl

theorem pushSs {ss ss' : Word} (hss : ss' = ss) :
    Cpu.pushSs m.observed ss' = (Cpu.pushSs m ss).observed := by
  simp only [Cpu.pushSs, storeByte_observed, observed_registers, onRegisters_observed, hss]

theorem ldASs {memLocation memLocation' : Word} (h : memLocation' = memLocation) :
    Cpu.ldASs m.observed memLocation' = (Cpu.ldASs m memLocation).observed := by
  rw [h]
  rfl

end

/-! Those that read memory, but do not write. -/

theorem lddAMHL : Blind Cpu.lddAMHL := fun _ ↦ rfl

theorem ldiAMHL : Blind Cpu.ldiAMHL := fun _ ↦ rfl

theorem popDd (ptrDD : Reg16) : Blind (Cpu.popDd · ptrDD) := fun _ ↦ rfl

theorem bitBSHL (bitPosition : ℕ) : Blind (Cpu.bitBSHL · bitPosition) := fun _ ↦ rfl

theorem ret : Blind Cpu.ret := fun _ ↦ rfl

/-! Those that write. -/

theorem lddMHLA : Blind Cpu.lddMHLA := by
  intro m
  simp only [Cpu.lddMHLA, storeByte_observed, observed_registers, onRegisters_observed]

theorem ldiMHLA : Blind Cpu.ldiMHLA := by
  intro m
  simp only [Cpu.ldiMHLA, storeByte_observed, observed_registers, onRegisters_observed]

theorem incSHL : Blind Cpu.incSHL := by
  intro m
  simp only [Cpu.incSHL, storeByte_observed, mmuReadByte_observed, observed_registers,
    onRegisters_observed]
  rfl

theorem decSHL : Blind Cpu.decSHL := by
  intro m
  simp only [Cpu.decSHL, storeByte_observed, mmuReadByte_observed, observed_registers,
    onRegisters_observed]
  rfl

theorem swapSHL : Blind Cpu.swapSHL := by
  intro m
  simp only [Cpu.swapSHL, storeByte_observed, mmuReadByte_observed, observed_registers,
    onRegisters_observed]
  rfl

theorem shiftSHL (carry : Byte → Bool) (move : Registers → Byte → Byte) :
    Blind (Cpu.shiftSHL carry move) := by
  intro m
  simp only [Cpu.shiftSHL, storeByte_observed, mmuReadByte_observed, observed_registers,
    onRegisters_observed]
  rfl

theorem callNn (nn : Word) : Blind (Cpu.callNn · nn) := by
  intro m
  simp only [Cpu.callNn, storeByte_observed, observed_registers, onRegisters_observed]

theorem rstF (f : Byte) : Blind (Cpu.rstF · f) := by
  intro m
  simp only [Cpu.rstF, storeByte_observed, observed_registers, onRegisters_observed]

/-! Those that branch. -/

theorem jrCcE (e flag condition : Byte) : Blind (Cpu.jrCcE · e flag condition) :=
  .ite (c := fun m ↦ Cpu.checkFlag m.registers flag = condition) (fun _ ↦ rfl) (fun _ ↦ rfl)
    fun _ ↦ rfl

theorem jpCcNn (nn : Word) (flag condition : Byte) : Blind (Cpu.jpCcNn · nn flag condition) :=
  .ite (c := fun m ↦ Cpu.checkFlag m.registers flag = condition) (fun _ ↦ rfl) (fun _ ↦ rfl)
    fun _ ↦ rfl

theorem callCcNn (nn : Word) (flag condition : Byte) :
    Blind (Cpu.callCcNn · nn flag condition) :=
  .ite (c := fun m ↦ Cpu.checkFlag m.registers flag = condition) (fun _ ↦ rfl)
    (fun m ↦ congrArg (Cpu.addTicks · 12) (callNn nn m)) fun _ ↦ rfl

theorem retCc (flag condition : Byte) : Blind (Cpu.retCc · flag condition) :=
  .ite (c := fun m ↦ Cpu.checkFlag m.registers flag = condition) (fun _ ↦ rfl) (fun _ ↦ rfl)
    fun _ ↦ rfl

theorem halt : Blind Cpu.halt :=
  .ite (c := fun m ↦ m.interruptRegisters.masterEnable ≠ 0) (fun _ ↦ rfl) (fun _ ↦ rfl)
    fun _ ↦ rfl

end Blind

/-- The function of the opcode is blind, whatever its operand. -/
def Opcode.Blind : Opcode → Prop
  | .noOperands f => GameBloat.Blind f
  | .operandChar f => ∀ n, GameBloat.Blind (f · n)
  | .operandShort f => ∀ nn, GameBloat.Blind (f · nn)

open BaseOpcode (baseOpcodeTable)
open CBOpcode (cbOpcodeTable)

-- as in `baseOpcodeTable_fits`, an entry is recognised by the function of `cpu.c` it calls
seal storeByte mmuReadByte mmuWriteByte Cpu.checkFlag in
set_option maxRecDepth 4000 in
/-- Every function of the base table is blind, whatever its operand.  The proof lists the entries
and finds for each the lemma above it; an entry that read something else would have none. -/
theorem baseOpcodeTable_blind : ∀ o ∈ baseOpcodeTable.toList, o.Blind := by
  rw [baseOpcodeTable, Vector.toList_mk]
  repeat (refine List.forall_mem_cons.2 ⟨?_, ?_⟩; swap)
  · exact List.forall_mem_nil _
  all_goals first
    | exact fun _ ↦ rfl
    | exact fun _ _ ↦ rfl
    | exact fun m ↦ Blind.registers m (by
        simp only [mmuReadByte_observed, mmuReadShort_observed, observed_registers])
    | exact fun m ↦ Blind.store m rfl rfl
    | exact fun _ m ↦ Blind.store m rfl rfl
    | exact fun m ↦ Blind.pushSs m rfl
    | exact fun m ↦ Blind.ldASs m rfl
    | exact fun _ m ↦ Blind.ldASs m rfl
    | exact .popDd _
    | exact .rstF _
    | exact .retCc _ _
    | exact fun _ ↦ .jrCcE _ _ _
    | exact fun _ ↦ .jpCcNn _ _ _
    | exact fun _ ↦ .callCcNn _ _ _
    | exact .incSHL
    | exact .decSHL
    | exact .lddAMHL
    | exact .ldiAMHL
    | exact .lddMHLA
    | exact .ldiMHLA
    | exact .halt
    | exact .ret
    | exact fun m ↦ congrArg Cpu.ei (Blind.ret m)
    | exact fun nn m ↦ Blind.mmuWriteShort m nn rfl
    | exact .callNn

seal storeByte mmuReadByte mmuWriteByte Cpu.shiftSHL in
set_option maxRecDepth 4000 in
/-- Every function of the CB table is blind. -/
theorem cbOpcodeTable_blind : ∀ o ∈ cbOpcodeTable.toList, o.Blind := by
  rw [cbOpcodeTable, Vector.toList_mk]
  repeat (refine List.forall_mem_cons.2 ⟨?_, ?_⟩; swap)
  · exact List.forall_mem_nil _
  all_goals first
    | exact fun _ ↦ rfl
    | exact .shiftSHL _ _
    | exact .swapSHL
    | exact .bitBSHL _
    | exact fun m ↦ Blind.store m rfl (by simp only [mmuReadByte_observed, observed_registers])

/-! ## cpuStep -/

theorem blind_get {table : Vector Opcode 256} (h : ∀ o ∈ table.toList, o.Blind) (i : Fin 256) :
    (table.get i).Blind :=
  h _ (Vector.mem_toList_iff.2 (Vector.getElem_mem i.isLt))

theorem Opcode.Blind.executeOpcode {o : Opcode} (h : o.Blind) (m : Machine) (operand : Word) :
    executeOpcode m.observed o operand = (executeOpcode m o operand).observed := by
  cases o with
  | noOperands f => exact h m
  | operandChar f => exact h _ m
  | operandShort f => exact h _ m

theorem determineOpcode_observed (m : Machine) :
    (determineOpcode m).1.Blind ∧
      determineOpcode m.observed = (determineOpcode m).map id Machine.observed := by
  have hincPC (m : Machine) : m.observed.incPC = m.incPC.observed := rfl
  have haddTicks (m : Machine) (ticks : ℕ) :
      Cpu.addTicks m.observed ticks = (Cpu.addTicks m ticks).observed := rfl
  simp only [determineOpcode, observed_registers, mmuReadByte_observed, hincPC, haddTicks]
  split
  · exact ⟨blind_get cbOpcodeTable_blind _, rfl⟩
  · exact ⟨blind_get baseOpcodeTable_blind _, rfl⟩

theorem determineOperand_observed (m : Machine) (inOpcode : Opcode) :
    determineOperand m.observed inOpcode =
      (determineOperand m inOpcode).map id Machine.observed := by
  cases inOpcode <;> rfl

/-- **The CPU is blind**, and takes the same ticks. -/
theorem cpuStep_observed (m : Machine) :
    cpuStep m.observed = (cpuStep m).map Machine.observed id := by
  obtain ⟨hblind, hopcode⟩ := determineOpcode_observed m
  simp only [cpuStep, hopcode, Prod.map_fst, Prod.map_snd, id, determineOperand_observed,
    hblind.executeOpcode]
  rfl

/-! ## gpuStep -/

/-- The GPU's part of the machine without the picture and the history. -/
def GpuRun.observed (w : GpuRun) : GpuRun := { w with gpu := w.gpu.observed, calls := [] }

/-- `f` does not read what is not observed, but may write it: the picture is forgotten on both
sides after `f` as well. -/
def GpuRun.Blind (f : GpuRun → GpuRun) : Prop := ∀ w, (f w.observed).observed = (f w).observed

namespace GpuRun.Blind

theorem comp {f g : GpuRun → GpuRun} (hg : GpuRun.Blind g) (hf : GpuRun.Blind f) :
    GpuRun.Blind fun w ↦ g (f w) := by
  intro w
  calc (g (f w.observed)).observed = (g (f w.observed).observed).observed := (hg _).symm
    _ = (g (f w).observed).observed := by rw [hf w]
    _ = (g (f w)).observed := hg _

theorem ite {c : GpuRun → Prop} [DecidablePred c] {f g : GpuRun → GpuRun}
    (hc : ∀ w, c w.observed = c w) (hf : GpuRun.Blind f) (hg : GpuRun.Blind g) :
    GpuRun.Blind fun w ↦ if c w then f w else g w := by
  intro w
  rw [apply_ite GpuRun.observed, apply_ite GpuRun.observed]
  exact ite_congr (hc w) (fun _ ↦ hf w) fun _ ↦ hg w

theorem requestIfSelected (select : Byte) : GpuRun.Blind (·.requestIfSelected select) :=
  .ite (c := fun w ↦ w.gpu.lcdStatus &&& select ≠ 0) (fun _ ↦ rfl) (fun _ ↦ rfl) fun _ ↦ rfl

theorem nextScanline : GpuRun.Blind nextScanline := by
  intro w
  simp only [GameBloat.nextScanline, GpuRun.requestIfSelected, apply_ite GpuRun.observed]
  rfl

theorem handleLCDModeChange (inMode : GpuMode) :
    GpuRun.Blind (handleLCDModeChange · inMode) := by
  have hmode : GpuRun.Blind fun w ↦ (((w.onGpu (·.setMode inMode)).log (.modeChange inMode)).onGpu
      fun g ↦ g.setStatus (g.lcdStatus &&& 0xFC)).onGpu
      fun g ↦ g.setStatus (g.lcdStatus ||| inMode.toByte) := fun _ ↦ rfl
  cases inMode with
  | hblank => exact (requestIfSelected statusMode1IntSelect).comp hmode
  | oamScanline => exact (requestIfSelected statusMode2IntSelect).comp hmode
  | vramScanline => exact hmode
  | vblank =>
    have hrequest : GpuRun.Blind (·.request vblankInterrupt) := fun _ ↦ rfl
    exact hrequest.comp ((requestIfSelected statusMode0IntSelect).comp hmode)

/-- Of drawing, nothing is observed. -/
theorem renderPixels_observed (n : ℕ) (w : GpuRun) (v : ScanVars) :
    (renderPixels n w v).observed = w.observed := by
  induction n generalizing w v with
  | zero => rfl
  | succ n ih =>
    have hplot : (plotPixel w v).observed = w.observed := rfl
    have hlog (w : GpuRun) (call : GpuCall) : (w.log call).observed = w.observed := rfl
    simp only [renderPixels, apply_ite GpuRun.observed, ih, hplot, hlog, ite_self]

theorem renderScan_observed (w : GpuRun) : (renderScan w).observed = w.observed := by
  rw [renderScan, apply_ite GpuRun.observed, renderPixels_observed]
  exact ite_self _

theorem endOfMode : GpuRun.Blind endOfMode := by
  intro w
  have hmode : w.observed.gpu.mode = w.gpu.mode := rfl
  rw [GameBloat.endOfMode, GameBloat.endOfMode, hmode]
  cases w.gpu.mode with
  | hblank =>
    have hif := ite (c := fun w ↦ w.gpu.lcdYCoordinate = 144) (fun _ ↦ rfl)
      (handleLCDModeChange .vblank) (handleLCDModeChange .oamScanline)
    exact hif.comp nextScanline w
  | vblank =>
    have hif := ite (c := fun w ↦ w.gpu.lcdYCoordinate = 0) (fun _ ↦ rfl)
      (handleLCDModeChange .oamScanline) (g := id) fun _ ↦ rfl
    exact hif.comp nextScanline w
  | oamScanline => exact handleLCDModeChange .vramScanline w
  | vramScanline =>
    have hrender : GpuRun.Blind renderScan := fun w ↦
      (renderScan_observed w.observed).trans (renderScan_observed w).symm
    exact (handleLCDModeChange .hblank).comp hrender w

theorem gpuStepRun (tick : CInt) : GpuRun.Blind (gpuStepRun · tick) := by
  have hclock : GpuRun.Blind fun w ↦ w.onGpu fun g ↦ g.setClock (g.modeClock + tick) :=
    fun _ ↦ rfl
  have hcarry : GpuRun.Blind fun w ↦ w.onGpu fun g ↦
      g.setClock (g.modeClock - BitVec.ofNat 32 g.mode.length) := fun _ ↦ rfl
  have hif := ite (c := fun w ↦ w.gpu.mode.length ≤ w.gpu.modeClock.toNat) (fun _ ↦ rfl)
    (endOfMode.comp hcarry) (g := id) fun _ ↦ rfl
  exact ite (c := fun w ↦ w.gpu.LcdOn) (fun _ ↦ rfl) (hif.comp hclock) (g := id) fun _ ↦ rfl

end GpuRun.Blind

theorem gpuStep_observed (m : Machine) (tick : CInt) :
    (gpuStep m.observed tick).observed = (gpuStep m tick).observed :=
  congrArg (fun w : GpuRun ↦
      { m.observed with gpu := w.gpu, interruptRegisters := w.interruptRegisters })
    (GpuRun.Blind.gpuStepRun tick m.gpuRun)

/-! ## The main loop -/

theorem clearRequest_observed (m : Machine) (bit : Byte) :
    clearRequest m.observed bit = (clearRequest m bit).observed := rfl

theorem handleInterrupt_observed (m : Machine) (inInterrupt : Byte) (address : Word) :
    handleInterrupt m.observed inInterrupt address =
      (handleInterrupt m inInterrupt address).observed :=
  congrArg (fun m ↦ Cpu.addTicks (clearRequest m inInterrupt) 20)
    (Blind.callNn (inInterrupt.setWidth 16) m)

theorem serveInterrupt_observed (m : Machine) (flags : Byte) :
    serveInterrupt m.observed flags = (serveInterrupt m flags).observed := by
  simp only [serveInterrupt, apply_ite Machine.observed, onRegisters_observed,
    clearRequest_observed, handleInterrupt_observed]

theorem interruptStep_observed (m : Machine) :
    interruptStep m.observed = (interruptStep m).observed := by
  simp only [interruptStep, apply_ite Machine.observed]
  refine ite_congr rfl (fun _ ↦ ite_congr rfl (fun _ ↦ ?_) fun _ ↦ rfl) fun _ ↦ rfl
  exact serveInterrupt_observed { m with interruptRegisters.masterEnable := 0 } _

theorem loopCycle_observed (m : Machine) :
    (loopCycle m.observed).observed = (loopCycle m).observed := by
  have hcycle (m : Machine) : (loopCycle m).observed =
      interruptStep (gpuStep (cpuStep m).1 (cpuStep m).2).observed :=
    (interruptStep_observed _).symm
  rw [hcycle, hcycle, cpuStep_observed]
  exact congrArg interruptStep (gpuStep_observed _ _)

/-- What is observed between two cycles.  The time is that of the next one. -/
def Machine.betweenCycles (m : Machine) : Machine := (m.atTime 0).observed

theorem atTime_betweenCycles (m : Machine) (time : ℤ) :
    m.betweenCycles.atTime time = (m.atTime time).observed := rfl

theorem observed_atTime {m m' : Machine} (h : m.betweenCycles = m'.betweenCycles) (time : ℤ) :
    (m.atTime time).observed = (m'.atTime time).observed := by
  rw [← atTime_betweenCycles, h, atTime_betweenCycles]

theorem mainLoop_step_factorsThrough (time : ℤ) :
    (fun m ↦ (mainLoop.step m time).betweenCycles).FactorsThrough Machine.betweenCycles := by
  intro m m' h
  have hcycle : (loopCycle (m.atTime time)).observed = (loopCycle (m'.atTime time)).observed := by
    rw [← loopCycle_observed, observed_atTime h, loopCycle_observed]
  exact congrArg (Machine.atTime · 0) hcycle

theorem mainLoop_out_factorsThrough (time : ℤ) :
    (mainLoop.out · time).FactorsThrough Machine.betweenCycles := by
  intro m m' h
  have hticks (m : Machine) : (cpuStep m.observed).2 = (cpuStep m).2 := by
    rw [cpuStep_observed, Prod.map_snd, id]
  have htime : (cpuStep (m.atTime time)).2 = (cpuStep (m'.atTime time)).2 := by
    rw [← hticks, observed_atTime h, hticks]
  exact congrArg (fun ticks : CInt ↦ [ticks.toInt]) htime

/-- **Machines of which the same is observed run alike**, and take the same ticks.  This is for
every number of cycles, every program and every sequence of times; the ticks are part of it since
the platform reports them. -/
theorem mainLoop_run_observed {m m' : Machine} (h : m.betweenCycles = m'.betweenCycles)
    (cycles : List ℤ) :
    (mainLoop.run m cycles).betweenCycles = (mainLoop.run m' cycles).betweenCycles ∧
      mainLoop.history m cycles = mainLoop.history m' cycles :=
  ⟨System.run_factorsThrough mainLoop_step_factorsThrough cycles h,
    System.history_factorsThrough mainLoop_step_factorsThrough mainLoop_out_factorsThrough
      cycles h⟩

end GameBloat
