import GameBloat.Gpu.Bounds
import GameBloat.Gpu.Timeline
import GameBloat.Interrupt.Dispatch
import GameBloat.Programs.Code

/-!
# Waiting for a line

The usual loop that reads LY until it is `n`, run from ROM by the main loop.  It polls LY every 32
ticks; the GPU, which the main loop keeps on time, takes the hand of its dial through all 154
lines and stays 456 ticks on each, whatever the position it starts from.  So the loop sees line
`n` within a frame.

This is a result about the CPU and the GPU together.  A machine-code loop has no bound of its own:
that it ends follows from what the GPU does with the ticks it is handed.  The two are joined by
the `dot` of `GameBloat.Gpu.Timeline`, the number of ticks since the start of the frame, which a
cycle moves on by the ticks of its instruction; and a poll every 32 ticks cannot miss a line that
lasts 456.

* `Waiting` is the machine at a byte of the loop with its hand at a position, and `Waiting.cycle`
  is one cycle of the main loop: an instruction that changes registers only, and its ticks on the
  GPU.
* `Waiting.again` and `Waiting.leave` are the two ways a poll can go, of three instructions each.
* `Polling` is the loop invariant.  It has the number of polls that will still fail, so that the
  loop rule can count it down; that there is such a number is arithmetic on the dial.
* `waitForLine_exits` has the bound on the ticks, a frame and a line.

The GPU may be in any state that is reached from its reset by events that do not fall behind; it
need not have been left alone by the program.
-/

set_option autoImplicit false

namespace GameBloat

open BaseOpcode (baseOpcodeTable baseOpcodeTicks)

/-- `LDH A,(0xFF44); CP n; JR NZ` back to the start. -/
def waitForLine (n : Byte) : List Byte := [0xF0, 0x44, 0xFE, n, 0x20, 0xFA]

/-- The loop has been left. -/
def WaitOver (L : Word) (m : Machine) : Prop := m.registers.PC = L + 6

/-- The machine inside the loop, at its byte `i`, with the hand of the GPU at `d`.  The hand is
counted on without end, and the position is `d` modulo a frame.  The line that the loop compares
is that of the hand at the moment of the read, not at the end of the round. -/
structure Waiting (L : Word) (n : Byte) (i d : ℕ) (m : Machine) : Prop where
  code : CodeAt m L (waitForLine n)
  pc : m.registers.PC = L + BitVec.ofNat 16 i
  masterEnable : m.interruptRegisters.masterEnable = 0
  running : m.gpu.Running
  visible : m.gpu.pos.Visible
  dot : m.gpu.dot = d % 70224

/-- The hand at `d` is in line `n`. -/
def InLine (n : Byte) (d : ℕ) : Prop :=
  456 * n.toNat ≤ d % 70224 ∧ d % 70224 < 456 * n.toNat + 456

/-- The loop invariant: from its start, the loop will fail `k` polls before it succeeds. -/
def Polling (L : Word) (n : Byte) (k : ℕ) (m : Machine) : Prop :=
  ∃ d, Waiting L n 0 d m ∧ InLine n (d + k * 32) ∧ ∀ j < k, ¬InLine n (d + j * 32)

/-! ## One cycle -/

/-- A cycle of the main loop with interrupts off is an instruction and its ticks on the GPU. -/
theorem loopCycle_of_after {m : Machine} {r : Registers} {t : ℕ} (ht : t ≤ 24)
    (hmaster : m.interruptRegisters.masterEnable = 0) (hstep : (cpuStep m).1 = m.after r t) :
    loopCycle m = gpuStep (m.after r t) (BitVec.ofNat 32 t) := by
  have hticks : (cpuStep m).2 = BitVec.ofNat 32 t :=
    cpuStep_ticks ht (congrArg Machine.tickCounter hstep)
  have hoff : (gpuStep (m.after r t) (BitVec.ofNat 32 t)).interruptRegisters.masterEnable = 0 :=
    (gpuStep_stepped _ _).requested.masterEnable.trans hmaster
  have hcycle : loopCycle m = interruptStep (gpuStep (cpuStep m).1 (cpuStep m).2) := rfl
  rw [hcycle, hticks, hstep]
  exact interruptStep_of_masterEnable_ne (by rw [hoff]; decide)

section

variable {m : Machine} {L : Word} {n : Byte} {i d : ℕ}

/-- The bytes of the loop, from where the program counter is. -/
theorem Waiting.read (h : Waiting L n i d m) {j : ℕ} (hj : j < 6) {address : Word}
    (haddress : address = L + BitVec.ofNat 16 j) :
    mmuReadByte m address = (waitForLine n).get ⟨j, hj⟩ := haddress ▸ h.code j hj

/-- LY is `n` when the hand is in line `n`. -/
theorem Waiting.line_iff (h : Waiting L n i d m) :
    m.gpu.lcdYCoordinate = n ↔ InLine n d := by
  have hline := h.running.onTime.line h.visible
  rw [h.dot] at hline
  rw [← BitVec.toNat_inj, hline, InLine]
  omega

variable (hL : L.toNat + 6 ≤ 0x4000)

include hL

/-- **One cycle** in the loop: an instruction that changes registers only, and its ticks.
Interrupts are off, so the third part of the cycle does nothing. -/
theorem Waiting.cycle (h : Waiting L n i d m) (hi : i < 6) {r : Registers} {t : ℕ} (ht : t ≤ 24)
    (hstep : (cpuStep m).1 = m.after r t) {j : ℕ} (hpc : r.PC = L + BitVec.ofNat 16 j) :
    ∃ m', cycleMachine.Reaches (WaitOver L) m m' 1 t ∧ Waiting L n j (d + t) m' ∧
      m'.registers = r := by
  have hstop : ¬WaitOver L m := by
    rw [WaitOver, h.pc]
    bv_omega
  have hcost : (cpuStep m).2.toInt = t :=
    cpuStep_toInt ht (congrArg Machine.tickCounter hstep)
  have hstepped := gpuStep_stepped (m.after r t) (BitVec.ofNat 32 t)
  refine ⟨gpuStep (m.after r t) (BitVec.ofNat 32 t),
    .single hstop (loopCycle_of_after ht h.masterEnable hstep) hcost,
    ⟨?_, hpc, ?_, ?_, ?_, ?_⟩, rfl⟩
  · exact h.code.congr ⟨rfl, rfl, rfl, rfl⟩ hL
  · exact hstepped.requested.masterEnable.trans h.masterEnable
  · exact Gpu.Running.gpuStep (m := m.after r t) h.running (by omega)
  · rcases hstepped.pos with hpos | hpos
    · exact hpos ▸ h.visible
    · exact hpos ▸ h.visible.next
  · have hdot := gpuStep_dot (m := m.after r t) h.running.on h.running.onTime h.visible
      (t := t) (by omega)
    have hstart : (m.after r t).gpu.dot = d % 70224 := h.dot
    rwa [hstart, Nat.mod_add_mod] at hdot

end

/-! ## One poll -/

/-- `cmp_s` changes the flags, and leaves the zero flag behind. -/
theorem cmpS_eq (r : Registers) (s : Byte) :
    ∃ F, Cpu.cmpS r s = { r with F } ∧
      Cpu.checkFlag { r with F } Cpu.flagZero = if r.A = s then 1 else 0 := by
  let r₀ := Cpu.setFlag r Cpu.flagNegative
  obtain ⟨F₁, h₁⟩ := exists_writeFlag r₀ Cpu.flagCarry (r₀.A.toNat < s.toNat)
  let r₁ := { r₀ with F := F₁ }
  obtain ⟨F₂, h₂⟩ := exists_writeFlag r₁ Cpu.flagHalfCarry
    ((r₁.A &&& Cpu.lowNibble).toNat < (s &&& Cpu.lowNibble).toNat)
  let r₂ := { r₁ with F := F₂ }
  obtain ⟨F₃, h₃⟩ := exists_writeFlag r₂ Cpu.flagZero (r₂.A = s)
  have hcmp : Cpu.cmpS r s = Cpu.writeFlag r₂ Cpu.flagZero (r₂.A = s) := by
    rw [Cpu.cmpS, h₁, h₂]
  have hflag := checkFlag_writeFlag_zero r₂ (r₂.A = s)
  rw [h₃] at hflag
  exact ⟨F₃, hcmp.trans h₃, hflag⟩

section

variable {m : Machine} {L : Word} {n : Byte} {d : ℕ} (hL : L.toNat + 6 ≤ 0x4000)

include hL

/-- The first two cycles compare LY with `n`. -/
theorem Waiting.compare (h : Waiting L n 0 d m) :
    ∃ m', cycleMachine.Reaches (WaitOver L) m m' 2 20 ∧ Waiting L n 4 (d + 20) m' ∧
      m'.registers.A = m.gpu.lcdYCoordinate ∧
      Cpu.checkFlag m'.registers Cpu.flagZero = if m.gpu.lcdYCoordinate = n then 1 else 0 := by
  have next {a : Word} {i : ℕ} (ha : a = L + BitVec.ofNat 16 i) :
      a + 1 = L + BitVec.ofNat 16 (i + 1) := by
    rw [ha, BitVec.ofNat_add, BitVec.add_assoc]
    rfl
  have hldh : (cpuStep m).1 = m.after { m.registers with
      A := m.gpu.lcdYCoordinate, PC := m.registers.PC + 1 + 1 } 12 := by
    have hopcode : mmuReadByte m m.registers.PC = 0xF0 := h.read (j := 0) (by decide) h.pc
    exact cpuStep_operandChar (f := Cpu.ldhAN) (t := 12) hopcode (by decide) rfl rfl
      (h.read (j := 1) (by decide) (next h.pc))
  obtain ⟨m₁, hrun₁, h₁, hr₁⟩ := h.cycle hL (by decide) (by decide) hldh (next (next h.pc))
  obtain ⟨F, hcmp, hflag⟩ := cmpS_eq { m₁.registers with PC := m₁.registers.PC + 1 + 1 } n
  have hcp : (cpuStep m₁).1 = m₁.after { m₁.registers with
      F, PC := m₁.registers.PC + 1 + 1 } 8 := by
    have hopcode : mmuReadByte m₁ m₁.registers.PC = 0xFE := h₁.read (j := 2) (by decide) h₁.pc
    have hstep := cpuStep_operandChar (f := BaseOpcode.cpN) (t := 8) hopcode (by decide) rfl rfl
      (h₁.read (j := 3) (by decide) (next h₁.pc))
    exact hstep.trans (congrArg (m₁.after · 8) hcmp)
  obtain ⟨m₂, hrun₂, h₂, hr₂⟩ := h₁.cycle hL (by decide) (by decide) hcp (next (next h₁.pc))
  have hA : m₁.registers.A = m.gpu.lcdYCoordinate := congrArg Registers.A hr₁
  refine ⟨m₂, hrun₁.trans hrun₂, h₂, (congrArg Registers.A hr₂).trans hA, ?_⟩
  rw [hr₂, ← hA]
  exact hflag

/-- The jump: back to the start until the zero flag is set. -/
theorem Waiting.jump (h : Waiting L n 4 d m) {c : Prop} [Decidable c]
    (hflag : Cpu.checkFlag m.registers Cpu.flagZero = if c then 1 else 0) :
    ∃ m', cycleMachine.Reaches (WaitOver L) m m' 1 ((if c then 8 else 12 : ℕ) : ℤ) ∧
      Waiting L n (if c then 6 else 0) (d + if c then 8 else 12) m' ∧
      m'.registers.A = m.registers.A := by
  have hoperand : m.registers.PC + 1 = L + BitVec.ofNat 16 5 := by
    rw [h.pc, BitVec.add_assoc]
    rfl
  have hjr := cpuStep_jrNZN (h.read (j := 4) (by decide) h.pc)
    (h.read (j := 5) (by decide) hoperand) hflag
  have htarget : (if c then m.registers.PC + 2
      else m.registers.PC + 2 + (0xFA : Byte).signExtend 16) =
        L + BitVec.ofNat 16 (if c then 6 else 0) := by
    rw [h.pc, show (0xFA : Byte).signExtend 16 = (0xFFFA : Word) by decide]
    split <;> bv_omega
  obtain ⟨m', hrun, h', hr⟩ := h.cycle hL (by decide) (by split <;> decide) hjr htarget
  exact ⟨m', hrun, h', by rw [hr]⟩

/-- **A poll that fails** takes 32 ticks. -/
theorem Waiting.again (h : Waiting L n 0 d m) (hline : m.gpu.lcdYCoordinate ≠ n) :
    ∃ m', cycleMachine.Reaches (WaitOver L) m m' 3 32 ∧ Waiting L n 0 (d + 32) m' := by
  obtain ⟨m₁, hrun₁, h₁, -, hflag⟩ := h.compare hL
  obtain ⟨m₂, hrun₂, h₂, -⟩ := h₁.jump hL hflag
  rw [if_neg hline] at hrun₂
  rw [if_neg hline, if_neg hline] at h₂
  exact ⟨m₂, hrun₁.trans hrun₂, h₂⟩

/-- **The poll that succeeds** takes 28 ticks, and leaves the line in `A`. -/
theorem Waiting.leave (h : Waiting L n 0 d m) (hline : m.gpu.lcdYCoordinate = n) :
    ∃ m', cycleMachine.Reaches (WaitOver L) m m' 3 28 ∧ WaitOver L m' ∧ m'.registers.A = n := by
  obtain ⟨m₁, hrun₁, h₁, hA₁, hflag⟩ := h.compare hL
  obtain ⟨m₂, hrun₂, h₂, hA₂⟩ := h₁.jump hL hflag
  rw [if_pos hline] at hrun₂
  rw [if_pos hline, if_pos hline] at h₂
  exact ⟨m₂, hrun₁.trans hrun₂, h₂.pc, hA₂.trans (hA₁.trans hline)⟩

/-! ## The whole loop -/

theorem Polling.round {k : ℕ} (h : Polling L n (k + 1) m) :
    ∃ m', cycleMachine.Reaches (WaitOver L) m m' 3 32 ∧ Polling L n k m' := by
  obtain ⟨d, hm, hin, hbefore⟩ := h
  have hshift (j : ℕ) : d + 32 + j * 32 = d + (j + 1) * 32 := by omega
  have hline : ¬InLine n d := hbefore 0 (by omega)
  obtain ⟨m', hrun, hm'⟩ := hm.again hL (mt hm.line_iff.1 hline)
  refine ⟨m', hrun, d + 32, hm', (hshift k).symm ▸ hin, fun j hj ↦ ?_⟩
  rw [hshift]
  exact hbefore (j + 1) (by omega)

/-- The loop is left in line `n`, after as many polls as it takes the hand to get there: the first
multiple of 32 ticks that lies in the line, which is less than a frame and a line away. -/
theorem Waiting.exit (h : Waiting L n 0 d m) (hn : n.toNat ≤ 153) :
    ∃ m' k t, cycleMachine.Reaches (WaitOver L) m m' k t ∧ WaitOver L m' ∧
      m'.registers.A = n ∧ t ≤ 70224 + 456 := by
  obtain ⟨k, hk, hin, hbefore⟩ : ∃ k, k * 32 < 70224 + 32 ∧ InLine n (d + k * 32) ∧
      ∀ j < k, ¬InLine n (d + j * 32) :=
    CarryClock.exists_first_poll (by decide) (by decide) (by omega) d
  have hpolling : Polling L n k m := ⟨d, h, hin, hbefore⟩
  obtain ⟨s, hpolls, d', hs, hin', -⟩ :=
    TimedMachine.Reaches.loop (fun _ _ ↦ Polling.round hL) k hpolling
  obtain ⟨m', hlast, hover, hA⟩ := hs.leave hL (hs.line_iff.2 (by simpa using hin'))
  exact ⟨m', _, _, hpolls.trans hlast, hover, hA, by omega⟩

end

/-- **Waiting for a line ends.**  From wherever the GPU is, the loop is left with `n` in `A`,
after at most a frame and a line.  That it is left at all is not assumed: a round of the loop
takes fewer ticks than a line lasts, and so the line counter cannot go past `n` unseen. -/
theorem waitForLine_exits {m m₀ : Machine} {L : Word} {n : Byte} (hn : n.toNat ≤ 153)
    (hL : L.toNat + 5 ≤ 0x3FFF) (hcode : CodeAt m L (waitForLine n)) (hPC : m.registers.PC = L)
    (hmaster : m.interruptRegisters.masterEnable = 0) (hon : m.gpu.LcdOn)
    (hreach : ReachedBy Event.Paced m₀) (hgpu : m.gpu = m₀.gpu) :
    ∃ k, (cycleMachine.run k m).registers.PC = L + 6 ∧
      (cycleMachine.run k m).registers.A = n ∧
      cycleMachine.total k m ≤ 70224 + 456 := by
  have hstart : Waiting L n 0 m.gpu.dot m :=
    ⟨hcode, hPC.trans (BitVec.add_zero L).symm, hmaster, ⟨hon, hgpu ▸ hreach.onTime⟩,
      hgpu ▸ hreach.sound.pos, (Nat.mod_mod _ _).symm⟩
  obtain ⟨m', k, t, hrun, hover, hA, ht⟩ := hstart.exit (by omega) hn
  refine ⟨k, ?_, ?_, ?_⟩
  · rw [hrun.run]
    exact hover
  · rw [hrun.run]
    exact hA
  · rw [hrun.total]
    exact ht

/-- The machine after its LCD has been switched on. -/
def switchedOn : Machine := gameboy.run Machine.powerOn.gpuReset [.mmuWriteByte 0xFF40 0x80]

/-- A machine about to wait for line 61, with the loop at 0x234 of a plain cartridge. -/
def aboutToWait : Machine :=
  { switchedOn with
    registers.PC := 0x234
    cartridge := { Machine.powerOn.cartridge with
      rom := fun i ↦ (waitForLine 61).getD (i - 0x234) 0, mbc := true }
    MBC := some .mbcNone }

theorem switchedOn_reached : ReachedBy Event.Paced switchedOn :=
  ⟨Machine.powerOn, [.mmuWriteByte 0xFF40 0x80], by simp [Event.Paced], rfl⟩

/-- The wait for line 61 ends. -/
theorem waitForLine_exits_61 :
    ∃ k, (cycleMachine.run k aboutToWait).registers.PC = 0x234 + 6 ∧
      (cycleMachine.run k aboutToWait).registers.A = 61 ∧
      cycleMachine.total k aboutToWait ≤ 70224 + 456 :=
  waitForLine_exits (m := aboutToWait) (by decide) (by decide)
    (codeAt_of_rom (c := .mbcNone) rfl (.inl rfl) (by decide) (by decide)) rfl rfl (by decide)
    switchedOn_reached rfl

end GameBloat
