import GameBloat.Interrupt.Dispatch

/-!
# Serving an interrupt and coming back

What `interruptStep` leaves behind when it serves an interrupt, register by register
(`interruptStep_serves`), and whether `reti` undoes it.  It does for four of the five interrupts.
The branch of the timer overwrites `PC` before `handleInterrupt` pushes it, so there the
interrupted program goes on at 0x50 (`resumes_iff`).

A handler runs between the two.  What it does is arbitrary as long as it gives back the stack it
was given: `LeavesStack` asks for `SP` and the two bytes it points to, and nothing else, so the
result covers handlers that change memory, registers and flags, enable other interrupts in between
or call subroutines.

* `handleInterrupt_eq` rewrites the call that serves an interrupt as a pushed word, a jump, a
  cleared request and 20 ticks.
* `Serves` describes the machine afterwards, with the word on top of the stack as a case
  distinction: for the timer it is the timer's own entry, for the others the interrupted `PC`.
* `interruptStep_serves` proves it from the master enable and the interrupt that the cascade
  picks.
* `LeavesStack.reti` is the other half: `reti` takes the word off the stack and turns interrupts
  on.
* `resumes_iff` compares the word with the `PC` that was interrupted.

The stack must lie in RAM for this, as everywhere: with `SP` pointing to a register of the
hardware, nothing is stored and nothing comes back.
-/

set_option autoImplicit false

namespace GameBloat

/-! ## Plain memory and the interrupt registers -/

/-- The interrupt registers are not in plain memory. -/
theorem writeInterrupt_of_plain (ir : InterruptRegisters) {a : Word} (h : Plain a)
    (value : Byte) : writeInterrupt ir a value = ir := by
  have hrequest : a ≠ 0xFF0F := by rintro rfl; exact absurd h (by decide)
  have henable : a ≠ 0xFFFF := by rintro rfl; exact absurd h (by decide)
  rw [writeInterrupt, if_neg hrequest, if_neg henable, ite_self]

/-- What is read at a plain address does not depend on the interrupt registers or the ticks, since
it is a load from a backing array. -/
theorem mmuReadByte_of_plain {m m' : Machine} (hload : ∀ c, m'.load c = m.load c) {a : Word}
    (h : Plain a) : mmuReadByte m' a = mmuReadByte m a := by
  obtain ⟨c, hc⟩ := h.cell
  rw [mmuReadByte_of_cell hc, mmuReadByte_of_cell hc, hload]

/-- Two bytes of stack, one word. -/
theorem StackArea.plain_two {s : Word} (h : StackArea s 2) : Plain (s - 1) ∧ Plain (s - 1 - 1) := by
  have h₁ := h.plain (k := 1) (by omega) (by omega)
  have h₂ := h.plain (k := 2) (by omega) (by omega)
  have hsub : s - 1 - 1 = s - BitVec.ofNat 16 2 := by bv_omega
  exact ⟨h₁, hsub ▸ h₂⟩

/-! ## handleInterrupt -/

section

variable (m : Machine) (inInterrupt : Byte) (address : Word)

theorem handleInterrupt_eq :
    handleInterrupt m inInterrupt address =
      Cpu.addTicks (clearRequest ((pushWord m m.registers.PC).onRegisters fun r ↦
        { r with PC := inInterrupt.setWidth 16 }) inInterrupt) 20 := by
  rw [handleInterrupt, Cpu.callNn_eq]

theorem handleInterrupt_registers :
    (handleInterrupt m inInterrupt address).registers =
      { m.registers with PC := inInterrupt.setWidth 16, SP := m.registers.SP - 1 - 1 } := by
  rw [handleInterrupt_eq]
  exact congrArg (fun r : Registers ↦ { r with PC := inInterrupt.setWidth 16 })
    (pushWord_registers m _)

variable {m} (h : StackArea m.registers.SP 2)

include h

theorem handleInterrupt_interruptRegisters :
    (handleInterrupt m inInterrupt address).interruptRegisters =
      { m.interruptRegisters with request := m.interruptRegisters.request &&& ~~~inInterrupt } := by
  obtain ⟨h₁, h₂⟩ := h.plain_two
  have hpush : (pushWord m m.registers.PC).interruptRegisters = m.interruptRegisters := by
    rw [pushWord_interruptRegisters, writeInterrupt_of_plain _ h₁, writeInterrupt_of_plain _ h₂]
  rw [handleInterrupt_eq]
  exact congrArg (fun ir : InterruptRegisters ↦
    { ir with request := ir.request &&& ~~~inInterrupt }) hpush

/-- The program counter lies on the stack. -/
theorem handleInterrupt_top :
    mmuReadShort (handleInterrupt m inInterrupt address) (m.registers.SP - 1 - 1) =
      m.registers.PC := by
  obtain ⟨h₁, h₂⟩ := h.plain_two
  have hpush := (OnStack.init m 1).push (d := 1) h (by decide) m.registers.PC
  have htop := hpush.top
  have hload (c : Cell) : (handleInterrupt m inInterrupt address).load c =
      (pushWord m m.registers.PC).load c := by
    rw [handleInterrupt_eq, Machine.load, Machine.load]
    cases c.backing <;> rfl
  have hsucc : m.registers.SP - 1 - 1 + 1 = m.registers.SP - 1 := by bv_omega
  rw [pushWord_registers, mmuReadShort_eq, hsucc] at htop
  rw [mmuReadShort_eq, hsucc, mmuReadByte_of_plain hload h₁, mmuReadByte_of_plain hload h₂, htop]

end

/-! ## interruptStep -/

/-- The bits that are set in both registers. -/
def Machine.flags (m : Machine) : Byte :=
  m.interruptRegisters.enable &&& m.interruptRegisters.request

/-- `m'` is what serving the interrupt `i` makes of `m`, as far as the registers and the top of
the stack go.  The last field is where the timer is different.  What the handler does after that
is not part of it, and `Resumes` is about any handler that leaves the stack alone. -/
structure Serves (i : Interrupt) (m m' : Machine) : Prop where
  registers : m'.registers =
    { m.registers with PC := i.bit.setWidth 16, SP := m.registers.SP - 1 - 1 }
  interruptRegisters : m'.interruptRegisters =
    { m.interruptRegisters with
      masterEnable := 0
      request := m.interruptRegisters.request &&& ~~~i.bit }
  top : mmuReadShort m' m'.registers.SP = if i = .timer then timerOverflowIntr else m.registers.PC

theorem interruptStep_of_served {m : Machine} (hm : m.interruptRegisters.masterEnable = 1)
    {i : Interrupt} (hi : served m.flags = some i) :
    interruptStep m = handleInterrupt
      (Machine.prepared { m with interruptRegisters.masterEnable := 0 } i) i.bit i.entry := by
  have hflags : m.flags ≠ 0 := by
    intro h0
    rw [h0] at hi
    exact absurd hi (by decide +revert)
  exact (interruptStep_of_flags_ne_zero hm hflags).trans (serveInterrupt_of_served _ hi)

/-- **What `interruptStep` does when it serves an interrupt.** -/
theorem interruptStep_serves {m : Machine} (hm : m.interruptRegisters.masterEnable = 1)
    {i : Interrupt} (hi : served m.flags = some i) (h : StackArea m.registers.SP 2) :
    Serves i m (interruptStep m) := by
  let M : Machine := Machine.prepared { m with interruptRegisters.masterEnable := 0 } i
  have hstep : interruptStep m = handleInterrupt M i.bit i.entry := interruptStep_of_served hm hi
  have hregisters : M.registers = { m.registers with
      PC := if i = .timer then timerOverflowIntr else m.registers.PC } := by
    cases i <;> rfl
  have hrequest : M.interruptRegisters.request &&& ~~~i.bit =
      m.interruptRegisters.request &&& ~~~i.bit := by
    cases i with
    | timer => exact (BitVec.and_assoc ..).trans (congrArg _ BitVec.and_self)
    | vblank | lcd | serial | joypad => rfl
  have hSP : M.registers.SP = m.registers.SP := by rw [hregisters]
  have harea : StackArea M.registers.SP 2 := hSP.symm ▸ h
  rw [hstep]
  have hafter := handleInterrupt_registers M i.bit i.entry
  refine ⟨?_, ?_, ?_⟩
  · rw [hafter, hregisters]
  · rw [handleInterrupt_interruptRegisters i.bit i.entry harea, hrequest]
    cases i <;> rfl
  · have htop := handleInterrupt_top i.bit i.entry harea
    rw [hafter]
    rw [hregisters] at htop
    rw [hregisters]
    exact htop

/-! ## Coming back -/

/-- `m'` still has the stack of `m`: `SP` and the two bytes it points to. -/
structure LeavesStack (m m' : Machine) : Prop where
  sp : m'.registers.SP = m.registers.SP
  low : mmuReadByte m' m.registers.SP = mmuReadByte m m.registers.SP
  high : mmuReadByte m' (m.registers.SP + 1) = mmuReadByte m (m.registers.SP + 1)

/-- The program that `interruptStep` interrupts resumes where it was, once the handler executes
`reti`: right away, or after anything that leaves the stack alone.  Interrupts are on again then,
as they were when the interrupt was served. -/
def Resumes (m : Machine) : Prop :=
  ∀ m', LeavesStack (interruptStep m) m' →
    (Cpu.reti m').registers.PC = m.registers.PC ∧ (Cpu.reti m').registers.SP = m.registers.SP ∧
      (Cpu.reti m').interruptRegisters.masterEnable = 1

theorem LeavesStack.refl (m : Machine) : LeavesStack m m := ⟨rfl, rfl, rfl⟩

/-- `reti` takes the program counter off the stack. -/
theorem LeavesStack.reti {m m' : Machine} (h : LeavesStack m m') :
    (Cpu.reti m').registers.PC = mmuReadShort m m.registers.SP ∧
      (Cpu.reti m').registers.SP = m.registers.SP + 1 + 1 ∧
      (Cpu.reti m').interruptRegisters.masterEnable = 1 := by
  have hread : mmuReadShort m' m'.registers.SP = mmuReadShort m m.registers.SP := by
    rw [h.sp, mmuReadShort_eq, mmuReadShort_eq, h.low, h.high]
  rw [Cpu.reti, Cpu.ret_eq, ← hread, ← h.sp]
  exact ⟨rfl, rfl, rfl⟩

/-- The timer is served if it is pending and neither VBLANK nor LCD is.  The serial port, which
should come before it, does not matter. -/
theorem served_eq_timer_iff (flags : Byte) :
    served flags = some .timer ↔ flags &&& 0x03 = 0 ∧ flags &&& 0x08 ≠ 0 := by
  revert flags
  decide

/-- **When an interrupted program resumes**: unless it is the timer that is served, because it is
pending and neither VBLANK nor LCD is, and the program was not at the timer's entry anyway.  For
the timer the entry is put into PC before PC is pushed, so that the handler returns to itself. -/
theorem resumes_iff {m : Machine} (hm : m.interruptRegisters.masterEnable = 1)
    (hpending : m.pending ≠ 0) (h : StackArea m.registers.SP 2) :
    Resumes m ↔ m.flags &&& 0x03 ≠ 0 ∨ m.flags &&& 0x08 = 0 ∨ m.registers.PC = 0x50 := by
  have hfive : m.flags &&& 0x1F ≠ 0 := hpending
  obtain ⟨i, hi⟩ := exists_served hfive
  have hserves := interruptStep_serves hm hi h
  have hback (m' : Machine) (hleaves : LeavesStack (interruptStep m) m') :
      (Cpu.reti m').registers.PC = (if i = .timer then 0x50 else m.registers.PC) ∧
        (Cpu.reti m').registers.SP = m.registers.SP ∧
        (Cpu.reti m').interruptRegisters.masterEnable = 1 := by
    obtain ⟨hPC, hSP, henable⟩ := hleaves.reti
    refine ⟨hPC.trans hserves.top, ?_, henable⟩
    rw [hSP, hserves.registers]
    bv_omega
  have hiff : Resumes m ↔ (if i = .timer then 0x50 else m.registers.PC) = m.registers.PC := by
    constructor
    · intro hresumes
      exact (hback _ (.refl _)).1.symm.trans (hresumes _ (.refl _)).1
    · intro heq m' hleaves
      obtain ⟨hPC, hrest⟩ := hback m' hleaves
      exact ⟨hPC.trans heq, hrest⟩
  have htimer : i = .timer ↔ m.flags &&& 0x03 = 0 ∧ m.flags &&& 0x08 ≠ 0 := by
    rw [← served_eq_timer_iff, hi, Option.some.injEq]
  rw [hiff]
  by_cases h' : i = .timer
  · obtain ⟨h3, h8⟩ := htimer.1 h'
    rw [if_pos h', eq_comm]
    exact ⟨fun hPC ↦ .inr (.inr hPC), fun hor ↦ (hor.resolve_left (· h3)).resolve_left h8⟩
  · rw [if_neg h']
    refine iff_of_true rfl ?_
    by_contra hcon
    simp only [not_or, not_not] at hcon
    exact h' (htimer.2 ⟨hcon.1, hcon.2.1⟩)

/-- A machine at 0x100 with its stack in high RAM, interrupts on, and those in `bits` pending. -/
def interruptedAt0x100 (bits : Byte) : Machine :=
  { Machine.powerOn with
    registers := { Machine.powerOn.registers with PC := 0x100, SP := 0xFFFE }
    interruptRegisters := ⟨bits, bits, 1⟩ }

/-- From the timer interrupt, the program returns to 0x50. -/
theorem timer_not_resumed :
    let m := interruptedAt0x100 0x08
    m.interruptRegisters.masterEnable = 1 ∧ m.pending ≠ 0 ∧ StackArea m.registers.SP 2 ∧
      ¬Resumes m ∧ (Cpu.reti (interruptStep m)).registers.PC = 0x50 := by
  refine ⟨rfl, by decide, by decide, fun h ↦ ?_, by decide⟩
  exact absurd (h _ (.refl _)).1 (by decide)

/-- With VBLANK pending as well, it returns to where it was. -/
theorem resumes_iff_vblank : Resumes (interruptedAt0x100 0x09) :=
  (resumes_iff rfl (by decide) (by decide)).2 (.inl (by decide))

end GameBloat
