import GameBloat.Cpu.Stack
import GameBloat.Interrupt.Step

/-!
# What dispatching an interrupt should do, and does

`interrupt.h` numbers the five interrupts by priority, and `InterruptAddresses` gives each its
entry.  `handleInterrupt` gets both the number and the entry, but calls the number: the program
counter ends up at 1, 2, 4, 8 or 0x10 (`serveInterrupt_PC`), never at an entry.  So
`interruptStep` does what it should in those states only where there is nothing for it to do
(`dispatchesAsDocumented_iff`).

The documented behaviour is written down first and without reference to the code: which of the
pending interrupts is the first, where control should be afterwards, what happens to the master
enable and to the requests, and that nothing happens when interrupts are off or none is pending.
`DispatchesAsDocumented` is the conjunction of the two halves, for one state.

* `served` is the interrupt that the cascade picks, in the order of its tests.
* `serveInterrupt_of_served` says that serving is one call of `handleInterrupt`, on a machine that
  the branch of the timer has already touched.
* `bit_ne_entry`: none of the five numbers is one of the five entries.  This is why the law fails
  in *every* state in which an interrupt is dispatched, and not only for some interrupts.
* `dispatchesAsDocumented_iff` has the exact condition.  One kind of state is left in which
  something is dispatched and the law holds: the stack has no room in RAM, and then nothing is
  asked.

A byte of the enable register above the five bits makes a difference too: with such a bit set in
both registers, interrupts are turned off although nothing is pending.
-/

set_option autoImplicit false

namespace GameBloat

/-! ## The documented behaviour -/

/-- The interrupts, in order of priority. -/
inductive Interrupt
  | vblank | lcd | serial | timer | joypad
  deriving DecidableEq

namespace Interrupt

/-- The interrupt's bit in the request and enable registers. -/
def bit : Interrupt → Byte
  | vblank => vblankInterrupt
  | lcd => lcdInterrupt
  | serial => serialInterrupt
  | timer => timerInterrupt
  | joypad => joypadInterrupt

/-- The interrupt's entry in `enum InterruptAddresses`. -/
def entry : Interrupt → Word
  | vblank => vertBlnkIntrStart
  | lcd => lcdcStatusIntrStart
  | serial => serialTxCompletionIntr
  | timer => timerOverflowIntr
  | joypad => highLowP10P13Intr

/-- `i` is pending, and nothing of higher priority is.  Priority is by the number of the bit, the
lowest first, as in the list of `interrupt.h`. -/
def IsFirst (pending : Byte) (i : Interrupt) : Prop :=
  pending &&& i.bit ≠ 0 ∧ ∀ j : Interrupt, pending &&& j.bit ≠ 0 → i.bit.toNat ≤ j.bit.toNat

end Interrupt

/-- The interrupts that are both enabled and requested. -/
def Machine.pending (m : Machine) : Byte :=
  m.interruptRegisters.enable &&& m.interruptRegisters.request &&& 0x1F

/-- `m'` is `m` with its first pending interrupt served: control is at its entry, interrupts are
off, its request and no other is cleared, and 20 ticks have passed.  This is the specification;
which interrupt the code serves is `served`, and where the two differ is what has to be found. -/
def ServesFirst (m m' : Machine) : Prop :=
  ∃ i, Interrupt.IsFirst m.pending i ∧ m'.registers.PC = i.entry ∧
    m'.interruptRegisters.masterEnable = 0 ∧
    m'.interruptRegisters.request = m.interruptRegisters.request &&& ~~~i.bit ∧
    m'.tickCounter = m.tickCounter + 20

/-- `interruptStep` does what it should in the state `m`: it serves the first pending interrupt if
there is one, interrupts are on and the stack has room, and it does nothing if interrupts are off
or none is pending. -/
def DispatchesAsDocumented (m : Machine) : Prop :=
  (m.interruptRegisters.masterEnable = 1 → m.pending ≠ 0 → StackArea m.registers.SP 2 →
    ServesFirst m (interruptStep m)) ∧
  (m.interruptRegisters.masterEnable = 0 ∨ m.pending = 0 → interruptStep m = m)

/-! ## What the code does -/

theorem interruptStep_of_masterEnable_ne {m : Machine}
    (h : m.interruptRegisters.masterEnable ≠ 1) : interruptStep m = m := by
  rw [interruptStep, if_neg h]

theorem interruptStep_of_flags_eq_zero {m : Machine}
    (h : m.interruptRegisters.enable &&& m.interruptRegisters.request = 0) :
    interruptStep m = m := by
  rw [interruptStep]
  split
  · exact if_neg (by rw [h]; decide)
  · rfl

theorem interruptStep_of_flags_ne_zero {m : Machine} (hm : m.interruptRegisters.masterEnable = 1)
    (h : m.interruptRegisters.enable &&& m.interruptRegisters.request ≠ 0) :
    interruptStep m = serveInterrupt { m with interruptRegisters.masterEnable := 0 }
      (m.interruptRegisters.enable &&& m.interruptRegisters.request) := by
  rw [interruptStep, if_pos hm]
  exact if_pos (Nat.pos_of_ne_zero fun h' ↦ h (BitVec.eq_of_toNat_eq h'))

theorem handleInterrupt_PC (m : Machine) (bit : Byte) (address : Word) :
    (handleInterrupt m bit address).registers.PC = bit.setWidth 16 := by
  rw [handleInterrupt, Cpu.callNn_eq]
  rfl

/-- The five interrupts are what `0x1F` masks out. -/
theorem and_mask_ne_zero_iff (flags : Byte) :
    flags &&& 0x1F ≠ 0 ↔ flags &&& vblankInterrupt ≠ 0 ∨ flags &&& lcdInterrupt ≠ 0 ∨
      flags &&& timerInterrupt ≠ 0 ∨ flags &&& serialInterrupt ≠ 0 ∨
      flags &&& joypadInterrupt ≠ 0 := by
  revert flags
  decide

/-- The interrupt the cascade picks: the timer comes before the serial port.  `none` if no bit of
the five is set. -/
def served (flags : Byte) : Option Interrupt :=
  if flags &&& vblankInterrupt ≠ 0 then some .vblank
  else if flags &&& lcdInterrupt ≠ 0 then some .lcd
  else if flags &&& timerInterrupt ≠ 0 then some .timer
  else if flags &&& serialInterrupt ≠ 0 then some .serial
  else if flags &&& joypadInterrupt ≠ 0 then some .joypad
  else none

/-- The machine that `handleInterrupt` is called on: the timer's branch has already touched `PC` and
the request. -/
def Machine.prepared (m : Machine) : Interrupt → Machine
  | .timer => clearRequest (m.onRegisters fun r ↦ { r with PC := timerOverflowIntr }) timerInterrupt
  | .vblank | .lcd | .serial | .joypad => m

theorem serveInterrupt_of_served (m : Machine) {flags : Byte} {i : Interrupt}
    (h : served flags = some i) :
    serveInterrupt m flags = handleInterrupt (m.prepared i) i.bit i.entry := by
  rw [served] at h
  rw [serveInterrupt]
  split_ifs at h ⊢ <;> obtain rfl := Option.some.inj h <;> rfl

theorem exists_served {flags : Byte} (h : flags &&& 0x1F ≠ 0) : ∃ i, served flags = some i := by
  rw [served]
  rcases (and_mask_ne_zero_iff flags).1 h with h | h | h | h | h <;> split_ifs <;>
    exact ⟨_, rfl⟩

theorem and_bit_of_served {flags : Byte} {i : Interrupt} (h : served flags = some i) :
    flags &&& i.bit ≠ 0 := by
  rw [served] at h
  split_ifs at h <;> obtain rfl := Option.some.inj h <;> assumption

/-- With one of the five requested, `handleInterrupt` is called for one of them. -/
theorem exists_serveInterrupt_eq (m : Machine) {flags : Byte} (h : flags &&& 0x1F ≠ 0) :
    ∃ (i : Interrupt) (m₀ : Machine), flags &&& i.bit ≠ 0 ∧ m₀.tickCounter = m.tickCounter ∧
      serveInterrupt m flags = handleInterrupt m₀ i.bit i.entry := by
  obtain ⟨i, hi⟩ := exists_served h
  refine ⟨i, m.prepared i, and_bit_of_served hi, ?_, serveInterrupt_of_served m hi⟩
  cases i <;> rfl

/-- The program counter after any interrupt is the interrupt's bit. -/
theorem serveInterrupt_PC (m : Machine) {flags : Byte} (h : flags &&& 0x1F ≠ 0) :
    ∃ i : Interrupt, flags &&& i.bit ≠ 0 ∧
      (serveInterrupt m flags).registers.PC = i.bit.setWidth 16 := by
  obtain ⟨i, m₀, hi, -, heq⟩ := exists_serveInterrupt_eq m h
  refine ⟨i, hi, ?_⟩
  rw [heq, handleInterrupt_PC]

/-- With none of the five requested the cascade falls through. -/
theorem serveInterrupt_of_none (m : Machine) {flags : Byte} (h : flags &&& 0x1F = 0) :
    serveInterrupt m flags = m := by
  have hnone := mt (and_mask_ne_zero_iff flags).2 (not_not.2 h)
  simp only [not_or] at hnone
  obtain ⟨h₁, h₂, h₃, h₄, h₅⟩ := hnone
  rw [serveInterrupt, if_neg h₁, if_neg h₂, if_neg h₃, if_neg h₄, if_neg h₅]

/-- No interrupt's bit is an interrupt's entry. -/
theorem bit_ne_entry (i j : Interrupt) : i.bit.setWidth 16 ≠ j.entry := by
  cases i <;> cases j <;> decide

/-- The VBLANK interrupt is called at 1, not at 0x40. -/
theorem interruptStep_vblank_not_documented :
    let m : Machine := { Machine.powerOn.onRegisters fun r ↦ { r with SP := 0xFFFE } with
      interruptRegisters := ⟨1, 1, 1⟩ }
    StackArea m.registers.SP 2 ∧ m.pending ≠ 0 ∧ ¬DispatchesAsDocumented m := by
  refine ⟨by decide, by decide, fun h ↦ ?_⟩
  obtain ⟨i, -, hPC, -⟩ := h.1 rfl (by decide) (by decide)
  rw [interruptStep_of_flags_ne_zero rfl (by decide)] at hPC
  have hflags : (1 &&& 1 : Byte) &&& 0x1F ≠ 0 := by decide
  obtain ⟨j, -, hj⟩ := serveInterrupt_PC _ hflags
  exact bit_ne_entry j i (hj.symm.trans hPC)

/-- **When `interruptStep` does what it should**: never when it dispatches.  It is left with the
states in which interrupts are off or no bit is both enabled and requested, and with those about
which nothing is asked because the stack is not in RAM. -/
theorem dispatchesAsDocumented_iff (m : Machine) :
    DispatchesAsDocumented m ↔
      m.interruptRegisters.masterEnable ≠ 1 ∨
      m.interruptRegisters.enable &&& m.interruptRegisters.request = 0 ∨
      (m.pending ≠ 0 ∧ ¬StackArea m.registers.SP 2) := by
  constructor
  · rintro ⟨hserve, hnone⟩
    by_contra hcon
    simp only [not_or, not_and, not_not, ne_eq] at hcon
    obtain ⟨hm, hflags, harea⟩ := hcon
    have hstep := interruptStep_of_flags_ne_zero hm hflags
    by_cases hp : m.pending = 0
    · -- a request outside the five interrupts: nothing is served, but interrupts are off
      rw [serveInterrupt_of_none _ hp] at hstep
      have hoff : m.interruptRegisters.masterEnable = 0 :=
        congrArg (fun m : Machine ↦ m.interruptRegisters.masterEnable)
          ((hnone (.inr hp)).symm.trans hstep)
      exact absurd (hm.symm.trans hoff) (by decide)
    · obtain ⟨i, -, hPC, -⟩ := hserve hm hp (harea hp)
      obtain ⟨j, -, hj⟩ := serveInterrupt_PC { m with interruptRegisters.masterEnable := 0 } hp
      rw [hstep] at hPC
      exact bit_ne_entry j i (hj.symm.trans hPC)
  · rintro (hm | hflags | ⟨hp, harea⟩)
    · exact ⟨fun h ↦ absurd h hm, fun _ ↦ interruptStep_of_masterEnable_ne hm⟩
    · have hp : m.pending = 0 := by rw [Machine.pending, hflags]; rfl
      exact ⟨fun _ h ↦ absurd hp h, fun _ ↦ interruptStep_of_flags_eq_zero hflags⟩
    · refine ⟨fun _ _ h ↦ absurd h harea, fun h ↦ interruptStep_of_masterEnable_ne ?_⟩
      rw [h.resolve_right hp]
      decide

end GameBloat
