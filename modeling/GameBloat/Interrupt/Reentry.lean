import GameBloat.Cpu.Calls
import GameBloat.Interrupt.Serve
import GameBloat.Interrupt.Ticks

/-!
# Handlers are not re-entered

Dispatching an interrupt turns interrupts off, and nothing turns them on again behind the
program's back: a cycle of the main loop keeps `masterEnable ≠ 1` unless its instruction is EI or
RETI (`loopCycle_masterEnable_ne`).  So between any two dispatches of a run one of the two has
been executed (`interrupts_not_reentered`).

The statement is about what a program can notice.  `Interrupted` says that `interruptStep` has
changed `PC`, `SP` or the master enable, or has cleared a request, and it is the observation, not
the branch taken in the source, that two cycles of the run are compared by.

What has to be known about the processor is negative, namely that no opcode but two writes the
master enable to 1, in either table and with any operand.  It comes from the list of calls that an
instruction makes (`GameBloat.Cpu.Calls`): `masterEnable 1` is in it for 0xFB and 0xD9 only.  A
store cannot do it, since the master enable has no address; the GPU does not touch it; and
`handleInterrupt` makes a call, which stores.

The run lemma is by induction on the cycles between the two dispatches, from the first: either its
instruction is EI or RETI and there is nothing more to show, or interrupts are still off.
-/

set_option autoImplicit false

namespace GameBloat

/-- `interruptStep` does something that a program would notice: it changes `PC`, `SP` or the
master enable, or clears a bit of the request register. -/
def Machine.Interrupted (m : Machine) : Prop :=
  (interruptStep m).registers.PC ≠ m.registers.PC ∨
  (interruptStep m).registers.SP ≠ m.registers.SP ∨
  (interruptStep m).interruptRegisters.masterEnable ≠ m.interruptRegisters.masterEnable ∨
  m.interruptRegisters.request &&& ~~~(interruptStep m).interruptRegisters.request ≠ 0

instance (m : Machine) : Decidable m.Interrupted := inferInstanceAs (Decidable (_ ∨ _))

/-- The next instruction is EI or RETI. -/
def Machine.AtEnable (m : Machine) : Prop :=
  mmuReadByte m m.registers.PC = 0xFB ∨ mmuReadByte m m.registers.PC = 0xD9

instance (m : Machine) : Decidable m.AtEnable := inferInstanceAs (Decidable (_ ∨ _))

/-! ## The master enable -/

/-- An instruction that is neither EI nor RETI leaves interrupts off. -/
theorem cpuStep_masterEnable_ne {m : Machine} (hm : m.interruptRegisters.masterEnable ≠ 1)
    (h : ¬m.AtEnable) : (cpuStep m).1.interruptRegisters.masterEnable ≠ 1 := by
  refine (cpuStep_performs m).interruptRegisters (P := fun ir ↦ ir.masterEnable ≠ 1)
    (fun m' c hc hm' ↦ ?_) hm
  cases c with
  | write address value =>
    show (storeByte m' address value).interruptRegisters.masterEnable ≠ 1
    rwa [storeByte_masterEnable]
  | masterEnable value =>
    rintro rfl
    exact h (opcode_of_masterEnable_mem hc)

theorem gpuStep_masterEnable (m : Machine) (tick : CInt) :
    (gpuStep m tick).interruptRegisters.masterEnable = m.interruptRegisters.masterEnable :=
  (gpuStep_stepped m tick).requested.masterEnable

theorem beforeInterrupts_masterEnable_ne {m : Machine}
    (hm : m.interruptRegisters.masterEnable ≠ 1) (h : ¬m.AtEnable) :
    m.beforeInterrupts.interruptRegisters.masterEnable ≠ 1 := by
  rw [Machine.beforeInterrupts, gpuStep_masterEnable]
  exact cpuStep_masterEnable_ne hm h

/-- A cycle without EI and RETI leaves interrupts off. -/
theorem loopCycle_masterEnable_ne {m : Machine} (hm : m.interruptRegisters.masterEnable ≠ 1)
    (h : ¬m.AtEnable) : (loopCycle m).interruptRegisters.masterEnable ≠ 1 := by
  have hbefore := beforeInterrupts_masterEnable_ne hm h
  have hcycle : loopCycle m = m.beforeInterrupts := interruptStep_of_masterEnable_ne hbefore
  rwa [hcycle]

theorem handleInterrupt_masterEnable (m : Machine) (inInterrupt : Byte) (address : Word) :
    (handleInterrupt m inInterrupt address).interruptRegisters.masterEnable =
      m.interruptRegisters.masterEnable := by
  rw [handleInterrupt_eq]
  exact (storeByte_masterEnable _ _ _).trans (storeByte_masterEnable _ _ _)

theorem serveInterrupt_masterEnable (m : Machine) (flags : Byte) :
    (serveInterrupt m flags).interruptRegisters.masterEnable =
      m.interruptRegisters.masterEnable := by
  rw [serveInterrupt]
  split_ifs <;> first | rfl | exact handleInterrupt_masterEnable _ _ _

/-- Interrupts are on before one is dispatched, and off after it.  The first half is what the
later of two dispatches needs, the second what the earlier one gives. -/
theorem Machine.Interrupted.masterEnable {m : Machine} (h : m.Interrupted) :
    m.interruptRegisters.masterEnable = 1 ∧
      (interruptStep m).interruptRegisters.masterEnable = 0 := by
  have hchanged : interruptStep m ≠ m := by
    intro heq
    rw [Interrupted, heq, BitVec.and_not_self] at h
    simp at h
  have hm : m.interruptRegisters.masterEnable = 1 := by
    by_contra hm
    exact hchanged (interruptStep_of_masterEnable_ne hm)
  have hflags : m.interruptRegisters.enable &&& m.interruptRegisters.request ≠ 0 :=
    fun h0 ↦ hchanged (interruptStep_of_flags_eq_zero h0)
  rw [interruptStep_of_flags_ne_zero hm hflags]
  exact ⟨hm, serveInterrupt_masterEnable _ _⟩

/-! ## Runs -/

/-- **Handlers are not re-entered.**  If a cycle of a run dispatches an interrupt and so does a
later one, then the instruction of some cycle in between, or of the later cycle itself, is EI or
RETI. -/
theorem interrupts_not_reentered (m : Machine) (before between : List ℤ) (time time' : ℤ)
    (hfirst : ((mainLoop.run m before).atTime time).beforeInterrupts.Interrupted)
    (hlater :
      ((mainLoop.run m (before ++ time :: between)).atTime time').beforeInterrupts.Interrupted) :
    ∃ u t v, between ++ [time'] = u ++ t :: v ∧
      ((mainLoop.run m (before ++ time :: u)).atTime t).AtEnable := by
  let s := mainLoop.run m (before ++ [time])
  have hoff : s.interruptRegisters.masterEnable ≠ 1 := by
    have hs : s = interruptStep ((mainLoop.run m before).atTime time).beforeInterrupts :=
      mainLoop_run_concat m before time
    rw [hs, hfirst.masterEnable.2]
    decide
  have hrun (u : List ℤ) : mainLoop.run m (before ++ time :: u) = mainLoop.run s u := by
    rw [← List.singleton_append, ← List.append_assoc, System.run_append]
  by_contra hcon
  have halong : mainLoop.Along (fun m t ↦ ¬(m.atTime t).AtEnable) s (between ++ [time']) := by
    by_contra hnot
    obtain ⟨u, t, v, heq, ht⟩ := System.exists_of_not_along hnot
    exact hcon ⟨u, t, v, heq, hrun u ▸ not_not.1 ht⟩
  rw [System.along_append] at halong
  have hbetween : (mainLoop.run s between).interruptRegisters.masterEnable ≠ 1 :=
    System.run_invariant_along (I := fun m ↦ m.interruptRegisters.masterEnable ≠ 1)
      (fun _ _ hnot hm ↦ loopCycle_masterEnable_ne hm hnot) hoff halong.1
  have hlate : ((mainLoop.run s between).atTime time').interruptRegisters.masterEnable ≠ 1 :=
    hbetween
  rw [hrun] at hlater
  exact beforeInterrupts_masterEnable_ne hlate halong.2.1 hlater.masterEnable.1

/-- A machine with VBLANK and LCD interrupts pending and an EI at address 1, where VBLANK ends up.
-/
def pendingTwice : Machine :=
  { pendingVblank with
    interruptRegisters := ⟨3, 3, 1⟩
    cartridge := { pendingVblank.cartridge with rom := fun i ↦ if i = 1 then 0xFB else 0 } }

/-- Both are dispatched, one a cycle, with the EI between them. -/
theorem interrupts_not_reentered_twice :
    ∃ u t v, [] ++ [0] = u ++ t :: v ∧
      ((mainLoop.run pendingTwice ([] ++ 0 :: u)).atTime t).AtEnable :=
  interrupts_not_reentered pendingTwice [] [] 0 0 (by decide) (by decide)

end GameBloat
