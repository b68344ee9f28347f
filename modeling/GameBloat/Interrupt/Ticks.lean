import GameBloat.Interrupt.Dispatch
import GameBloat.Loop
import Mathlib.Algebra.Ring.Int.Defs

/-!
# Ticks the GPU does not hear of

`LoopCycle` hands the ticks of each instruction to `gpuStep`, as the difference of two readings of
`tickCounter` inside `cpuStep`.  Dispatching an interrupt adds 20 more, in `interruptStep`, which
is between the second reading and the next first one.  So the GPU falls behind by 20 ticks with
every interrupt: the two clocks are in step exactly as long as none has been dispatched
(`clocks_in_step_iff`).

The main loop is a system whose events are the times at which its cycles run and whose outputs are
the ticks that the GPU is given.  "The clocks are in step" is an equation between the tick counter
and the sum of the outputs, modulo 2⁶⁴, at the start of each `interruptStep`.

The proof splits a cycle into two.  The instruction keeps the balance, since `cpuStep` reports
just what it has charged (`inStep_iff_balanced`).  The interrupt does not: it adds 20 to the one
side and nothing to the other, and 20 is not 0 modulo 2⁶⁴ (`balanced_concat_iff`).  Once the
balance is lost, though, it could be restored by further interrupts, in about 2⁶² of them; this is
why the statement is about all moments of a run and not about its end, and why it is an induction
over its prefixes (`balanced_prefixes_iff`).

The condition is one on states, `Dispatches`: interrupts are on at the end of the GPU's part of
the cycle and something is pending.  It does not mention ticks.
-/

set_option autoImplicit false

namespace GameBloat

/-- The machine at the start of the `interruptStep` of a cycle. -/
def Machine.beforeInterrupts (m : Machine) : Machine := gpuStep (cpuStep m).1 (cpuStep m).2

/-- The machine when the clock on the wall shows `time`. -/
def Machine.atTime (m : Machine) (time : ℤ) : Machine := { m with time }

/-- The main loop as a system: an event is a cycle, at a time on the clock on the wall, and its
output the ticks handed to `gpuStep`.  The times are arbitrary, so nothing is assumed about how
fast the program runs. -/
def mainLoop : System Machine ℤ ℤ where
  step m time := loopCycle (m.atTime time)
  out m time := [(cpuStep (m.atTime time)).2.toInt]

/-- At the start of the `interruptStep` of a cycle that follows `cycles`, the ticks handed to
`gpuStep` since the start are those counted.  This is the moment at which a cycle has told the GPU
of the ticks of its instruction. -/
def InStep (m : Machine) (cycles : List ℤ) (time : ℤ) : Prop :=
  ((mainLoop.run m cycles).atTime time).beforeInterrupts.tickCounter =
    m.tickCounter + BitVec.ofInt 64 (mainLoop.history m (cycles ++ [time])).sum

/-- There is an interrupt for `interruptStep` to dispatch. -/
def Machine.HasInterrupt (m : Machine) : Prop :=
  m.interruptRegisters.masterEnable = 1 ∧ m.pending ≠ 0

instance (m : Machine) : Decidable m.HasInterrupt := inferInstanceAs (Decidable (_ ∧ _))

/-- The next cycle dispatches an interrupt.  This is decidable, so a run can be tested for it. -/
def Machine.Dispatches (m : Machine) : Prop := m.beforeInterrupts.HasInterrupt

instance (m : Machine) : Decidable m.Dispatches :=
  inferInstanceAs (Decidable (Machine.HasInterrupt _))

/-! ## One cycle -/

theorem beforeInterrupts_tickCounter (m : Machine) :
    m.beforeInterrupts.tickCounter = m.tickCounter + BitVec.ofInt 64 (cpuStep m).2.toInt := by
  obtain ⟨t, -, hle, hmoves, hticks⟩ := cpuStep_moves m
  have hcounted : m.beforeInterrupts.tickCounter = (cpuStep m).1.tickCounter := rfl
  rw [hcounted, hmoves.tickCounter, hticks, BitVec.toInt_ofNat',
    Int.bmod_eq_of_le (by omega) (by omega), BitVec.ofInt_natCast]

theorem handleInterrupt_tickCounter (m : Machine) (inInterrupt : Byte) (address : Word) :
    (handleInterrupt m inInterrupt address).tickCounter = m.tickCounter + 20 :=
  (handleInterrupt_moves m inInterrupt address).tickCounter

theorem serveInterrupt_tickCounter (m : Machine) {flags : Byte} (h : flags &&& 0x1F ≠ 0) :
    (serveInterrupt m flags).tickCounter = m.tickCounter + 20 := by
  obtain ⟨i, m₀, -, hm₀, heq⟩ := exists_serveInterrupt_eq m h
  rw [heq, handleInterrupt_tickCounter, hm₀]

/-- Dispatching an interrupt takes 20 ticks, and not dispatching one none. -/
theorem interruptStep_tickCounter (m : Machine) :
    (interruptStep m).tickCounter =
      if m.HasInterrupt then m.tickCounter + 20 else m.tickCounter := by
  by_cases hm : m.interruptRegisters.masterEnable = 1
  · by_cases hflags : m.interruptRegisters.enable &&& m.interruptRegisters.request = 0
    · have hpending : m.pending = 0 := by rw [Machine.pending, hflags]; rfl
      rw [interruptStep_of_flags_eq_zero hflags, if_neg fun h ↦ h.2 hpending]
    · rw [interruptStep_of_flags_ne_zero hm hflags]
      by_cases hpending : m.pending = 0
      · rw [serveInterrupt_of_none _ hpending, if_neg fun h ↦ h.2 hpending]
      · rw [serveInterrupt_tickCounter _ hpending, if_pos ⟨hm, hpending⟩]
  · rw [interruptStep_of_masterEnable_ne hm, if_neg fun h ↦ hm h.1]

/-! ## Runs -/

/-- The ticks handed to `gpuStep` are those counted, between two cycles. -/
def Balanced (m : Machine) (cycles : List ℤ) : Prop :=
  (mainLoop.run m cycles).tickCounter =
    m.tickCounter + BitVec.ofInt 64 (mainLoop.history m cycles).sum

/-- A run with one more cycle is the run, then an instruction with its ticks on the GPU, then the
interrupts. -/
theorem mainLoop_run_concat (m : Machine) (cycles : List ℤ) (time : ℤ) :
    mainLoop.run m (cycles ++ [time]) =
      interruptStep ((mainLoop.run m cycles).atTime time).beforeInterrupts :=
  System.run_append m cycles [time]

theorem mainLoop_history_concat (m : Machine) (cycles : List ℤ) (time : ℤ) :
    (mainLoop.history m (cycles ++ [time])).sum = (mainLoop.history m cycles).sum +
      (cpuStep ((mainLoop.run m cycles).atTime time)).2.toInt := by
  rw [System.history_append, List.sum_append]
  exact congrArg _ (Int.add_zero _)

theorem balanced_nil (m : Machine) : Balanced m [] := (BitVec.add_zero m.tickCounter).symm

/-- The instruction of a cycle keeps the balance. -/
theorem inStep_iff_balanced (m : Machine) (cycles : List ℤ) (time : ℤ) :
    InStep m cycles time ↔ Balanced m cycles := by
  rw [InStep, Balanced, beforeInterrupts_tickCounter, mainLoop_history_concat, BitVec.ofInt_add,
    ← BitVec.add_assoc, BitVec.add_left_inj]
  rfl

/-- Its interrupt does not: between two cycles that are in balance nothing has been dispatched. -/
theorem balanced_concat_iff {m : Machine} {cycles : List ℤ} (h : Balanced m cycles) (time : ℤ) :
    Balanced m (cycles ++ [time]) ↔ ¬((mainLoop.run m cycles).atTime time).Dispatches := by
  have hcycle := (inStep_iff_balanced m cycles time).2 h
  rw [InStep] at hcycle
  rw [Balanced, mainLoop_run_concat, interruptStep_tickCounter, hcycle, Machine.Dispatches]
  by_cases hdispatches : ((mainLoop.run m cycles).atTime time).beforeInterrupts.HasInterrupt
  · rw [if_pos hdispatches]
    refine iff_of_false ?_ (not_not.2 hdispatches)
    rw [BitVec.add_right_eq_self]
    decide
  · rw [if_neg hdispatches]
    exact iff_of_true rfl hdispatches

theorem balanced_prefixes_iff (m : Machine) (cycles : List ℤ) :
    (∀ pre, pre <+: cycles → Balanced m pre) ↔
      ∀ pre time, pre ++ [time] <+: cycles →
        ¬((mainLoop.run m pre).atTime time).Dispatches := by
  induction cycles using List.reverseRecOn with
  | nil =>
    refine iff_of_true (fun pre hpre ↦ ?_) fun pre time hpre ↦ ?_
    · obtain rfl := List.prefix_nil.1 hpre
      exact balanced_nil m
    · exact absurd (List.prefix_nil.1 hpre) (by simp)
  | append_singleton cycles time ih =>
    constructor
    · intro hbalanced pre time' hpre
      rw [← balanced_concat_iff (hbalanced pre ((List.prefix_append pre [time']).trans hpre))]
      exact hbalanced _ hpre
    · intro hquiet pre hpre
      have hbefore := ih.2 fun pre time' hpre ↦
        hquiet pre time' (hpre.trans (List.prefix_append cycles [time]))
      rcases List.prefix_concat_iff.1 hpre with rfl | hpre
      · exact (balanced_concat_iff (hbefore cycles List.prefix_rfl) time).2
          (hquiet cycles time List.prefix_rfl)
      · exact hbefore pre hpre

/-- **When the clocks are in step**: throughout a run, as long as none of its cycles has
dispatched an interrupt.  Serving one takes 20 ticks that the counter of the CPU has and that
nobody hands to the GPU, and no later cycle makes up for them. -/
theorem clocks_in_step_iff (m : Machine) (cycles : List ℤ) :
    (∀ pre, pre <+: cycles → ∀ time, InStep m pre time) ↔
      ∀ pre time, pre ++ [time] <+: cycles →
        ¬((mainLoop.run m pre).atTime time).Dispatches := by
  rw [← balanced_prefixes_iff]
  simp only [inStep_iff_balanced, forall_const]

/-- A cartridge of zeros, which are NOPs, in a machine with its VBLANK interrupt pending. -/
def pendingVblank : Machine :=
  { Machine.powerOn with
    registers := { Machine.powerOn.registers with SP := 0xFFFE, PC := 0x100 }
    interruptRegisters := ⟨1, 1, 1⟩
    cartridge := { Machine.powerOn.cartridge with romLength := 0x8000, mbc := true }
    MBC := some .mbcNone }

/-- One cycle with an interrupt, and 20 ticks are missing. -/
theorem interrupt_puts_out_of_step : ¬InStep pendingVblank [0] 0 := by
  rw [inStep_iff_balanced, ← List.nil_append [0], balanced_concat_iff (balanced_nil _)]
  decide

end GameBloat
