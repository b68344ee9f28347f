import GameBloat.Loop

/-!
# The GPU never falls behind

`gpuStep` makes at most one mode change a call.  That is enough as long as it is called with no
more ticks than the shortest mode lasts: `Gpu.OnTime`, the clock is inside the current mode, is
then kept by every step.  An instruction takes at most 24 ticks, and whatever a store does to the
LCD it leaves the clock inside the mode, so the main loop keeps `Gpu.OnTime` forever.

Three things could go wrong, and each is excluded by a lemma.

* The clock is an `unsigned int`, and the ticks are an `int`: the sum could wrap around.  Below
  456, the longest mode, and with at most 80 ticks it does not (`toNat_modeClock_add`).
* The rest of the ticks after a mode change could be more than the next mode lasts.  It is less
  than 80, and no mode is shorter (`toNat_rest`, `gpuStepRun_onTime`).
* A store could put the scan into a shorter mode without rewinding the clock.  The only store that
  changes the mode switches the LCD off, and sets the clock to 0 (`GpuWrite.onTime`).

`cpuStep` adds the ticks of an instruction to a counter of 64 bits and returns them as an `int`;
both are exact, since the cost of every opcode is a multiple of 4 and at most 24.
-/

set_option autoImplicit false

namespace GameBloat

/-- The clock is inside the current mode: no mode change is pending. -/
def Gpu.OnTime (g : Gpu) : Prop := g.modeClock.toNat < g.mode.length

instance (g : Gpu) : Decidable g.OnTime := inferInstanceAs (Decidable (_ < _))

/-- The shortest mode lasts 80 ticks, -/
theorem GpuMode.le_length (mode : GpuMode) : 80 ≤ mode.length := by cases mode <;> decide

/-- and the longest 456. -/
theorem GpuMode.length_le (mode : GpuMode) : mode.length ≤ 456 := by cases mode <;> decide

/-- The reset leaves 116 ticks on the clock, in VBLANK. -/
theorem gpuReset_onTime (g : Gpu) : (gpuReset g).OnTime := show (116 : ℕ) < 456 by decide

/-- Switching the LCD off rewinds the clock; nothing else a store does reaches the clock or the
mode. -/
theorem GpuWrite.onTime {g g' : Gpu} {address : Word} (h : GpuWrite g address g')
    (hg : g.OnTime) : g'.OnTime := by
  cases h with
  | other h => rwa [Gpu.OnTime, h.mode, h.modeClock]
  | vram => exact hg
  | off => exact show (0 : ℕ) < 204 by decide
  | on => exact hg
  | line => exact hg

/-! ## One step -/

section

variable {w : GpuRun} {t : ℕ}

/-- The clock does not wrap around. -/
theorem toNat_modeClock_add (hw : w.gpu.OnTime) (ht : t ≤ 80) :
    (w.gpu.modeClock + BitVec.ofNat 32 t).toNat = w.gpu.modeClock.toNat + t := by
  have := w.gpu.mode.length_le
  rw [Gpu.OnTime] at hw
  rw [BitVec.toNat_add, BitVec.toNat_ofNat]
  omega

/-- A step that stays in the mode. -/
theorem gpuStepRun_stays (hon : w.gpu.LcdOn) (hw : w.gpu.OnTime) (ht : t ≤ 80)
    (h : w.gpu.modeClock.toNat + t < w.gpu.mode.length) :
    gpuStepRun w (BitVec.ofNat 32 t) =
      w.onGpu (·.setClock (BitVec.ofNat 32 (w.gpu.modeClock.toNat + t))) := by
  rw [gpuStepRun_of_lt hon (by rwa [toNat_modeClock_add hw ht]), BitVec.ofNat_add,
    BitVec.ofNat_toNat, BitVec.setWidth_eq]

/-- A step that ends the mode carries the rest of its ticks over into the next. -/
theorem gpuStepRun_turns (hon : w.gpu.LcdOn) (hw : w.gpu.OnTime) (ht : t ≤ 80) {rest : ℕ}
    (h : w.gpu.modeClock.toNat + t = w.gpu.mode.length + rest) :
    gpuStepRun w (BitVec.ofNat 32 t) =
      endOfMode (w.onGpu (·.setClock (BitVec.ofNat 32 rest))) := by
  have hclock : w.gpu.modeClock + BitVec.ofNat 32 t - BitVec.ofNat 32 w.gpu.mode.length =
      BitVec.ofNat 32 rest := by
    rw [BitVec.sub_eq_iff_eq_add, ← BitVec.ofNat_add, Nat.add_comm rest, ← h, BitVec.ofNat_add,
      BitVec.ofNat_toNat, BitVec.setWidth_eq]
  rw [gpuStepRun_of_le hon (by rw [toNat_modeClock_add hw ht]; omega), hclock]

/-- What is left of the ticks fits into the clock. -/
theorem toNat_rest (hw : w.gpu.OnTime) (ht : t ≤ 80) {rest : ℕ}
    (h : w.gpu.modeClock.toNat + t = w.gpu.mode.length + rest) :
    rest < 80 ∧ (BitVec.ofNat 32 rest).toNat = rest := by
  rw [Gpu.OnTime] at hw
  rw [BitVec.toNat_ofNat]
  omega

/-- **One step of at most 80 ticks** leaves no mode change pending. -/
theorem gpuStepRun_onTime (hw : w.gpu.OnTime) (ht : t ≤ 80) :
    (gpuStepRun w (BitVec.ofNat 32 t)).gpu.OnTime := by
  by_cases hon : w.gpu.LcdOn
  · rcases Nat.lt_or_ge (w.gpu.modeClock.toNat + t) w.gpu.mode.length with h | h
    · rw [gpuStepRun_stays hon hw ht h]
      show (BitVec.ofNat 32 (w.gpu.modeClock.toNat + t)).toNat < w.gpu.mode.length
      rw [BitVec.toNat_ofNat]
      exact Nat.lt_of_le_of_lt (Nat.mod_le _ _) h
    · -- less than `t` ticks are left, and every mode lasts at least 80
      obtain ⟨rest, h⟩ := Nat.exists_eq_add_of_le h
      obtain ⟨_, _, -, -, hturned⟩ := endOfMode_turned (w.onGpu (·.setClock (BitVec.ofNat 32 rest)))
      obtain ⟨hlt, hrest⟩ := toNat_rest hw ht h
      rw [gpuStepRun_turns hon hw ht h, Gpu.OnTime, hturned.modeClock]
      have hnext := GpuMode.le_length
      exact Nat.lt_of_lt_of_le (hrest.symm ▸ hlt) (hnext _)
  · rwa [gpuStepRun_of_off hon]

end

/-- The same for the whole machine. -/
theorem gpuStep_onTime {m : Machine} {t : ℕ} (hm : m.gpu.OnTime) (ht : t ≤ 80) :
    (gpuStep m (BitVec.ofNat 32 t)).gpu.OnTime := gpuStepRun_onTime (w := m.gpuRun) hm ht

/-! ## The main loop -/

/-- The CPU's part of a cycle leaves the GPU on time, and so does the GPU's. -/
theorem gpuStep_cpuStep_onTime {m : Machine} (hm : m.gpu.OnTime) :
    (gpuStep (cpuStep m).1 (cpuStep m).2).gpu.OnTime := by
  obtain ⟨t, -, ht, hmoves, hticks⟩ := cpuStep_moves m
  rw [hticks]
  exact gpuStep_onTime (hmoves.gpu (fun _ _ _ h ↦ h.onTime) hm) (by omega)

/-- The interrupts at the end of the cycle make stores only. -/
theorem loopCycle_onTime {m : Machine} (hm : m.gpu.OnTime) : (loopCycle m).gpu.OnTime :=
  interruptStep_gpu (fun _ _ _ h ↦ h.onTime) (gpuStep_cpuStep_onTime hm)

/-- The GPU is told of the ticks of each instruction, and of nothing else: the events of the main
loop, with stores from anywhere and time passing in between. -/
def Event.Paced : Event → Prop
  | .loopCycle => True
  | .gpuStep _ => False
  | .mmuWriteByte _ _ => True
  | .clock _ => True

/-- **The GPU is on time in every state that the main loop reaches**, from a reset on. -/
theorem ReachedBy.onTime {m : Machine} (h : ReachedBy Event.Paced m) : m.gpu.OnTime := by
  refine h.invariant (I := fun m ↦ m.gpu.OnTime) (fun m ↦ gpuReset_onTime m.gpu)
    fun m e he hm ↦ ?_
  cases e with
  | loopCycle => exact loopCycle_onTime hm
  | gpuStep tick => exact he.elim
  | mmuWriteByte address value => exact (storeByte_gpu m address value).onTime hm
  | clock time => exact hm

/-- **The GPU never falls behind.**  In every state an instruction takes a multiple of 4 ticks,
between 0 and 24, which are added to the tick counter and reported exactly; and in every state the
main loop reaches, the clock is inside the current mode, before the cycle and after the `gpuStep` of
the cycle. -/
theorem gpu_never_behind (m : Machine) :
    (∃ t : ℕ, 4 ∣ t ∧ t ≤ 24 ∧ (cpuStep m).2.toInt = t ∧
      (cpuStep m).1.tickCounter = m.tickCounter + BitVec.ofNat 64 t) ∧
    (ReachedBy Event.Paced m →
      m.gpu.modeClock.toNat < m.gpu.mode.length ∧
      (gpuStep (cpuStep m).1 (cpuStep m).2).gpu.modeClock.toNat <
        (gpuStep (cpuStep m).1 (cpuStep m).2).gpu.mode.length) := by
  constructor
  · obtain ⟨t, hdvd, hle, hmoves, hticks⟩ := cpuStep_moves m
    refine ⟨t, hdvd, hle, ?_, hmoves.tickCounter⟩
    rw [hticks, BitVec.toInt_ofNat', Int.bmod_eq_of_le (by omega) (by omega)]
  · exact fun h ↦ ⟨h.onTime, gpuStep_cpuStep_onTime h.onTime⟩

/-- The first two cycles after a reset. -/
theorem gpu_never_behind_reset :
    let m := loopCycle Machine.powerOn.gpuReset
    (gpuStep (cpuStep m).1 (cpuStep m).2).gpu.OnTime :=
  ((gpu_never_behind _).2
    ⟨Machine.powerOn, [.loopCycle], by simp [Event.Paced], rfl⟩).2

end GameBloat
