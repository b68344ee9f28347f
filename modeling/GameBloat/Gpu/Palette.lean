import GameBloat.Loop

/-!
# The background palette

`backgroundPalette` gets its value from the initialiser of `GPU` and keeps it: no branch of
`gpuWriteRegister` assigns it, nothing is read from it, and `initGPU` passes it over.

So it is the same after any event: a store to any address, a step of the GPU, an instruction, a
cycle of the main loop.  A reset that writes every other register of the GPU may leave this one
out, which is used where two machines that have been reset are compared.
-/

set_option autoImplicit false

namespace GameBloat

/-- The one GPU register that neither half of the reset writes; but then nothing does. -/
def Machine.backgroundPalette (m : Machine) : Byte := m.gpu.backgroundPalette

/-- No register write reaches it, -/
theorem gpuWriteRegister_backgroundPalette (g : Gpu) (address : Word) (value : Byte) :
    (gpuWriteRegister g address value).1.backgroundPalette = g.backgroundPalette := by
  have hite {c : Prop} [Decidable c] {a b : Gpu × ℕ}
      (ha : a.1.backgroundPalette = g.backgroundPalette)
      (hb : b.1.backgroundPalette = g.backgroundPalette) :
      (if c then a else b).1.backgroundPalette = g.backgroundPalette :=
    iteInduction (motive := fun r : Gpu × ℕ ↦ r.1.backgroundPalette = g.backgroundPalette)
      (fun _ ↦ ha) fun _ ↦ hb
  by_cases h40 : address = 0xFF40
  · rw [h40, gpuWriteRegister_lcdControl]
    split <;> rfl
  · rw [gpuWriteRegister, if_neg h40]
    -- the nine other registers, and none of them
    exact hite rfl <| hite rfl <| hite rfl <| hite rfl <| hite rfl <| hite rfl <| hite rfl <|
      hite rfl <| hite rfl rfl

/-- and so no store does, -/
theorem storeByte_backgroundPalette (m : Machine) (address : Word) (value : Byte) :
    (storeByte m address value).backgroundPalette = m.backgroundPalette := by
  have heffect := storeByte_effect m address value
  generalize storeByte m address value = m' at heffect
  cases heffect with
  | cartridge | memory | interrupt => rfl
  | vram =>
    rw [Machine.backgroundPalette, gpuWriteByte]
    split_ifs <;> rfl
  | gpuRegister => exact gpuWriteRegister_backgroundPalette m.gpu address value

/-- and no instruction, whatever it calls. -/
theorem CpuMoves.backgroundPalette {m m' : Machine} {t : ℕ} (h : CpuMoves m t m') :
    m'.backgroundPalette = m.backgroundPalette := by
  refine h.preserves (P := fun m' ↦ m'.backgroundPalette = m.backgroundPalette)
    (fun m' n m'' hmove hm ↦ ?_) rfl
  cases hmove with
  | registers f => exact hm
  | write address value => exact (storeByte_backgroundPalette _ _ _).trans hm
  | ticks n => exact hm
  | interrupts => exact hm
  | stop => exact hm

/-- The scan assigns its own variables and the frame buffer only. -/
theorem gpuStep_backgroundPalette (m : Machine) (tick : CInt) :
    (gpuStep m tick).backgroundPalette = m.backgroundPalette := by
  have hkeeps : GpuRun.Keeps fun w ↦ w.gpu.backgroundPalette = m.backgroundPalette :=
    ⟨fun _ _ h ↦ h, fun _ _ h ↦ h, fun _ _ h ↦ h, fun _ _ h ↦ h, fun _ _ h ↦ h, fun _ _ h ↦ h,
      fun _ _ _ h ↦ h⟩
  exact hkeeps.gpuStepRun (w := m.gpuRun) rfl tick

/-- Nothing in a cycle of the main loop changes it. -/
theorem loopCycle_backgroundPalette (m : Machine) :
    (loopCycle m).backgroundPalette = m.backgroundPalette := by
  obtain ⟨t, -, -, hcpu, -⟩ := cpuStep_moves m
  obtain ⟨t', hinterrupt⟩ := interruptStep_moves (gpuStep (cpuStep m).1 (cpuStep m).2)
  calc (loopCycle m).backgroundPalette =
      (gpuStep (cpuStep m).1 (cpuStep m).2).backgroundPalette := hinterrupt.backgroundPalette
    _ = (cpuStep m).1.backgroundPalette := gpuStep_backgroundPalette _ _
    _ = m.backgroundPalette := hcpu.backgroundPalette

end GameBloat
